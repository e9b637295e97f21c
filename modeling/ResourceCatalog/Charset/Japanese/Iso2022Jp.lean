/-
  ResourceCatalog/Charset/Japanese/Iso2022Jp.lean
  ===============================================
  **Japanese text in bytes of ASCII.**

  Escapes say what the bytes behind them stand for: ASCII, the same with two signs of its
  own, narrow kana, or pairs that give a row and a column in JIS X 0208.
-/
import ResourceCatalog.Charset.Japanese.JisX0208
import ResourceCatalog.Charset.Japanese.NarrowKana
import ResourceCatalog.Charset.Reader

namespace ResourceCatalog.Charset.Iso2022Jp

open Text.Utf8 (replacement)

/-- What bytes stand for.  By `roman` it is ASCII with the sign of the yen and an
    overline; by `kanji` two bytes stand for a character of JIS X 0208. -/
inductive Script where
  | ascii
  | roman
  | narrowKana
  | kanji
deriving DecidableEq, Repr

/-- What has been begun; `escapeOf` is an escape with the byte behind it. -/
inductive Begun where
  | nothing
  | kanji (a : Nat)
  | escape
  | escapeOf (a : Nat)
deriving DecidableEq, Repr

/-- The script, whether nothing was read since it was chosen, and what has been
    begun. -/
structure State where
  script : Script
  unused : Bool
  begun : Begun
deriving DecidableEq, Repr

def escapeByte : Nat := 0x1B

/-- The script that two bytes behind an escape choose. -/
def script? : Nat → Nat → Option Script
  | 0x28, 0x42 => some .ascii
  | 0x28, 0x4A => some .roman
  | 0x28, 0x49 => some .narrowKana
  | 0x24, 0x40 => some .kanji
  | 0x24, 0x42 => some .kanji
  | _, _ => none

/-- A byte that can be text, other than those that shift in and out. -/
def isPlain (b : Nat) : Bool := b < 0x80 && b != 0x0E && b != 0x0F

/-- A byte that is no escape, between characters. -/
def start (script : Script) (b : Nat) : List Char × State :=
  let read (c : Char) : List Char × State := ([c], ⟨script, false, .nothing⟩)
  match script with
  | .ascii => read (if isPlain b then Char.ofNat b else replacement)
  | .roman =>
    read (if b = 0x5C then '¥' else if b = 0x7E then '‾'
      else if isPlain b then Char.ofNat b else replacement)
  | .narrowKana => read ((if b < 0x80 then narrowKana? (b + 0x80) else none).getD replacement)
  | .kanji =>
    if 0x21 ≤ b ∧ b ≤ 0x7E then ([], ⟨script, false, .kanji b⟩) else read replacement

/-- A byte between characters. -/
def between (s : State) (b : Nat) : List Char × State :=
  if b = escapeByte then ([], { s with begun := .escape }) else start s.script b

/-- A byte behind the first one of a character. -/
def second (s : State) (a b : Nat) : List Char × State :=
  if b = escapeByte then ([replacement], { s with begun := .escape })
  else
    let c :=
      if 0x21 ≤ b ∧ b ≤ 0x7E then JisX0208.grid.char? ((a - 0x21) * 94 + (b - 0x21)) else none
    ([c.getD replacement], { s with begun := .nothing })

/-- A byte, with no escape begun. -/
def text (s : State) (b : Nat) : List Char × State :=
  match s.begun with
  | .kanji a => second s a b
  | _ => between s b

/-- A byte.  What was begun like an escape and is none leaves U+FFFD, and the bytes behind
    its first one are read as text.  An escape right behind another one leaves U+FFFD too. -/
def step (s : State) (b : Nat) : List Char × State :=
  match s.begun with
  | .escape =>
    if b = 0x24 ∨ b = 0x28 then ([], { s with begun := .escapeOf b })
    else Reader.afterInvalid (text { s with unused := false, begun := .nothing } b)
  | .escapeOf a =>
    match script? a b with
    | some script => (if s.unused then [replacement] else [], ⟨script, true, .nothing⟩)
    | none =>
      let (out, next) := text { s with unused := false, begun := .nothing } a
      let (out', next') := text next b
      (replacement :: out ++ out', next')
  | _ => text s b

/-- What is read at the end of text. -/
def finishText (s : State) : List Char := if s.begun = .nothing then [] else [replacement]

def finish (s : State) : List Char :=
  match s.begun with
  | .escapeOf a =>
    let (out, next) := text { s with begun := .nothing } a
    replacement :: out ++ finishText next
  | _ => finishText s

def reader : Reader State where
  start := ⟨.ascii, false, .nothing⟩
  step := step
  finish := finish

end ResourceCatalog.Charset.Iso2022Jp
