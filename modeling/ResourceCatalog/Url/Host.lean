/-
  ResourceCatalog/Url/Host.lean
  =============================
  **Hosts of web addresses.**

  A host is a name or a number.  The characters of a name are folded and composed,
  and it is written in ASCII; a name whose last label is a number is read as an
  IPv4 address, whose parts may be decimal, octal or hexadecimal and may be fewer
  than four.  An IPv6 address stands in brackets and is written with its longest
  run of zero pieces left out.
-/
import ResourceCatalog.Text.Digit
import ResourceCatalog.Text.Form
import ResourceCatalog.Url.Label

namespace ResourceCatalog.Url.Host

/-! ### IPv4 -/

/-- One part of an IPv4 address. -/
def part? : List Char → Option Nat
  | [] => none
  | '0' :: 'x' :: rest => Text.valueIn? 16 rest
  | '0' :: 'X' :: rest => Text.valueIn? 16 rest
  | '0' :: c :: rest => Text.valueIn? 8 (c :: rest)
  | cs => Text.valueIn? 10 cs

/-- The labels of a name; an empty one at the end does not count beside others. -/
def labels (cs : List Char) : List (List Char) :=
  match (Text.pieces '.' cs).reverse with
  | [] :: l :: ls => (l :: ls).reverse
  | ls => ls.reverse

/-- The last label is a number, so the host has to be an IPv4 address. -/
def endsInNumber (cs : List Char) : Bool :=
  match (labels cs).getLast? with
  | some [] => false
  | some l => l.all Text.isDigit || (part? l).isSome
  | none => false

/-- The address of its parts: all but the last are bytes. -/
def addressOf? : List Nat → Option Nat
  | [] => none
  | parts =>
    let last := parts.getLastD 0
    let front := parts.dropLast
    if 4 < parts.length ∨ front.any (255 < ·) ∨ 1 <<< (8 * (5 - parts.length)) ≤ last then none
    else some (front.zipIdx.foldl (fun n p => n + p.1 <<< (8 * (3 - p.2))) last)

def writeAddress (n : Nat) : List Char :=
  ".".toList.intercalate
    [(toString (n >>> 24 % 256)).toList, (toString (n >>> 16 % 256)).toList,
     (toString (n >>> 8 % 256)).toList, (toString (n % 256)).toList]

def ipv4? (cs : List Char) : Option (List Char) :=
  match (labels cs).mapM part? with
  | some parts => (addressOf? parts).map writeAddress
  | none => none

/-! ### IPv6 -/

/-- The two pieces that an IPv4 address at the end of an IPv6 one stands for. -/
def embedded? (cs : List Char) : Option (List Nat) :=
  match (Text.pieces '.' cs).mapM (fun p =>
      if p.isEmpty || 3 < p.length || !p.all Text.isDigit then none
      else if 1 < p.length && p.head? = some '0' then none
      else Text.valueIn? 10 p) with
  | some [a, b, c, d] =>
    if [a, b, c, d].any (255 < ·) then none else some [a * 256 + b, c * 256 + d]
  | _ => none

/-- The pieces between colons; an IPv4 address may be the last of them. -/
def sixteens? : List (List Char) → Option (List Nat)
  | [] => some []
  | [p] =>
    if p.contains '.' then embedded? p
    else if p.isEmpty || 4 < p.length then none
    else (Text.valueIn? 16 p).map ([·])
  | p :: ps =>
    if p.isEmpty || 4 < p.length then none
    else
      match Text.valueIn? 16 p, sixteens? ps with
      | some n, some ns => some (n :: ns)
      | _, _ => none

/-- Cut a text at its first two colons side by side. -/
def cutGap : List Char → Option (List Char × List Char)
  | ':' :: ':' :: rest => some ([], rest)
  | c :: rest => (cutGap rest).map (fun p => (c :: p.1, p.2))
  | [] => none

/-- The pieces of a text, none for an empty one. -/
def groups? (cs : List Char) : Option (List Nat) :=
  if cs.isEmpty then some [] else sixteens? (Text.pieces ':' cs)

/-- The eight pieces of an IPv6 address. -/
def eight? (cs : List Char) : Option (List Nat) :=
  match cutGap cs with
  | none =>
    match groups? cs with
    | some ns => if ns.length = 8 then some ns else none
    | none => none
  | some (front, back) =>
    if front.contains '.' then none
    else
      match groups? front, groups? back with
      | some ms, some ns =>
        if ms.length + ns.length < 8 then
          some (ms ++ List.replicate (8 - ms.length - ns.length) 0 ++ ns)
        else none
      | _, _ => none

/-- The length of the run of zeros at the start. -/
def zeroRun (ns : List Nat) : Nat := (ns.takeWhile (· = 0)).length

/-- The longest run of two zeros or more: its place and length. -/
def longestRun (ns : List Nat) : Nat × Nat :=
  (List.range ns.length).foldl (fun best i =>
    let run := zeroRun (ns.drop i)
    if best.2 < run ∧ 1 < run then (i, run) else best) (0, 0)

def writeGroups (ns : List Nat) : List Char :=
  [':'].intercalate (ns.map (Nat.toDigits 16))

def writeEight (ns : List Nat) : List Char :=
  let (at_, run) := longestRun ns
  if run = 0 then writeGroups ns
  else writeGroups (ns.take at_) ++ [':', ':'] ++ writeGroups (ns.drop (at_ + run))

def ipv6? (cs : List Char) : Option (List Char) :=
  (eight? cs).map (fun ns => '[' :: writeEight ns ++ [']'])

/-! ### Names -/

/-- A character that no host name can have. -/
def isForbidden (c : Char) : Bool :=
  c.toNat ≤ 0x20 || c.toNat = 0x7F || "#%/:<>?@[\\]^|".toList.contains c

/-- The labels of a name, as far as they can stand together. -/
def readLabels? (cs : List Char) : Option (List Label) := do
  let folded ← Folding.fold? cs
  let labels ← (Text.pieces '.' (Unicode.composed folded)).mapM Label.ofChars?
  if Label.directionsFit labels then some labels else none

/-- A name in ASCII, or the address that it is. -/
def name? (cs : List Char) : Option (List Char) := do
  let decoded ← Text.Utf8.decode? (Text.Form.percentDecode (Text.Utf8.encodeChars cs))
  let labels ← readLabels? decoded.toList
  let ascii := ['.'].intercalate (labels.map Label.ascii)
  if ascii.isEmpty || ascii.any isForbidden then none
  else if endsInNumber ascii then ipv4? ascii
  else some ascii

/-- The written form of a host. -/
def ofChars? (cs : List Char) : Option (List Char) :=
  match cs with
  | '[' :: rest =>
    match rest.getLast? with
    | some ']' => ipv6? rest.dropLast
    | _ => none
  | cs => name? cs

end ResourceCatalog.Url.Host
