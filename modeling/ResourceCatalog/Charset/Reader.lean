/-
  ResourceCatalog/Charset/Reader.lean
  ===================================
  **Bytes read one at a time.**

  A reader knows what it has begun.  A byte lets it read off characters and go on;
  what is still begun at the end is no character.  A byte that does not go on with what
  was begun ends that as U+FFFD, and is looked at again if it can stand alone.
-/
import ResourceCatalog.Text.Utf8

namespace ResourceCatalog.Charset

open Text.Utf8 (replacement)

/-- A way to read bytes, by what it can have begun.  A step gives what a byte lets
    be read and what is begun behind it, `finish` what is read at the end. -/
structure Reader (σ : Type) where
  start : σ
  step : σ → Nat → List Char × σ
  finish : σ → List Char

namespace Reader

/-- Read bytes behind what was begun. -/
def readFrom {σ : Type} (reader : Reader σ) (s : σ) : List UInt8 → List Char
  | [] => reader.finish s
  | b :: bs =>
    match reader.step s b.toNat with
    | (out, next) => out ++ reader.readFrom next bs

/-- Read bytes. -/
def read {σ : Type} (reader : Reader σ) (bs : List UInt8) : List Char :=
  reader.readFrom reader.start bs

/-- Something that is no character stands in front of what is read. -/
def afterInvalid {σ : Type} (p : List Char × σ) : List Char × σ := (replacement :: p.1, p.2)

/-- A byte that does not go on with what was begun, where ASCII can stand alone. -/
def misfit {σ : Type} (nothing : σ) (b : Nat) : List Char × σ :=
  (if b < 0x80 then [replacement, Char.ofNat b] else [replacement], nothing)

/-- Characters of ASCII are one byte, and others may be two. -/
def ofPairs (alone? : Nat → Option Char) (leads : Nat → Bool)
    (pair? : Nat → Nat → Option (List Char)) : Reader (Option Nat) where
  start := none
  step
    | none, b =>
      if b < 0x80 then ([Char.ofNat b], none)
      else if leads b then ([], some b)
      else ([(alone? b).getD replacement], none)
    | some a, b =>
      match pair? a b with
      | some cs => (cs, none)
      | none => misfit none b
  finish
    | none => []
    | some _ => [replacement]

/-! ### Readings of parts -/

/-- Reading can be parted anywhere. -/
theorem readFrom_cons {σ : Type} (reader : Reader σ) (s : σ) (b : UInt8) (bs : List UInt8) :
    reader.readFrom s (b :: bs)
      = (reader.step s b.toNat).1 ++ reader.readFrom (reader.step s b.toNat).2 bs := rfl

/-- Bytes of ASCII are read as they are. -/
theorem read_ofPairs_ascii (alone? : Nat → Option Char) (leads : Nat → Bool)
    (pair? : Nat → Nat → Option (List Char)) (bs : List UInt8) (h : ∀ b ∈ bs, b.toNat < 0x80) :
    (ofPairs alone? leads pair?).read bs = bs.map (fun b => Char.ofNat b.toNat) := by
  unfold read
  induction bs with
  | nil => rfl
  | cons b bs ih =>
    have hb : b.toNat < 0x80 := h b (List.mem_cons_self ..)
    have ih := ih (fun x hx => h x (List.mem_cons_of_mem _ hx))
    rw [readFrom_cons]
    simp only [ofPairs, hb, if_true] at ih ⊢
    simpa using ih

end Reader

end ResourceCatalog.Charset
