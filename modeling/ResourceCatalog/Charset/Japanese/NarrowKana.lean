/-
  ResourceCatalog/Charset/Japanese/NarrowKana.lean
  ================================================
  **Kana of half the width.**

  They were the first Japanese characters to be given bytes of their own.
-/
namespace ResourceCatalog.Charset

/-- The narrow kana of a byte from 0xA1 to 0xDF. -/
def narrowKana? (b : Nat) : Option Char :=
  if 0xA1 ≤ b ∧ b ≤ 0xDF then some (Char.ofNat (0xFF61 + (b - 0xA1))) else none

end ResourceCatalog.Charset
