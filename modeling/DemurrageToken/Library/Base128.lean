import Mathlib

/-!
Contract: numbers as bytes of seven bits, the low ones first.

Each byte but the last of a numeral has its top bit set. A number has many numerals,
since high zeros may be written out; no numeral is the start of another one.

Owns: the relation between numerals and numbers, and that a numeral ends in one
place.

Does not own: any reader or writer of numerals.
-/

namespace DemurrageToken.Library.Base128

/-- The bytes are a numeral of the number. -/
inductive Denotes : List UInt8 → Nat → Prop where
  | last (byte : UInt8) (ends : byte.toNat < 128) : Denotes [byte] byte.toNat
  | more (byte : UInt8) {rest : List UInt8} {value : Nat} (continues : 128 ≤ byte.toNat)
      (high : Denotes rest value) : Denotes (byte :: rest) (byte.toNat % 128 + 128 * value)

theorem Denotes.ne_nil {bytes : List UInt8} {value : Nat} (denotes : Denotes bytes value) :
    bytes ≠ [] := by
  cases denotes with
  | last => exact List.cons_ne_nil _ _
  | more => exact List.cons_ne_nil _ _

/-- A text starts with one numeral at most. -/
theorem Denotes.append_unique {left right leftRest rightRest : List UInt8} {value other : Nat}
    (denotes : Denotes left value) (also : Denotes right other)
    (same : left ++ leftRest = right ++ rightRest) :
    left = right ∧ value = other ∧ leftRest = rightRest := by
  induction denotes generalizing right other with
  | last byte ends =>
      cases also with
      | last _ _ =>
          rcases List.cons.inj same with ⟨rfl, rest⟩
          exact ⟨rfl, rfl, rest⟩
      | more _ continues _ =>
          rcases List.cons.inj same with ⟨rfl, _⟩
          omega
  | more byte continues high inductionHypothesis =>
      cases also with
      | last _ ends =>
          rcases List.cons.inj same with ⟨rfl, _⟩
          omega
      | more _ _ alsoHigh =>
          rcases List.cons.inj same with ⟨rfl, rest⟩
          rcases inductionHypothesis alsoHigh rest with ⟨rfl, rfl, sameRest⟩
          exact ⟨rfl, rfl, sameRest⟩

theorem toNat_low (byte : UInt8) : (byte &&& 0x7F).toNat = byte.toNat % 128 := by
  rw [UInt8.toNat_and]
  exact Nat.and_two_pow_sub_one_eq_mod byte.toNat 7

theorem top_eq_zero_iff (byte : UInt8) : byte &&& 0x80 = 0 ↔ byte.toNat < 128 := by
  have bits : ∀ index : Fin 256, index.val &&& 128 = 0 ↔ index.val < 128 := by decide +kernel
  rw [← UInt8.toNat_inj, UInt8.toNat_and]
  exact bits ⟨byte.toNat, byte.toNat_lt⟩

end DemurrageToken.Library.Base128
