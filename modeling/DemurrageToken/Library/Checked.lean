import Mathlib

/-!
Contract: checked arithmetic on fixed-width unsigned machine words.

A build with overflow checks aborts where an operation leaves its width. Every
operation here therefore returns an `Option`: `none` is the abort, and
`some value` pins the result down by one equation between natural numbers. The
`_eq_some` lemmas are those equations; no later proof unfolds an operation.

Owns: the five operations, and the bounded loop `iterate` that repeats a step
which may abort.

Does not own: any width, constant or formula of a particular program.
-/

namespace DemurrageToken.Library.Checked

variable {width : Nat}

/-- `left + right`, aborting on overflow. -/
def add (left right : BitVec width) : Option (BitVec width) :=
  if left.toNat + right.toNat < 2 ^ width then some (left + right) else none

/-- `left - right`, aborting on underflow. -/
def sub (left right : BitVec width) : Option (BitVec width) :=
  if right.toNat ≤ left.toNat then some (left - right) else none

/-- `left * right`, aborting on overflow. -/
def mul (left right : BitVec width) : Option (BitVec width) :=
  if left.toNat * right.toNat < 2 ^ width then some (left * right) else none

/-- `left / right`, aborting on a zero divisor. -/
def div (left right : BitVec width) : Option (BitVec width) :=
  if right.toNat = 0 then none else some (left / right)

/-- `base ^ exponent`, aborting on overflow. Repeated squaring never forms a
power above the result, so only the result can leave the width. -/
def pow (base : BitVec width) (exponent : Nat) : Option (BitVec width) :=
  if base.toNat ^ exponent < 2 ^ width then
    some (BitVec.ofNat width (base.toNat ^ exponent))
  else
    none

/-! ## One equation per operation -/

/-- An operation that returns the machine result where the exact one fits is
determined by the exact result. -/
private theorem fitting_eq_some {exact : Nat} {machine value : BitVec width}
    (agrees : machine.toNat = exact % 2 ^ width) :
    (if exact < 2 ^ width then some machine else none) = some value ↔
      exact = value.toNat := by
  split
  · rename_i fits
    rw [Option.some.injEq, BitVec.toNat_eq, agrees, Nat.mod_eq_of_lt fits]
  · rename_i overflows
    have bound := value.isLt
    constructor
    · intro aborted
      cases aborted
    · intro equal
      omega

theorem add_eq_some {left right value : BitVec width} :
    add left right = some value ↔ left.toNat + right.toNat = value.toNat :=
  fitting_eq_some (BitVec.toNat_add left right)

theorem mul_eq_some {left right value : BitVec width} :
    mul left right = some value ↔ left.toNat * right.toNat = value.toNat :=
  fitting_eq_some (BitVec.toNat_mul left right)

theorem pow_eq_some {base value : BitVec width} {exponent : Nat} :
    pow base exponent = some value ↔ base.toNat ^ exponent = value.toNat :=
  fitting_eq_some (BitVec.toNat_ofNat _ _)

theorem sub_eq_some {left right value : BitVec width} :
    sub left right = some value ↔ value.toNat + right.toNat = left.toNat := by
  unfold sub
  split
  · rename_i ordered
    rw [Option.some.injEq, BitVec.toNat_eq,
      BitVec.toNat_sub_of_le (BitVec.le_def.mpr ordered)]
    omega
  · rename_i underflows
    constructor
    · intro aborted
      cases aborted
    · intro equal
      omega

theorem div_eq_some {left right value : BitVec width} :
    div left right = some value ↔
      right.toNat ≠ 0 ∧ left.toNat / right.toNat = value.toNat := by
  unfold div
  split
  · rename_i zero
    simp [zero]
  · rename_i nonzero
    rw [Option.some.injEq, BitVec.toNat_eq, BitVec.toNat_udiv]
    exact ⟨fun equal => ⟨nonzero, equal⟩, fun both => both.2⟩

/-- Every number below the width's bound is a word. -/
theorem word_exists {value : Nat} (fits : value < 2 ^ width) :
    ∃ word : BitVec width, value = word.toNat :=
  ⟨BitVec.ofNat width value, by rw [BitVec.toNat_ofNat, Nat.mod_eq_of_lt fits]⟩

/-! ## Loops that may abort -/

/-- `count` passes of a step that may abort. -/
def iterate {α : Type} (step : α → Option α) : Nat → α → Option α
  | 0, value => some value
  | count + 1, value => (step value).bind (iterate step count)

theorem iterate_succ_eq_some {α : Type} {step : α → Option α} {count : Nat}
    {value result : α} :
    iterate step (count + 1) value = some result ↔
      ∃ next, step value = some next ∧ iterate step count next = some result := by
  rw [iterate, Option.bind_eq_some_iff]

/-- The last pass of the loop instead of the first. -/
theorem iterate_succ_eq_some' {α : Type} {step : α → Option α} {result : α} :
    ∀ {count : Nat} {value : α}, iterate step (count + 1) value = some result ↔
      ∃ earlier, iterate step count value = some earlier ∧ step earlier = some result := by
  intro count
  induction count with
  | zero =>
      intro value
      rw [iterate_succ_eq_some]
      simp [iterate]
  | succ count inductionHypothesis =>
      intro value
      rw [iterate_succ_eq_some]
      simp only [inductionHypothesis, iterate_succ_eq_some]
      constructor
      · intro found
        obtain ⟨next, first, earlier, rest, last⟩ := found
        exact ⟨earlier, ⟨next, first, rest⟩, last⟩
      · intro found
        obtain ⟨earlier, ⟨next, first, rest⟩, last⟩ := found
        exact ⟨next, first, earlier, rest, last⟩

/-- A loop whose passes all succeed from where they are has a result. -/
theorem iterate_exists {α : Type} {step : α → Option α} (holds : α → Prop)
    (advances : ∀ value, holds value → ∃ next, step value = some next ∧ holds next) :
    ∀ (count : Nat) (value : α), holds value →
      ∃ result, iterate step count value = some result := by
  intro count
  induction count with
  | zero =>
      intro value _
      exact ⟨value, rfl⟩
  | succ count inductionHypothesis =>
      intro value start
      obtain ⟨next, pass, kept⟩ := advances value start
      obtain ⟨result, rest⟩ := inductionHypothesis next kept
      exact ⟨result, iterate_succ_eq_some.mpr ⟨next, pass, rest⟩⟩

/-- A property that every pass keeps holds of the result of the loop. -/
theorem iterate_invariant {α : Type} {step : α → Option α} (holds : α → Prop)
    (kept : ∀ value next, holds value → step value = some next → holds next) :
    ∀ (count : Nat) (value result : α),
      holds value → iterate step count value = some result → holds result := by
  intro count
  induction count with
  | zero =>
      intro value result start done
      cases done
      exact start
  | succ count inductionHypothesis =>
      intro value result start done
      obtain ⟨next, pass, rest⟩ := iterate_succ_eq_some.mp done
      exact inductionHypothesis next result (kept value next start pass) rest

/-- Where every pass acts on the view as `counterpart` does, so does the whole loop. -/
theorem iterate_simulates {α β : Type} {step : α → Option α} {view : α → β}
    {counterpart : β → β}
    (simulates : ∀ value next, step value = some next → view next = counterpart (view value)) :
    ∀ (count : Nat) (value result : α),
      iterate step count value = some result →
        view result = counterpart^[count] (view value) := by
  intro count
  induction count with
  | zero =>
      intro value result done
      cases done
      rfl
  | succ count inductionHypothesis =>
      intro value result done
      obtain ⟨next, pass, rest⟩ := iterate_succ_eq_some.mp done
      rw [Function.iterate_succ_apply, ← simulates value next pass]
      exact inductionHypothesis next result rest

end DemurrageToken.Library.Checked
