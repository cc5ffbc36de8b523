import Mathlib

/-!
Contract: the reference ledger of one allowance.

An allowance is an amount and an expiration, and three operations act on it:
the owner grants, the owner lowers, the spender draws. The reference counts in
natural numbers and never refuses; a real ledger refuses a draw that the entry
does not cover, which is the one assumption of `drawn_le_granted`.

Owns: the operations, the totals granted and drawn, and the bound of one by the
other.

Does not own: who owns or spends, and when an expiration has passed.
-/

namespace DemurrageToken.Library.Allowance

variable {τ : Type}

/-- What an allowance stands at. -/
structure Entry (τ : Type) where
  amount : Nat
  expires : τ
deriving DecidableEq

/-- No allowance: nothing, with the default expiration. -/
instance [Inhabited τ] : Inhabited (Entry τ) := ⟨⟨0, default⟩⟩

/-- The operations; a given expiration replaces the one of the entry. -/
inductive Operation (τ : Type) where
  | grant (amount : Nat) (expires : Option τ)
  | lower (amount : Nat) (expires : Option τ)
  | draw (amount : Nat)
deriving DecidableEq

/-- The entry after an operation. Lowering by all there is removes the entry. -/
def Entry.apply [Inhabited τ] (entry : Entry τ) : Operation τ → Entry τ
  | .grant amount expires => ⟨entry.amount + amount, expires.getD entry.expires⟩
  | .lower amount expires =>
      if amount < entry.amount then
        ⟨entry.amount - amount, expires.getD entry.expires⟩
      else
        default
  | .draw amount => ⟨entry.amount - amount, entry.expires⟩

theorem Entry.apply_lower_of_lt [Inhabited τ] {entry : Entry τ} {amount : Nat}
    {expires : Option τ} (covered : amount < entry.amount) :
    entry.apply (.lower amount expires) =
      ⟨entry.amount - amount, expires.getD entry.expires⟩ :=
  if_pos covered

theorem Entry.apply_lower_of_le [Inhabited τ] {entry : Entry τ} {amount : Nat}
    {expires : Option τ} (exhausted : entry.amount ≤ amount) :
    entry.apply (.lower amount expires) = default :=
  if_neg (Nat.not_lt_of_le exhausted)

/-- The entry after a list of operations, from no allowance. -/
def balance [Inhabited τ] (operations : List (Operation τ)) : Entry τ :=
  operations.foldl Entry.apply default

/-- The total of the grants. -/
def granted (operations : List (Operation τ)) : Nat :=
  (operations.map fun
    | .grant amount _ => amount
    | _ => 0).sum

/-- The total of the draws. -/
def drawn (operations : List (Operation τ)) : Nat :=
  (operations.map fun
    | .draw amount => amount
    | _ => 0).sum

/-- The operation is not a draw of more than there is. -/
def Operation.CoveredBy (operation : Operation τ) (entry : Entry τ) : Prop :=
  ∀ amount, operation = .draw amount → amount ≤ entry.amount

/-- Lists of operations with every draw covered at its time. -/
inductive Covered [Inhabited τ] : List (Operation τ) → Prop where
  | nil : Covered []
  | snoc {operations : List (Operation τ)} {operation : Operation τ}
      (earlier : Covered operations) (last : operation.CoveredBy (balance operations)) :
      Covered (operations ++ [operation])

theorem balance_append_singleton [Inhabited τ] (operations : List (Operation τ))
    (operation : Operation τ) :
    balance (operations ++ [operation]) = (balance operations).apply operation := by
  simp [balance]

theorem drawn_eq_zero {operations : List (Operation τ)}
    (undrawn : ∀ amount, .draw amount ∉ operations) : drawn operations = 0 := by
  apply List.sum_eq_zero
  intro part member
  obtain ⟨operation, listed, rfl⟩ := List.mem_map.mp member
  cases operation with
  | grant _ _ => rfl
  | lower _ _ => rfl
  | draw amount => exact absurd listed (undrawn amount)

/-- What is left and what was drawn is covered by what was granted. -/
theorem Covered.balance_add_drawn_le [Inhabited τ] {operations : List (Operation τ)}
    (covered : Covered operations) :
    (balance operations).amount + drawn operations ≤ granted operations := by
  induction covered with
  | nil => exact le_rfl
  | @snoc operations operation _ last inductionHypothesis =>
      rw [balance_append_singleton]
      simp only [drawn, granted, List.map_append, List.sum_append, List.map_singleton,
        List.sum_singleton] at inductionHypothesis ⊢
      cases operation with
      | grant amount expires =>
          simp only [Entry.apply]
          omega
      | lower amount expires =>
          by_cases covered : amount < (balance operations).amount
          · rw [Entry.apply_lower_of_lt covered]
            dsimp only
            omega
          · rw [Entry.apply_lower_of_le (Nat.le_of_not_lt covered)]
            dsimp only [default]
            omega
      | draw amount =>
          have within := last amount rfl
          simp only [Entry.apply]
          omega

/-- A spender never draws more than the owner granted. -/
theorem Covered.drawn_le_granted [Inhabited τ] {operations : List (Operation τ)}
    (covered : Covered operations) : drawn operations ≤ granted operations := by
  have bounded := covered.balance_add_drawn_le
  omega

end DemurrageToken.Library.Allowance
