import Mathlib

/-!
Contract: ranges of keys in a lexicographic order.

A store keeps its keys in lexicographic order and gives out the entries between
two bounds. A family of keys with a common front is such a range, and so is what
lies behind one of them.

Owns: how a common front, a least letter and a next letter act on the order.

Does not own: how keys are encoded.
-/

namespace DemurrageToken.Library.Keyspace

variable {α : Type} [LinearOrder α]

/-! ## Bounds -/

theorem append_lt_append_iff (front : List α) {left right : List α} :
    front ++ left < front ++ right ↔ left < right := by
  induction front with
  | nil => exact Iff.rfl
  | cons letter front inductionHypothesis =>
      rw [List.cons_append, List.cons_append, List.cons_lt_cons_iff]
      simp [inductionHypothesis]

theorem append_le_append_iff (front : List α) {left right : List α} :
    front ++ left ≤ front ++ right ↔ left ≤ right := by
  rw [← not_lt, append_lt_append_iff, not_lt]

/-- The first key behind a limit is the limit with the least letter added. -/
theorem snoc_least_le_iff {least : α} (isLeast : ∀ letter, least ≤ letter) :
    ∀ {limit key : List α}, limit ++ [least] ≤ key ↔ limit < key := by
  intro limit
  induction limit with
  | nil =>
      intro key
      cases key with
      | nil =>
          refine iff_of_false (not_le_of_gt ?_) (lt_irrefl _)
          exact List.nil_lt_cons least []
      | cons letter rest =>
          refine iff_of_true (not_lt.mp ?_) (List.nil_lt_cons letter rest)
          rw [List.nil_append, List.cons_lt_cons_iff]
          simp [(isLeast letter).not_gt]
  | cons first limit inductionHypothesis =>
      intro key
      cases key with
      | nil =>
          refine iff_of_false (not_le_of_gt ?_) (not_lt_of_gt ?_)
          · exact List.nil_lt_cons _ _
          · exact List.nil_lt_cons _ _
      | cons letter rest =>
          have behind := @inductionHypothesis rest
          rw [← not_lt] at behind ⊢
          rw [List.cons_append, List.cons_lt_cons_iff, List.cons_lt_cons_iff, ← behind]
          rcases lt_trichotomy first letter with less | same | more
          · simp [less, less.not_gt, less.ne']
          · simp [same]
          · simp [more, more.not_gt, more.ne']

/-- What lies between two keys with a common front has the same front. -/
theorem between_append_iff {low high : List α} :
    ∀ {front key : List α}, front ++ low ≤ key ∧ key < front ++ high ↔
      ∃ rest, front ++ rest = key ∧ low ≤ rest ∧ rest < high := by
  intro front
  induction front with
  | nil =>
      intro key
      simp
  | cons first front inductionHypothesis =>
      intro key
      cases key with
      | nil =>
          refine iff_of_false ?_ (by simp)
          intro between
          exact between.1.not_gt (List.nil_lt_cons first _)
      | cons letter rest =>
          rw [← not_lt, List.cons_append, List.cons_append, List.cons_lt_cons_iff,
            List.cons_lt_cons_iff]
          simp only [List.cons_append, List.cons.injEq]
          rcases lt_trichotomy first letter with less | same | more
          · simp [less.not_gt, less.ne, less.ne']
          · simp [same, @inductionHypothesis rest]
          · simp [more, more.ne']

/-- The keys from a front on, and before the front with its last letter raised,
are those that start with the front. -/
theorem between_snoc_iff {front key : List α} {letter next : α} (covers : letter ⋖ next) :
    front ++ [letter] ≤ key ∧ key < front ++ [next] ↔ front ++ [letter] <+: key := by
  have started : ∀ rest : List α, [letter] ≤ rest ∧ rest < [next] ↔ [letter] <+: rest := by
    intro rest
    cases rest with
    | nil => simp [← not_lt]
    | cons first tail =>
        rw [← not_lt, List.cons_lt_cons_iff, List.cons_lt_cons_iff]
        simp only [List.not_lt_nil, and_false, or_false, not_lt, List.cons_prefix_cons,
          List.nil_prefix, and_true]
        constructor
        · intro between
          exact between.1.eq_of_not_lt fun beyond => covers.2 beyond between.2
        · intro same
          exact same ▸ ⟨le_rfl, covers.1⟩
  rw [between_append_iff]
  constructor
  · intro found
    rcases found with ⟨rest, rfl, between⟩
    exact (List.prefix_append_right_inj front).mpr ((started rest).mp between)
  · intro found
    rcases found with ⟨rest, rfl⟩
    refine ⟨[letter] ++ rest, (List.append_assoc front [letter] rest).symm, ?_⟩
    exact (started _).mpr (List.prefix_append [letter] rest)

end DemurrageToken.Library.Keyspace
