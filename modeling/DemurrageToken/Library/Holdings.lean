import DemurrageToken.Library.Checked
import DemurrageToken.Library.Ledger

/-!
Contract: what accounts hold, in natural numbers.

A holding is a ledger without a width: it never overflows, a debit of too much
leaves nothing, and an account without an entry is kept apart from one that
holds zero. A ledger of machine words stands for one holding, and a debit or a
credit of the words is the one of the holding wherever it does not abort.

Owns: the operations, the holding of a ledger, and the two equivalences.

Does not own: why an account is debited or credited.
-/

namespace DemurrageToken.Library

/-- What each account holds; `none` before its first entry. -/
abbrev Holdings (κ : Type) := κ → Option Nat

namespace Holdings

variable {κ : Type} [DecidableEq κ]

omit [DecidableEq κ] in
/-- What an account holds; zero without an entry. -/
def balance (holdings : Holdings κ) (account : κ) : Nat :=
  (holdings account).getD 0

/-- `amount` is added to `account`. -/
def credit (holdings : Holdings κ) (account : κ) (amount : Nat) : Holdings κ :=
  Function.update holdings account (some (holdings.balance account + amount))

/-- `amount` leaves `account`. -/
def debit (holdings : Holdings κ) (account : κ) (amount : Nat) : Holdings κ :=
  Function.update holdings account (some (holdings.balance account - amount))

@[simp] theorem balance_credit_self (holdings : Holdings κ) (account : κ) (amount : Nat) :
    (holdings.credit account amount).balance account = holdings.balance account + amount := by
  simp [balance, credit]

@[simp] theorem balance_debit_self (holdings : Holdings κ) (account : κ) (amount : Nat) :
    (holdings.debit account amount).balance account = holdings.balance account - amount := by
  simp [balance, debit]

/-! ## The holding of a ledger -/

variable [Ord κ] [Std.TransOrd κ] {width : Nat}

omit [DecidableEq κ] in
/-- The entries of a ledger as natural numbers. -/
def ofLedger (ledger : Ledger κ width) : Holdings κ :=
  fun account => ledger[account]?.map BitVec.toNat

omit [DecidableEq κ] in
@[simp] theorem balance_ofLedger (ledger : Ledger κ width) (account : κ) :
    (ofLedger ledger).balance account = Ledger.held ledger account := by
  unfold balance ofLedger Ledger.held
  cases ledger[account]? <;> rfl

variable [Std.LawfulEqOrd κ]

theorem ofLedger_insert (ledger : Ledger κ width) (account : κ) (value : BitVec width) :
    ofLedger (ledger.insert account value) =
      Function.update (ofLedger ledger) account (some value.toNat) := by
  funext other
  unfold ofLedger
  by_cases same : other = account
  · subst same
    rw [Function.update_self, Std.ExtTreeMap.getElem?_insert_self, Option.map_some]
  · rw [Function.update_of_ne same, Std.ExtTreeMap.getElem?_insert, if_neg]
    intro equal
    exact same (Std.LawfulEqCmp.eq_of_compare equal).symm

omit [DecidableEq κ] in
/-- A ledger has one holding, and a holding at most one ledger. -/
theorem ofLedger_injective : Function.Injective (ofLedger : Ledger κ width → Holdings κ) := by
  intro left right same
  apply Std.ExtTreeMap.ext_getElem?
  intro account
  have equal : left[account]?.map BitVec.toNat = right[account]?.map BitVec.toNat :=
    congrFun same account
  exact Option.map_injective (fun _ _ => BitVec.eq_of_toNat_eq) equal

variable {before after : Ledger κ width} {account : κ} {amount : Nat}

/-- A debit of the words is one of the holding that the account covers. -/
theorem debits_iff : Ledger.Debits before account amount after ↔
    amount ≤ (ofLedger before).balance account ∧
      ofLedger after = (ofLedger before).debit account amount := by
  unfold Ledger.Debits debit
  rw [balance_ofLedger]
  constructor
  · rintro ⟨rest, difference, rfl⟩
    rw [ofLedger_insert]
    have left : Ledger.held before account - amount = rest.toNat := by omega
    rw [left]
    exact ⟨by omega, rfl⟩
  · rintro ⟨covered, result⟩
    have bound : Ledger.held before account < 2 ^ width := BitVec.isLt _
    obtain ⟨rest, difference⟩ :
        ∃ rest : BitVec width, Ledger.held before account - amount = rest.toNat :=
      Checked.word_exists (by omega)
    refine ⟨rest, by omega, ?_⟩
    apply ofLedger_injective
    rw [result, ofLedger_insert, difference]

/-- A credit of the words is one of the holding that fits the width. -/
theorem credits_iff : Ledger.Credits before account amount after ↔
    (ofLedger before).balance account + amount < 2 ^ width ∧
      ofLedger after = (ofLedger before).credit account amount := by
  unfold Ledger.Credits credit
  rw [balance_ofLedger]
  constructor
  · rintro ⟨sum, raised, rfl⟩
    rw [ofLedger_insert, raised]
    exact ⟨sum.isLt, rfl⟩
  · rintro ⟨fits, result⟩
    obtain ⟨sum, raised⟩ := Checked.word_exists fits
    refine ⟨sum, raised, ?_⟩
    apply ofLedger_injective
    rw [result, ofLedger_insert, raised]

omit [DecidableEq κ] [Std.LawfulEqOrd κ] in
theorem debits_exists (covered : amount ≤ (ofLedger before).balance account) :
    ∃ after, Ledger.Debits before account amount after := by
  rw [balance_ofLedger] at covered
  have bound : Ledger.held before account < 2 ^ width := BitVec.isLt _
  obtain ⟨rest, difference⟩ :
      ∃ rest : BitVec width, Ledger.held before account - amount = rest.toNat :=
    Checked.word_exists (by omega)
  exact ⟨_, rest, by omega, rfl⟩

omit [DecidableEq κ] [Std.LawfulEqOrd κ] in
theorem credits_exists (fits : (ofLedger before).balance account + amount < 2 ^ width) :
    ∃ after, Ledger.Credits before account amount after := by
  rw [balance_ofLedger] at fits
  obtain ⟨sum, raised⟩ := Checked.word_exists fits
  exact ⟨_, sum, raised, rfl⟩

end Holdings

end DemurrageToken.Library
