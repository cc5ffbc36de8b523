import DemurrageToken.Contract.Replay
import DemurrageToken.Spec.Invariants

/-!
Contract: who can lower a balance or change an allowance.

Owns: the accounts and the allowance entries a message names, and that a call
leaves everything else as it was and lowers the balance of another account only
against an allowance of that account.

Does not own: how much a recipient is credited.
-/

namespace DemurrageToken.Properties

open DemurrageToken.Library
open DemurrageToken.Library.System
open DemurrageToken.Library.Ledger
open DemurrageToken.Contract
open DemurrageToken.Spec

/-! ## What a message names -/

/-- The recipient or contract a message names. -/
def beneficiary : ExecuteMsg → Option String
  | .transfer recipient _ | .transferFrom _ recipient _ | .mint recipient _ => some recipient
  | .send contract _ _ | .sendFrom _ contract _ _ => some contract
  | _ => none

/-- The accounts a call concerns: the sender, the named owner, the named
recipient or contract, and the stored sink. -/
def Concerns (sender : Addr) (before : Storage) (msg : ExecuteMsg) (account : Addr) : Prop :=
  account = sender ∨
  (∃ named ∈ delegation msg, account = ⟨named.1⟩) ∨
  (∃ named ∈ beneficiary msg, account = ⟨named⟩) ∨
  ∃ current ∈ before.state, account = ⟨current.sinkAddress⟩

/-- The pair of owner and spender a message names. -/
def namedPair (sender : Addr) : ExecuteMsg → Option (Addr × Addr)
  | .increaseAllowance spender _ _ | .decreaseAllowance spender _ _ => some (sender, ⟨spender⟩)
  | msg => (delegation msg).map fun named => (⟨named.1⟩, sender)

/-- The balance of `account` fell against its allowance to `spender`: an entry
that was not expired covered `amount` and fell by it, and the balance fell by no
more. -/
structure DrawnUpon (block : BlockInfo) (account spender : Addr) (amount : Nat)
    (before after : Storage) : Prop where
  entry : ∃ entry left, before.allowances[(account, spender)]? = some entry ∧
    entry.expires.isExpired block = false ∧ amount ≤ entry.allowance.toNat ∧
    after.allowances[(account, spender)]? = some { entry with allowance := left } ∧
    left.toNat + amount = entry.allowance.toNat
  balance : held before.balances account ≤ held after.balances account + amount

variable {api : Api} {genesis : Genesis} {env : Env} {sender account : Addr}
  {before after : Storage} {msg : ExecuteMsg}

/-! ## Balances -/

/-- A message in the sender's own name lowers no other balance. -/
theorem held_mono_of_direct (effect : Effect api env sender before after msg)
    (direct : delegation msg = none) (other : account ≠ sender) :
    held before.balances account ≤ held after.balances account := by
  by_cases idle : movesTokens msg = false
  · rw [effect.balances_eq idle]
  cases effect with
  | transfer _ transfers => exact transfers.held_mono other
  | burn _ burns => exact (burns.held_other other).ge
  | send _ sends => exact sends.held_mono other
  | mint _ _ _ _ _ _ _ _ redistributes _ _ credits result =>
      rw [result]
      exact (redistributes.held_mono account).trans (credits.held_mono account)
  | transferFrom _ _ => cases direct
  | sendFrom _ _ => cases direct
  | burnFrom _ _ => cases direct
  | _ => exact absurd rfl idle

/-- A delegated message lowers the entry of its owner and sender by its amount. -/
theorem entry_of_delegated {named : String} {amount : U128}
    (effect : Effect api env sender before after msg)
    (delegated : delegation msg = some (named, amount)) :
    ∃ entry left, before.allowances[((⟨named⟩ : Addr), sender)]? = some entry ∧
      entry.expires.isExpired env.block = false ∧ amount.toNat ≤ entry.allowance.toNat ∧
      after.allowances[((⟨named⟩ : Addr), sender)]? = some { entry with allowance := left } ∧
      left.toNat + amount.toNat = entry.allowance.toNat := by
  have step := effect.allowances
  generalize after.allowances = updated at step
  cases step with
  | grant _ _ _ _ _ => cases delegated
  | lower _ _ _ => cases delegated
  | draw same valid draws =>
      cases delegated.symm.trans same
      obtain rfl := api.addrValidate_eq valid
      obtain ⟨entry, left, present, fresh, lowered, difference⟩ := draws.entry
      exact ⟨entry, left, present, fresh, by omega, lowered, difference⟩
  | keep direct _ => cases delegated.symm.trans direct

/-- A delegated message draws upon its owner, and lowers no other balance. -/
theorem drawnUpon_of_delegated {named : String} {amount : U128}
    (effect : Effect api env sender before after msg)
    (delegated : delegation msg = some (named, amount)) :
    DrawnUpon env.block ⟨named⟩ sender amount.toNat before after ∧
      ∀ account : Addr, account ≠ ⟨named⟩ →
        held before.balances account ≤ held after.balances account := by
  have drawn := entry_of_delegated effect delegated
  cases effect with
  | transferFrom draws transfers =>
      cases delegated
      obtain ⟨valid, _⟩ := draws
      obtain rfl := api.addrValidate_eq valid
      exact ⟨⟨drawn, transfers.held_owner⟩, fun account other => transfers.held_mono other⟩
  | sendFrom draws sends =>
      cases delegated
      obtain ⟨valid, _⟩ := draws
      obtain rfl := api.addrValidate_eq valid
      exact ⟨⟨drawn, sends.held_owner⟩, fun account other => sends.held_mono other⟩
  | burnFrom draws burns =>
      cases delegated
      obtain ⟨valid, _⟩ := draws
      obtain rfl := api.addrValidate_eq valid
      exact ⟨⟨drawn, burns.held_owner.le⟩, fun account other => (burns.held_other other).ge⟩
  | _ => cases delegated

/-- A message changes the balances of the accounts it concerns only. -/
theorem held_eq_of_not_concerns (effect : Effect api env sender before after msg)
    (unconcerned : ¬ Concerns sender before msg account) :
    held after.balances account = held before.balances account := by
  simp only [Concerns, not_or, not_exists, not_and] at unconcerned
  obtain ⟨notSender, notOwner, notNamed, notSink⟩ := unconcerned
  by_cases idle : movesTokens msg = false
  · rw [effect.balances_eq idle]
  cases effect with
  | transfer _ transfers => exact transfers.held_other notSender (notNamed _ rfl) notSink
  | transferFrom draws transfers =>
      obtain ⟨valid, _⟩ := draws
      obtain rfl := api.addrValidate_eq valid
      exact transfers.held_other (notOwner _ rfl) (notNamed _ rfl) notSink
  | send _ sends => exact sends.held_other notSender (notNamed _ rfl)
  | sendFrom draws sends =>
      obtain ⟨valid, _⟩ := draws
      obtain rfl := api.addrValidate_eq valid
      exact sends.held_other (notOwner _ rfl) (notNamed _ rfl)
  | burn _ burns => exact burns.held_other notSender
  | burnFrom draws burns =>
      obtain ⟨valid, _⟩ := draws
      obtain rfl := api.addrValidate_eq valid
      exact burns.held_other (notOwner _ rfl)
  | mint _ _ _ _ _ _ stored advances redistributes _ valid credits result =>
      obtain rfl := api.addrValidate_eq valid
      rw [result]
      have notCredited : account ≠ ⟨_⟩ := notNamed _ rfl
      have notPaid := notSink _ stored
      rw [← advances.sinkAddress] at notPaid
      exact (credits.held_other notCredited).trans (redistributes.held_other notPaid)
  | _ => exact absurd rfl idle

/-! ## Allowances -/

theorem namedPair_of_delegated {named : String} {amount : U128}
    (delegated : delegation msg = some (named, amount)) :
    namedPair sender msg = some (⟨named⟩, sender) := by
  cases msg with
  | transferFrom _ _ _ =>
      cases delegated
      rfl
  | sendFrom _ _ _ _ =>
      cases delegated
      rfl
  | burnFrom _ _ =>
      cases delegated
      rfl
  | _ => cases delegated

/-- A message changes the entry of the pair it names only. -/
theorem allowances_eq_of_not_named {other : Addr × Addr}
    (effect : Effect api env sender before after msg) (unnamed : other ∉ namedPair sender msg) :
    after.allowances[other]? = before.allowances[other]? := by
  have step := effect.allowances
  generalize after.allowances = updated at step
  cases step with
  | grant valid _ _ _ grants =>
      obtain rfl := api.addrValidate_eq valid
      apply grants.others
      rintro rfl
      exact unnamed rfl
  | lower valid _ lowers =>
      obtain rfl := api.addrValidate_eq valid
      apply lowers.others
      rintro rfl
      exact unnamed rfl
  | draw delegated valid draws =>
      obtain rfl := api.addrValidate_eq valid
      apply draws.others
      rintro rfl
      exact unnamed (namedPair_of_delegated delegated)
  | keep _ _ => rfl

/-! ## Calls -/

/-- In every reachable state and for every successful call: another account's
balance falls only against its allowance to the sender, accounts and entries
that the message does not concern stay as they are, and nobody has an allowance
of their own. -/
theorem lowered_only_by_spender {chain : Chain} {call : Call} {after : Storage}
    (reachable : (tokenSystem api genesis).Reachable chain)
    (executed : Executes api call chain.storage after) :
    (∀ account, account ≠ call.info.sender →
      held after.balances account < held chain.storage.balances account →
      ∃ named amount, delegation call.msg = some (named, amount) ∧ account = ⟨named⟩ ∧
        DrawnUpon call.env.block account call.info.sender amount.toNat chain.storage after) ∧
    (∀ account, ¬ Concerns call.info.sender chain.storage call.msg account →
      held after.balances account = held chain.storage.balances account) ∧
    (∀ other, other ∉ namedPair call.info.sender call.msg →
      after.allowances[other]? = chain.storage.allowances[other]?) ∧
    ∀ account, (account, account) ∉ chain.storage.allowances := by
  have effect := executes_iff_effect.mp executed
  refine ⟨?_, fun account => held_eq_of_not_concerns effect,
    fun other => allowances_eq_of_not_named effect,
    (wellFormed_of_reachable reachable).noSelf⟩
  intro account notSender fell
  cases delegated : delegation call.msg with
  | none =>
      have kept := held_mono_of_direct effect delegated notSender
      omega
  | some owed =>
      obtain ⟨named, amount⟩ := owed
      obtain ⟨drawnUpon, others⟩ := drawnUpon_of_delegated effect delegated
      by_cases same : account = ⟨named⟩
      · rw [same]
        exact ⟨named, amount, rfl, rfl, drawnUpon⟩
      · have kept := others account same
        omega

/-- Carol draws upon alice's allowance. -/
theorem lowered_by_carol :
    ∃ chain after,
      (tokenSystem sampleApi (sampleGenesis 1000000 none)).Reachable chain ∧
      Executes sampleApi (callAt 180 "carol" (.transferFrom "alice" "bob" 500)) chain.storage
        after ∧
      DrawnUpon (blockAt 180).block ⟨"alice"⟩ ⟨"carol"⟩ 500 chain.storage after := by
  obtain ⟨start, events, chain, run, _, passed⟩ :=
    exists_run sampleApi (sampleGenesis 1000000 none)
      [callAt 30 "alice" (.increaseAllowance "carol" 500 none)]
      (fun _ chain => decide (
        ∃ next ∈ advance sampleApi chain (callAt 180 "carol" (.transferFrom "alice" "bob" 500)),
          held next.storage.balances ⟨"alice"⟩ < held chain.storage.balances ⟨"alice"⟩))
      (by decide +kernel)
  obtain ⟨next, advanced, fell⟩ := of_decide_eq_true passed
  have executed : Executes sampleApi (callAt 180 "carol" (.transferFrom "alice" "bob" 500))
      chain.storage next.storage :=
    (@step_of_advance _ (sampleGenesis 1000000 none) _ _ _ advanced).2.1
  obtain ⟨_, _, delegated, _, drawnUpon⟩ :=
    (lowered_only_by_spender run.reachable executed).1 ⟨"alice"⟩ (by decide) fell
  cases delegated
  exact ⟨chain, next.storage, run.reachable, executed, drawnUpon⟩

end DemurrageToken.Properties
