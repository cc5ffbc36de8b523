import DemurrageToken.Contract.Replay
import DemurrageToken.Spec.Funds
import DemurrageToken.Spec.Modifier

/-!
Contract: two transfers in one block, in either order.

Owns: when the two orders leave the same storage.

Does not own: transfers in different blocks.
-/

namespace DemurrageToken.Properties

open DemurrageToken.Library
open DemurrageToken.Library.System
open DemurrageToken.Library.Ledger
open DemurrageToken.Contract
open DemurrageToken.Spec

variable {api : Api} {env : Env} {before : Storage}

/-! ## Two transfers in a row -/

/-- The base value of an amount at a modifier. -/
def baseOf (amount : U128) (modifier : Nat) : Nat :=
  amount.toNat * fullAmount / modifier

theorem transfers_of_executes {info : MessageInfo} {recipient : String} {amount : U128}
    {after : Storage}
    (executed : Executes api ⟨env, info, .transfer recipient amount⟩ before after) :
    Transfers api env.block.time info.sender recipient amount before after := by
  cases executes_iff_effect.mp executed with
  | transfer _ transfers => exact transfers

/-- Two transfers in one block leave the record advanced twice, and pay the
second recipient at a modifier decayed twice. -/
theorem two_transfers_move {first second : MessageInfo} {recipient other : String}
    {amount more : U128} {middle after : Storage}
    (one : Executes api ⟨env, first, .transfer recipient amount⟩ before middle)
    (two : Executes api ⟨env, second, .transfer other more⟩ middle after) :
    ∃ current once twice, before.state = some current ∧
      Advances env.block.time current once ∧ Advances env.block.time once twice ∧
      after.state = some twice ∧ after.tokenInfo = before.tokenInfo ∧
      Movement before.balances
        (paidAccounts api before.tokenInfo once ∪
          {first.sender, second.sender, ⟨recipient⟩, ⟨other⟩})
        (Pi.single ⟨once.sinkAddress⟩ (payout api before.tokenInfo once) +
          Pi.single ⟨once.sinkAddress⟩ (payout api before.tokenInfo twice) +
          Pi.single ⟨recipient⟩ (baseOf amount (decayedValue env.block.time current)) +
          Pi.single ⟨other⟩ (baseOf more (decayedTwice env.block.time current)))
        (Pi.single first.sender amount.toNat + Pi.single second.sender more.toNat)
        after.balances := by
  obtain ⟨current, once, base, stored, advances, saved, converted, moved⟩ :=
    (transfers_of_executes one).moves
  obtain ⟨again, twice, further, storedAgain, advancesAgain, savedAgain, convertedAgain, rest⟩ :=
    (transfers_of_executes two).moves
  obtain rfl := Option.some.inj (saved.symm.trans storedAgain)
  have sameToken := (transfers_of_executes one).tokenInfo
  have sameSink := advancesAgain.sinkAddress
  have samePaid : paidAccounts api middle.tokenInfo twice =
      paidAccounts api before.tokenInfo once := by
    unfold paidAccounts
    rw [sameToken, sameSink]
  have firstBase : base.toNat = baseOf amount (decayedValue env.block.time current) := by
    rw [(toBaseAmount_value converted).2, advances.demurrageAmount_eq]
    rfl
  have secondBase : further.toNat = baseOf more (decayedTwice env.block.time current) := by
    rw [(toBaseAmount_value convertedAgain).2, advances.decayedTwice_eq advancesAgain]
    rfl
  have touched : ∀ paid : Set Addr,
      paid ∪ {first.sender} ∪ {⟨recipient⟩} ∪ (paid ∪ {second.sender} ∪ {⟨other⟩}) =
        paid ∪ {first.sender, second.sender, ⟨recipient⟩, ⟨other⟩} := by
    intro paid
    ext account
    simp only [Set.mem_union, Set.mem_insert_iff, Set.mem_singleton_iff]
    tauto
  have both := moved.trans rest
  rw [samePaid, touched, sameToken, sameSink, firstBase, secondBase, add_add_add_comm,
    ← add_assoc] at both
  refine ⟨current, once, twice, stored, advances, advancesAgain, savedAgain, ?_, both⟩
  exact (transfers_of_executes two).tokenInfo.trans sameToken

/-! ## Both orders -/

/-- The amount is worth the same after one decay and after two. -/
def SameBase (now : Timestamp) (current : State) (amount : U128) : Prop :=
  baseOf amount (decayedValue now current) = baseOf amount (decayedTwice now current)

instance (now : Timestamp) (current : State) (amount : U128) :
    Decidable (SameBase now current amount) :=
  inferInstanceAs (Decidable (_ = _))

/-- The two storages agree on the balances, the token record and the demurrage
record. -/
def SameTokens (left right : Storage) : Prop :=
  left.balances = right.balances ∧ left.tokenInfo = right.tokenInfo ∧ left.state = right.state

/-- Two transfers to different recipients in one block lead to the same tokens in
either order exactly when both amounts are worth the same after one decay and
after two. -/
theorem orders_agree_iff {first second : MessageInfo} {recipient other : String}
    {amount more : U128} {current : State} {afterFirst afterSecond left right : Storage}
    (stored : before.state = some current) (distinct : recipient ≠ other)
    (firstCall : Executes api ⟨env, first, .transfer recipient amount⟩ before afterFirst)
    (thenSecond : Executes api ⟨env, second, .transfer other more⟩ afterFirst left)
    (secondCall : Executes api ⟨env, second, .transfer other more⟩ before afterSecond)
    (thenFirst : Executes api ⟨env, first, .transfer recipient amount⟩ afterSecond right) :
    SameTokens left right ↔
      SameBase env.block.time current amount ∧ SameBase env.block.time current more := by
  obtain ⟨_, once, twice, here, advances, advancesAgain, saved, token, moved⟩ :=
    two_transfers_move firstCall thenSecond
  obtain ⟨_, otherOnce, otherTwice, there, otherAdvances, otherAgain, otherSaved, otherToken,
    otherMoved⟩ := two_transfers_move secondCall thenFirst
  obtain rfl := Option.some.inj (stored.symm.trans here)
  obtain rfl := Option.some.inj (stored.symm.trans there)
  obtain rfl := advances.unique otherAdvances
  obtain rfl := advancesAgain.unique otherAgain
  have sameToken : left.tokenInfo = right.tokenInfo := token.trans otherToken.symm
  have sameRecord : left.state = right.state := saved.trans otherSaved.symm
  have touched : ({second.sender, first.sender, ⟨other⟩, ⟨recipient⟩} : Set Addr) =
      {first.sender, second.sender, ⟨recipient⟩, ⟨other⟩} := by
    ext account
    simp only [Set.mem_insert_iff, Set.mem_singleton_iff]
    tauto
  rw [touched] at otherMoved
  have different : (⟨recipient⟩ : Addr) ≠ ⟨other⟩ := by
    intro same
    exact distinct (Addr.mk.inj same)
  have balancesOnly : SameTokens left right ↔ left.balances = right.balances := by
    simp only [SameTokens, sameToken, sameRecord, and_self, and_true]
  rw [balancesOnly, moved.eq_iff otherMoved]
  unfold SameBase
  constructor
  · intro agree
    have atRecipient := agree ⟨recipient⟩
    have atOther := agree ⟨other⟩
    simp only [Pi.add_apply, Pi.single_eq_same, Pi.single_eq_of_ne different,
      Pi.single_eq_of_ne different.symm] at atRecipient atOther
    constructor
    · omega
    · omega
  · intro same account
    obtain ⟨sameAmount, sameMore⟩ := same
    simp only [Pi.add_apply]
    rw [← sameAmount, ← sameMore]
    omega

/-- After one minute the two orders lead to the same tokens: a single minute is
not taxed. -/
theorem orders_agree_first_minute :
    ∃ start events chain,
      (tokenSystem sampleApi (sampleGenesis 1000000 none)).Run start events chain ∧
      events.map Event.label = [callAt 30 "alice" (.send "carol" 5000 [])] ∧
      ∃ afterFirst afterSecond left right : Storage,
        Executes sampleApi (callAt 60 "alice" (.transfer "bob" 1000)) chain.storage afterFirst ∧
        Executes sampleApi (callAt 60 "carol" (.transfer "dave" 1000)) afterFirst left ∧
        Executes sampleApi (callAt 60 "carol" (.transfer "dave" 1000)) chain.storage afterSecond ∧
        Executes sampleApi (callAt 60 "alice" (.transfer "bob" 1000)) afterSecond right ∧
        SameTokens left right := by
  obtain ⟨start, events, chain, run, labels, passed⟩ :=
    exists_run sampleApi (sampleGenesis 1000000 none)
      [callAt 30 "alice" (.send "carol" 5000 [])]
      (fun _ chain =>
        (chain.storage.state.any fun current =>
          decide (SameBase (blockAt 60).block.time current 1000)) &&
        bothOrders sampleApi (callAt 60 "alice" (.transfer "bob" 1000))
          (callAt 60 "carol" (.transfer "dave" 1000)) (fun _ _ => true) chain)
      (by decide +kernel)
  obtain ⟨untaxed, both⟩ := Bool.and_eq_true_iff.mp passed
  obtain ⟨current, stored, same⟩ := (Option.any_eq_true _ _).mp untaxed
  have sameBase := of_decide_eq_true same
  obtain ⟨afterFirst, afterSecond, left, right, firstCall, thenSecond, secondCall, thenFirst, _⟩ :=
    executes_of_bothOrders both
  refine ⟨start, events, chain, run, labels, _, _, _, _, firstCall, thenSecond, secondCall,
    thenFirst, ?_⟩
  exact (orders_agree_iff stored (by decide) firstCall thenSecond secondCall thenFirst).mpr
    ⟨sameBase, sameBase⟩

/-- Three minutes after instantiation, bob gets 1020 from alice's transfer if it
comes first, and 1041 if carol's comes first. -/
theorem order_changes_delivery :
    ∃ start events chain,
      (tokenSystem sampleApi (sampleGenesis 1000000 none)).Run start events chain ∧
      events.map Event.label = [callAt 30 "alice" (.send "carol" 5000 [])] ∧
      ∃ afterFirst afterSecond left right : Storage,
        Executes sampleApi (callAt 180 "alice" (.transfer "bob" 1000)) chain.storage afterFirst ∧
        Executes sampleApi (callAt 180 "carol" (.transfer "dave" 1000)) afterFirst left ∧
        Executes sampleApi (callAt 180 "carol" (.transfer "dave" 1000)) chain.storage
          afterSecond ∧
        Executes sampleApi (callAt 180 "alice" (.transfer "bob" 1000)) afterSecond right ∧
        held left.balances ⟨"bob"⟩ = 1020 ∧ held right.balances ⟨"bob"⟩ = 1041 ∧
        ¬ SameTokens left right := by
  obtain ⟨start, events, chain, run, labels, passed⟩ :=
    exists_run sampleApi (sampleGenesis 1000000 none)
      [callAt 30 "alice" (.send "carol" 5000 [])]
      (fun _ chain =>
        bothOrders sampleApi (callAt 180 "alice" (.transfer "bob" 1000))
          (callAt 180 "carol" (.transfer "dave" 1000))
          (fun left right => decide (held left.storage.balances ⟨"bob"⟩ = 1020 ∧
            held right.storage.balances ⟨"bob"⟩ = 1041)) chain)
      (by decide +kernel)
  obtain ⟨afterFirst, afterSecond, left, right, firstCall, thenSecond, secondCall, thenFirst,
    delivered⟩ := executes_of_bothOrders passed
  obtain ⟨early, late⟩ := of_decide_eq_true delivered
  refine ⟨start, events, chain, run, labels, _, _, _, _, firstCall, thenSecond, secondCall,
    thenFirst, early, late, ?_⟩
  intro same
  rw [same.1, late] at early
  cases early

end DemurrageToken.Properties
