import DemurrageToken.Contract.Replay
import DemurrageToken.Spec.Regions

/-!
Contract: pairs of messages that should differ in one respect only.

Owns: that a delegated message is its direct counterpart after a draw on the
allowance, and that a message to a contract never leaves what the plain
transfer of the same amount leaves.

Does not own: what each message does.
-/

namespace DemurrageToken.Properties

open DemurrageToken.Library
open DemurrageToken.Library.Handler
open DemurrageToken.Library.Ledger
open DemurrageToken.Contract
open DemurrageToken.Spec

variable {api : Api} {env : Env} {owner : Addr} {before after : Storage}

/-- The same balances, token record and demurrage record. -/
structure SameBooks (left right : Storage) : Prop where
  balances : left.balances = right.balances
  tokenInfo : left.tokenInfo = right.tokenInfo
  state : left.state = right.state

/-- A call has one outcome. -/
theorem executes_unique {call : Call} {left right : Storage}
    (first : Executes api call before left) (second : Executes api call before right) :
    left = right := by
  obtain ⟨_, returned⟩ := first
  obtain ⟨_, returnedAgain⟩ := second
  exact (returned.unique returnedAgain).2

/-! ## Delegated and direct -/

/-- The direct message that a delegated one stands for. -/
def direct : ExecuteMsg → Option ExecuteMsg
  | .transferFrom _ recipient amount => some (.transfer recipient amount)
  | .sendFrom _ contract amount msg => some (.send contract amount msg)
  | .burnFrom _ amount => some (.burn amount)
  | _ => none

/-- The movement that a direct message makes out of `owner`. -/
def Moves (api : Api) (now : Timestamp) (owner : Addr) (msg : ExecuteMsg)
    (before after : Storage) : Prop :=
  match msg with
  | .transfer recipient amount => Transfers api now owner recipient amount before after
  | .send contract amount _ => Sends api owner contract amount before after
  | .burn amount => BurnsTokens owner amount before after
  | _ => False

theorem direct_iff_moves {msg plain : ExecuteMsg} {named : String} {amount : U128}
    (counterpart : direct msg = some plain) (delegated : delegation msg = some (named, amount)) :
    Executes api ⟨env, ⟨owner⟩, plain⟩ before after ↔
      amount ≠ 0 ∧ Moves api env.block.time owner plain before after := by
  cases msg with
  | transferFrom _ recipient _ =>
      cases counterpart
      cases delegated
      exact executeTransfer_iff
  | sendFrom _ contract _ msg =>
      cases counterpart
      cases delegated
      exact executeSend_iff
  | burnFrom _ _ =>
      cases counterpart
      cases delegated
      exact executeBurn_iff
  | _ => cases counterpart

theorem delegated_iff_moves {msg plain : ExecuteMsg} {spender : Addr} {named : String}
    {amount : U128} (counterpart : direct msg = some plain)
    (delegated : delegation msg = some (named, amount)) :
    Executes api ⟨env, ⟨spender⟩, msg⟩ before after ↔
      ∃ ownerAddr drawn, DrawsFrom api env.block named spender amount before ownerAddr drawn ∧
        Moves api env.block.time ownerAddr plain drawn after := by
  cases msg with
  | transferFrom _ recipient _ =>
      cases counterpart
      cases delegated
      exact executeTransferFrom_iff
  | sendFrom _ contract _ msg =>
      cases counterpart
      cases delegated
      exact executeSendFrom_iff
  | burnFrom _ _ =>
      cases counterpart
      cases delegated
      exact executeBurnFrom_iff
  | _ => cases counterpart

/-- A movement neither reads nor writes the allowances. -/
theorem moves_withAllowances {now : Timestamp} {plain : ExecuteMsg} {drawn : Allowances} :
    Moves api now owner plain { before with allowances := drawn } after ↔
      ∃ undrawn, Moves api now owner plain before undrawn ∧
        after = { undrawn with allowances := drawn } := by
  unfold Moves
  split
  · constructor
    · rintro ⟨stored, advances, redistributes, converted, valid, debits, credits, rfl⟩
      exact ⟨_, ⟨stored, advances, redistributes, converted, valid, debits, credits, rfl⟩, rfl⟩
    · rintro ⟨_, ⟨stored, advances, redistributes, converted, valid, debits, credits, rfl⟩, rfl⟩
      exact ⟨stored, advances, redistributes, converted, valid, debits, credits, rfl⟩
  · constructor
    · rintro ⟨valid, debits, credits, rfl⟩
      exact ⟨_, ⟨valid, debits, credits, rfl⟩, rfl⟩
    · rintro ⟨_, ⟨valid, debits, credits, rfl⟩, rfl⟩
      exact ⟨valid, debits, credits, rfl⟩
  · constructor
    · rintro ⟨debits, token, burns, rfl⟩
      exact ⟨_, ⟨debits, token, burns, rfl⟩, rfl⟩
    · rintro ⟨_, ⟨debits, token, burns, rfl⟩, rfl⟩
      exact ⟨debits, token, burns, rfl⟩
  · simp

/-- A message of a spender succeeds exactly when an unexpired entry covers the
amount and the owner's own message succeeds. It leaves the same books, and of
the allowances it lowers that one entry by exactly the amount. -/
theorem delegated_iff_direct {msg plain : ExecuteMsg} {spender : Addr} {named : String}
    {amount : U128} (counterpart : direct msg = some plain)
    (delegated : delegation msg = some (named, amount)) (nonzero : amount ≠ 0)
    (valid : api.addrValidate named = .ok owner) :
    ((∃ after, Executes api ⟨env, ⟨spender⟩, msg⟩ before after) ↔
      (∃ entry, before.allowances[(owner, spender)]? = some entry ∧
        entry.expires.isExpired env.block = false ∧ amount.toNat ≤ entry.allowance.toNat) ∧
      ∃ after, Executes api ⟨env, ⟨owner⟩, plain⟩ before after) ∧
    ∀ after plainAfter, Executes api ⟨env, ⟨spender⟩, msg⟩ before after →
      Executes api ⟨env, ⟨owner⟩, plain⟩ before plainAfter →
      SameBooks after plainAfter ∧
      (∃ entry left, before.allowances[(owner, spender)]? = some entry ∧
        after.allowances[(owner, spender)]? = some { entry with allowance := left } ∧
        left.toNat + amount.toNat = entry.allowance.toNat) ∧
      ∀ other, other ≠ (owner, spender) → after.allowances[other]? = before.allowances[other]? := by
  constructor
  · simp only [delegated_iff_moves counterpart delegated, direct_iff_moves counterpart delegated]
    constructor
    · rintro ⟨_, _, _, ⟨sameOwner, draws⟩, drawnMoves⟩
      obtain rfl := Except.ok.inj (valid.symm.trans sameOwner)
      obtain ⟨undrawn, moves, _⟩ := moves_withAllowances.mp drawnMoves
      exact ⟨draws_exists_iff.mp ⟨_, draws⟩, undrawn, nonzero, moves⟩
    · rintro ⟨covered, undrawn, _, moves⟩
      obtain ⟨drawn, draws⟩ := draws_exists_iff.mpr covered
      exact ⟨_, owner, _, .intro valid draws, moves_withAllowances.mpr ⟨undrawn, moves, rfl⟩⟩
  · intro after plainAfter executed plainExecuted
    obtain ⟨_, _, ⟨sameOwner, draws⟩, drawnMoves⟩ :=
      (delegated_iff_moves counterpart delegated).mp executed
    obtain rfl := Except.ok.inj (valid.symm.trans sameOwner)
    obtain ⟨undrawn, moves, rfl⟩ := moves_withAllowances.mp drawnMoves
    have undrawnExecuted : Executes api ⟨env, ⟨owner⟩, plain⟩ before undrawn :=
      (direct_iff_moves counterpart delegated).mpr ⟨nonzero, moves⟩
    obtain rfl := executes_unique plainExecuted undrawnExecuted
    obtain ⟨entry, left, present, _, lowered, difference⟩ := draws.entry
    exact ⟨⟨rfl, rfl, rfl⟩, ⟨entry, left, present, lowered, difference⟩,
      fun other different => draws.others different⟩

/-- With an allowance from alice, carol can make the transfer that alice can. -/
theorem spender_transfers_for_owner :
    ∃ chain, (tokenSystem sampleApi (sampleGenesis 1000000 none)).Reachable chain ∧
      ∃ after, Executes sampleApi (callAt 180 "carol" (.transferFrom "alice" "bob" 500))
        chain.storage after := by
  obtain ⟨start, events, chain, run, _, passed⟩ :=
    exists_run sampleApi (sampleGenesis 1000000 none)
      [callAt 30 "alice" (.increaseAllowance "carol" 500 none)]
      (fun _ chain => decide (
        (∃ entry ∈ chain.storage.allowances[((⟨"alice"⟩, ⟨"carol"⟩) : Addr × Addr)]?,
          entry.expires.isExpired (blockAt 180).block = false ∧
            (500 : U128).toNat ≤ entry.allowance.toNat) ∧
        ∃ next ∈ advance sampleApi chain (callAt 180 "alice" (.transfer "bob" 500)), True))
      (by decide +kernel)
  obtain ⟨⟨entry, present, fresh, covered⟩, next, advanced, _⟩ := of_decide_eq_true passed
  have executed : Executes sampleApi (callAt 180 "alice" (.transfer "bob" 500)) chain.storage
      next.storage := (@step_of_advance _ (sampleGenesis 1000000 none) _ _ _ advanced).2.1
  exact ⟨chain, run.reachable,
    (delegated_iff_direct rfl rfl (by decide) rfl).1.mpr
      ⟨⟨entry, present, fresh, covered⟩, next.storage, executed⟩⟩

/-! ## Sending and transferring -/

/-- The transfer of the same amount, for a message to a contract. -/
def hookless : ExecuteMsg → Option ExecuteMsg
  | .send contract amount _ => some (.transfer contract amount)
  | .sendFrom owner contract amount _ => some (.transferFrom owner contract amount)
  | _ => none

/-- A send never leaves the books of the transfer of the same amount: the
transfer advances the period count, the send leaves the demurrage record alone. -/
theorem send_differs_from_transfer {info : MessageInfo} {msg plain : ExecuteMsg}
    {transferred : Storage} (counterpart : hookless msg = some plain)
    (sends : Executes api ⟨env, info, msg⟩ before after)
    (transfers : Executes api ⟨env, info, plain⟩ before transferred) :
    ¬ SameBooks after transferred := by
  intro same
  have sent := executes_iff_effect.mp sends
  have moved := executes_iff_effect.mp transfers
  have kinds : changesPeriod msg = false ∧ changesPeriod plain = true := by
    cases msg with
    | send _ _ _ =>
        cases counterpart
        exact ⟨rfl, rfl⟩
    | sendFrom _ _ _ _ =>
        cases counterpart
        exact ⟨rfl, rfl⟩
    | _ => cases counterpart
  obtain ⟨current, stored⟩ := moved.stored kinds.2
  obtain ⟨kept, keptSaved, keeps⟩ := sent.record stored
  obtain ⟨updated, updatedSaved, updates⟩ := moved.record stored
  have sameRecord : kept = updated := by
    apply Option.some.inj
    rw [← keptSaved, ← updatedSaved]
    exact same.state
  have keptPeriod := keeps.currentPeriod_eq
  have updatedPeriod := updates.currentPeriod_eq
  rw [kinds.1] at keptPeriod
  rw [kinds.2, ← sameRecord] at updatedPeriod
  simp at keptPeriod updatedPeriod
  omega

/-- In the block of the instantiation, where the contract is still credited the
same. -/
theorem send_differs_from_transfer_at_start :
    ∃ before after transferred,
      Executes sampleApi (callAt 0 "alice" (.send "carol" 1000 [])) before after ∧
      Executes sampleApi (callAt 0 "alice" (.transfer "carol" 1000)) before transferred ∧
      held after.balances ⟨"carol"⟩ = held transferred.balances ⟨"carol"⟩ ∧
      ¬ SameBooks after transferred := by
  obtain ⟨_, _, chain, _, _, passed⟩ :=
    exists_run sampleApi (sampleGenesis 1000000 none) []
      (fun _ chain => decide (
        ∃ sent ∈ advance sampleApi chain (callAt 0 "alice" (.send "carol" 1000 [])),
        ∃ moved ∈ advance sampleApi chain (callAt 0 "alice" (.transfer "carol" 1000)),
          held sent.storage.balances ⟨"carol"⟩ = held moved.storage.balances ⟨"carol"⟩))
      (by decide +kernel)
  obtain ⟨sent, sentStep, moved, movedStep, sameCredit⟩ := of_decide_eq_true passed
  have sends := (@step_of_advance _ (sampleGenesis 1000000 none) _ _ _ sentStep).2.1
  have transfers := (@step_of_advance _ (sampleGenesis 1000000 none) _ _ _ movedStep).2.1
  exact ⟨chain.storage, sent.storage, moved.storage, sends, transfers, sameCredit,
    send_differs_from_transfer rfl sends transfers⟩

/-- Three minutes in, the contract is credited 1000 by a send and 1020 by a
transfer of a thousand. -/
theorem send_credits_less :
    ∃ chain after transferred,
      (tokenSystem sampleApi (sampleGenesis 1000000 none)).Reachable chain ∧
      Executes sampleApi (callAt 180 "alice" (.send "carol" 1000 [])) chain.storage after ∧
      Executes sampleApi (callAt 180 "alice" (.transfer "carol" 1000)) chain.storage
        transferred ∧
      held after.balances ⟨"carol"⟩ = 1000 ∧ held transferred.balances ⟨"carol"⟩ = 1020 ∧
      ¬ SameBooks after transferred := by
  obtain ⟨_, _, chain, run, _, passed⟩ :=
    exists_run sampleApi (sampleGenesis 1000000 none) []
      (fun _ chain => decide (
        ∃ sent ∈ advance sampleApi chain (callAt 180 "alice" (.send "carol" 1000 [])),
        ∃ moved ∈ advance sampleApi chain (callAt 180 "alice" (.transfer "carol" 1000)),
          held sent.storage.balances ⟨"carol"⟩ = 1000 ∧
            held moved.storage.balances ⟨"carol"⟩ = 1020))
      (by decide +kernel)
  obtain ⟨sent, sentStep, moved, movedStep, sentHeld, movedHeld⟩ := of_decide_eq_true passed
  have sends := (@step_of_advance _ (sampleGenesis 1000000 none) _ _ _ sentStep).2.1
  have transfers := (@step_of_advance _ (sampleGenesis 1000000 none) _ _ _ movedStep).2.1
  refine ⟨chain, sent.storage, moved.storage, run.reachable, sends, transfers, sentHeld,
    movedHeld, ?_⟩
  intro same
  rw [same.balances, movedHeld] at sentHeld
  omega

end DemurrageToken.Properties
