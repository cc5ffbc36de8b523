import DemurrageToken.Contract.Replay
import DemurrageToken.Spec.Invariants

/-!
Contract: the tax level and the sink address against the minter's role.

The two handlers that set them do not look at the sender, unlike the handlers
of `Mint` and `UpdateMinter`, which refuse everybody but the stored minter.

Owns: what it means that a call respects the policy, that the messages of those
who are not the minter do so exactly when they set none of it, and the policy
in force at the end of a run.

Does not own: what the policy does to balances.
-/

namespace DemurrageToken.Properties

open DemurrageToken.Library
open DemurrageToken.Library.System
open DemurrageToken.Library.Handler
open DemurrageToken.Library.Ledger
open DemurrageToken.Contract
open DemurrageToken.Spec

/-- The monetary policy of a demurrage record. -/
structure Policy where
  taxLevel : U128
  sinkAddress : String
deriving DecidableEq

/-- The stored policy. -/
def policy (storage : Storage) : Option Policy :=
  storage.state.map fun current => ⟨current.taxLevel, current.sinkAddress⟩

/-- The policy after a message. -/
def Policy.set (policy : Policy) : ExecuteMsg → Policy
  | .changeTaxLevel amount => { policy with taxLevel := amount }
  | .changeSinkAddress address => { policy with sinkAddress := address }
  | _ => policy

/-- The stored minter, the only role the contract knows. -/
def storedMinter (storage : Storage) : Option Addr :=
  (storage.tokenInfo.bind TokenInfo.mint).map MinterData.minter

/-- The sender of the call is not the stored minter. -/
def Outsider (storage : Storage) (call : Call) : Prop :=
  storedMinter storage ≠ some call.info.sender

instance (storage : Storage) (call : Call) : Decidable (Outsider storage call) :=
  inferInstanceAs (Decidable (_ ≠ _))

/-- The call respects the policy: it leaves it alone, and a message that sets it
is refused as unauthorized. -/
structure Respects (api : Api) (storage : Storage) (call : Call) : Prop where
  unchanged : ∀ after, Executes api call storage after → policy after = policy storage
  refused : setsPolicy call.msg = true →
    ∃ left, Settles (execute api call.env call.info call.msg) storage (.error .unauthorized) left

variable {api : Api} {genesis : Genesis}

/-! ## One call -/

theorem RecordStep.policy_eq {now : Timestamp} {current updated : State} {msg : ExecuteMsg}
    (step : RecordStep now current msg updated) :
    (⟨updated.taxLevel, updated.sinkAddress⟩ : Policy) =
      Policy.set ⟨current.taxLevel, current.sinkAddress⟩ msg := by
  cases step with
  | advance changes advances =>
      rw [advances.kept]
      cases msg with
      | transfer _ _ => rfl
      | transferFrom _ _ _ => rfl
      | mint _ _ => rfl
      | _ => cases changes
  | sink => rfl
  | tax => rfl
  | keep _ noPolicy =>
      cases msg with
      | changeSinkAddress _ => cases noPolicy
      | changeTaxLevel _ => cases noPolicy
      | _ => rfl

theorem policy_of_effect {env : Env} {sender : Addr} {before after : Storage} {msg : ExecuteMsg}
    {current : Policy} (effect : Effect api env sender before after msg)
    (inForce : policy before = some current) : policy after = some (current.set msg) := by
  obtain ⟨record, stored, rfl⟩ := Option.map_eq_some_iff.mp inForce
  obtain ⟨updated, saved, step⟩ := effect.record stored
  unfold policy
  rw [saved, Option.map_some, RecordStep.policy_eq step]

theorem policy_set_of_not_setsPolicy {current : Policy} {msg : ExecuteMsg}
    (noPolicy : setsPolicy msg = false) : current.set msg = current := by
  cases msg with
  | changeSinkAddress _ => cases noPolicy
  | changeTaxLevel _ => cases noPolicy
  | _ => rfl

/-- A message that sets the policy succeeds, whoever sends it. -/
theorem executes_of_setsPolicy {call : Call} {before : Storage} {current : State}
    (stored : before.state = some current) (sets : setsPolicy call.msg = true) :
    ∃ after, Executes api call before after := by
  simp only [executes_iff_effect]
  obtain ⟨env, info, msg⟩ := call
  cases msg with
  | changeSinkAddress _ => exact ⟨_, .changeSinkAddress stored rfl⟩
  | changeTaxLevel _ => exact ⟨_, .changeTaxLevel stored rfl⟩
  | _ => cases sets

theorem respects_iff {chain : Chain} {call : Call}
    (reachable : (tokenSystem api genesis).Reachable chain) :
    Respects api chain.storage call ↔ setsPolicy call.msg = false := by
  obtain ⟨current, stored, _⟩ := (wellFormed_of_reachable reachable).record
  constructor
  · intro respects
    by_contra sets
    rw [Bool.not_eq_false] at sets
    obtain ⟨after, response, returned⟩ := @executes_of_setsPolicy api _ _ _ stored sets
    obtain ⟨left, failed⟩ := respects.refused sets
    cases (Settles.unique returned failed).1
  · intro noPolicy
    refine ⟨?_, fun sets => ?_⟩
    · intro after executed
      have inForce : policy chain.storage = some ⟨current.taxLevel, current.sinkAddress⟩ := by
        unfold policy
        rw [stored, Option.map_some]
      rw [policy_of_effect (executes_iff_effect.mp executed) inForce, inForce,
        policy_set_of_not_setsPolicy noPolicy]
    · rw [noPolicy] at sets
      cases sets

/-! ## Runs -/

/-- The policy of the instantiation, and then what the minters set. -/
def decreed (genesis : Genesis) (events : List (Event Chain Call)) : Policy :=
  events.foldl
    (fun current event =>
      if Outsider event.source.storage event.label then current else current.set event.label.msg)
    ⟨genesis.msg.taxLevelMinute, genesis.msg.sinkAddress⟩

/-- Where no outsider sets it, the policy in force is the decreed one. -/
theorem policy_eq_decreed {start chain : Chain} {events : List (Event Chain Call)}
    (run : (tokenSystem api genesis).Run start events chain)
    (respectful : ∀ event ∈ events, Outsider event.source.storage event.label →
      setsPolicy event.label.msg = false) :
    policy chain.storage = some (decreed genesis events) := by
  induction run with
  | nil initial =>
      obtain ⟨_, _, _, _, _, result⟩ := instantiates_of_init initial
      rw [result]
      rfl
  | @extend events chain next call before step inductionHypothesis =>
      have inForce := inductionHypothesis fun event member =>
        respectful event (List.mem_append_left _ member)
      have last := respectful ⟨chain, call, next⟩
        (List.mem_append_right _ (List.mem_singleton_self _))
      rw [policy_of_effect (effect_of_step step) inForce]
      unfold decreed
      rw [List.foldl_append, List.foldl_cons, List.foldl_nil]
      dsimp only at *
      split
      · rename_i outsider
        rw [policy_set_of_not_setsPolicy (last outsider)]
      · rfl

/-- In every run, the calls of outsiders respect the policy exactly when none of
them sets it; so does every call an outsider could make next; and then the
policy in force is what instantiation and the minters set. -/
theorem outsiders_respect_iff {start chain : Chain} {events : List (Event Chain Call)}
    (run : (tokenSystem api genesis).Run start events chain) :
    ((∀ event ∈ events, Outsider event.source.storage event.label →
        Respects api event.source.storage event.label) ↔
      ∀ event ∈ events, Outsider event.source.storage event.label →
        setsPolicy event.label.msg = false) ∧
    (∀ call, Outsider chain.storage call →
      (Respects api chain.storage call ↔ setsPolicy call.msg = false)) ∧
    ((∀ event ∈ events, Outsider event.source.storage event.label →
        setsPolicy event.label.msg = false) →
      policy chain.storage = some (decreed genesis events)) := by
  refine ⟨?_, fun call _ => respects_iff run.reachable, policy_eq_decreed run⟩
  constructor
  · intro all event member outsider
    exact (respects_iff (run.event event member).1).mp (all event member outsider)
  · intro all event member outsider
    exact (respects_iff (run.event event member).1).mpr (all event member outsider)

/-- The minter doubles the tax level, everybody else makes transfers. -/
theorem outsiders_respect_minter_policy :
    ∃ start events chain,
      (tokenSystem sampleApi (sampleGenesis 1000000 (some ⟨"dave", none⟩))).Run start events
        chain ∧
      events.map Event.label =
        [callAt 60 "alice" (.transfer "bob" 500),
          callAt 90 "dave" (.changeTaxLevel 200000000000000000000000000),
          callAt 130 "bob" (.transfer "carol" 100)] ∧
      policy chain.storage = some ⟨200000000000000000000000000, "sink"⟩ := by
  obtain ⟨start, events, chain, run, labels, passed⟩ :=
    exists_run sampleApi (sampleGenesis 1000000 (some ⟨"dave", none⟩))
      [callAt 60 "alice" (.transfer "bob" 500),
        callAt 90 "dave" (.changeTaxLevel 200000000000000000000000000),
        callAt 130 "bob" (.transfer "carol" 100)]
      (fun events _ => decide (
        (∀ event ∈ events, Outsider event.source.storage event.label →
          setsPolicy event.label.msg = false) ∧
        decreed (sampleGenesis 1000000 (some ⟨"dave", none⟩)) events =
          ⟨200000000000000000000000000, "sink"⟩))
      (by decide +kernel)
  obtain ⟨respectful, lawful⟩ := of_decide_eq_true passed
  have inForce := (outsiders_respect_iff run).2.2 respectful
  rw [lawful] at inForce
  exact ⟨start, events, chain, run, labels, inForce⟩

/-- Mallory, who is not the minter, names herself the sink and is paid the tax of
the next transfer. -/
theorem outsider_redirects_tax :
    ∃ start events chain,
      (tokenSystem sampleApi (sampleGenesis 1000000 (some ⟨"dave", none⟩))).Run start events
        chain ∧
      events.map Event.label =
        [callAt 30 "mallory" (.changeSinkAddress "mallory"),
          callAt 180 "alice" (.transfer "bob" 1000)] ∧
      held chain.storage.balances ⟨"mallory"⟩ = 19900 ∧
      ∃ event ∈ events, Outsider event.source.storage event.label ∧
        ¬ Respects sampleApi event.source.storage event.label := by
  obtain ⟨start, events, chain, run, labels, passed⟩ :=
    exists_run sampleApi (sampleGenesis 1000000 (some ⟨"dave", none⟩))
      [callAt 30 "mallory" (.changeSinkAddress "mallory"),
        callAt 180 "alice" (.transfer "bob" 1000)]
      (fun events chain => decide (
        held chain.storage.balances ⟨"mallory"⟩ = 19900 ∧
        ∃ event ∈ events, Outsider event.source.storage event.label ∧
          policy event.target.storage ≠ policy event.source.storage))
      (by decide +kernel)
  obtain ⟨paid, event, member, outsider, changed⟩ := of_decide_eq_true passed
  refine ⟨start, events, chain, run, labels, paid, event, member, outsider, ?_⟩
  intro respects
  exact changed (respects.unchanged event.target.storage (run.event event member).2.2.1)

end DemurrageToken.Properties
