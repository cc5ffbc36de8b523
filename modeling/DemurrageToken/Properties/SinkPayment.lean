import DemurrageToken.Contract.Replay
import DemurrageToken.Spec.Invariants

/-!
Contract: the tax that a message owes to the sink.

Owns: what a transfer or a mint does to each account, and the runs in which
every one of them pays the sink.

Does not own: how much tax is due over several messages.
-/

namespace DemurrageToken.Properties

open DemurrageToken.Library
open DemurrageToken.Library.System
open DemurrageToken.Library.Ledger
open DemurrageToken.Contract
open DemurrageToken.Spec

/-! ## What a message pays and delivers -/

/-- What each account pays for a message. -/
def payments (sender : Addr) : ExecuteMsg → Addr → Nat
  | .transfer _ amount => Pi.single sender amount.toNat
  | .transferFrom owner _ amount => Pi.single ⟨owner⟩ amount.toNat
  | _ => 0

/-- What a message delivers to each account, at the modifier it leaves. -/
def deliveries (modifier : U128) : ExecuteMsg → Addr → Nat
  | .transfer recipient amount | .transferFrom _ recipient amount | .mint recipient amount =>
      Pi.single ⟨recipient⟩ ((toBaseAmount amount modifier).getD 0).toNat
  | _ => 0

/-- The message succeeds with a sink that validates, and the sink gains the
distribution of the stored supply at the stored modifier, next to what it pays
and is delivered itself. -/
def TaxPaid (api : Api) (event : Event Chain Call) : Prop :=
  ∃ info updated sink, event.target.storage.tokenInfo = some info ∧
    event.target.storage.state = some updated ∧
    api.addrValidate updated.sinkAddress = .ok sink ∧
    held event.target.storage.balances sink +
        payments event.label.info.sender event.label.msg sink =
      held event.source.storage.balances sink +
        taxOf info.totalSupply.toNat updated.demurrageAmount.toNat +
        deliveries updated.demurrageAmount event.label.msg sink

/-- The stored sink address validates. -/
def SinkValid (api : Api) (chain : Chain) : Prop :=
  ∀ current ∈ chain.storage.state, (api.addrValidate current.sinkAddress).isOk

instance (api : Api) (chain : Chain) : Decidable (SinkValid api chain) :=
  Option.decidableForallMem chain.storage.state

variable {api : Api} {genesis : Genesis} {env : Env} {sender : Addr} {before after : Storage}
  {msg : ExecuteMsg}

/-- A message that changes the period moves the balances by the payout to the
sink, what it delivers and what it is paid for. -/
theorem effect_moves {config : TokenInfo} (effect : Effect api env sender before after msg)
    (token : before.tokenInfo = some config) (changes : changesPeriod msg = true) :
    ∃ info current updated, after.tokenInfo = some info ∧ before.state = some current ∧
      after.state = some updated ∧ updated.sinkAddress = current.sinkAddress ∧
      ∃ touched, Movement before.balances touched
        (Pi.single ⟨updated.sinkAddress⟩ (payout api (some info) updated) +
          deliveries updated.demurrageAmount msg)
        (payments sender msg) after.balances := by
  have delivered : ∀ {amount modifier base : U128}, toBaseAmount amount modifier = some base →
      ((toBaseAmount amount modifier).getD 0).toNat = base.toNat := by
    intro amount modifier base converted
    rw [converted]
    rfl
  cases effect with
  | transfer _ transfers =>
      obtain ⟨current, updated, base, stored, advances, saved, converted, moved⟩ := transfers.moves
      rw [token, ← delivered converted] at moved
      exact ⟨config, current, updated, transfers.tokenInfo.trans token, stored, saved,
        advances.sinkAddress, _, moved⟩
  | transferFrom draws transfers =>
      obtain ⟨valid, _⟩ := draws
      obtain ⟨current, updated, base, stored, advances, saved, converted, moved⟩ := transfers.moves
      rw [api.addrValidate_eq valid] at moved
      dsimp only at moved
      rw [token, ← delivered converted] at moved
      exact ⟨config, current, updated, transfers.tokenInfo.trans token, stored, saved,
        advances.sinkAddress, _, moved⟩
  | mint _ _ _ _ _ _ stored advances redistributes converted valid credits result =>
      rw [result]
      have moved := redistributes.moves.trans credits.moves
      rw [api.addrValidate_eq valid, ← delivered converted] at moved
      exact ⟨_, _, _, rfl, stored, rfl, advances.sinkAddress, _, moved⟩
  | _ => cases changes

/-- The tax is paid exactly when the stored sink address validates. -/
theorem taxPaid_iff {event : Event Chain Call}
    (reachable : (tokenSystem api genesis).Reachable event.source)
    (step : (tokenSystem api genesis).step event.source event.label event.target)
    (changes : changesPeriod event.label.msg = true) :
    TaxPaid api event ↔ SinkValid api event.source := by
  obtain ⟨config, token⟩ := (wellFormed_of_reachable reachable).token
  obtain ⟨info, current, updated, saved, stored, savedRecord, sameSink, touched, moved⟩ :=
    effect_moves (effect_of_step step) token changes
  constructor
  · intro paid other otherStored
    obtain ⟨_, record, sink, _, sameRecord, valid, _⟩ := paid
    obtain rfl := Option.some.inj (stored.symm.trans otherStored)
    obtain rfl := Option.some.inj (savedRecord.symm.trans sameRecord)
    rw [← sameSink, valid]
    rfl
  · intro valid
    have sinkOk := valid current stored
    rw [← sameSink] at sinkOk
    cases validated : api.addrValidate updated.sinkAddress with
    | error _ =>
        rw [validated] at sinkOk
        cases sinkOk
    | ok sink =>
        refine ⟨info, updated, sink, saved, savedRecord, validated, ?_⟩
        have atSink := moved.balance sink
        rw [payout_eq, if_pos sinkOk, Pi.add_apply, ← api.addrValidate_eq validated,
          Pi.single_eq_same, ← Nat.add_assoc] at atSink
        exact atSink

/-- In every run, each transfer and mint pays the tax exactly when each of them
is sent while the stored sink address validates. -/
theorem tax_paid_throughout_iff {start chain : Chain} {events : List (Event Chain Call)}
    (run : (tokenSystem api genesis).Run start events chain) :
    (∀ event ∈ events, changesPeriod event.label.msg = true → TaxPaid api event) ↔
      ∀ event ∈ events, changesPeriod event.label.msg = true → SinkValid api event.source := by
  constructor
  · intro paid event member changes
    obtain ⟨reachable, step⟩ := run.event event member
    exact (taxPaid_iff reachable step changes).mp (paid event member changes)
  · intro valid event member changes
    obtain ⟨reachable, step⟩ := run.event event member
    exact (taxPaid_iff reachable step changes).mpr (valid event member changes)

/-- Two transfers pay the tax to the first sink and one to the next. -/
theorem tax_paid_to_both_sinks :
    ∃ start events chain,
      (tokenSystem sampleApi (sampleGenesis 1000000 none)).Run start events chain ∧
      events.map Event.label =
        [callAt 180 "alice" (.transfer "bob" 1000), callAt 240 "bob" (.transfer "sink" 500),
          callAt 250 "bob" (.changeSinkAddress "alice"),
          callAt 260 "alice" (.transfer "bob" 1000)] ∧
      ∀ event ∈ events, changesPeriod event.label.msg = true → TaxPaid sampleApi event := by
  obtain ⟨start, events, chain, run, labels, passed⟩ :=
    exists_run sampleApi (sampleGenesis 1000000 none)
      [callAt 180 "alice" (.transfer "bob" 1000), callAt 240 "bob" (.transfer "sink" 500),
        callAt 250 "bob" (.changeSinkAddress "alice"),
        callAt 260 "alice" (.transfer "bob" 1000)]
      (fun events _ => decide (∀ event ∈ events, changesPeriod event.label.msg = true →
        SinkValid sampleApi event.source))
      (by decide +kernel)
  exact ⟨start, events, chain, run, labels,
    (tax_paid_throughout_iff run).mpr (of_decide_eq_true passed)⟩

/-- With a sink address too short to validate, a transfer succeeds, decays the
modifier, and credits the tax of 19900 to nobody. -/
theorem transfer_loses_tax :
    ∃ start events chain,
      (tokenSystem sampleApi (sampleGenesis 1000000 none)).Run start events chain ∧
      events.map Event.label =
        [callAt 30 "mallory" (.changeSinkAddress "x"),
          callAt 180 "alice" (.transfer "bob" 1000)] ∧
      (∃ current, chain.storage.state = some current ∧
        taxOf 1000000 current.demurrageAmount.toNat = 19900) ∧
      held chain.storage.balances ⟨"x"⟩ = 0 ∧ total chain.storage.balances = 1000020 ∧
      ∃ event ∈ events, changesPeriod event.label.msg = true ∧ ¬ TaxPaid sampleApi event := by
  obtain ⟨start, events, chain, run, labels, passed⟩ :=
    exists_run sampleApi (sampleGenesis 1000000 none)
      [callAt 30 "mallory" (.changeSinkAddress "x"), callAt 180 "alice" (.transfer "bob" 1000)]
      (fun events chain => decide (
        (chain.storage.state.any fun current =>
          taxOf 1000000 current.demurrageAmount.toNat == 19900) ∧
        held chain.storage.balances ⟨"x"⟩ = 0 ∧ total chain.storage.balances = 1000020 ∧
        ∃ event ∈ events, changesPeriod event.label.msg = true ∧
          event.target.storage.state.any fun current =>
            !(sampleApi.addrValidate current.sinkAddress).isOk))
      (by decide +kernel)
  obtain ⟨due, nobody, created, event, member, changes, invalid⟩ := of_decide_eq_true passed
  obtain ⟨current, stored, tax⟩ := (Option.any_eq_true _ _).mp due
  refine ⟨start, events, chain, run, labels, ⟨current, stored, eq_of_beq tax⟩, nobody, created,
    event, member, changes, ?_⟩
  intro paid
  obtain ⟨_, updated, sink, _, saved, valid, _⟩ := paid
  rw [saved, Option.any_some, valid] at invalid
  cases invalid

end DemurrageToken.Properties
