import DemurrageToken.Contract.Replay
import DemurrageToken.Spec.Invariants

/-!
Contract: the period clock of `change_period` against the block time.

The period count advances once per transfer and mint, not once per period. The
period timestamp it stands for can therefore run ahead of the blocks, and a
timestamp in the future aborts every later transfer until it has passed.

Owns: when the clock is ready for any later block, and the runs that keep it so.

Does not own: the modifier.
-/

namespace DemurrageToken.Properties

open DemurrageToken.Library
open DemurrageToken.Library.System
open DemurrageToken.Contract
open DemurrageToken.Spec

/-- The start of the period with the given count, in nanoseconds. -/
def periodStart (current : State) (count : Nat) : Nat :=
  current.startTimestamp.nanos.toNat + count * current.periodMinute.toNat * 10 ^ 9

/-- Whatever later block comes, the period timestamp, if it is representable, is
not after it, and the subtraction of the two does not underflow. -/
def ClockReady (chain : Chain) : Prop :=
  ∀ current, chain.storage.state = some current →
    ∀ now : Timestamp, chain.block.time.nanos.toNat ≤ now.nanos.toNat →
      ∀ stamp, getPeriodTimeDelta current.startTimestamp current.currentPeriod
          current.periodMinute = some stamp →
        stamp.nanos.toNat ≤ now.nanos.toNat ∧ ∃ cycles, demurrageCycles now stamp = some cycles

/-- A message that advances the period count is sent no earlier than the period
it advances to, unless that lies beyond all timestamps. -/
def ClosesPeriod (event : Event Chain Call) : Prop :=
  changesPeriod event.label.msg = true →
    ∀ current ∈ event.source.storage.state,
      periodStart current (current.currentPeriod.toNat + 1) < 2 ^ 64 →
        periodStart current (current.currentPeriod.toNat + 1) ≤
          event.label.env.block.time.nanos.toNat

instance (event : Event Chain Call) : Decidable (ClosesPeriod event) :=
  inferInstanceAs (Decidable (_ = true → ∀ current ∈ event.source.storage.state, (_ → _)))

/-! ## The clock at one moment -/

theorem demurrageCycles_exists {now stamp : Timestamp}
    (past : stamp.nanos.toNat ≤ now.nanos.toNat) :
    ∃ cycles, demurrageCycles now stamp = some cycles := by
  have pastSeconds : stamp.seconds.toNat ≤ now.seconds.toNat := by
    rw [Timestamp.seconds_toNat, Timestamp.seconds_toNat]
    exact Nat.div_le_div_right past
  have bound := now.seconds.isLt
  obtain ⟨cycles, quotient⟩ :
      ∃ cycles : U64, (now.seconds.toNat - stamp.seconds.toNat) / 60 = cycles.toNat :=
    Checked.word_exists (by omega)
  exact ⟨cycles, minutesBetween_eq_some.mpr ⟨pastSeconds, quotient⟩⟩

/-- The clock is ready for all later blocks when it is for the present one. -/
theorem clockReady_iff {chain : Chain} {current : State}
    (stored : chain.storage.state = some current) :
    ClockReady chain ↔
      (periodStart current current.currentPeriod.toNat < 2 ^ 64 →
        periodStart current current.currentPeriod.toNat ≤ chain.block.time.nanos.toNat) := by
  constructor
  · intro ready representable
    obtain ⟨nanos, value⟩ := Checked.word_exists representable
    have stamped : getPeriodTimeDelta current.startTimestamp current.currentPeriod
        current.periodMinute = some ⟨nanos⟩ := getPeriodTimeDelta_eq_some.mpr value
    have past := (ready current stored chain.block.time le_rfl ⟨nanos⟩ stamped).1
    rw [value]
    exact past
  · intro ready other otherStored now later stamp stamped
    obtain rfl := Option.some.inj (stored.symm.trans otherStored)
    have value : periodStart current current.currentPeriod.toNat = stamp.nanos.toNat :=
      getPeriodTimeDelta_eq_some.mp stamped
    rw [value] at ready
    have past := (ready stamp.nanos.isLt).trans later
    exact ⟨past, demurrageCycles_exists past⟩

/-! ## Runs -/

theorem step_clockReady_iff {api : Api} {genesis : Genesis} {chain next : Chain} {call : Call}
    {current : State} (stored : chain.storage.state = some current)
    (step : (tokenSystem api genesis).step chain call next) (ready : ClockReady chain) :
    ClockReady next ↔ ClosesPeriod ⟨chain, call, next⟩ := by
  obtain ⟨env, info, msg⟩ := call
  obtain ⟨updated, saved, recordStep⟩ := (effect_of_step step).record stored
  obtain ⟨later, _, sameBlock⟩ := step
  have passed := (clockReady_iff stored).mp ready
  rw [clockReady_iff saved, sameBlock]
  cases recordStep with
  | advance changes advances =>
      have moved : periodStart updated updated.currentPeriod.toNat =
          periodStart current (current.currentPeriod.toNat + 1) := by
        rw [advances.counted, advances.kept]
        rfl
      rw [moved]
      constructor
      · intro closes _ other otherStored
        obtain rfl := Option.some.inj (stored.symm.trans otherStored)
        exact closes
      · intro closes
        exact closes changes current stored
  | sink =>
      refine iff_of_true (fun representable => (passed representable).trans later) ?_
      intro changes
      cases changes
  | tax =>
      refine iff_of_true (fun representable => (passed representable).trans later) ?_
      intro changes
      cases changes
  | keep unchanged _ =>
      refine iff_of_true (fun representable => (passed representable).trans later) ?_
      intro changes
      rw [unchanged] at changes
      cases changes

/-- The clock stays ready all along a run exactly when every transfer and mint
of the run comes no earlier than the start of the period it advances to. -/
theorem clockReady_throughout_iff {api : Api} {genesis : Genesis} {start chain : Chain}
    {events : List (Event Chain Call)}
    (run : (tokenSystem api genesis).Run start events chain) :
    (tokenSystem api genesis).Throughout start events (fun _ visited => ClockReady visited) ↔
      ∀ event ∈ events, ClosesPeriod event := by
  rw [← eachStep_iff_forall_mem]
  refine Run.throughout_iff_eachStep ?_ ?_ run
  · intro initial
    obtain ⟨_, _, _, _, _, result⟩ := instantiates_of_init initial
    have stored := congrArg Storage.state result
    rw [clockReady_iff stored, initial.2]
    intro _
    simp [periodStart]
  · intro earlier state call next before step ready
    obtain ⟨current, stored, _⟩ := (wellFormed_of_reachable before.reachable).record
    exact step_clockReady_iff stored step ready

/-- Two transfers, a minute apart, keep the clock ready. -/
theorem clockReady_throughout_spaced :
    ∃ start events chain,
      (tokenSystem sampleApi (sampleGenesis 1000000 none)).Run start events chain ∧
      events.map Event.label =
        [callAt 60 "alice" (.transfer "bob" 1000), callAt 120 "alice" (.transfer "bob" 1000)] ∧
      (tokenSystem sampleApi (sampleGenesis 1000000 none)).Throughout start events
        (fun _ visited => ClockReady visited) := by
  obtain ⟨start, events, chain, run, labels, passed⟩ :=
    exists_run sampleApi (sampleGenesis 1000000 none)
      [callAt 60 "alice" (.transfer "bob" 1000), callAt 120 "alice" (.transfer "bob" 1000)]
      (fun events _ => decide (∀ event ∈ events, ClosesPeriod event))
      (by decide +kernel)
  have closes := of_decide_eq_true passed
  exact ⟨start, events, chain, run, labels, (clockReady_throughout_iff run).mpr closes⟩

/-- One transfer in the block of the instantiation moves the clock a minute
ahead, and a transfer 59 seconds later aborts. -/
theorem transfer_blocks_transfer :
    ∃ start events chain,
      (tokenSystem sampleApi (sampleGenesis 1000000 none)).Run start events chain ∧
      events.map Event.label = [callAt 0 "alice" (.transfer "bob" 1000)] ∧
      ¬ ClockReady chain ∧
      Handler.run (execute sampleApi (blockAt 59) ⟨⟨"alice"⟩⟩ (.transfer "bob" 1000))
        chain.storage = none := by
  obtain ⟨start, events, chain, run, labels, passed⟩ :=
    exists_run sampleApi (sampleGenesis 1000000 none)
      [callAt 0 "alice" (.transfer "bob" 1000)]
      (fun events chain => decide (
        (∀ current ∈ chain.storage.state,
          chain.block.time.nanos.toNat < periodStart current current.currentPeriod.toNat ∧
          periodStart current current.currentPeriod.toNat < 2 ^ 64) ∧
        (Handler.run (execute sampleApi (blockAt 59) ⟨⟨"alice"⟩⟩ (.transfer "bob" 1000))
          chain.storage).isNone))
      (by decide +kernel)
  obtain ⟨ahead, aborted⟩ := of_decide_eq_true passed
  obtain ⟨current, stored, _⟩ := (wellFormed_of_reachable run.reachable).record
  obtain ⟨future, representable⟩ := ahead current stored
  refine ⟨start, events, chain, run, labels, ?_, Option.isNone_iff_eq_none.mp aborted⟩
  intro ready
  have past := (clockReady_iff stored).mp ready representable
  omega

end DemurrageToken.Properties
