import DemurrageToken.Contract.Replay
import DemurrageToken.Properties.Bookkeeping

/-!
Contract: how often the period can change.

`change_period` advances the period count by one whatever time has passed, and
aborts while the period it counts to has not begun. The count is therefore the
number of transfers and mints so far, and the time bounds it.

Owns: the bound on that number, in any run.

Does not own: which single call aborts.
-/

namespace DemurrageToken.Properties

open DemurrageToken.Library
open DemurrageToken.Library.System
open DemurrageToken.Contract
open DemurrageToken.Spec

variable {api : Api} {genesis : Genesis}

/-- The messages of a history that changed the period. -/
def periodChanges {σ : Type} (events : List (Event σ Call)) : Nat :=
  events.countP fun event => changesPeriod event.label.msg

/-! ## The books -/

theorem charge_periods {now : Timestamp} {books : Books} :
    (books.charge api genesis now).periods = books.periods + 1 := by
  rw [Books.charge_eq]
  rfl

theorem post_periods {block : BlockInfo} {sender : Addr} {books : Books} {msg : ExecuteMsg} :
    (books.post api genesis block sender msg).periods =
      books.periods + if changesPeriod msg then 1 else 0 := by
  cases msg with
  | transfer recipient amount => exact charge_periods
  | transferFrom owner recipient amount => exact charge_periods
  | mint recipient amount => exact charge_periods
  | _ => rfl

/-- A message that changes the period comes no earlier than the period it counts to. -/
theorem begun_of_admits {block : BlockInfo} {sender : Addr} {books : Books} {msg : ExecuteMsg}
    (admits : books.Admits api genesis block sender msg) (changes : changesPeriod msg = true) :
    books.periodStart genesis / 10 ^ 9 ≤ block.time.seconds.toNat := by
  cases msg with
  | transfer recipient amount => exact admits.2.chargeable.advanceable.begun
  | transferFrom owner recipient amount => exact admits.2.chargeable.advanceable.begun
  | mint recipient amount => exact admits.chargeable.advanceable.begun
  | _ => cases changes

theorem periodStart_seconds (books : Books) :
    books.periodStart genesis / 10 ^ 9 = genesis.env.block.time.seconds.toNat +
      books.periods * (genesis.msg.periodMinutes.toNat * 60) := by
  unfold Books.periodStart
  rw [Timestamp.seconds_toNat, Nat.add_mul_div_right _ _ (by decide)]

/-- The books count the changes, and the last one was in its time. -/
theorem bookRun_periods {first state : BookState} {steps : List (Event BookState Call)}
    (run : (bookSystem api genesis).Run first steps state) :
    state.books.periods = periodChanges steps ∧
      genesis.env.block.time.seconds.toNat +
        (state.books.periods - 1) * (genesis.msg.periodMinutes.toNat * 60) ≤
          state.block.time.seconds.toNat := by
  refine run.history (fun steps state => state.books.periods = periodChanges steps ∧
    genesis.env.block.time.seconds.toNat +
      (state.books.periods - 1) * (genesis.msg.periodMinutes.toNat * 60) ≤
        state.block.time.seconds.toNat) ?_ ?_
  · rintro ⟨_, rfl⟩
    refine ⟨rfl, ?_⟩
    show _ + (0 - 1) * _ ≤ _
    rw [Nat.zero_sub, Nat.zero_mul, Nat.add_zero]
  · rintro steps state call next _ ⟨counted, inTime⟩ ⟨later, admits, rfl⟩
    have laterSeconds : state.block.time.seconds.toNat ≤ call.env.block.time.seconds.toNat := by
      rw [Timestamp.seconds_toNat, Timestamp.seconds_toNat]
      exact Nat.div_le_div_right later
    dsimp only
    rw [post_periods, periodChanges, List.countP_append, ← periodChanges, ← counted]
    cases changes : changesPeriod call.msg with
    | true =>
        have begun := begun_of_admits admits changes
        rw [periodStart_seconds] at begun
        refine ⟨?_, begun⟩
        simp [changes]
    | false =>
        refine ⟨?_, inTime.trans laterSeconds⟩
        simp [changes]

/-! ## The token -/

theorem actualPeriod_eq {now : Timestamp} {current : State}
    (begun : current.startTimestamp.seconds.toNat ≤ now.seconds.toNat)
    (periodic : current.periodMinute.toNat ≠ 0) :
    ∃ actual, actualPeriod now current = some actual ∧
      actual.toNat = (now.seconds.toNat - current.startTimestamp.seconds.toNat) /
        current.periodMinute.toNat + 1 := by
  have bound := now.nanos.isLt
  have seconds := now.seconds_toNat
  have within := Nat.div_le_self
    (now.seconds.toNat - current.startTimestamp.seconds.toNat) current.periodMinute.toNat
  obtain ⟨elapsed, difference⟩ : ∃ elapsed : U64,
      now.seconds.toNat - current.startTimestamp.seconds.toNat = elapsed.toNat :=
    Checked.word_exists (by omega)
  obtain ⟨periods, quotient⟩ : ∃ periods : U64,
      elapsed.toNat / current.periodMinute.toNat = periods.toNat := by
    apply Checked.word_exists
    rw [← difference]
    omega
  obtain ⟨count, sum⟩ : ∃ count : U64, periods.toNat + 1 = count.toNat := by
    apply Checked.word_exists
    rw [← quotient, ← difference]
    omega
  refine ⟨count.setWidth 128, ?_, ?_⟩
  · have subtracted : Checked.sub now.seconds current.startTimestamp.seconds = some elapsed :=
      Checked.sub_eq_some.mpr (by omega)
    have divided : Checked.div elapsed current.periodMinute = some periods :=
      Checked.div_eq_some.mpr ⟨by omega, quotient⟩
    have counted : Checked.add periods 1 = some count := Checked.add_eq_some.mpr sum
    simp only [actualPeriod, subtracted, divided, counted, Option.bind_eq_bind, Option.bind_some]
    rfl
  · rw [BitVec.toNat_setWidth, Nat.mod_eq_of_lt (count.isLt.trans (by decide)), ← sum,
      ← quotient, ← difference]

/-- In every run of a token with periods, the stored period count is the number of
transfers and mints that succeeded, and it is at most the period that the block
time has actually reached. -/
theorem period_changes_le_actual_period {start chain : Chain} {events : List (Event Chain Call)}
    (run : (tokenSystem api genesis).Run start events chain)
    (periodic : genesis.msg.periodMinutes ≠ 0) :
    ∃ current actual, chain.storage.state = some current ∧
      actualPeriod chain.block.time current = some actual ∧
      current.getCurrentPeriod.toNat = periodChanges events ∧
      periodChanges events ≤ actual.toNat := by
  obtain ⟨first, steps, state, matched, labels, keeps, sameBlock⟩ := bisimulation_books.run run
  obtain ⟨counted, inTime⟩ := bookRun_periods matched
  have sameChanges : periodChanges steps = periodChanges events := by
    have onLabels : ∀ {σ : Type} (events : List (Event σ Call)), periodChanges events =
        (events.map Event.label).countP fun call => changesPeriod call.msg := by
      intro σ events
      rw [List.countP_map]
      rfl
    rw [onLabels, onLabels, labels]
  obtain ⟨current, stored, record⟩ := keeps.record
  rw [← sameBlock] at inTime
  have positive : 0 < genesis.msg.periodMinutes.toNat := BitVec.toNat_pos_of_ne_zero periodic
  have began : current.startTimestamp.seconds.toNat ≤ chain.block.time.seconds.toNat := by
    rw [record.started]
    omega
  obtain ⟨actual, reached, value⟩ := @actualPeriod_eq _ current began (by
    rw [record.minute]
    omega)
  refine ⟨current, actual, stored, reached, ?_, ?_⟩
  · rw [State.getCurrentPeriod, record.periods, counted, sameChanges]
  · rw [value, record.started, record.minute, ← sameChanges, ← counted]
    have fewer : state.books.periods - 1 ≤
        (chain.block.time.seconds.toNat - genesis.env.block.time.seconds.toNat) /
          (genesis.msg.periodMinutes.toNat * 60) := by
      rw [Nat.le_div_iff_mul_le (by omega)]
      omega
    omega

/-- Two transfers and a burn in the first two minutes: the third period begins at
120 s, and two of the three messages have changed the period. -/
theorem period_changes_two_transfers :
    ∃ start events chain current actual,
      (tokenSystem sampleApi (sampleGenesis 1000000 none)).Run start events chain ∧
      events.map Event.label =
        [callAt 60 "alice" (.transfer "bob" 1000), callAt 90 "bob" (.burn 20),
          callAt 120 "alice" (.transfer "bob" 1000)] ∧
      chain.storage.state = some current ∧
      actualPeriod chain.block.time current = some actual ∧
      actual = 3 ∧ current.getCurrentPeriod.toNat = 2 ∧ 2 ≤ actual.toNat := by
  obtain ⟨start, events, chain, run, labels, passed⟩ :=
    exists_run sampleApi (sampleGenesis 1000000 none)
      [callAt 60 "alice" (.transfer "bob" 1000), callAt 90 "bob" (.burn 20),
        callAt 120 "alice" (.transfer "bob" 1000)]
      (fun events chain => decide (
        periodChanges events = 2 ∧
        ∀ current ∈ chain.storage.state, actualPeriod chain.block.time current = some 3))
      (by decide +kernel)
  obtain ⟨twice, third⟩ := of_decide_eq_true passed
  obtain ⟨current, actual, stored, reached, counted, bounded⟩ :=
    period_changes_le_actual_period run (by decide)
  rw [twice] at counted bounded
  have same : actual = 3 := Option.some.inj (reached.symm.trans (third current stored))
  exact ⟨start, events, chain, current, actual, run, labels, stored, reached, same, counted,
    bounded⟩

end DemurrageToken.Properties
