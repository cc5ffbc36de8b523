import DemurrageToken.Contract.System
import DemurrageToken.Spec.PeriodChange

/-!
Contract: sequences of demurrage applications.

A call of `apply_demurrage_limited` advances a copy of the demurrage timestamp
and drops it. Every call therefore charges the minutes since the same moment,
and the minutes an earlier call has charged are charged again.

Owns: the calls as a transition system, the minutes they charge, and the
sequences that charge no minute twice.

Does not own: what a charged minute does to the modifier.
-/

namespace DemurrageToken.Properties

open DemurrageToken.Library
open DemurrageToken.Library.System
open DemurrageToken.Library.Handler
open DemurrageToken.Contract
open DemurrageToken.Spec

/-- The storage, and the record the caller passes on from call to call. -/
structure Caller where
  storage : Storage
  current : State

/-- The arguments of one call. -/
structure DemurrageCall where
  now : Timestamp
  rounds : U64
deriving DecidableEq

/-- Successive calls of `apply_demurrage_limited`, from any storage and record. -/
def demurrageSystem : System Caller DemurrageCall where
  init := fun _ => True
  step := fun caller call next =>
    ∃ flag, Returns (applyDemurrageLimited call.now caller.current call.rounds) caller.storage
      (flag, next.current) next.storage

/-- The minutes a call charges: the count it passes to `decay_by`, and none
where it returns early. -/
def minutesCharged (event : Event Caller DemurrageCall) : Nat :=
  match getMinutesDelta event.label.now event.source.current.demurrageTimestamp with
  | none => 0
  | some elapsed =>
      if elapsed = 0 then 0 else (limitRounds elapsed event.label.rounds).toNat

/-- The whole minutes from `stamp` to `now`. -/
def minutesSince (stamp now : Timestamp) : Nat :=
  (now.seconds.toNat - stamp.seconds.toNat) / 60

/-- No minute is charged twice, and after an unlimited call none is left over. -/
def ChargedOnce (start : Caller) (events : List (Event Caller DemurrageCall))
    (last : DemurrageCall) : Prop :=
  (events.map minutesCharged).sum ≤ minutesSince start.current.demurrageTimestamp last.now ∧
    (last.rounds = 0 →
      (events.map minutesCharged).sum = minutesSince start.current.demurrageTimestamp last.now)

instance (start : Caller) (events : List (Event Caller DemurrageCall)) (last : DemurrageCall) :
    Decidable (ChargedOnce start events last) :=
  inferInstanceAs (Decidable (_ ≤ _ ∧ (_ = _ → _ = _)))

/-! ## What a call charges -/

/-- The minutes since `stamp`, cut at the round limit if there is one. -/
def minutesAsked (stamp : Timestamp) (call : DemurrageCall) : Nat :=
  if 0 < call.rounds.toNat ∧ call.rounds.toNat < minutesSince stamp call.now then
    call.rounds.toNat
  else
    minutesSince stamp call.now

theorem limitRounds_ne_zero {periodCount rounds : U64} (elapsed : periodCount ≠ 0) :
    limitRounds periodCount rounds ≠ 0 := by
  unfold limitRounds
  split
  · rename_i cut
    intro none
    rw [none] at cut
    exact absurd cut.1 (by decide)
  · exact elapsed

theorem minutesAsked_eq_zero_iff {stamp : Timestamp} {call : DemurrageCall} :
    minutesAsked stamp call = 0 ↔ minutesSince stamp call.now = 0 := by
  unfold minutesAsked
  split
  · rename_i cut
    omega
  · exact Iff.rfl

/-- A call leaves the demurrage timestamp where it was. -/
theorem step_timestamp {caller next : Caller} {call : DemurrageCall}
    (step : demurrageSystem.step caller call next) :
    next.current.demurrageTimestamp = caller.current.demurrageTimestamp := by
  obtain ⟨flag, returned⟩ := step
  obtain ⟨_, _, _, _, updated, _, _⟩ := returns_applyDemurrageLimited.mp returned
  rw [updated]

theorem step_minutesCharged {caller next : Caller} {call : DemurrageCall}
    (step : demurrageSystem.step caller call next) :
    minutesCharged ⟨caller, call, next⟩ =
      minutesAsked caller.current.demurrageTimestamp call := by
  obtain ⟨flag, returned⟩ := step
  obtain ⟨elapsed, _, minutes, _, _, _, _⟩ := returns_applyDemurrageLimited.mp returned
  have quotient : minutesSince caller.current.demurrageTimestamp call.now = elapsed.toNat :=
    (minutesBetween_eq_some.mp minutes).2
  simp only [minutesCharged, minutes]
  rw [minutesAsked, quotient]
  split
  · rename_i idle
    rw [idle]
    simp
  · unfold limitRounds
    have sameTest : (0 < call.rounds ∧ call.rounds < elapsed) ↔
        (0 < call.rounds.toNat ∧ call.rounds.toNat < elapsed.toNat) := Iff.rfl
    split
    · rename_i cut
      rw [if_pos (sameTest.mp cut)]
    · rename_i uncut
      rw [if_neg fun cut => uncut (sameTest.mpr cut)]

/-- A call leaves what `decay_by` makes of its modifier at exactly the minutes it
charges, and the whole record as it was where it charges none. -/
theorem step_decays {caller next : Caller} {call : DemurrageCall}
    (step : demurrageSystem.step caller call next) :
    ∃ periodCount : U64, minutesCharged ⟨caller, call, next⟩ = periodCount.toNat ∧
      (periodCount = 0 → next = caller) ∧
      (periodCount ≠ 0 →
        decayBy caller.current.demurrageAmount caller.current.taxLevel periodCount =
          some next.current.demurrageAmount) := by
  obtain ⟨flag, returned⟩ := step
  obtain ⟨elapsed, amount, minutes, decayed, updated, _, saved⟩ :=
    returns_applyDemurrageLimited.mp returned
  simp only [decayedAmount, minutes, Option.bind_eq_bind, Option.bind_some] at decayed
  simp only [minutesCharged, minutes]
  by_cases idle : elapsed = 0
  · rw [if_pos idle] at decayed saved ⊢
    cases decayed
    refine ⟨0, rfl, ?_, fun charged => absurd rfl charged⟩
    intro _
    cases next
    cases updated
    cases saved
    rfl
  · rw [if_neg idle] at decayed ⊢
    refine ⟨limitRounds elapsed call.rounds, rfl, ?_, ?_⟩
    · intro none
      exact absurd none (limitRounds_ne_zero idle)
    · intro _
      simp only [Option.bind_eq_some_iff] at decayed
      obtain ⟨_, loop, _, _, _, _, same⟩ := decayed
      cases same
      rw [loop, updated]

/-! ## Sequences of calls -/

/-- Every call of a sequence charges the minutes since the start of the sequence. -/
theorem run_minutesCharged {start caller : Caller} {events : List (Event Caller DemurrageCall)}
    (run : demurrageSystem.Run start events caller) :
    caller.current.demurrageTimestamp = start.current.demurrageTimestamp ∧
      ∀ event ∈ events, minutesCharged event =
        minutesAsked start.current.demurrageTimestamp event.label := by
  refine run.history (fun events caller =>
    caller.current.demurrageTimestamp = start.current.demurrageTimestamp ∧
      ∀ event ∈ events, minutesCharged event =
        minutesAsked start.current.demurrageTimestamp event.label) ?_ ?_
  · intro _
    exact ⟨rfl, by simp⟩
  · intro events state call next _ held step
    obtain ⟨stamp, charged⟩ := held
    refine ⟨(step_timestamp step).trans stamp, ?_⟩
    intro event member
    rcases List.mem_append.mp member with earlier | last
    · exact charged event earlier
    · rw [List.mem_singleton] at last
      subst last
      rw [step_minutesCharged step, stamp]

/-- The calls before the last one all fall into the first minute, or the last
one is cut by its round limit and the rounds asked for all fit. -/
def RoundsFit (stamp : Timestamp) (earlier : List DemurrageCall) (last : DemurrageCall) : Prop :=
  (∀ call ∈ earlier, minutesSince stamp call.now = 0) ∨
    (0 < last.rounds.toNat ∧ last.rounds.toNat < minutesSince stamp last.now ∧
      (earlier.map (minutesAsked stamp)).sum + last.rounds.toNat ≤ minutesSince stamp last.now)

/-- A sequence of calls charges each minute once exactly when its rounds fit.
In particular an unlimited call after one that has charged anything does not. -/
theorem chargedOnce_iff {start caller : Caller} {earlier : List (Event Caller DemurrageCall)}
    {last : Event Caller DemurrageCall}
    (run : demurrageSystem.Run start (earlier ++ [last]) caller) :
    ChargedOnce start (earlier ++ [last]) last.label ↔
      RoundsFit start.current.demurrageTimestamp (earlier.map Event.label) last.label := by
  obtain ⟨_, charged⟩ := run_minutesCharged run
  have earlierSum : (earlier.map minutesCharged).sum =
      ((earlier.map Event.label).map (minutesAsked start.current.demurrageTimestamp)).sum := by
    rw [List.map_map]
    congr 1
    exact List.map_congr_left fun event member => charged event (List.mem_append_left _ member)
  have lastCharge := charged last (List.mem_append_right _ (List.mem_singleton_self last))
  have nothing : ((earlier.map Event.label).map
        (minutesAsked start.current.demurrageTimestamp)).sum = 0 ↔
      ∀ call ∈ earlier.map Event.label,
        minutesSince start.current.demurrageTimestamp call.now = 0 := by
    rw [List.sum_eq_zero_iff]
    simp only [List.mem_map, forall_exists_index, and_imp, forall_apply_eq_imp_iff₂,
      minutesAsked_eq_zero_iff]
  have unlimited : last.label.rounds = 0 ↔ last.label.rounds.toNat = 0 := by
    rw [BitVec.toNat_eq]
    rfl
  unfold ChargedOnce RoundsFit
  rw [List.map_append, List.sum_append, earlierSum, ← nothing, unlimited]
  simp only [List.map_cons, List.map_nil, List.sum_cons, List.sum_nil, lastCharge, minutesAsked]
  split <;> omega

/-! ## Computed sequences -/

/-- One call, computed. -/
def applyCall (caller : Caller) (call : DemurrageCall) : Option Caller :=
  match run (applyDemurrageLimited call.now caller.current call.rounds) caller.storage with
  | some (.ok (_, current), storage) => some ⟨storage, current⟩
  | _ => none

theorem step_of_applyCall {caller next : Caller} {call : DemurrageCall}
    (applied : applyCall caller call = some next) : demurrageSystem.step caller call next := by
  unfold applyCall at applied
  split at applied
  · rename_i flag current storage returned
    cases applied
    exact ⟨flag, returned⟩
  · cases applied

/-- A record that starts at time zero, with a tax of one percent a minute. -/
def sampleCaller : Caller where
  storage := {}
  current := {
    startTimestamp := ⟨0⟩
    demurrageTimestamp := ⟨0⟩
    periodMinute := 60
    currentPeriod := 0
    demurrageAmount := 100000000000000000000000
    sinkAddress := "sink"
    minimumParticipantSpend := 1000000
    taxLevel := 100000000000000000000000000 }

/-- Two calls in the first minute and one of two rounds after three minutes
charge each minute at most once. -/
theorem chargedOnce_first_minute :
    ∃ earlier last caller,
      demurrageSystem.Run sampleCaller (earlier ++ [last]) caller ∧
      earlier.map Event.label = [⟨⟨0⟩, 0⟩, ⟨⟨59000000000⟩, 0⟩] ∧
      last.label = ⟨⟨180000000000⟩, 2⟩ ∧
      ChargedOnce sampleCaller (earlier ++ [last]) last.label := by
  obtain ⟨events, caller, run, labels, _⟩ :=
    exists_run_of_replay (fun _ _ _ applied => step_of_applyCall applied) sampleCaller trivial
      ([⟨⟨0⟩, 0⟩, ⟨⟨59000000000⟩, 0⟩] ++ [⟨⟨180000000000⟩, 2⟩])
      (fun _ _ => true)
      (by decide +kernel)
  rcases List.eq_nil_or_concat events with rfl | ⟨earlier, last, rfl⟩
  · cases labels
  · rw [List.concat_eq_append] at run labels
    rw [List.map_append] at labels
    obtain ⟨earlierLabels, lastLabel⟩ := List.append_inj' labels rfl
    have lastLabel : last.label = ⟨⟨180000000000⟩, 2⟩ := List.singleton_inj.mp lastLabel
    refine ⟨earlier, last, caller, run, earlierLabels, lastLabel, (chargedOnce_iff run).mpr ?_⟩
    rw [earlierLabels, lastLabel]
    exact Or.inl (by decide)

/-- Two unlimited calls at the same time, three minutes in, charge six minutes. -/
theorem second_call_charges_again :
    ∃ events caller,
      demurrageSystem.Run sampleCaller events caller ∧
      events.map Event.label = [⟨⟨180000000000⟩, 0⟩, ⟨⟨180000000000⟩, 0⟩] ∧
      (events.map minutesCharged).sum = 6 ∧
      ¬ ChargedOnce sampleCaller events ⟨⟨180000000000⟩, 0⟩ := by
  obtain ⟨events, caller, run, labels, passed⟩ :=
    exists_run_of_replay (fun _ _ _ applied => step_of_applyCall applied) sampleCaller trivial
      [⟨⟨180000000000⟩, 0⟩, ⟨⟨180000000000⟩, 0⟩]
      (fun events _ => decide (
        (events.map minutesCharged).sum = 6 ∧
        ¬ ChargedOnce sampleCaller events ⟨⟨180000000000⟩, 0⟩))
      (by decide +kernel)
  exact ⟨events, caller, run, labels, of_decide_eq_true passed⟩

end DemurrageToken.Properties
