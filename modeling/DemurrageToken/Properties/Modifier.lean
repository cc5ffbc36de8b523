import DemurrageToken.Contract.Replay
import DemurrageToken.Spec.Invariants
import DemurrageToken.Spec.Modifier

/-!
Contract: the demurrage modifier along a run.

Owns: that the modifier only decays, so that the arithmetic on it fits, and the
runs on which it can be divided by at every later time.

Does not own: the supply and the amounts it is applied to.
-/

namespace DemurrageToken.Properties

open DemurrageToken.Library
open DemurrageToken.Library.System
open DemurrageToken.Library.Compound
open DemurrageToken.Contract
open DemurrageToken.Spec

variable {api : Api} {genesis : Genesis}

/-! ## Decay -/

/-- What `get_distribution` takes the supply times fits, so that its product with
the supply is all that can abort. -/
theorem distributionOf_eq_map {amount : U128} (bounded : amount.toNat ≤ fullAmount) :
    ∃ scaled untaxed, Checked.mul amount amountScale = some scaled ∧
      Checked.sub resolutionFactor scaled = some untaxed ∧
      ∀ supply, distributionOf supply amount =
        (Checked.mul supply untaxed).map (· / resolutionFactor) := by
  have scaledBound : amount.toNat * 10 ^ 5 ≤ 10 ^ 28 := Nat.mul_le_mul_right _ bounded
  obtain ⟨scaled, product⟩ := @Checked.word_exists 128 _ (scaledBound.trans_lt (by decide))
  obtain ⟨untaxed, difference⟩ :=
    @Checked.word_exists 128 (10 ^ 28 - scaled.toNat) ((Nat.sub_le _ _).trans_lt (by decide))
  have scales : Checked.mul amount amountScale = some scaled := by
    rw [Checked.mul_eq_some, amountScale_toNat]
    exact product
  have subtracts : Checked.sub resolutionFactor scaled = some untaxed := by
    rw [Checked.sub_eq_some, resolutionFactor_toNat]
    omega
  refine ⟨scaled, untaxed, scales, subtracts, ?_⟩
  intro supply
  simp only [distributionOf, scales, subtracts, Option.bind_eq_bind, Option.bind_some,
    Option.map_eq_bind]
  rfl

/-- In every run the modifier is at most the full one, the distribution is
computed from it up to the product with the supply, a conversion never loses
value, and no step raises it. -/
theorem modifier_only_decays {start chain : Chain} {events : List (Event Chain Call)}
    (run : (tokenSystem api genesis).Run start events chain) :
    (∃ current, chain.storage.state = some current ∧
      current.demurrageAmount.toNat ≤ fullAmount ∧
      (∃ scaled untaxed, Checked.mul current.demurrageAmount amountScale = some scaled ∧
        Checked.sub resolutionFactor scaled = some untaxed ∧
        ∀ supply, distributionOf supply current.demurrageAmount =
          (Checked.mul supply untaxed).map (· / resolutionFactor)) ∧
      (0 < current.demurrageAmount.toNat → ∀ value base,
        toBaseAmount value current.demurrageAmount = some base → value.toNat ≤ base.toNat)) ∧
    ∀ event ∈ events, ∃ current updated, event.source.storage.state = some current ∧
      event.target.storage.state = some updated ∧
      updated.demurrageAmount.toNat ≤ current.demurrageAmount.toNat := by
  constructor
  · obtain ⟨current, stored, kept⟩ := (wellFormed_of_reachable run.reachable).record
    refine ⟨current, stored, kept.bounded, distributionOf_eq_map kept.bounded, ?_⟩
    intro _ value base converted
    exact le_toBaseAmount converted kept.bounded
  · intro event member
    obtain ⟨reachable, step⟩ := run.event event member
    obtain ⟨current, stored, _⟩ := (wellFormed_of_reachable reachable).record
    obtain ⟨updated, saved, recordStep⟩ := (effect_of_step step).record stored
    exact ⟨current, updated, stored, saved, recordStep.amount_le⟩

/-- At one percent a minute, two transfers a minute apart: the modifier loses
two passes at the first and three more at the second, and a thousand tokens are
worth more with what is left. -/
theorem modifier_decays_over_transfers :
    ∃ start events chain current,
      (tokenSystem sampleApi (sampleGenesis 1000000 none)).Run start events chain ∧
      events.map Event.label =
        [callAt 180 "alice" (.transfer "bob" 1000), callAt 240 "alice" (.transfer "bob" 1000)] ∧
      (events.map fun event => event.target.storage.state.map State.demurrageAmount) =
        [some 98010000000000000000000, some 95099004990000000000000] ∧
      chain.storage.state = some current ∧ current.demurrageAmount.toNat ≤ fullAmount ∧
      ∀ base, toBaseAmount 1000 current.demurrageAmount = some base → 1000 ≤ base.toNat := by
  obtain ⟨start, events, chain, run, labels, passed⟩ :=
    exists_run sampleApi (sampleGenesis 1000000 none)
      [callAt 180 "alice" (.transfer "bob" 1000), callAt 240 "alice" (.transfer "bob" 1000)]
      (fun events chain => decide (
        (events.map fun event => event.target.storage.state.map State.demurrageAmount) =
          [some 98010000000000000000000, some 95099004990000000000000] ∧
        ∀ current ∈ chain.storage.state, 0 < current.demurrageAmount.toNat))
      (by decide +kernel)
  obtain ⟨modifiers, positive⟩ := of_decide_eq_true passed
  obtain ⟨current, stored, bounded, _, conversion⟩ := (modifier_only_decays run).1
  refine ⟨start, events, chain, current, run, labels, modifiers, stored, bounded, ?_⟩
  intro base converted
  exact conversion (positive current stored) 1000 base converted

/-! ## Division by the modifier -/

/-- A tax of less than everything per minute. -/
def Mild (taxLevel : U128) : Prop := taxRate taxLevel < 10 ^ 11

instance (taxLevel : U128) : Decidable (Mild taxLevel) := inferInstanceAs (Decidable (_ < _))

/-- A tax level that the message sets is mild. -/
def SetsMild (msg : ExecuteMsg) : Prop := ∀ amount ∈ taxLevelSet msg, Mild amount

instance (msg : ExecuteMsg) : Decidable (SetsMild msg) :=
  Option.decidableForallMem (taxLevelSet msg)

/-- The token system in which only mild tax levels are set. -/
def mildTaxSystem (api : Api) (genesis : Genesis) : System Chain Call :=
  (tokenSystem api genesis).restrict fun call => SetsMild call.msg

/-- The stored modifier is positive, and so is what a transfer or mint of any
later block decays it to and divides by. -/
def NeverZero (chain : Chain) : Prop :=
  ∀ current ∈ chain.storage.state, 0 < current.demurrageAmount.toNat ∧
    ∀ now : Timestamp, chain.block.time.nanos.toNat ≤ now.nanos.toNat →
      ∀ amount, decayedAmount now current 0 = some amount → 0 < amount.toNat

/-- What the message leaves of the modifier outlasts the tax level it leaves: at
the last minute that demurrage can be applied for, a unit is still there. -/
def Outlasts (event : Event Chain Call) : Prop :=
  ∀ current ∈ event.source.storage.state,
    elapsedMinutes event.label.env.block.time current ≤ minutesLeft current →
      10 ^ 11 ≤ decayFactor (taxLevelAfter current event.label.msg) (minutesLeft current - 1) *
        amountAfter event.label.env.block.time current event.label.msg

/-- Demurrage within reach can be applied at some later time for as many minutes
as there are. -/
theorem lastMinute_exists {now : Timestamp} {current : State}
    (within : elapsedMinutes now current ≤ minutesLeft current) :
    ∃ last : Timestamp, now.nanos.toNat ≤ last.nanos.toNat ∧
      elapsedMinutes last current = minutesLeft current := by
  rcases Nat.eq_or_lt_of_le within with reached | before
  · exact ⟨now, le_rfl, reached⟩
  · have reach : minutesLeft current * (60 * 10 ^ 9) ≤
        2 ^ 64 - 1 - current.demurrageTimestamp.nanos.toNat :=
      Nat.div_mul_le_self _ _
    have bound := current.demurrageTimestamp.nanos.isLt
    obtain ⟨nanos, value⟩ : ∃ nanos : U64, current.demurrageTimestamp.nanos.toNat +
        minutesLeft current * (60 * 10 ^ 9) = nanos.toNat :=
      Checked.word_exists (by omega)
    refine ⟨⟨nanos⟩, ?_, ?_⟩
    · unfold elapsedMinutes at before
      rw [Timestamp.seconds_toNat, Timestamp.seconds_toNat] at before
      dsimp only
      omega
    · unfold elapsedMinutes
      rw [Timestamp.seconds_toNat, Timestamp.seconds_toNat]
      dsimp only
      omega

theorem neverZero_iff {chain : Chain} {current : State}
    (stored : chain.storage.state = some current)
    (rate : taxRate current.taxLevel ≤ 10 ^ 11)
    (bounded : current.demurrageAmount.toNat ≤ fullAmount)
    (positive : 0 < current.demurrageAmount.toNat)
    (started : current.demurrageTimestamp.nanos.toNat ≤ chain.block.time.nanos.toNat) :
    NeverZero chain ↔
      (elapsedMinutes chain.block.time current ≤ minutesLeft current →
        10 ^ 11 ≤ decayFactor current.taxLevel (minutesLeft current - 1) *
          current.demurrageAmount.toNat) := by
  constructor
  · intro never within
    obtain ⟨last, later, reached⟩ := lastMinute_exists within
    obtain ⟨amount, decayed⟩ :=
      decayedAmount_exists rate bounded (started.trans later) reached.le
    have left := (never current stored).2 last later amount decayed
    rw [decayedAmount_value decayed, decayedValue_pos_iff, reached] at left
    exact left
  · intro lasts other otherStored
    obtain rfl := Option.some.inj (stored.symm.trans otherStored)
    refine ⟨positive, ?_⟩
    intro now later amount decayed
    have within := decayedAmount_within decayed
    rw [decayedAmount_value decayed, decayedValue_pos_iff]
    have atLast := lasts ((elapsedMinutes_mono later).trans within)
    have fewer : decayFactor current.taxLevel (minutesLeft current - 1) ≤
        decayFactor current.taxLevel (elapsedMinutes now current - 1) :=
      shrink_iterate_antitone (Nat.sub_le_sub_right within 1)
    exact atLast.trans (Nat.mul_le_mul_right _ fewer)

/-- The conversion of the message itself needs a positive modifier. -/
theorem amount_pos_of_effect {env : Env} {sender : Addr} {before after : Storage}
    {msg : ExecuteMsg} {config : TokenInfo} {current updated : State}
    (effect : Effect api env sender before after msg) (token : before.tokenInfo = some config)
    (stored : before.state = some current)
    (positive : 0 < current.demurrageAmount.toNat) (saved : after.state = some updated) :
    0 < updated.demurrageAmount.toNat := by
  cases changes : changesPeriod msg with
  | false =>
      obtain ⟨_, same, step⟩ := effect.record stored
      obtain rfl := Option.some.inj (saved.symm.trans same)
      rw [step.demurrageAmount_eq changes]
      exact positive
  | true =>
      obtain ⟨_, record, _, change⟩ := effect.periodChange token changes
      obtain rfl := Option.some.inj (saved.symm.trans change.saved)
      obtain ⟨_, _, converted⟩ := change.converted
      exact (toBaseAmount_value converted).1

theorem fullAmount_pos : 0 < (100000000000000000000000 : U128).toNat := by decide

/-- Every stored modifier is positive, whatever the tax levels. -/
theorem modifier_pos_of_reachable {chain : Chain}
    (reachable : (tokenSystem api genesis).Reachable chain) :
    ∀ current ∈ chain.storage.state, 0 < current.demurrageAmount.toNat := by
  refine reachable.invariant (fun chain => ∀ current ∈ chain.storage.state,
    0 < current.demurrageAmount.toNat) ?_ ?_
  · intro start initial current stored
    obtain ⟨_, _, _, _, _, result⟩ := instantiates_of_init initial
    rw [result] at stored
    obtain rfl := Option.some.inj stored
    exact fullAmount_pos
  · intro chain call next earlier positive step updated saved
    have wellFormed := wellFormed_of_reachable earlier
    obtain ⟨config, token⟩ := wellFormed.token
    obtain ⟨current, stored, _⟩ := wellFormed.record
    exact amount_pos_of_effect (effect_of_step step) token stored (positive current stored) saved

theorem genesis_le_block {chain : Chain}
    (reachable : (tokenSystem api genesis).Reachable chain) :
    genesis.env.block.time.nanos.toNat ≤ chain.block.time.nanos.toNat := by
  refine reachable.invariant (fun chain =>
    genesis.env.block.time.nanos.toNat ≤ chain.block.time.nanos.toNat) ?_ ?_
  · intro start initial
    rw [initial.2]
  · intro chain call next _ started step
    rw [step.2.2]
    exact started.trans step.1

theorem mild_of_run {start chain : Chain} {events : List (Event Chain Call)}
    (mildGenesis : Mild genesis.msg.taxLevelMinute)
    (run : (mildTaxSystem api genesis).Run start events chain) :
    ∀ current ∈ chain.storage.state, Mild current.taxLevel := by
  induction run with
  | nil initial =>
      intro current stored
      obtain ⟨_, _, _, _, _, result⟩ := instantiates_of_init initial
      rw [result] at stored
      obtain rfl := Option.some.inj stored
      exact mildGenesis
  | @extend events chain next call before step inductionHypothesis =>
      intro updated saved
      obtain ⟨allowed, step⟩ := step
      obtain ⟨current, stored, _⟩ :=
        (wellFormed_of_reachable before.unrestrict.reachable).record
      obtain ⟨_, same, recordStep⟩ := (effect_of_step step).record stored
      obtain rfl := Option.some.inj (saved.symm.trans same)
      rw [recordStep.taxLevel_eq]
      unfold taxLevelAfter
      cases set : taxLevelSet call.msg with
      | none => exact inductionHypothesis current stored
      | some amount => exact allowed amount set

/-- With mild taxes, the modifier stays positive for all later times all along a
run exactly when every message of the run leaves one that outlasts the tax. -/
theorem neverZero_throughout_iff {start chain : Chain} {events : List (Event Chain Call)}
    (mildGenesis : Mild genesis.msg.taxLevelMinute)
    (run : (mildTaxSystem api genesis).Run start events chain) :
    (mildTaxSystem api genesis).Throughout start events (fun _ visited => NeverZero visited) ↔
      ∀ event ∈ events, Outlasts event := by
  rw [← eachStep_iff_forall_mem]
  refine Run.throughout_iff_eachStep ?_ ?_ run
  · intro initial
    obtain ⟨_, _, _, _, _, result⟩ := instantiates_of_init initial
    have stored := congrArg Storage.state result
    have started : genesis.env.block.time.nanos.toNat ≤ start.block.time.nanos.toNat := by
      rw [initial.2]
    refine (neverZero_iff stored (Nat.le_of_lt mildGenesis) le_rfl fullAmount_pos started).mpr ?_
    intro _
    have large : 10 ^ 11 ≤ (100000000000000000000000 : U128).toNat := by decide
    exact large.trans (le_decayFactor_mul mildGenesis _)
  · intro earlier state call next before step _
    obtain ⟨current, stored, kept⟩ := (wellFormed_of_reachable before.unrestrict.reachable).record
    have whole := before.extend step
    obtain ⟨updated, saved, keptAfter⟩ :=
      (wellFormed_of_reachable whole.unrestrict.reachable).record
    have mild := mild_of_run mildGenesis whole updated saved
    have positive := modifier_pos_of_reachable whole.unrestrict.reachable updated saved
    have started := genesis_le_block whole.unrestrict.reachable
    rw [← keptAfter.charged] at started
    obtain ⟨_, same, recordStep⟩ := (effect_of_step step.2).record stored
    obtain rfl := Option.some.inj (saved.symm.trans same)
    have sameClock : updated.demurrageTimestamp = current.demurrageTimestamp :=
      keptAfter.charged.trans kept.charged.symm
    rw [neverZero_iff saved (Nat.le_of_lt mild) keptAfter.bounded positive started, step.2.2.2,
      elapsedMinutes_congr sameClock, minutesLeft_congr sameClock, recordStep.taxLevel_eq,
      recordStep.amount_eq]
    constructor
    · intro lasts other otherStored
      obtain rfl := Option.some.inj (stored.symm.trans otherStored)
      exact lasts
    · intro outlasts
      exact outlasts current stored

/-- A message that leaves at least a whole unit of the factor outlasts any mild
tax level it leaves. -/
theorem outlasts_of_large {event : Event Chain Call}
    (large : ∀ current ∈ event.source.storage.state,
      Mild (taxLevelAfter current event.label.msg) ∧
        10 ^ 11 ≤ amountAfter event.label.env.block.time current event.label.msg) :
    Outlasts event := by
  intro current stored _
  obtain ⟨mild, enough⟩ := large current stored
  exact enough.trans (le_decayFactor_mul mild _)

instance (event : Event Chain Call) :
    Decidable (∀ current ∈ event.source.storage.state,
      Mild (taxLevelAfter current event.label.msg) ∧
        10 ^ 11 ≤ amountAfter event.label.env.block.time current event.label.msg) :=
  Option.decidableForallMem event.source.storage.state

/-- Two transfers at one percent a minute, and then fifty percent. -/
theorem neverZero_throughout_transfers :
    ∃ start events chain,
      (mildTaxSystem sampleApi (sampleGenesis 1000000 none)).Run start events chain ∧
      events.map Event.label =
        [callAt 180 "alice" (.transfer "bob" 1000), callAt 240 "alice" (.transfer "bob" 1000),
          callAt 240 "bob" (.changeTaxLevel 5000000000000000000000000000)] ∧
      (mildTaxSystem sampleApi (sampleGenesis 1000000 none)).Throughout start events
        (fun _ visited => NeverZero visited) := by
  have mildCalls : ∀ call ∈ [callAt 180 "alice" (.transfer "bob" 1000),
      callAt 240 "alice" (.transfer "bob" 1000),
      callAt 240 "bob" (.changeTaxLevel 5000000000000000000000000000)],
      SetsMild call.msg := by decide
  obtain ⟨start, events, chain, run, labels, passed⟩ :=
    exists_run sampleApi (sampleGenesis 1000000 none)
      [callAt 180 "alice" (.transfer "bob" 1000), callAt 240 "alice" (.transfer "bob" 1000),
        callAt 240 "bob" (.changeTaxLevel 5000000000000000000000000000)]
      (fun events _ => decide (
        ∀ event ∈ events, ∀ current ∈ event.source.storage.state,
          Mild (taxLevelAfter current event.label.msg) ∧
            10 ^ 11 ≤ amountAfter event.label.env.block.time current event.label.msg))
      (by decide +kernel)
  have large := of_decide_eq_true passed
  have mildRun := run.restrict_labels labels mildCalls
  refine ⟨start, events, chain, mildRun, labels, ?_⟩
  refine (neverZero_throughout_iff (by decide) mildRun).mpr ?_
  intro event member
  exact outlasts_of_large (large event member)

/-- A tax of one unit less than everything leaves a modifier of ten after two
transfers, and the third decays it to zero, divides by it and aborts. -/
theorem modifier_decays_to_zero :
    ∃ start events chain,
      (mildTaxSystem sampleApi (sampleGenesis 1000000 none)).Run start events chain ∧
      events.map Event.label =
        [callAt 0 "alice" (.changeTaxLevel 9999999999900000000000000000),
          callAt 120 "alice" (.transfer "bob" 1000),
          callAt 120 "alice" (.transfer "bob" 1000)] ∧
      ¬ NeverZero chain ∧
      Handler.run (execute sampleApi (blockAt 120) ⟨⟨"alice"⟩⟩ (.transfer "bob" 1000))
        chain.storage = none := by
  have mildCalls : ∀ call ∈ [callAt 0 "alice" (.changeTaxLevel 9999999999900000000000000000),
      callAt 120 "alice" (.transfer "bob" 1000), callAt 120 "alice" (.transfer "bob" 1000)],
      SetsMild call.msg := by decide
  obtain ⟨start, events, chain, run, labels, passed⟩ :=
    exists_run sampleApi (sampleGenesis 1000000 none)
      [callAt 0 "alice" (.changeTaxLevel 9999999999900000000000000000),
        callAt 120 "alice" (.transfer "bob" 1000), callAt 120 "alice" (.transfer "bob" 1000)]
      (fun _ chain => decide (
        chain.block = (blockAt 120).block ∧
        (chain.storage.state.any fun current =>
          decayedAmount (blockAt 120).block.time current 0 == some 0) ∧
        (Handler.run (execute sampleApi (blockAt 120) ⟨⟨"alice"⟩⟩ (.transfer "bob" 1000))
          chain.storage).isNone))
      (by decide +kernel)
  obtain ⟨atBlock, vanishes, aborted⟩ := of_decide_eq_true passed
  refine ⟨start, events, chain, run.restrict_labels labels mildCalls, labels, ?_,
    Option.isNone_iff_eq_none.mp aborted⟩
  intro never
  obtain ⟨current, stored, decayed⟩ := (Option.any_eq_true _ _).mp vanishes
  have later : chain.block.time.nanos.toNat ≤ (blockAt 120).block.time.nanos.toNat := by
    rw [atBlock]
  have positive := (never current stored).2 _ later 0 (eq_of_beq decayed)
  exact absurd positive (by decide)

end DemurrageToken.Properties
