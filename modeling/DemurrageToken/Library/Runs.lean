import Mathlib

/-!
Contract: runs of labelled transition systems, with their histories.

A run starts in an initial state and takes one labelled step after another;
its history lists every step with the state before and after it. Properties of
whole runs come in two kinds. An invariant holds in every reachable state. A
history property relates the state to everything that happened before it, and
may fail from some step on; `throughout_iff_eachStep` turns "it holds all the
way" into a condition on single steps, in both directions.

Owns: runs, reachable states, the invariant rule, the history rules, refinement
and bisimulation.

Does not own: any particular system.
-/

namespace DemurrageToken.Library

variable {σ ℓ : Type}

/-- Initial states and labelled steps. -/
structure System (σ ℓ : Type) where
  init : σ → Prop
  step : σ → ℓ → σ → Prop

/-- One step of a history. -/
structure Event (σ ℓ : Type) where
  source : σ
  label : ℓ
  target : σ

namespace System

variable {system : System σ ℓ}

/-- Runs from `start`: the history, oldest step first, and the state reached. -/
inductive Run (system : System σ ℓ) (start : σ) : List (Event σ ℓ) → σ → Prop where
  | nil (initial : system.init start) : Run system start [] start
  | extend {events : List (Event σ ℓ)} {state next : σ} {label : ℓ}
      (before : Run system start events state) (step : system.step state label next) :
      Run system start (events ++ [⟨state, label, next⟩]) next

/-- Some run ends in `state`. -/
def Reachable (system : System σ ℓ) (state : σ) : Prop :=
  ∃ start events, system.Run start events state

theorem Run.reachable {start state : σ} {events : List (Event σ ℓ)}
    (run : system.Run start events state) : system.Reachable state :=
  ⟨start, events, run⟩

theorem Run.initial {start state : σ} {events : List (Event σ ℓ)}
    (run : system.Run start events state) : system.init start := by
  induction run with
  | nil initial => exact initial
  | extend _ _ inductionHypothesis => exact inductionHypothesis

/-- The state reached is the target of the last step. -/
theorem Run.state_eq {start state : σ} {events : List (Event σ ℓ)}
    (run : system.Run start events state) :
    state = (events.getLast?.map Event.target).getD start := by
  cases run with
  | nil _ => rfl
  | extend _ _ => simp

/-- A history leads to one state. -/
theorem Run.state_unique {start left right : σ} {events : List (Event σ ℓ)}
    (first : system.Run start events left) (second : system.Run start events right) :
    left = right :=
  first.state_eq.trans second.state_eq.symm

/-! ## Invariants -/

/-- What holds initially and is kept by every step from a reachable state holds
in every state a run reaches. -/
theorem Run.invariant (holds : σ → Prop)
    (initially : ∀ state, system.init state → holds state)
    (kept : ∀ state label next, system.Reachable state → holds state →
      system.step state label next → holds next)
    {start state : σ} {events : List (Event σ ℓ)}
    (run : system.Run start events state) : holds state := by
  induction run with
  | nil initial => exact initially _ initial
  | extend before step inductionHypothesis =>
      exact kept _ _ _ before.reachable inductionHypothesis step

theorem Reachable.invariant (holds : σ → Prop)
    (initially : ∀ state, system.init state → holds state)
    (kept : ∀ state label next, system.Reachable state → holds state →
      system.step state label next → holds next)
    {state : σ} (reachable : system.Reachable state) : holds state := by
  obtain ⟨start, events, run⟩ := reachable
  exact run.invariant holds initially kept

/-- A property of the history and the state that every extension keeps. -/
theorem Run.history (holds : List (Event σ ℓ) → σ → Prop) {start : σ}
    (initially : system.init start → holds [] start)
    (kept : ∀ events state label next, system.Run start events state → holds events state →
      system.step state label next → holds (events ++ [⟨state, label, next⟩]) next)
    {state : σ} {events : List (Event σ ℓ)}
    (run : system.Run start events state) : holds events state := by
  induction run with
  | nil initial => exact initially initial
  | extend before step inductionHypothesis =>
      exact kept _ _ _ _ before inductionHypothesis step

/-- Every step of a history was taken from a reachable state. -/
theorem Run.event {start state : σ} {events : List (Event σ ℓ)}
    (run : system.Run start events state) :
    ∀ event ∈ events, system.Reachable event.source ∧
      system.step event.source event.label event.target := by
  induction run with
  | nil _ => simp
  | extend before step inductionHypothesis =>
      intro event member
      rcases List.mem_append.mp member with earlier | last
      · exact inductionHypothesis event earlier
      · rw [List.mem_singleton] at last
        subst last
        exact ⟨before.reachable, step⟩

/-! ## Properties that hold all the way -/

/-- `holds` at every point of the run, the start and the end included. -/
def Throughout (system : System σ ℓ) (start : σ) (events : List (Event σ ℓ))
    (holds : List (Event σ ℓ) → σ → Prop) : Prop :=
  ∀ earlier visited, earlier <+: events → system.Run start earlier visited →
    holds earlier visited

/-- `condition` of every step, given the history before it. -/
def EachStep (events : List (Event σ ℓ))
    (condition : List (Event σ ℓ) → Event σ ℓ → Prop) : Prop :=
  ∀ earlier event, earlier ++ [event] <+: events → condition earlier event

theorem eachStep_append_singleton {events : List (Event σ ℓ)} {event : Event σ ℓ}
    {condition : List (Event σ ℓ) → Event σ ℓ → Prop} :
    EachStep (events ++ [event]) condition ↔
      EachStep events condition ∧ condition events event := by
  constructor
  · intro each
    refine ⟨fun earlier other inside => each earlier other ?_, each events event List.prefix_rfl⟩
    exact inside.trans (List.prefix_append _ _)
  · rintro ⟨each, last⟩ earlier other inside
    rcases List.prefix_concat_iff.mp inside with whole | inside
    · obtain ⟨rfl, same⟩ := List.append_inj' whole rfl
      obtain rfl := List.singleton_inj.mp same
      exact last
    · exact each earlier other inside

/-- A condition that does not look at the history is one on the events. -/
theorem eachStep_iff_forall_mem {events : List (Event σ ℓ)} {condition : Event σ ℓ → Prop} :
    EachStep events (fun _ => condition) ↔ ∀ event ∈ events, condition event := by
  constructor
  · intro each event member
    obtain ⟨earlier, later, split⟩ := List.append_of_mem member
    apply each earlier event
    rw [split]
    exact ⟨later, by simp⟩
  · intro all earlier event inside
    exact all event (inside.subset (by simp))

theorem throughout_append_singleton {start state next : σ} {events : List (Event σ ℓ)}
    {label : ℓ} {holds : List (Event σ ℓ) → σ → Prop}
    (whole : system.Run start (events ++ [⟨state, label, next⟩]) next) :
    system.Throughout start (events ++ [⟨state, label, next⟩]) holds ↔
      system.Throughout start events holds ∧
        holds (events ++ [⟨state, label, next⟩]) next := by
  constructor
  · intro all
    refine ⟨fun earlier visited inside reached => all earlier visited ?_ reached,
      all _ next List.prefix_rfl whole⟩
    exact inside.trans (List.prefix_append _ _)
  · rintro ⟨all, last⟩ earlier visited inside reached
    rcases List.prefix_concat_iff.mp inside with rfl | inside
    · rw [reached.state_unique whole]
      exact last
    · exact all earlier visited inside reached

/-- Where a property holds initially and each step keeps it exactly under
`condition`, it holds throughout a run exactly when every step of the run meets
the condition. -/
theorem Run.throughout_iff_eachStep {holds : List (Event σ ℓ) → σ → Prop}
    {condition : List (Event σ ℓ) → Event σ ℓ → Prop} {start : σ}
    (initially : system.init start → holds [] start)
    (exactly : ∀ events state label next, system.Run start events state →
      system.step state label next → holds events state →
      (holds (events ++ [⟨state, label, next⟩]) next ↔
        condition events ⟨state, label, next⟩))
    {state : σ} {events : List (Event σ ℓ)} (run : system.Run start events state) :
    system.Throughout start events holds ↔ EachStep events condition := by
  induction run with
  | nil initial =>
      constructor
      · intro _ earlier event inside
        simp at inside
      · intro _ earlier visited inside reached
        obtain rfl := List.prefix_nil.mp inside
        rw [reached.state_unique (Run.nil initial)]
        exact initially initial
  | @extend events state next label before step inductionHypothesis =>
      rw [throughout_append_singleton (before.extend step), eachStep_append_singleton,
        inductionHypothesis]
      apply and_congr_right
      intro each
      have held := inductionHypothesis.mpr each events state List.prefix_rfl before
      exact exactly events state label next before step held

/-- A condition on every earlier event is one on pairs of events. -/
theorem eachStep_earlier_iff_pairwise {events : List (Event σ ℓ)}
    {related : Event σ ℓ → Event σ ℓ → Prop} :
    EachStep events (fun earlier event => ∀ past ∈ earlier, related past event) ↔
      events.Pairwise related := by
  induction events using List.reverseRecOn with
  | nil =>
      refine iff_of_true ?_ List.Pairwise.nil
      intro earlier event inside
      simp at inside
  | append_singleton events last inductionHypothesis =>
      rw [eachStep_append_singleton, inductionHypothesis, List.pairwise_append]
      simp

/-! ## Restricted systems -/

/-- The system with the steps of the allowed labels only. -/
def restrict (system : System σ ℓ) (allowed : ℓ → Prop) : System σ ℓ where
  init := system.init
  step := fun state label next => allowed label ∧ system.step state label next

theorem Run.unrestrict {allowed : ℓ → Prop} {start state : σ} {events : List (Event σ ℓ)}
    (run : (system.restrict allowed).Run start events state) : system.Run start events state := by
  induction run with
  | nil initial => exact .nil initial
  | extend _ step inductionHypothesis => exact .extend inductionHypothesis step.2

theorem Run.restrict {allowed : ℓ → Prop} {start state : σ} {events : List (Event σ ℓ)}
    (run : system.Run start events state) (all : ∀ event ∈ events, allowed event.label) :
    (system.restrict allowed).Run start events state := by
  induction run with
  | nil initial => exact .nil initial
  | extend _ step inductionHypothesis =>
      refine .extend (inductionHypothesis fun event member => ?_) ⟨?_, step⟩
      · exact all event (List.mem_append_left _ member)
      · exact all _ (List.mem_append_right _ (List.mem_singleton_self _))

/-- A run whose labels are known is one of the restricted system, if they are
allowed. -/
theorem Run.restrict_labels {allowed : ℓ → Prop} {start state : σ} {events : List (Event σ ℓ)}
    {labels : List ℓ} (run : system.Run start events state)
    (taken : events.map Event.label = labels) (all : ∀ label ∈ labels, allowed label) :
    (system.restrict allowed).Run start events state := by
  apply run.restrict
  intro event member
  apply all
  rw [← taken]
  exact List.mem_map_of_mem member

/-! ## Continued runs -/

/-- The system started in one state. -/
def startingAt (system : System σ ℓ) (state : σ) : System σ ℓ where
  init := fun start => start = state
  step := system.step

theorem Run.last_step {start state : σ} {events : List (Event σ ℓ)} {event : Event σ ℓ}
    (run : system.Run start (events ++ [event]) state) :
    system.Run start events event.source ∧
      system.step event.source event.label event.target ∧ event.target = state := by
  generalize whole : events ++ [event] = history at run
  cases run with
  | nil _ => simp at whole
  | extend before step =>
      obtain ⟨rfl, last⟩ := List.append_inj' whole rfl
      obtain rfl := List.singleton_inj.mp last
      exact ⟨before, step, rfl⟩

/-- A run splits where its history does. -/
theorem Run.split {start : σ} {earlier later : List (Event σ ℓ)} :
    ∀ {state : σ}, system.Run start (earlier ++ later) state →
      ∃ visited, system.Run start earlier visited ∧
        (system.startingAt visited).Run visited later state := by
  induction later using List.reverseRecOn with
  | nil =>
      intro state run
      rw [List.append_nil] at run
      exact ⟨state, run, .nil rfl⟩
  | append_singleton later event inductionHypothesis =>
      intro state run
      rw [← List.append_assoc] at run
      obtain ⟨before, step, rfl⟩ := run.last_step
      obtain ⟨visited, reached, continued⟩ := inductionHypothesis before
      exact ⟨visited, reached, continued.extend step⟩

section Until

variable (holds : σ → Prop) {releases forbidden : Event σ ℓ → Prop}

/-- What each step keeps or releases holds, unless it was released. -/
theorem Run.holds_or_released
    (kept : ∀ event : Event σ ℓ, system.step event.source event.label event.target →
      holds event.source → releases event ∨ holds event.target)
    {start state : σ} {events : List (Event σ ℓ)} (run : system.Run start events state)
    (initially : holds start) : (∃ past ∈ events, releases past) ∨ holds state := by
  induction run with
  | nil _ => exact Or.inr initially
  | @extend events state next label before step inductionHypothesis =>
      rcases inductionHypothesis with released | held
      · obtain ⟨past, member, releases⟩ := released
        exact Or.inl ⟨past, List.mem_append_left _ member, releases⟩
      · rcases kept ⟨state, label, next⟩ step held with releases | held
        · exact Or.inl ⟨_, List.mem_append_right _ (List.mem_singleton_self _), releases⟩
        · exact Or.inr held

/-- What is forbidden while a property holds that each step keeps or releases
does not happen until it is released. -/
theorem Run.until_released
    (kept : ∀ event : Event σ ℓ, system.step event.source event.label event.target →
      holds event.source → releases event ∨ holds event.target)
    (excluded : ∀ event : Event σ ℓ, system.step event.source event.label event.target →
      holds event.source → ¬ forbidden event)
    {start state : σ} {events : List (Event σ ℓ)} (run : system.Run start events state)
    (initially : holds start) :
    EachStep events fun between event =>
      forbidden event → ∃ past ∈ between, releases past := by
  induction run with
  | nil _ =>
      intro between event inside
      simp at inside
  | @extend events state next label before step inductionHypothesis =>
      rw [eachStep_append_singleton]
      refine ⟨inductionHypothesis, fun happens => ?_⟩
      rcases before.holds_or_released holds kept initially with released | held
      · exact released
      · exact absurd happens (excluded ⟨state, label, next⟩ step held)

end Until

/-! ## Bisimulations -/

/-- Two systems that match each other's starts and steps, label by label. -/
structure Bisimulation {τ : Type} (system : System σ ℓ) (other : System τ ℓ)
    (related : σ → τ → Prop) : Prop where
  starts : ∀ start, system.init start → ∃ first, other.init first ∧ related start first
  started : ∀ first, other.init first → ∃ start, system.init start ∧ related start first
  forth : ∀ state label next view, related state view → system.step state label next →
    ∃ updated, other.step view label updated ∧ related next updated
  back : ∀ state label view updated, related state view → other.step view label updated →
    ∃ next, system.step state label next ∧ related next updated

section Bisimulation

variable {τ : Type} {other : System τ ℓ} {related : σ → τ → Prop}

theorem Bisimulation.symm (bisimulation : Bisimulation system other related) :
    Bisimulation other system fun view state => related state view where
  starts := bisimulation.started
  started := bisimulation.starts
  forth := fun view label updated state => bisimulation.back state label view updated
  back := fun view label state next => bisimulation.forth state label next view

/-- A run of one system is matched by a run of the other with the same labels. -/
theorem Bisimulation.run (bisimulation : Bisimulation system other related) {start state : σ}
    {events : List (Event σ ℓ)} (run : system.Run start events state) :
    ∃ first steps view, other.Run first steps view ∧
      steps.map Event.label = events.map Event.label ∧ related state view := by
  induction run with
  | nil initial =>
      obtain ⟨first, begins, same⟩ := bisimulation.starts _ initial
      exact ⟨first, [], first, .nil begins, rfl, same⟩
  | @extend events state next label _ step inductionHypothesis =>
      obtain ⟨first, steps, view, matched, labels, same⟩ := inductionHypothesis
      obtain ⟨updated, stepped, stillSame⟩ := bisimulation.forth state label next view same step
      refine ⟨first, _, updated, matched.extend stepped, ?_, stillSame⟩
      rw [List.map_append, List.map_append, labels]
      rfl

end Bisimulation

/-! ## Computed runs -/

/-- Take the steps of a list of labels with an executable step function. -/
def replay (advance : σ → ℓ → Option σ) (state : σ) :
    List ℓ → Option (List (Event σ ℓ) × σ)
  | [] => some ([], state)
  | label :: labels => do
      let next ← advance state label
      let (events, final) ← replay advance next labels
      pure (⟨state, label, next⟩ :: events, final)

/-- Replaying continues a run, if the step function takes steps of the system. -/
theorem Run.replay {advance : σ → ℓ → Option σ}
    (sound : ∀ state label next, advance state label = some next → system.step state label next)
    {start : σ} :
    ∀ {labels : List ℓ} {state final : σ} {events more : List (Event σ ℓ)},
      system.Run start events state → System.replay advance state labels = some (more, final) →
        system.Run start (events ++ more) final := by
  intro labels
  induction labels with
  | nil =>
      intro state final events more run replayed
      cases replayed
      rw [List.append_nil]
      exact run
  | cons label labels inductionHypothesis =>
      intro state final events more run replayed
      simp only [System.replay, Option.bind_eq_bind, Option.bind_eq_some_iff, Option.pure_def,
        Option.some.injEq, Prod.mk.injEq, Prod.exists] at replayed
      obtain ⟨next, advanced, later, _, replayed, rfl, rfl⟩ := replayed
      have continued := inductionHypothesis (run.extend (sound state label next advanced)) replayed
      rw [List.append_assoc] at continued
      exact continued

/-- A replay takes the steps of its labels, in order. -/
theorem replay_labels {advance : σ → ℓ → Option σ} :
    ∀ {labels : List ℓ} {state final : σ} {events : List (Event σ ℓ)},
      System.replay advance state labels = some (events, final) →
        events.map Event.label = labels := by
  intro labels
  induction labels with
  | nil =>
      intro state final events replayed
      cases replayed
      rfl
  | cons label labels inductionHypothesis =>
      intro state final events replayed
      simp only [System.replay, Option.bind_eq_bind, Option.bind_eq_some_iff, Option.pure_def,
        Option.some.injEq, Prod.mk.injEq, Prod.exists] at replayed
      obtain ⟨next, _, later, _, replayed, rfl, rfl⟩ := replayed
      rw [List.map_cons, inductionHypothesis replayed]

/-- A test on the outcome of a replay, as a statement about a run. -/
theorem exists_run_of_replay {advance : σ → ℓ → Option σ}
    (sound : ∀ state label next, advance state label = some next → system.step state label next)
    (start : σ) (initial : system.init start) (labels : List ℓ)
    (test : List (Event σ ℓ) → σ → Bool)
    (passes : (System.replay advance start labels).any fun outcome =>
      test outcome.1 outcome.2) :
    ∃ events final, system.Run start events final ∧ events.map Event.label = labels ∧
      test events final = true := by
  obtain ⟨⟨events, final⟩, replayed, passed⟩ := (Option.any_eq_true _ _).mp passes
  exact ⟨events, final, Run.replay sound (.nil initial) replayed, replay_labels replayed, passed⟩

end System

end DemurrageToken.Library
