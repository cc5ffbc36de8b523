import DemurrageToken.Library.Handler

/-!
Contract: handlers that take effect as a whole or not at all.

A transactional handler works on the store and puts it back where it fails. What
a store can go through under handlers that catch errors, roll back and call each
other is a matter of one invariant and one relation between stores: `Keeps` says
that a handler stays inside both, however it settles, and has one rule for each
combinator.

Owns: `transactional`, adapted errors, handlers on a component of the store, and
the rules of `Keeps`.

Does not own: the implementation of a transaction by a cache.
-/

namespace DemurrageToken.Library.Handler

variable {σ τ ε δ α β : Type}

/-- Run a handler, and put the store back where it returns an error. -/
def transactional (handler : Handler σ ε α) : Handler σ ε α :=
  ExceptT.mk fun store => (run handler store).map fun outcome =>
    match outcome.1 with
    | .ok value => (.ok value, outcome.2)
    | .error error => (.error error, store)

/-- Run a handler, and return its errors as others. -/
def adaptError (adapt : ε → δ) (handler : Handler σ ε α) : Handler σ δ α :=
  ExceptT.mk fun store => (run handler store).map fun outcome =>
    (outcome.1.mapError adapt, outcome.2)

/-- Run a handler on a component of the store; it also sees the store at entry. -/
def onComponent (part : σ → τ) (replace : τ → σ → σ) (handler : σ → Handler τ ε α) :
    Handler σ ε α :=
  ExceptT.mk fun store => (run (handler store) (part store)).map fun outcome =>
    (outcome.1, replace outcome.2 store)

/-- Run a handler on the stores with a condition, and abort on the others. -/
def onlyIf (condition : σ → Prop) [DecidablePred condition] (handler : Handler σ ε α) :
    Handler σ ε α :=
  ExceptT.mk fun store => if condition store then run handler store else none

theorem settles_transactional {handler : Handler σ ε α} {store after : σ}
    {result : Except ε α} :
    Settles (transactional handler) store result after ↔
      (∃ value, result = .ok value ∧ Returns handler store value after) ∨
      ∃ error middle, result = .error error ∧ Settles handler store (.error error) middle ∧
        store = after := by
  show (run handler store).map _ = some (result, after) ↔ _
  unfold Returns Settles
  rw [Option.map_eq_some_iff]
  constructor
  · intro found
    rcases found with ⟨⟨error | value, middle⟩, ran, same⟩
    · cases same
      exact Or.inr ⟨error, middle, rfl, ran, rfl⟩
    · cases same
      exact Or.inl ⟨value, rfl, ran⟩
  · intro found
    rcases found with ⟨value, rfl, ran⟩ | ⟨error, middle, rfl, ran, rfl⟩
    · exact ⟨_, ran, rfl⟩
    · exact ⟨_, ran, rfl⟩

theorem returns_transactional {handler : Handler σ ε α} {store after : σ} {value : α} :
    Returns (transactional handler) store value after ↔ Returns handler store value after := by
  rw [Returns, settles_transactional]
  constructor
  · intro found
    rcases found with ⟨_, same, ran⟩ | ⟨_, _, mismatch, _⟩
    · cases same
      exact ran
    · cases mismatch
  · intro ran
    exact Or.inl ⟨value, rfl, ran⟩

/-- A transaction that fails leaves the store as it was. -/
theorem eq_of_settles_transactional_error {handler : Handler σ ε α} {store after : σ} {error : ε}
    (settled : Settles (transactional handler) store (.error error) after) : after = store := by
  rcases settles_transactional.mp settled with ⟨_, mismatch, _⟩ | ⟨_, _, _, _, same⟩
  · cases mismatch
  · exact same.symm

theorem settles_adaptError {adapt : ε → δ} {handler : Handler σ ε α} {store after : σ}
    {result : Except δ α} :
    Settles (adaptError adapt handler) store result after ↔
      ∃ inner, Settles handler store inner after ∧ inner.mapError adapt = result := by
  show (run handler store).map _ = some (result, after) ↔ _
  unfold Settles
  rw [Option.map_eq_some_iff]
  constructor
  · intro found
    rcases found with ⟨⟨inner, middle⟩, ran, same⟩
    cases same
    exact ⟨inner, ran, rfl⟩
  · intro found
    rcases found with ⟨inner, ran, rfl⟩
    exact ⟨_, ran, rfl⟩

theorem returns_adaptError {adapt : ε → δ} {handler : Handler σ ε α} {store after : σ}
    {value : α} :
    Returns (adaptError adapt handler) store value after ↔
      Returns handler store value after := by
  rw [Returns, settles_adaptError]
  constructor
  · intro found
    rcases found with ⟨error | inner, ran, same⟩
    · cases same
    · cases same
      exact ran
  · intro ran
    exact ⟨_, ran, rfl⟩

theorem mapError_eq_ok {adapt : ε → δ} {result : Except ε α} {value : α} :
    result.mapError adapt = .ok value ↔ result = .ok value := by
  cases result <;> simp [Except.mapError]

theorem settles_onComponent {part : σ → τ} {replace : τ → σ → σ} {handler : σ → Handler τ ε α}
    {store after : σ} {result : Except ε α} :
    Settles (onComponent part replace handler) store result after ↔
      ∃ component, Settles (handler store) (part store) result component ∧
        replace component store = after := by
  show (run (handler store) (part store)).map _ = some (result, after) ↔ _
  unfold Settles
  rw [Option.map_eq_some_iff]
  constructor
  · intro found
    rcases found with ⟨⟨inner, component⟩, ran, same⟩
    cases same
    exact ⟨component, ran, rfl⟩
  · intro found
    rcases found with ⟨component, ran, rfl⟩
    exact ⟨_, ran, rfl⟩

theorem returns_onComponent {part : σ → τ} {replace : τ → σ → σ} {handler : σ → Handler τ ε α}
    {store after : σ} {value : α} :
    Returns (onComponent part replace handler) store value after ↔
      ∃ component, Returns (handler store) (part store) value component ∧
        replace component store = after :=
  settles_onComponent

/-! ## Relations that handlers keep -/

/-- From a store with the invariant, and however the handler settles, the
invariant still holds and the store has stayed inside the relation. -/
def Keeps (invariant : σ → Prop) (relation : σ → σ → Prop) (handler : Handler σ ε α) : Prop :=
  ∀ store result after, invariant store → Settles handler store result after →
    invariant after ∧ relation store after

section Keeps

variable {invariant : σ → Prop} {relation : σ → σ → Prop}

theorem keeps_checked [Std.Refl relation] (value : Option α) :
    Keeps invariant relation (checked value : Handler σ ε α) := by
  intro store result after holds settled
  rcases settles_checked.mp settled with ⟨_, rfl⟩
  exact ⟨holds, refl_of relation store⟩

theorem keeps_fromResult [Std.Refl relation] (value : Except ε α) :
    Keeps invariant relation (fromResult value : Handler σ ε α) := by
  intro store result after holds settled
  rcases settles_fromResult.mp settled with ⟨_, rfl⟩
  exact ⟨holds, refl_of relation store⟩

theorem keeps_pure [Std.Refl relation] (value : α) :
    Keeps invariant relation (pure value : Handler σ ε α) := by
  intro store result after holds settled
  rcases settles_pure.mp settled with ⟨_, rfl⟩
  exact ⟨holds, refl_of relation store⟩

theorem keeps_read [Std.Refl relation] (part : σ → α) :
    Keeps invariant relation (read part : Handler σ ε α) := by
  intro store result after holds settled
  rcases settles_read.mp settled with ⟨_, rfl⟩
  exact ⟨holds, refl_of relation store⟩

/-- The rest is only asked for the stores and values that the first part leaves. -/
theorem keeps_bind_at [IsTrans σ relation] {handler : Handler σ ε α} {next : α → Handler σ ε β}
    (first : Keeps invariant relation handler)
    (rest : ∀ store value middle, invariant store → Returns handler store value middle →
      ∀ result after, invariant middle → Settles (next value) middle result after →
        invariant after ∧ relation middle after) :
    Keeps invariant relation (handler >>= next) := by
  intro store result after holds settled
  rcases settles_bind.mp settled with ⟨value, middle, ran, continued⟩ | ⟨error, failed, _⟩
  · have before := first store _ middle holds ran
    have later := rest store value middle holds ran result after before.1 continued
    exact ⟨later.1, trans_of relation before.2 later.2⟩
  · exact first store _ after holds failed

theorem keeps_bind [IsTrans σ relation] {handler : Handler σ ε α} {next : α → Handler σ ε β}
    (first : Keeps invariant relation handler)
    (rest : ∀ store value middle, invariant store → Returns handler store value middle →
      Keeps invariant relation (next value)) :
    Keeps invariant relation (handler >>= next) := by
  apply keeps_bind_at first
  intro store value middle holds ran result after
  exact rest store value middle holds ran middle result after

theorem keeps_attempt {handler : Handler σ ε α} (keeps : Keeps invariant relation handler) :
    Keeps invariant relation (attempt handler) := by
  intro store result after holds settled
  change (run handler store).map _ = some (result, after) at settled
  rcases Option.map_eq_some_iff.mp settled with ⟨⟨inner, middle⟩, ran, same⟩
  cases same
  exact keeps store inner middle holds ran

/-- A transaction keeps what the handler keeps where it returns a value. -/
theorem keeps_transactional_of_returns [Std.Refl relation] {handler : Handler σ ε α}
    (keeps : ∀ store value after, invariant store → Returns handler store value after →
      invariant after ∧ relation store after) :
    Keeps invariant relation (transactional handler) := by
  intro store result after holds settled
  rcases settles_transactional.mp settled with ⟨value, _, ran⟩ | ⟨_, _, _, _, rfl⟩
  · exact keeps store value after holds ran
  · exact ⟨holds, refl_of relation store⟩

theorem keeps_transactional [Std.Refl relation] {handler : Handler σ ε α}
    (keeps : Keeps invariant relation handler) :
    Keeps invariant relation (transactional handler) := by
  apply keeps_transactional_of_returns
  intro store value after
  exact keeps store _ after

theorem keeps_adaptError {adapt : ε → δ} {handler : Handler σ ε α}
    (keeps : Keeps invariant relation handler) :
    Keeps invariant relation (adaptError adapt handler) := by
  intro store result after holds settled
  rcases settles_adaptError.mp settled with ⟨inner, ran, _⟩
  exact keeps store inner after holds ran

theorem keeps_onComponent {part : σ → τ} {replace : τ → σ → σ} {handler : σ → Handler τ ε α}
    (framed : ∀ store component, invariant store →
      invariant (replace component store) ∧ relation store (replace component store)) :
    Keeps invariant relation (onComponent part replace handler) := by
  intro store result after holds settled
  rcases settles_onComponent.mp settled with ⟨component, _, rfl⟩
  exact framed store component holds

theorem keeps_foldlM [Std.Refl relation] [IsTrans σ relation]
    {step : β → α → Handler σ ε β} {items : List α}
    (each : ∀ value, ∀ item ∈ items, Keeps invariant relation (step value item)) :
    ∀ initial, Keeps invariant relation (items.foldlM step initial) := by
  induction items with
  | nil =>
      intro initial
      exact keeps_pure initial
  | cons item items inductionHypothesis =>
      intro initial
      rw [List.foldlM_cons]
      apply keeps_bind (each initial item List.mem_cons_self)
      intro _ value _ _ _
      exact inductionHypothesis
        (fun value other member => each value other (List.mem_cons_of_mem _ member)) value

theorem keeps_mapM [Std.Refl relation] [IsTrans σ relation] {step : α → Handler σ ε β}
    {items : List α} (each : ∀ item ∈ items, Keeps invariant relation (step item)) :
    Keeps invariant relation (items.mapM step) := by
  induction items with
  | nil => exact keeps_pure []
  | cons item items inductionHypothesis =>
      rw [List.mapM_cons]
      apply keeps_bind (each item List.mem_cons_self)
      intro _ value _ _ _
      apply keeps_bind
        (inductionHypothesis fun other member => each other (List.mem_cons_of_mem _ member))
      intro _ values _ _ _
      exact keeps_pure _

end Keeps

/-! ## Handlers that settle more often -/

/-- `later` settles wherever `earlier` does, and alike. -/
def Extends (earlier later : Handler σ ε α) : Prop :=
  ∀ store result after, Settles earlier store result after → Settles later store result after

theorem extends_refl (handler : Handler σ ε α) : Extends handler handler :=
  fun _ _ _ settled => settled

theorem Extends.trans {first second third : Handler σ ε α} (early : Extends first second)
    (late : Extends second third) : Extends first third :=
  fun store result after settled => late store result after (early store result after settled)

theorem extends_none (handler : Handler σ ε α) : Extends (checked none) handler := by
  intro store result after settled
  rcases settles_checked.mp settled with ⟨⟨_, missing, _⟩, _⟩
  cases missing

theorem extends_bind {earlier later : Handler σ ε α} {next continued : α → Handler σ ε β}
    (first : Extends earlier later) (rest : ∀ value, Extends (next value) (continued value)) :
    Extends (earlier >>= next) (later >>= continued) := by
  intro store result after settled
  rw [settles_bind] at settled ⊢
  rcases settled with ⟨value, middle, ran, after⟩ | ⟨error, failed, same⟩
  · exact Or.inl ⟨value, middle, first _ _ _ ran, rest _ _ _ _ after⟩
  · exact Or.inr ⟨error, first _ _ _ failed, same⟩

theorem extends_attempt {earlier later : Handler σ ε α} (alike : Extends earlier later) :
    Extends (attempt earlier) (attempt later) := by
  intro store result after settled
  change (run earlier store).map _ = some (result, after) at settled
  rcases Option.map_eq_some_iff.mp settled with ⟨⟨inner, middle⟩, ran, same⟩
  cases same
  exact returns_attempt.mpr (alike _ _ _ ran)

theorem extends_transactional {earlier later : Handler σ ε α}
    (alike : Extends earlier later) :
    Extends (transactional earlier) (transactional later) := by
  intro store result after settled
  rw [settles_transactional] at settled ⊢
  rcases settled with ⟨value, same, ran⟩ | ⟨error, middle, same, ran, back⟩
  · exact Or.inl ⟨value, same, alike _ _ _ ran⟩
  · exact Or.inr ⟨error, middle, same, alike _ _ _ ran, back⟩

theorem extends_adaptError {adapt : ε → δ} {earlier later : Handler σ ε α}
    (alike : Extends earlier later) :
    Extends (adaptError adapt earlier) (adaptError adapt later) := by
  intro store result after settled
  rw [settles_adaptError] at settled ⊢
  rcases settled with ⟨inner, ran, same⟩
  exact ⟨inner, alike _ _ _ ran, same⟩

theorem extends_foldlM {earlier later : β → α → Handler σ ε β}
    (each : ∀ value item, Extends (earlier value item) (later value item)) (items : List α) :
    ∀ initial, Extends (items.foldlM earlier initial) (items.foldlM later initial) := by
  induction items with
  | nil =>
      intro initial
      exact extends_refl _
  | cons item items inductionHypothesis =>
      intro initial
      rw [List.foldlM_cons, List.foldlM_cons]
      exact extends_bind (each initial item) inductionHypothesis

/-- Two handlers settle alike, or both abort, from `store`. -/
def AgreeOn (store : σ) (left right : Handler σ ε α) : Prop :=
  run left store = run right store

theorem agreeOn_of_eq {left right : Handler σ ε α} (same : left = right) (store : σ) :
    AgreeOn store left right := by
  rw [AgreeOn, same]

theorem AgreeOn.settles {store after : σ} {left right : Handler σ ε α} {result : Except ε α}
    (agree : AgreeOn store left right) :
    Settles left store result after ↔ Settles right store result after := by
  unfold Settles
  rw [agree]

theorem agreeOn_iff_settles {store : σ} {left right : Handler σ ε α} :
    AgreeOn store left right ↔
      ∀ result after, Settles left store result after ↔ Settles right store result after := by
  constructor
  · intro agree result after
    exact agree.settles
  · intro alike
    apply Option.ext
    intro outcome
    exact alike outcome.1 outcome.2

theorem agreeOn_bind {store : σ} {left right : Handler σ ε α} {next continued : α → Handler σ ε β}
    (first : AgreeOn store left right)
    (rest : ∀ value middle, Returns left store value middle →
      AgreeOn middle (next value) (continued value)) :
    AgreeOn store (left >>= next) (right >>= continued) := by
  rw [agreeOn_iff_settles]
  intro result after
  rw [settles_bind, settles_bind]
  apply or_congr
  · constructor
    · intro ran
      rcases ran with ⟨value, middle, returned, settled⟩
      exact ⟨value, middle, first.settles.mp returned, (rest value middle returned).settles.mp settled⟩
    · intro ran
      rcases ran with ⟨value, middle, returned, settled⟩
      have returned := first.settles.mpr returned
      exact ⟨value, middle, returned, (rest value middle returned).settles.mpr settled⟩
  · simp only [first.settles]

theorem agreeOn_attempt {store : σ} {left right : Handler σ ε α}
    (agree : AgreeOn store left right) : AgreeOn store (attempt left) (attempt right) := by
  show (run left store).map _ = (run right store).map _
  rw [agree]

theorem agreeOn_transactional {store : σ} {left right : Handler σ ε α}
    (agree : AgreeOn store left right) :
    AgreeOn store (transactional left) (transactional right) := by
  show (run left store).map _ = (run right store).map _
  rw [agree]

theorem agreeOn_adaptError {store : σ} {adapt : ε → δ} {left right : Handler σ ε α}
    (agree : AgreeOn store left right) :
    AgreeOn store (adaptError adapt left) (adaptError adapt right) := by
  show (run left store).map _ = (run right store).map _
  rw [agree]

/-- Handlers that go on alike need to agree only before that. -/
theorem agreeOn_bind_first {store : σ} {left right : Handler σ ε α} {next : α → Handler σ ε β}
    (first : AgreeOn store left right) : AgreeOn store (left >>= next) (right >>= next) :=
  agreeOn_bind first fun _ last _ => agreeOn_of_eq rfl last

/-- Handlers that begin alike need to agree only after that. -/
theorem agreeOn_bind_rest {store : σ} {handler : Handler σ ε α}
    {next continued : α → Handler σ ε β}
    (rest : ∀ value middle, Returns handler store value middle →
      AgreeOn middle (next value) (continued value)) :
    AgreeOn store (handler >>= next) (handler >>= continued) :=
  agreeOn_bind (agreeOn_of_eq rfl store) rest

/-- What is read is the store that the rest runs on. -/
theorem agreeOn_read_bind {store : σ} {part : σ → β} {left : Handler σ ε α}
    {next : β → Handler σ ε α} (agree : AgreeOn store left (next (part store))) :
    AgreeOn store left (read part >>= next) :=
  agree

theorem agreeOn_onlyIf {store : σ} {condition : σ → Prop} [DecidablePred condition]
    {left right : Handler σ ε α} (agree : AgreeOn store left right) (holds : condition store) :
    AgreeOn store left (onlyIf condition right) :=
  agree.trans (if_pos holds).symm

section Invariant

variable {invariant : σ → Prop} {relation : σ → σ → Prop}

/-- Loops agree where their steps do and keep the invariant this rests on. -/
theorem agreeOn_foldlM {left right : β → α → Handler σ ε β} {items : List α}
    (keeps : ∀ value item, Keeps invariant relation (left value item))
    (each : ∀ value, ∀ item ∈ items, ∀ store, invariant store →
      AgreeOn store (left value item) (right value item)) :
    ∀ initial store, invariant store →
      AgreeOn store (items.foldlM left initial) (items.foldlM right initial) := by
  induction items with
  | nil =>
      intro initial store _
      exact agreeOn_of_eq rfl store
  | cons item items inductionHypothesis =>
      intro initial store holds
      rw [List.foldlM_cons, List.foldlM_cons]
      apply agreeOn_bind (each initial item List.mem_cons_self store holds)
      intro value middle returned
      exact inductionHypothesis
        (fun value other member => each value other (List.mem_cons_of_mem _ member)) value middle
        (keeps initial item store _ middle holds returned).1

theorem agreeOn_mapM {left right : α → Handler σ ε β} {items : List α}
    (keeps : ∀ item, Keeps invariant relation (left item))
    (each : ∀ item ∈ items, ∀ store, invariant store →
      AgreeOn store (left item) (right item)) :
    ∀ store, invariant store → AgreeOn store (items.mapM left) (items.mapM right) := by
  induction items with
  | nil =>
      intro store _
      exact agreeOn_of_eq rfl store
  | cons item items inductionHypothesis =>
      intro store holds
      rw [List.mapM_cons, List.mapM_cons]
      apply agreeOn_bind (each item List.mem_cons_self store holds)
      intro value middle returned
      apply agreeOn_bind_first
      exact inductionHypothesis (fun other member => each other (List.mem_cons_of_mem _ member))
        middle (keeps item store _ middle holds returned).1

end Invariant

end DemurrageToken.Library.Handler
