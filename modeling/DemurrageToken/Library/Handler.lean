import Mathlib

/-!
Contract: message handlers over a store that may return, fail or abort.

A handler reads and writes a store and ends in one of three ways. It may
return a value, it may return an error (the store then keeps what was written
before, and the caller decides what to do with the error), or it may abort,
in which case there is no store to speak of. The transformer stack gives the
monad; this module gives the relation `Returns` that every specification is
written with, and one equivalence for each primitive, so that unfolding a
handler turns its program text into the facts a successful run leaves behind.

Owns: the stack, the primitives and their `returns_` equivalences, and the
rules for relations that handlers preserve.

Does not own: any particular store or message.
-/

namespace DemurrageToken.Library

/-- A handler over the store `σ` with errors `ε`. `none` is the abort. -/
abbrev Handler (σ ε : Type) : Type → Type := ExceptT ε (StateT σ Option)

namespace Handler

variable {σ ε α β : Type}

/-- Run a handler: the abort, or a result with the store it leaves. -/
def run (handler : Handler σ ε α) (store : σ) : Option (Except ε α × σ) :=
  (ExceptT.run handler).run store

/-- The handler does not abort: it ends with `result` and leaves `after`. -/
def Settles (handler : Handler σ ε α) (store : σ) (result : Except ε α) (after : σ) : Prop :=
  run handler store = some (result, after)

/-- The handler returns `value` and leaves `after`. -/
def Returns (handler : Handler σ ε α) (store : σ) (value : α) (after : σ) : Prop :=
  Settles handler store (.ok value) after

instance [DecidableEq ε] [DecidableEq α] [DecidableEq σ] (handler : Handler σ ε α) (store : σ)
    (result : Except ε α) (after : σ) : Decidable (Settles handler store result after) :=
  inferInstanceAs (Decidable (_ = _))

/-- A handler has one outcome. -/
theorem Settles.unique {handler : Handler σ ε α} {store : σ} {left right : Except ε α}
    {leftAfter rightAfter : σ} (first : Settles handler store left leftAfter)
    (second : Settles handler store right rightAfter) :
    left = right ∧ leftAfter = rightAfter := by
  have same : some (left, leftAfter) = some (right, rightAfter) := first.symm.trans second
  simpa using same

theorem Returns.unique {handler : Handler σ ε α} {store : σ} {left right : α}
    {leftAfter rightAfter : σ} (first : Returns handler store left leftAfter)
    (second : Returns handler store right rightAfter) :
    left = right ∧ leftAfter = rightAfter := by
  obtain ⟨same, sameAfter⟩ := Settles.unique first second
  exact ⟨Except.ok.inj same, sameAfter⟩

/-! ## Primitives -/

/-- Read a part of the store. -/
def read (part : σ → α) : Handler σ ε α :=
  ExceptT.mk fun store => some (.ok (part store), store)

/-- Write the store. -/
def write (change : σ → σ) : Handler σ ε Unit :=
  ExceptT.mk fun store => some (.ok (), change store)

/-- Continue with a computed value, or abort where it has none. -/
def checked (value : Option α) : Handler σ ε α :=
  ExceptT.mk fun store => value.map fun value => (.ok value, store)

/-- Continue with a result, or return its error. -/
def fromResult (result : Except ε α) : Handler σ ε α :=
  ExceptT.mk fun store => some (result, store)

/-- Continue with an optional value, or return `error`. -/
def orThrow (value : Option α) (error : ε) : Handler σ ε α :=
  fromResult (match value with
    | some value => .ok value
    | none => .error error)

/-- Return `error` where `condition` holds. -/
def reject (condition : Prop) [Decidable condition] (error : ε) : Handler σ ε Unit :=
  fromResult (if condition then .error error else .ok ())

/-- Hand the caller the result as a value: an error no longer ends the caller,
and what the handler wrote before it stays written. An abort is not caught. -/
def attempt (handler : Handler σ ε α) : Handler σ ε (Except ε α) :=
  ExceptT.mk fun store => (run handler store).map fun outcome => (.ok outcome.1, outcome.2)

/-! ## How a sequence runs -/

theorem run_read_bind {part : σ → α} {next : α → Handler σ ε β} {store : σ} :
    run (read part >>= next) store = run (next (part store)) store :=
  rfl

theorem run_write_bind {change : σ → σ} {next : Unit → Handler σ ε β} {store : σ} :
    run (write change >>= next) store = run (next ()) (change store) :=
  rfl

theorem run_checked_bind {value : Option α} {next : α → Handler σ ε β} {store : σ} :
    run (checked value >>= next) store = value.bind fun computed => run (next computed) store := by
  cases value <;> rfl

theorem run_attempt_bind {handler : Handler σ ε α} {next : Except ε α → Handler σ ε β} {store : σ} :
    run (attempt handler >>= next) store =
      (run handler store).bind fun outcome => run (next outcome.1) outcome.2 := by
  show ((run handler store).map _).bind _ = _
  cases run handler store <;> rfl

/-- What a run ends with, seen through a view of the store. -/
def runVia {τ : Type} (view : σ → τ) (handler : Handler σ ε α) (store : σ) :
    Option (Except ε α × τ) :=
  (run handler store).map fun outcome => (outcome.1, view outcome.2)

/-! ## What a successful run leaves behind -/

theorem settles_bind {handler : Handler σ ε α} {next : α → Handler σ ε β} {store after : σ}
    {result : Except ε β} :
    Settles (handler >>= next) store result after ↔
      (∃ value middle, Returns handler store value middle ∧
        Settles (next value) middle result after) ∨
      ∃ error, Settles handler store (.error error) after ∧ result = .error error := by
  have unfolded : run (handler >>= next) store =
      (run handler store).bind fun outcome =>
        match outcome.1 with
        | .ok value => run (next value) outcome.2
        | .error error => some (.error error, outcome.2) := by
    show (ExceptT.run (handler >>= next)).run store = _
    rw [ExceptT.run_bind, StateT.run_bind]
    show (run handler store).bind _ = _
    congr 1
    funext outcome
    rcases outcome with ⟨error | value, middle⟩ <;> rfl
  unfold Returns Settles
  rw [unfolded, Option.bind_eq_some_iff]
  constructor
  · rintro ⟨⟨error | value, middle⟩, first, rest⟩
    · simp only [Option.some.injEq, Prod.mk.injEq] at rest
      obtain ⟨rfl, rfl⟩ := rest
      exact Or.inr ⟨error, first, rfl⟩
    · exact Or.inl ⟨value, middle, first, rest⟩
  · rintro (⟨value, middle, first, rest⟩ | ⟨error, first, rfl⟩)
    · exact ⟨(.ok value, middle), first, rest⟩
    · exact ⟨(.error error, after), first, rfl⟩

theorem returns_bind {handler : Handler σ ε α} {next : α → Handler σ ε β} {store after : σ}
    {value : β} :
    Returns (handler >>= next) store value after ↔
      ∃ first middle, Returns handler store first middle ∧
        Returns (next first) middle value after := by
  rw [Returns, settles_bind]
  constructor
  · rintro (found | ⟨error, _, mismatch⟩)
    · exact found
    · cases mismatch
  · exact Or.inl

theorem settles_pure {value : α} {store after : σ} {result : Except ε α} :
    Settles (pure value : Handler σ ε α) store result after ↔
      .ok value = result ∧ store = after := by
  show some (Except.ok value, store) = some (result, after) ↔ _
  simp

theorem returns_pure {value result : α} {store after : σ} :
    Returns (pure value : Handler σ ε α) store result after ↔ value = result ∧ store = after := by
  rw [Returns, settles_pure, Except.ok.injEq]

theorem settles_read {part : σ → α} {store after : σ} {result : Except ε α} :
    Settles (read part : Handler σ ε α) store result after ↔
      .ok (part store) = result ∧ store = after := by
  show some (Except.ok (part store), store) = some (result, after) ↔ _
  simp

theorem returns_read {part : σ → α} {store after : σ} {value : α} :
    Returns (read part : Handler σ ε α) store value after ↔
      part store = value ∧ store = after := by
  rw [Returns, settles_read, Except.ok.injEq]

theorem settles_write {change : σ → σ} {store after : σ} {result : Except ε Unit} :
    Settles (write change : Handler σ ε Unit) store result after ↔
      .ok () = result ∧ change store = after := by
  show some (Except.ok (), change store) = some (result, after) ↔ _
  simp

theorem returns_write {change : σ → σ} {store after : σ} {value : Unit} :
    Returns (write change : Handler σ ε Unit) store value after ↔ change store = after := by
  simp [Returns, settles_write]

theorem settles_checked {value : Option α} {store after : σ} {result : Except ε α} :
    Settles (checked value : Handler σ ε α) store result after ↔
      (∃ computed, value = some computed ∧ .ok computed = result) ∧ store = after := by
  show value.map (fun value => (Except.ok value, store)) = some (result, after) ↔ _
  cases value <;> simp

theorem returns_checked {value : Option α} {store after : σ} {result : α} :
    Returns (checked value : Handler σ ε α) store result after ↔
      value = some result ∧ store = after := by
  simp [Returns, settles_checked]

theorem settles_fromResult {value result : Except ε α} {store after : σ} :
    Settles (fromResult value : Handler σ ε α) store result after ↔
      value = result ∧ store = after := by
  show some (value, store) = some (result, after) ↔ _
  simp

theorem returns_fromResult {value : Except ε α} {store after : σ} {result : α} :
    Returns (fromResult value : Handler σ ε α) store result after ↔
      value = .ok result ∧ store = after :=
  settles_fromResult

theorem returns_orThrow {value : Option α} {error : ε} {store after : σ} {result : α} :
    Returns (orThrow value error : Handler σ ε α) store result after ↔
      value = some result ∧ store = after := by
  unfold orThrow
  rw [returns_fromResult]
  cases value <;> simp

theorem settles_orThrow_error {value : Option α} {error failure : ε} {store after : σ} :
    Settles (orThrow value error : Handler σ ε α) store (.error failure) after ↔
      value = none ∧ error = failure ∧ store = after := by
  unfold orThrow
  rw [settles_fromResult]
  cases value <;> simp

theorem returns_reject {condition : Prop} [Decidable condition] {error : ε} {store after : σ}
    {value : Unit} :
    Returns (reject condition error : Handler σ ε Unit) store value after ↔
      ¬ condition ∧ store = after := by
  rw [reject, returns_fromResult]
  split <;> simp [*]

theorem returns_attempt {handler : Handler σ ε α} {store after : σ} {result : Except ε α} :
    Returns (attempt handler) store result after ↔ Settles handler store result after := by
  show (run handler store).map (fun outcome => (Except.ok outcome.1, outcome.2)) =
    some (Except.ok result, after) ↔ run handler store = some (result, after)
  cases run handler store with
  | none => simp
  | some outcome =>
      obtain ⟨left, right⟩ := outcome
      simp

/-- An attempt ends in no error. -/
theorem not_settles_attempt_error {handler : Handler σ ε α} {store after : σ} {error : ε} :
    ¬ Settles (attempt handler) store (.error error) after := by
  intro settled
  change (run handler store).map _ = some (Except.error error, after) at settled
  obtain ⟨outcome, _, mismatch⟩ := Option.map_eq_some_iff.mp settled
  cases mismatch

/-! ## Handlers with one answer -/

/-- Wherever the handler returns, it returns `answer`. -/
def Answers (handler : Handler σ ε α) (answer : α) : Prop :=
  ∀ store value after, Returns handler store value after → value = answer

theorem answers_pure (value : α) : Answers (pure value : Handler σ ε α) value := by
  intro store result after returned
  exact (returns_pure.mp returned).1.symm

theorem answers_bind {handler : Handler σ ε α} {next : α → Handler σ ε β} {answer : β}
    (rest : ∀ value, Answers (next value) answer) : Answers (handler >>= next) answer := by
  intro store result after returned
  obtain ⟨value, middle, _, continued⟩ := returns_bind.mp returned
  exact rest value middle result after continued

end Handler

end DemurrageToken.Library
