import DemurrageToken.Library.Atomic

/-!
Contract: code that owns a component of a store and asks others for the rest.

A client sees the whole store but changes only its own component. Everything else it
has to ask for: an answer may be an error, from which the client may go on, and it may
run a part of itself as a transaction. Who answers is left open, so that one client can
be run against several servers and the runs compared.

Owns: clients, their runs, what they may ask, and the rules for runs.

Does not own: the servers.
-/

namespace DemurrageToken.Library

open DemurrageToken.Library.Handler

/-- The code of a client on the store `σ` that owns a component `τ` of it, asks `ι`,
and returns `α`, as its servers do. -/
inductive Client (σ τ ι ε α : Type) where
  | finish (result : Except ε α)
  | abort
  | look (next : σ → Client σ τ ι ε α)
  | change (component : τ) (next : Client σ τ ι ε α)
  | ask (request : ι) (next : Except ε α → Client σ τ ι ε α)
  | transact (action : Client σ τ ι ε α) (next : Except ε α → Client σ τ ι ε α)

namespace Client

variable {σ τ ι ε α : Type}

/-- Run a client whose requests `answer` serves. -/
def run (replace : τ → σ → σ) (answer : ι → Handler σ ε α) : Client σ τ ι ε α → Handler σ ε α
  | .finish result => fromResult result
  | .abort => checked none
  | .look next => do
      let store ← read id
      run replace answer (next store)
  | .change component next => do
      write (replace component)
      run replace answer next
  | .ask request next => do
      let result ← attempt (answer request)
      run replace answer (next result)
  | .transact action next => do
      let result ← attempt (transactional (run replace answer action))
      run replace answer (next result)

/-- A client that passes the one answer on. -/
theorem run_ask_finish {replace : τ → σ → σ} {answer : ι → Handler σ ε α} (request : ι) :
    (ask request finish : Client σ τ ι ε α).run replace answer = answer request := by
  funext store
  apply Option.ext
  rintro ⟨result, after⟩
  show Settles (attempt (answer request) >>= fromResult) store result after ↔
    Settles (answer request) store result after
  rw [settles_bind]
  constructor
  · rintro (⟨value, middle, attempted, passed⟩ | ⟨error, failed, _⟩)
    · rcases settles_fromResult.mp passed with ⟨rfl, rfl⟩
      exact returns_attempt.mp attempted
    · exact absurd failed not_settles_attempt_error
  · intro settled
    exact Or.inl ⟨result, after, returns_attempt.mpr settled, rfl⟩

/-- All requests are allowed, whatever the client reads and is answered. -/
def Asks (allowed : ι → Prop) : Client σ τ ι ε α → Prop
  | .finish _ => True
  | .abort => True
  | .look next => ∀ store, Asks allowed (next store)
  | .change _ next => Asks allowed next
  | .ask request next => allowed request ∧ ∀ result, Asks allowed (next result)
  | .transact action next => Asks allowed action ∧ ∀ result, Asks allowed (next result)

theorem Asks.mono {allowed wider : ι → Prop} (wide : ∀ request, allowed request → wider request)
    {client : Client σ τ ι ε α} (asks : client.Asks allowed) : client.Asks wider := by
  induction client with
  | finish _ => trivial
  | abort => trivial
  | look next inductionHypothesis => exact fun store => inductionHypothesis store (asks store)
  | change _ next inductionHypothesis => exact inductionHypothesis asks
  | ask request next inductionHypothesis =>
      exact ⟨wide request asks.1, fun result => inductionHypothesis result (asks.2 result)⟩
  | transact action next actionHypothesis nextHypothesis =>
      exact ⟨actionHypothesis asks.1, fun result => nextHypothesis result (asks.2 result)⟩

variable {replace : τ → σ → σ} {allowed : ι → Prop} {client : Client σ τ ι ε α}

/-- A run keeps what the answers keep, if changes of the component keep it. -/
theorem keeps_run {invariant : σ → Prop} {relation : σ → σ → Prop} [Std.Refl relation]
    [IsTrans σ relation] {answer : ι → Handler σ ε α}
    (owned : ∀ store component, invariant store →
      invariant (replace component store) ∧ relation store (replace component store))
    (answers : ∀ request, allowed request → Keeps invariant relation (answer request))
    (asks : client.Asks allowed) : Keeps invariant relation (client.run replace answer) := by
  induction client with
  | finish result => exact keeps_fromResult result
  | abort => exact keeps_checked none
  | look next inductionHypothesis =>
      apply keeps_bind (keeps_read id)
      intro _ store _ _ _
      exact inductionHypothesis store (asks store)
  | change component next inductionHypothesis =>
      refine keeps_bind ?_ fun _ _ _ _ _ => inductionHypothesis asks
      intro store result after holds settled
      rcases settles_write.mp settled with ⟨_, rfl⟩
      exact owned store component holds
  | ask request next inductionHypothesis =>
      apply keeps_bind (keeps_attempt (answers request asks.1))
      intro _ result _ _ _
      exact inductionHypothesis result (asks.2 result)
  | transact action next actionHypothesis nextHypothesis =>
      apply keeps_bind (keeps_attempt (keeps_transactional (actionHypothesis asks.1)))
      intro _ result _ _ _
      exact nextHypothesis result (asks.2 result)

/-- Servers that settle more requests settle more runs. -/
theorem extends_run {earlier later : ι → Handler σ ε α}
    (alike : ∀ request, Extends (earlier request) (later request)) (client : Client σ τ ι ε α) :
    Extends (client.run replace earlier) (client.run replace later) := by
  induction client with
  | finish result => exact extends_refl _
  | abort => exact extends_refl _
  | look next inductionHypothesis => exact extends_bind (extends_refl _) inductionHypothesis
  | change component next inductionHypothesis =>
      exact extends_bind (extends_refl _) fun _ => inductionHypothesis
  | ask request next inductionHypothesis =>
      exact extends_bind (extends_attempt (alike request)) inductionHypothesis
  | transact action next actionHypothesis nextHypothesis =>
      exact extends_bind (extends_attempt (extends_transactional actionHypothesis)) nextHypothesis

/-- Runs agree where the answers do, on stores with an invariant that they keep. -/
theorem agreeOn_run {invariant : σ → Prop} {relation : σ → σ → Prop} [Std.Refl relation]
    [IsTrans σ relation] {left right : ι → Handler σ ε α}
    (owned : ∀ store component, invariant store →
      invariant (replace component store) ∧ relation store (replace component store))
    (answers : ∀ request, allowed request → Keeps invariant relation (left request))
    (agree : ∀ request, allowed request → ∀ store, invariant store →
      AgreeOn store (left request) (right request))
    (asks : client.Asks allowed) :
    ∀ store, invariant store →
      AgreeOn store (client.run replace left) (client.run replace right) := by
  induction client with
  | finish result => exact fun store _ => agreeOn_of_eq rfl store
  | abort => exact fun store _ => agreeOn_of_eq rfl store
  | look next inductionHypothesis =>
      intro store holds
      apply agreeOn_bind_rest
      intro seen middle looked
      obtain rfl := (returns_read.mp looked).2
      exact inductionHypothesis seen (asks seen) store holds
  | change component next inductionHypothesis =>
      intro store holds
      apply agreeOn_bind_rest
      intro _ middle wrote
      obtain rfl := returns_write.mp wrote
      exact inductionHypothesis asks _ (owned store component holds).1
  | ask request next inductionHypothesis =>
      intro store holds
      apply agreeOn_bind (agreeOn_attempt (agree request asks.1 store holds))
      intro result middle answered
      have stays := keeps_attempt (answers request asks.1) store _ middle holds answered
      exact inductionHypothesis result (asks.2 result) middle stays.1
  | transact action next actionHypothesis nextHypothesis =>
      intro store holds
      have keeps := keeps_run owned answers asks.1
      apply agreeOn_bind (agreeOn_attempt (agreeOn_transactional
        (actionHypothesis asks.1 store holds)))
      intro result middle ended
      have stays := keeps_attempt (keeps_transactional keeps) store _ middle holds ended
      exact nextHypothesis result (asks.2 result) middle stays.1

end Client

end DemurrageToken.Library
