import DemurrageToken.Contract.System

/-!
Contract: runs computed from the messages sent.

Owns: instantiating and executing as functions, that what they compute is a
run of the token system, and the sample host and messages that concrete runs
are computed with.

Does not own: any property of runs.
-/

namespace DemurrageToken.Contract

open DemurrageToken.Library
open DemurrageToken.Library.Handler

/-- Instantiate on the empty storage. -/
def launch (api : Api) (genesis : Genesis) : Option Chain :=
  match run (instantiate api genesis.env genesis.msg) {} with
  | some (.ok _, storage) => some ⟨storage, genesis.env.block⟩
  | _ => none

/-- Execute a call, if its block is not earlier. -/
def advance (api : Api) (chain : Chain) (call : Call) : Option Chain :=
  if chain.block.time.nanos.toNat ≤ call.env.block.time.nanos.toNat then
    match run (execute api call.env call.info call.msg) chain.storage with
    | some (.ok _, storage) => some ⟨storage, call.env.block⟩
    | _ => none
  else
    none

theorem init_of_launch {api : Api} {genesis : Genesis} {start : Chain}
    (launched : launch api genesis = some start) : (tokenSystem api genesis).init start := by
  unfold launch at launched
  split at launched
  · rename_i response storage returned
    cases launched
    exact ⟨⟨response, returned⟩, rfl⟩
  · cases launched

theorem executes_of_advance {api : Api} {chain next : Chain} {call : Call}
    (advanced : advance api chain call = some next) :
    chain.block.time.nanos.toNat ≤ call.env.block.time.nanos.toNat ∧
      Executes api call chain.storage next.storage ∧ next.block = call.env.block := by
  unfold advance at advanced
  split at advanced
  · rename_i later
    split at advanced
    · rename_i response storage returned
      cases advanced
      exact ⟨later, ⟨response, returned⟩, rfl⟩
    · cases advanced
  · cases advanced

theorem step_of_advance {api : Api} {genesis : Genesis} {chain next : Chain} {call : Call}
    (advanced : advance api chain call = some next) :
    (tokenSystem api genesis).step chain call next :=
  executes_of_advance advanced

/-- Instantiate and execute the calls in order: a test on the outcome is a
statement about a run. -/
theorem exists_run (api : Api) (genesis : Genesis) (calls : List Call)
    (test : List (Event Chain Call) → Chain → Bool)
    (passes : (launch api genesis).any fun start =>
      (System.replay (advance api) start calls).any fun outcome => test outcome.1 outcome.2) :
    ∃ start events final, (tokenSystem api genesis).Run start events final ∧
      events.map Event.label = calls ∧ test events final = true := by
  obtain ⟨start, launched, replayed⟩ := (Option.any_eq_true _ _).mp passes
  obtain ⟨events, final, run, labels, passed⟩ :=
    System.exists_run_of_replay (fun _ _ _ advanced => step_of_advance advanced) start
      (init_of_launch launched) calls test replayed
  exact ⟨start, events, final, run, labels, passed⟩

/-- Execute two calls in both orders: a test on the two outcomes. -/
def bothOrders (api : Api) (first second : Call) (test : Chain → Chain → Bool)
    (chain : Chain) : Bool :=
  ((advance api chain first).bind (advance api · second)).any fun left =>
    ((advance api chain second).bind (advance api · first)).any fun right => test left right

theorem executes_of_bothOrders {api : Api} {first second : Call} {test : Chain → Chain → Bool}
    {chain : Chain} (passes : bothOrders api first second test chain = true) :
    ∃ afterFirst afterSecond left right : Chain,
      Executes api first chain.storage afterFirst.storage ∧
      Executes api second afterFirst.storage left.storage ∧
      Executes api second chain.storage afterSecond.storage ∧
      Executes api first afterSecond.storage right.storage ∧ test left right = true := by
  obtain ⟨left, inOrder, other⟩ := (Option.any_eq_true _ _).mp passes
  obtain ⟨right, reversed, passed⟩ := (Option.any_eq_true _ _).mp other
  obtain ⟨afterFirst, one, two⟩ := Option.bind_eq_some_iff.mp inOrder
  obtain ⟨afterSecond, three, four⟩ := Option.bind_eq_some_iff.mp reversed
  exact ⟨afterFirst, afterSecond, left, right, (executes_of_advance one).2.1,
    (executes_of_advance two).2.1, (executes_of_advance three).2.1,
    (executes_of_advance four).2.1, passed⟩

/-! ## The sample host -/

/-- A host that accepts every string of at least three bytes. -/
def sampleApi : Api where
  addrValidate := fun human =>
    if human.utf8ByteSize < 3 then
      .error (.genericErr "Invalid input: human address too short")
    else
      .ok ⟨human⟩
  addrValidate_unchanged := by
    intro human addr valid
    split at valid
    · cases valid
    · cases valid
      rfl

/-- A block at a time in seconds. -/
def blockAt (seconds : U64) : Env := ⟨⟨1, ⟨seconds * nanosPerSecond⟩⟩⟩

/-- A call by `sender` at a time in seconds. -/
def callAt (seconds : U64) (sender : String) (msg : ExecuteMsg) : Call :=
  ⟨blockAt seconds, ⟨⟨sender⟩⟩, msg⟩

/-- Instantiation at time zero with one account, periods of one minute, and a
tax of one percent a minute to `sink`. -/
def sampleGenesis (amount : U128) (minter : Option MinterResponse) : Genesis where
  env := blockAt 0
  msg := {
    name := "Demurrage"
    symbol := "DMR"
    decimals := 6
    initialBalances := [⟨"alice", amount⟩]
    mint := minter
    taxLevelMinute := 100000000000000000000000000
    periodMinutes := 1
    sinkAddress := "sink" }

end DemurrageToken.Contract
