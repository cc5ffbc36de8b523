import DemurrageToken.Contract.Replay
import DemurrageToken.Spec.Launch
import DemurrageToken.Spec.Nesting

/-!
Contract: the token among contracts that call it back.

Owns: that an application is, as far as the token can tell, a run of the token by
itself, transaction by transaction; and that instantiating the token in an
application leads to the state the application is studied from.

Does not own: what the calls of a run do.
-/

namespace DemurrageToken.Properties

open DemurrageToken.Library
open DemurrageToken.Library.System
open DemurrageToken.Library.Handler
open DemurrageToken.Contract
open DemurrageToken.MultiTest
open DemurrageToken.Spec

variable {ρ σ μ : Type} {keeper : Keeper ρ σ μ} {genesis : Genesis} {voices : Addr → Prop}

/-- Who signs an action. -/
def Signs : Action μ → Addr → Prop
  | .execute sender _, account => account = sender
  | _, _ => False

/-- A transaction calls the token in its block, keeps it registered, and changes
nothing where it fails. -/
theorem performed (confined : Confined keeper voices) {app next : App ρ σ} {depth : Nat}
    {action : Action μ} {outcome : Except Failure (List AppResponse)}
    (registered : Registered keeper app.world)
    (performs : app.perform keeper depth action = some (outcome, next)) :
    Registered keeper next.world ∧
      TokenCalls keeper.api app.block
        (Speaks fun account => Signs action account ∨ voices account) app.world.token
        next.world.token ∧
      (outcome.isOk = false → next = app) := by
  have keeps : RouterKeeps keeper app.block
      (fun account => Signs action account ∨ voices account) (keeper.router app.block depth) :=
    routerKeeps confined app.block (fun _ voiced => Or.inl (Or.inr voiced)) depth
  cases action with
  | setBlock block =>
      cases performs
      exact ⟨registered, .refl, nofun⟩
  | execute sender msgs =>
      rcases Option.map_eq_some_iff.mp performs with ⟨⟨result, world⟩, ran, same⟩
      cases same
      have kept := keepsToken_executeMulti keeps (Or.inl (Or.inl rfl)) msgs app.world _ _
        registered ran
      refine ⟨kept.1, kept.2, fun failed => ?_⟩
      cases result with
      | ok _ => cases failed
      | error _ => rw [eq_of_settles_transactional_error ran]
  | runSudo msg =>
      rcases Option.map_eq_some_iff.mp performs with ⟨⟨result, world⟩, ran, same⟩
      cases same
      have kept := keepsToken_appSudo keeps msg app.world _ _ registered ran
      refine ⟨kept.1, kept.2, fun failed => ?_⟩
      cases result with
      | ok _ => cases failed
      | error _ => rw [eq_of_settles_transactional_error ran]

theorem registered_of_reachable (confined : Confined keeper voices) {app : App ρ σ}
    (reachable : (appSystem keeper genesis).Reachable app) : Registered keeper app.world := by
  refine reachable.invariant (fun app => Registered keeper app.world) ?_ ?_
  · intro start launched
    exact launched.registered
  · intro app transaction next _ registered step
    rcases step with ⟨_, depth, performs⟩
    exact (performed confined registered performs).1

/-- The bytes of a text. -/
def bytesOf (text : String) : Binary := text.toUTF8.data.toList

/-- The messages of the sample to other modules. -/
inductive NativeMsg where
  | bank
  | custom

/-- A contract that burns 400 of whatever tokens it receives. -/
def burner : Contract (World Unit Storage) Storage NativeMsg where
  execute := fun _ _ _ info _ _ => pure {
    messages := [⟨0, .wasm (.execute info.sender.asStr
      (bytesOf "\x7b\"burn\":\x7b\"amount\":\"400\"\x7d\x7d") []), .never⟩] }
  instantiate := fun _ _ _ _ _ _ => pure {}
  reply := fun _ _ _ _ => fromResult (.error (.text "reply not implemented for contract"))
  wasmSudo := fun _ _ _ _ => fromResult (.error (.text "sudo not implemented for contract"))
  migrate := fun _ _ _ _ => fromResult (.error (.text "migrate not implemented for contract"))

/-- The text that instantiates the token. -/
def sampleInstantiateMsg : String :=
  "\x7b\"name\":\"Demurrage\",\"symbol\":\"DMR\",\"decimals\":6,\"initial_balances\":" ++
    "[\x7b\"address\":\"alice\",\"amount\":\"1000000\"\x7d],\"mint\":null," ++
    "\"tax_level_minute\":\"100000000000000000000000000\",\"period_minutes\":1," ++
    "\"supply_cap\":\"0\",\"sink_address\":\"sink\"\x7d"

/-- The texts of some messages. -/
def sampleMessages : List (String × ExecuteMsg) := [
  ("\x7b\"burn\":\x7b\"amount\":\"400\"\x7d\x7d", .burn 400),
  ("\x7b\"send\":\x7b\"contract\":\"contract1\",\"amount\":\"1000\",\"msg\":\"\"\x7d\x7d",
    .send "contract1" 1000 []),
  ("\x7b\"increase_allowance\":\x7b\"spender\":\"carol\",\"amount\":\"500\"\x7d\x7d",
    .increaseAllowance "carol" 500 none),
  ("\x7b\"burn_from\":\x7b\"owner\":\"alice\",\"amount\":\"300\"\x7d\x7d",
    .burnFrom "alice" 300)]

/-- A message to the token. -/
def toToken (text : String) : CosmosMsg NativeMsg :=
  .wasm (.execute "contract0" (bytesOf text) [])

/-- The custom module of the sample grants carol an allowance of the treasury. -/
def treasuryMsg : CosmosMsg NativeMsg :=
  toToken "\x7b\"increase_allowance\":\x7b\"spender\":\"carol\",\"amount\":\"500\"\x7d\x7d"

/-- The other modules of the sample: nobody has coins, and the custom module sends in
the name of the treasury. -/
def sampleModules (router : CosmosRouter Unit Storage NativeMsg) :
    NativeMsg → AppHandler Unit Storage AppResponse
  | .bank => fromResult (.error (.text "Cannot transfer empty coins amount"))
  | .custom => router.execute ⟨"treasury"⟩ treasuryMsg

/-- The sample without contracts. Its texts are the real ones for the messages above and
for receipts without a message. -/
def sampleHost : Keeper Unit Storage NativeMsg where
  api := sampleApi
  tokenAddr := contractAddress 0
  tokenCode := 1
  codes := fun _ => none
  decodeExecute := fun bytes =>
    match sampleMessages.find? fun message => bytesOf message.1 = bytes with
    | some message => .ok message.2
    | none => .error "Error parsing into type demurrage_token::msg::ExecuteMsg"
  decodeInstantiate := fun bytes =>
    if bytes = bytesOf sampleInstantiateMsg then .ok (sampleGenesis 1000000 none).msg
    else .error "Error parsing into type demurrage_token::msg::InstantiateMsg"
  encodeReceive := fun receive => bytesOf
    ("\x7b\"receive\":\x7b\"sender\":\"" ++ receive.sender ++ "\",\"amount\":\"" ++
      receive.amount.text ++ "\",\"msg\":\"\"\x7d\x7d")
  bankSend := fun _ _ => .bank
  moduleExecute := fun router _ _ msg => sampleModules router msg
  moduleSudo := fun _ _ _ => fromResult (.error (.text "Unexpected sudo msg"))
  describe := fun _ => "error executing WasmMsg"

/-- An application with the codes of the token and of the burner. -/
def sampleKeeper : Keeper Unit Storage NativeMsg :=
  { sampleHost with
    codes := fun code =>
      if code = 1 then some sampleHost.tokenContract else if code = 2 then some burner else none }

/-- The account that the custom module speaks for. -/
def isTreasury (account : Addr) : Prop := account = ⟨"treasury"⟩

theorem confined_sample : Confined sampleKeeper isTreasury where
  execute block sender msg := by
    cases msg with
    | bank => exact ⟨.finish (.error (.text "Cannot transfer empty coins amount")), trivial,
        fun _ => rfl⟩
    | custom =>
        refine ⟨.ask (.execute ⟨"treasury"⟩ treasuryMsg) .finish,
          ⟨Or.inr rfl, fun _ => trivial⟩, fun router => ?_⟩
        rw [Client.run_ask_finish]
        rfl
  runSudo block msg :=
    ⟨.finish (.error (.text "Unexpected sudo msg")), trivial, fun _ => rfl⟩

/-- The sample application before anything is instantiated. -/
def emptyApp : App Unit Storage := ⟨⟨∅, {}, fun _ => {}, ()⟩, (blockAt 0).block⟩

/-- The message that instantiates the token. -/
def tokenInstantiation : CosmosMsg NativeMsg :=
  .wasm (.instantiate none 1 (bytesOf sampleInstantiateMsg) [] "token")

/-- The message that instantiates the burner. -/
def burnerInstantiation : CosmosMsg NativeMsg :=
  .wasm (.instantiate none 2 [] [] "burner")

/-- The message that sends 1000 to the burner. -/
def sampleSend : CosmosMsg NativeMsg := toToken
  "\x7b\"send\":\x7b\"contract\":\"contract1\",\"amount\":\"1000\",\"msg\":\"\"\x7d\x7d"

/-- A transaction of the sample application that succeeds. -/
def succeed (app : App Unit Storage) (sender : Addr) (msg : CosmosMsg NativeMsg) :
    Option (List AppResponse × App Unit Storage) :=
  (app.perform sampleKeeper 3 (.execute sender [msg])).bind fun result =>
    result.1.toOption.map fun responses => (responses, result.2)

/-- Transactions one after the other, with their history. -/
def sampleHistory (app : App Unit Storage) : List (Addr × CosmosMsg NativeMsg) →
    Option (List (Event (App Unit Storage) (Transaction NativeMsg)) × App Unit Storage)
  | [] => some ([], app)
  | call :: calls =>
      (succeed app call.1 call.2).bind fun done =>
        (sampleHistory done.2 calls).map fun later =>
          (⟨app, ⟨.execute call.1 [call.2], .ok done.1⟩, done.2⟩ :: later.1, later.2)

/-- Alice instantiates the token and the burner, and the transactions follow. -/
def sampleRun (calls : List (Addr × CosmosMsg NativeMsg)) :
    Option (App Unit Storage × List (Event (App Unit Storage) (Transaction NativeMsg)) ×
      App Unit Storage) :=
  (succeed emptyApp ⟨"alice"⟩ tokenInstantiation).bind fun started =>
    (sampleHistory started.2 ((⟨"alice"⟩, burnerInstantiation) :: calls)).map fun history =>
      (started.2, history)

/-- The system of the sample application. -/
abbrev sampleSystem : System (App Unit Storage) (Transaction NativeMsg) :=
  appSystem sampleKeeper (sampleGenesis 1000000 none)

theorem performs_of_succeed {app next : App Unit Storage} {sender : Addr}
    {msg : CosmosMsg NativeMsg} {responses : List AppResponse}
    (succeeded : succeed app sender msg = some (responses, next)) :
    app.perform sampleKeeper 3 (.execute sender [msg]) = some (.ok responses, next) := by
  rcases Option.bind_eq_some_iff.mp succeeded with ⟨⟨failure | given, after⟩, performs, same⟩
  · cases same
  · cases same
    exact performs

theorem step_of_succeed {app next : App Unit Storage} {sender : Addr}
    {msg : CosmosMsg NativeMsg} {responses : List AppResponse}
    (succeeded : succeed app sender msg = some (responses, next)) :
    sampleSystem.step app ⟨.execute sender [msg], .ok responses⟩ next := by
  refine ⟨?_, 3, performs_of_succeed succeeded⟩
  intro block same
  cases same

/-- The sample application is studied from the instantiation of the token on. -/
theorem launched_sample {start : App Unit Storage} {responses : List AppResponse}
    (succeeded : succeed emptyApp ⟨"alice"⟩ tokenInstantiation = some (responses, start)) :
    Launched sampleKeeper (sampleGenesis 1000000 none) start := by
  rcases Option.map_eq_some_iff.mp (performs_of_succeed succeeded) with ⟨⟨result, world⟩, ran, same⟩
  cases same
  have numbered : Numbered emptyApp.world.registry := by
    intro address member
    exact absurd member Std.ExtTreeMap.not_mem_empty
  have next : Keeper.nextAddress emptyApp.world.registry = sampleKeeper.tokenAddr := by
    decide +kernel
  rcases launched_of_instantiate confined_sample rfl numbered next ran with
    ⟨decoded, valid, launched⟩
  have decodes : sampleKeeper.decodeInstantiate (bytesOf sampleInstantiateMsg) =
      .ok (sampleGenesis 1000000 none).msg := by
    simp only [sampleKeeper, sampleHost, if_true]
  cases decodes.symm.trans valid
  exact launched

theorem run_of_sampleHistory {start : App Unit Storage}
    {calls : List (Addr × CosmosMsg NativeMsg)} :
    ∀ {app final : App Unit Storage}
      {earlier events : List (Event (App Unit Storage) (Transaction NativeMsg))},
      sampleSystem.Run start earlier app → sampleHistory app calls = some (events, final) →
      sampleSystem.Run start (earlier ++ events) final := by
  induction calls with
  | nil =>
      intro app final earlier events run computed
      cases computed
      rw [List.append_nil]
      exact run
  | cons call calls inductionHypothesis =>
      intro app final earlier events run computed
      rcases Option.bind_eq_some_iff.mp computed with ⟨done, succeeded, rest⟩
      rcases Option.map_eq_some_iff.mp rest with ⟨later, followed, same⟩
      cases same
      have onward := inductionHypothesis (run.extend (step_of_succeed succeeded)) followed
      rw [List.append_assoc, List.singleton_append] at onward
      exact onward

/-- What is computed is a run of the sample application. -/
theorem exists_sampleRun (calls : List (Addr × CosmosMsg NativeMsg))
    (test : List (Event (App Unit Storage) (Transaction NativeMsg)) → App Unit Storage → Bool)
    (passes : (sampleRun calls).any fun outcome => test outcome.2.1 outcome.2.2) :
    ∃ start events final, sampleSystem.Run start events final ∧ test events final = true := by
  rcases (Option.any_eq_true _ _).mp passes with ⟨⟨start, events, final⟩, computed, passed⟩
  rcases Option.bind_eq_some_iff.mp computed with ⟨⟨responses, started⟩, succeeded, rest⟩
  rcases Option.map_eq_some_iff.mp rest with ⟨history, followed, same⟩
  cases same
  exact ⟨_, _, _, run_of_sampleHistory (.nil (launched_sample succeeded)) followed, passed⟩

end DemurrageToken.Properties
