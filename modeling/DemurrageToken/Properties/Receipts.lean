import DemurrageToken.Properties.Reentrancy
import DemurrageToken.Spec.Hooks

/-!
Contract: that a contract may believe what the token tells it.

A guarded router stops the whole application at any message in the name of the token,
except while a call of the token is processed: then it lets the hook of that call pass,
if the token has executed a send on the storage it had just before, and nothing else has
happened since. An application with the guarded router does the same as without: the
guard never stops it.

Owns: the guarded router and the agreement of the two applications.

Does not own: what a contract does with what it is told.
-/

namespace DemurrageToken.Properties

open DemurrageToken.Library
open DemurrageToken.Library.System
open DemurrageToken.Library.Handler
open DemurrageToken.Contract
open DemurrageToken.MultiTest
open DemurrageToken.Spec

variable {ρ σ μ : Type}

/-- `said` is the hook of the call with `bytes` that `sender` made on the world `before`:
the token has executed the send in it on the storage it had there, and the world is as it
left it. -/
def Genuine (keeper : Keeper ρ σ μ) (block : BlockInfo) (sender : Addr) (bytes : Binary)
    (before : World ρ σ) (said : CosmosMsg μ) (world : World ρ σ) : Prop :=
  ∃ sent contract receive, keeper.decodeExecute bytes = .ok sent ∧
    Executes keeper.api ⟨⟨block⟩, ⟨sender⟩, sent⟩ before.token world.token ∧
    world = { before with token := world.token } ∧
    hookOf sender sent = some (contract, receive) ∧
    said = .wasm (.execute contract (keeper.encodeReceive receive) [])

/-- What the token may say while a message of `sender` that came in on `entry` is
processed. Where the message calls the token, that is the hook of the call, made once its
funds were sent; otherwise it is nothing. -/
def Expected (keeper : Keeper ρ σ μ) (block : BlockInfo) (router : Router ρ σ μ) (sender : Addr)
    (entry : World ρ σ) : CosmosMsg μ → CosmosMsg μ → World ρ σ → Prop
  | .wasm (.execute contractAddr bytes funds), said, world =>
      contractAddr = keeper.tokenAddr.asStr ∧ ∃ receipt paid,
        Returns (keeper.send router sender contractAddr funds) entry receipt paid ∧
          Genuine keeper block sender bytes paid said world
  | _, _, _ => False

open Classical in
/-- The router, which stops the application at an unexpected message of the token. -/
noncomputable def watch (keeper : Keeper ρ σ μ) (expected : CosmosMsg μ → World ρ σ → Prop)
    (router : Router ρ σ μ) : Router ρ σ μ :=
  { router with
    execute := fun sender msg =>
      if sender = keeper.tokenAddr then
        onlyIf (expected msg) (router.execute sender msg)
      else
        router.execute sender msg }

/-- `Router::execute`, on whose way back the token says what is expected. -/
noncomputable def guardedExecute (keeper : Keeper ρ σ μ) (block : BlockInfo)
    (router : Router ρ σ μ) (sender : Addr) (msg : CosmosMsg μ) : AppHandler ρ σ AppResponse := do
  let entry ← read id
  keeper.routerExecute block (watch keeper (Expected keeper block router sender entry msg) router)
    sender msg

/-- The guarded router. Privileged messages and replies let the token say nothing. -/
noncomputable def guardedRouter (keeper : Keeper ρ σ μ) (block : BlockInfo) : Nat → Router ρ σ μ
  | 0 => keeper.router block 0
  | depth + 1 => {
      execute := guardedExecute keeper block (guardedRouter keeper block depth)
      runSudo := keeper.routerSudo block
        (watch keeper (fun _ _ => False) (guardedRouter keeper block depth))
      reply := keeper.replyTo block
        (watch keeper (fun _ _ => False) (guardedRouter keeper block depth)) }

variable {keeper : Keeper ρ σ μ} {block : BlockInfo} {world : World ρ σ} {voices : Addr → Prop}

section GuardedRouter

variable {depth : Nat} {sender contract : Addr}

@[simp] theorem guardedRouter_zero : guardedRouter keeper block 0 = keeper.router block 0 :=
  rfl

@[simp] theorem guardedRouter_execute_succ {msg : CosmosMsg μ} :
    (guardedRouter keeper block (depth + 1)).execute sender msg =
      guardedExecute keeper block (guardedRouter keeper block depth) sender msg :=
  rfl

@[simp] theorem guardedRouter_runSudo_succ {msg : SudoMsg μ} :
    (guardedRouter keeper block (depth + 1)).runSudo msg =
      keeper.routerSudo block
        (watch keeper (fun _ _ => False) (guardedRouter keeper block depth)) msg :=
  rfl

@[simp] theorem guardedRouter_reply_succ {reply : Reply} :
    (guardedRouter keeper block (depth + 1)).reply contract reply =
      keeper.replyTo block
        (watch keeper (fun _ _ => False) (guardedRouter keeper block depth)) contract reply :=
  rfl

end GuardedRouter

/-! ## Routers -/

/-- The two routers agree, except perhaps on messages of the token. -/
structure OthersAgree (keeper : Keeper ρ σ μ) (left right : Router ρ σ μ) : Prop where
  execute : ∀ {world : World ρ σ} {sender : Addr} (msg : CosmosMsg μ),
    Registered keeper world → sender ≠ keeper.tokenAddr →
    AgreeOn world (left.execute sender msg) (right.execute sender msg)
  runSudo : ∀ {world : World ρ σ} (msg : SudoMsg μ), Registered keeper world →
    AgreeOn world (left.runSudo msg) (right.runSudo msg)
  reply : ∀ {world : World ρ σ} (contract : Addr) (reply : Reply), Registered keeper world →
    AgreeOn world (left.reply contract reply) (right.reply contract reply)

/-- They also agree on what the token says: calls of a contract, without funds. -/
structure RoutersAgree (keeper : Keeper ρ σ μ) (left right : Router ρ σ μ) : Prop
    extends OthersAgree keeper left right where
  token : ∀ {world : World ρ σ} (contract : String) (bytes : Binary), Registered keeper world →
    AgreeOn world (left.execute keeper.tokenAddr (.wasm (.execute contract bytes [])))
      (right.execute keeper.tokenAddr (.wasm (.execute contract bytes [])))

section Agree

variable {left right : Router ρ σ μ}

/-- Watching the token makes no difference to the others. -/
theorem OthersAgree.watch (agree : OthersAgree keeper left right)
    (expected : CosmosMsg μ → World ρ σ → Prop) :
    OthersAgree keeper left (watch keeper expected right) where
  execute msg registered other := by
    unfold Properties.watch
    dsimp only
    rw [if_neg other]
    exact agree.execute msg registered other
  runSudo := agree.runSudo
  reply := agree.reply

theorem agreeOn_executeSubmsg (agree : OthersAgree keeper left right)
    (keeps : RouterKeeps keeper block anybody left) {contract : Addr} {msg : SubMsg μ}
    (registered : Registered keeper world)
    (first : AgreeOn world (left.execute contract msg.msg) (right.execute contract msg.msg)) :
    AgreeOn world (keeper.executeSubmsg left contract msg)
      (keeper.executeSubmsg right contract msg) := by
  have tried := keeps_attempt
    (keeps_transactional (keeps.execute contract msg.msg (anybody_speaks contract)))
  apply agreeOn_bind (agreeOn_attempt (agreeOn_transactional first))
  intro outcome middle returned
  have stays := registered_of_keeps block tried registered returned
  cases outcome with
  | ok response =>
      dsimp only
      split
      · exact agreeOn_bind_first (agree.reply contract _ stays)
      · exact agreeOn_of_eq rfl middle
  | error failure =>
      dsimp only
      split
      · exact agree.reply contract _ stays
      · exact agreeOn_of_eq rfl middle

/-- The messages of a contract other than the token. -/
theorem agreeOn_processResponse (agree : OthersAgree keeper left right)
    (keeps : RouterKeeps keeper block anybody left) {contract : Addr}
    (isContract : IsContract contract) (other : contract ≠ keeper.tokenAddr)
    (registered : Registered keeper world) (response : AppResponse × List (SubMsg μ)) :
    AgreeOn world (keeper.processResponse left contract response)
      (keeper.processResponse right contract response) := by
  apply agreeOn_foldlM (keepsToken_gatherSubmsg keeps isContract) _ _ world registered
  intro gathered resend _ store stays
  exact agreeOn_bind_first
    (agreeOn_executeSubmsg agree keeps stays (agree.execute resend.msg stays other))

/-- The message of the token, where it is expected. -/
theorem agreeOn_processResponse_token (agree : RoutersAgree keeper left right)
    (keeps : RouterKeeps keeper block anybody left) (registered : Registered keeper world)
    {sender : Addr} {sent : ExecuteMsg} {expected : CosmosMsg μ → World ρ σ → Prop}
    (genuine : ∀ contract receive, hookOf sender sent = some (contract, receive) →
      expected (.wasm (.execute contract (keeper.encodeReceive receive) [])) world)
    (event : AppEvent) :
    AgreeOn world
      (keeper.processResponse left keeper.tokenAddr
        (buildAppResponse keeper.tokenAddr event (keeper.tokenResponse (responseOf sender sent))))
      (keeper.processResponse (watch keeper expected right) keeper.tokenAddr
        (buildAppResponse keeper.tokenAddr event
          (keeper.tokenResponse (responseOf sender sent)))) := by
  unfold Keeper.processResponse buildAppResponse Keeper.tokenResponse responseOf
  cases hook : hookOf sender sent with
  | none => exact agreeOn_of_eq rfl world
  | some told =>
      have delivered : AgreeOn world
          (left.execute keeper.tokenAddr
            (.wasm (.execute told.1 (keeper.encodeReceive told.2) [])))
          ((watch keeper expected right).execute keeper.tokenAddr
            (.wasm (.execute told.1 (keeper.encodeReceive told.2) []))) := by
        classical
        unfold watch
        dsimp only
        rw [if_pos rfl]
        exact agreeOn_onlyIf (agree.token _ _ registered) (genuine told.1 told.2 hook)
      simp only [Option.toList_some, List.map_cons, List.map_nil, List.foldlM_cons,
        List.foldlM_nil]
      exact agreeOn_bind_first (agreeOn_bind_first
        (agreeOn_executeSubmsg (agree.watch expected) keeps registered delivered))

theorem agreeOn_send (agree : OthersAgree keeper left right) {sender : Addr}
    {recipient : String} {amount : List Coin} (registered : Registered keeper world)
    (plain : sender = keeper.tokenAddr → amount = []) :
    AgreeOn world (keeper.send left sender recipient amount)
      (keeper.send right sender recipient amount) := by
  unfold Keeper.send
  split
  · exact agreeOn_of_eq rfl world
  · rename_i funded
    exact agree.execute _ registered fun same => funded (plain same)

theorem valid_of_validateAddr {human : String} {contract : Addr} {middle : World ρ σ}
    (returned : Returns (keeper.validateAddr human) world contract middle) :
    keeper.api.addrValidate human = .ok contract ∧ human = contract.asStr ∧ world = middle := by
  rcases returns_fromResult.mp returned with ⟨valid, rfl⟩
  have valid := mapError_eq_ok.mp valid
  have same := keeper.api.addrValidate_eq valid
  exact ⟨valid, congrArg Addr.asStr same.symm, rfl⟩

/-- A call of a contract, by anybody; the token sends no funds. -/
theorem agreeOn_executeWasm_execute (agree : RoutersAgree keeper left right)
    (keeps : RouterKeeps keeper block anybody left) {sender : Addr} {contractAddr : String}
    {bytes : Binary} {funds : List Coin} (registered : Registered keeper world)
    (plain : sender = keeper.tokenAddr → funds = []) :
    AgreeOn world (keeper.executeWasm block left sender (.execute contractAddr bytes funds))
      (keeper.executeWasm block (watch keeper (Expected keeper block right sender world
        (.wasm (.execute contractAddr bytes funds))) right) sender
        (.execute contractAddr bytes funds)) := by
  apply agreeOn_bind_rest
  intro contract middle validated
  rcases valid_of_validateAddr validated with ⟨valid, rfl, rfl⟩
  apply agreeOn_bind (agreeOn_send (agree.watch _) registered plain)
  intro receipt paid sent
  have pays := (agreeOn_send agree.toOthersAgree registered plain).settles.mp sent
  have stays :=
    registered_of_keeps block (keepsToken_send keeps (anybody_speaks sender) _ _) registered sent
  apply agreeOn_bind_rest
  intro res moved called
  have ends := registered_of_keeps block
    (keepsToken_callExecute (anybody_speaks sender) contract funds bytes) stays called
  apply agreeOn_bind_first
  by_cases isToken : contract = keeper.tokenAddr
  · subst isToken
    rcases (returns_callExecute_token stays valid).mp called with ⟨msg, token, accepts, rfl, rfl⟩
    apply agreeOn_processResponse_token agree keeps ends
    intro told receive hook
    exact ⟨rfl, receipt, paid, pays, msg, told, receive, accepts.decoded, accepts.executed, rfl,
      hook, rfl⟩
  · exact agreeOn_processResponse (agree.watch _) keeps (isContract_of_call stays called) isToken
      ends _

/-- Messages to contracts that call none of them. -/
theorem agreeOn_executeWasm (agree : OthersAgree keeper left right)
    (keeps : RouterKeeps keeper block anybody left) {sender : Addr}
    (registered : Registered keeper world) (other : sender ≠ keeper.tokenAddr) {msg : WasmCall}
    (calls : ∀ contractAddr bytes funds, msg ≠ .execute contractAddr bytes funds) :
    AgreeOn world (keeper.executeWasm block left sender msg)
      (keeper.executeWasm block right sender msg) := by
  cases msg with
  | execute contractAddr bytes funds => exact absurd rfl (calls contractAddr bytes funds)
  | «instantiate» admin codeId bytes funds label =>
      apply agreeOn_bind_rest
      intro _ middle labelled
      obtain rfl := (returns_fromResult.mp labelled).2
      apply agreeOn_bind_rest
      intro contract added made
      have joins : Registered keeper added :=
        registered_of_keeps block (keepsToken_registerContract _ _ _ _ block.height) registered made
      rcases returns_registerContract.mp made with ⟨_, rfl, _⟩
      apply agreeOn_bind (agreeOn_send agree joins fun same => absurd same other)
      intro _ paid sent
      have stays :=
        registered_of_keeps block (keepsToken_send keeps (anybody_speaks sender) _ _) joins sent
      apply agreeOn_bind_rest
      intro res last called
      have ends := registered_of_keeps block
        (keepsToken_callInstantiate registered.nextAddress_ne sender funds bytes) stays called
      exact agreeOn_bind_first
        (agreeOn_processResponse agree keeps ⟨_, rfl⟩ registered.nextAddress_ne ends _)
  | migrate contractAddr newCodeId bytes =>
      apply agreeOn_bind_rest
      intro contract middle validated
      rcases valid_of_validateAddr validated with ⟨_, rfl, rfl⟩
      apply agreeOn_bind_rest
      intro _ middle known
      obtain rfl := (returns_reject.mp known).2
      apply agreeOn_bind_rest
      intro data middle loaded
      rcases returns_loadContract.mp loaded with ⟨found, rfl⟩
      apply agreeOn_bind_rest
      intro _ middle authorised
      rcases returns_reject.mp authorised with ⟨admin, rfl⟩
      rcases registered.migrate newCodeId found (not_not.mp admin) with ⟨isOther, joins⟩
      apply agreeOn_bind_rest
      intro _ saved wrote
      obtain rfl := returns_write.mp wrote
      apply agreeOn_bind_rest
      intro res last called
      have stays := registered_of_keeps block (keepsToken_callMigrate contract bytes) joins called
      exact agreeOn_bind_first
        (agreeOn_processResponse agree keeps (registered.isContract found) isOther stays _)
  | unsupported => exact agreeOn_of_eq rfl world

/-- The token has no `reply` and no `sudo`. -/
theorem other_of_returns {contract : Addr} {response : ContractResponse μ} {after : World ρ σ}
    {action : ∀ {τ : Type}, Contract (World ρ σ) τ μ → World ρ σ →
      Handler τ Failure (ContractResponse μ)} {failure : Failure}
    (registered : Registered keeper world)
    (missing : ∀ world, action keeper.tokenContract world = fromResult (.error failure))
    (returned : Returns (Keeper.verified (keeper.withStorage contract action)) world response
      after) : contract ≠ keeper.tokenAddr := by
  rintro rfl
  rcases registered.token with ⟨data, found, code, _⟩
  rcases returns_bind.mp returned with ⟨_, _, called, _⟩
  rcases (returns_withStorage_token found code).mp called with ⟨token, ran, _⟩
  rw [missing, returns_fromResult] at ran
  cases ran.1

theorem agreeOn_replyTo (agree : OthersAgree keeper left right)
    (keeps : RouterKeeps keeper block anybody left) (registered : Registered keeper world)
    (contract : Addr) (reply : Reply) :
    AgreeOn world (keeper.replyTo block left contract reply)
      (keeper.replyTo block right contract reply) := by
  apply agreeOn_bind_rest
  intro res middle called
  have stays := registered_of_keeps block (keepsToken_callReply contract reply) registered called
  have other := other_of_returns registered (fun _ => rfl) called
  exact agreeOn_processResponse agree keeps (isContract_of_call registered called) other stays _

theorem agreeOn_wasmSudo (agree : OthersAgree keeper left right)
    (keeps : RouterKeeps keeper block anybody left) (registered : Registered keeper world)
    (contract : Addr) (msg : Binary) :
    AgreeOn world (keeper.wasmSudo block left contract msg)
      (keeper.wasmSudo block right contract msg) := by
  apply agreeOn_bind_rest
  intro res middle called
  have stays := registered_of_keeps block (keepsToken_callSudo contract msg) registered called
  have other := other_of_returns registered (fun _ => rfl) called
  exact agreeOn_processResponse agree keeps (isContract_of_call registered called) other stays _

/-- What others than the token ask of the routers. -/
theorem OthersAgree.answers (agree : OthersAgree keeper left right) (request : Request μ)
    (named : InNameOf (fun account => account ≠ keeper.tokenAddr) request) (world : World ρ σ)
    (registered : Registered keeper world) :
    AgreeOn world (answer left.toCosmosRouter request) (answer right.toCosmosRouter request) := by
  cases request with
  | execute sender msg => exact agree.execute msg registered named
  | runSudo msg => exact agree.runSudo msg registered

theorem serves_others (keeps : RouterKeeps keeper block anybody left) :
    Serves (Registered keeper) (WorldCalls keeper.api block (Speaks anybody))
      (fun account => account ≠ keeper.tokenAddr) left.toCosmosRouter where
  owned := keeps.serves.owned
  execute sender msg _ := keeps.execute sender msg (anybody_speaks sender)
  runSudo := keeps.runSudo

variable (confined : Confined keeper voices) (unvoiced : ¬ voices keeper.tokenAddr)

include confined unvoiced

theorem agreeOn_guardedExecute (agree : RoutersAgree keeper left right)
    (keeps : RouterKeeps keeper block anybody left) {sender : Addr} (msg : CosmosMsg μ)
    (registered : Registered keeper world) (other : sender ≠ keeper.tokenAddr) :
    AgreeOn world (keeper.routerExecute block left sender msg)
      (guardedExecute keeper block right sender msg) := by
  unfold guardedExecute
  apply agreeOn_read_bind
  have watched := agree.watch (Expected keeper block right sender world msg)
  cases msg with
  | wasm call =>
      apply agreeOn_adaptError
      by_cases calls : ∃ contractAddr bytes funds, call = .execute contractAddr bytes funds
      · rcases calls with ⟨contractAddr, bytes, funds, rfl⟩
        exact agreeOn_executeWasm_execute agree keeps registered fun same => absurd same other
      · exact agreeOn_executeWasm watched keeps registered other
          fun contractAddr bytes funds same => calls ⟨contractAddr, bytes, funds, same⟩
  | native msg =>
      exact confined.agreeOn_execute (serves_others keeps) watched.answers other
        (fun account voiced same => unvoiced (same ▸ voiced)) registered

theorem agreeOn_routerSudo (agree : OthersAgree keeper left right)
    (keeps : RouterKeeps keeper block anybody left) (registered : Registered keeper world)
    (msg : SudoMsg μ) :
    AgreeOn world (keeper.routerSudo block left msg) (keeper.routerSudo block right msg) := by
  cases msg with
  | wasm contract msg => exact agreeOn_wasmSudo agree keeps registered contract msg
  | native msg =>
      exact confined.agreeOn_runSudo (serves_others keeps) agree.answers
        (fun account voiced same => unvoiced (same ▸ voiced)) registered

theorem routersAgree (block : BlockInfo) (depth : Nat) :
    RoutersAgree keeper (keeper.router block depth) (guardedRouter keeper block depth) := by
  induction depth with
  | zero =>
      rw [guardedRouter_zero]
      exact ⟨⟨fun _ _ _ => agreeOn_of_eq rfl _, fun _ _ => agreeOn_of_eq rfl _,
        fun _ _ _ => agreeOn_of_eq rfl _⟩, fun _ _ _ => agreeOn_of_eq rfl _⟩
  | succ depth inductionHypothesis =>
      have keeps := routerKeeps_anybody confined block depth
      have silent := inductionHypothesis.watch fun _ _ => False
      refine ⟨⟨?_, ?_, ?_⟩, ?_⟩
      · intro world sender msg registered other
        rw [Keeper.router_execute_succ, guardedRouter_execute_succ]
        exact agreeOn_guardedExecute confined unvoiced inductionHypothesis keeps msg registered
          other
      · intro world msg registered
        rw [Keeper.router_runSudo_succ, guardedRouter_runSudo_succ]
        exact agreeOn_routerSudo confined unvoiced silent keeps registered msg
      · intro world contract reply registered
        rw [Keeper.router_reply_succ, guardedRouter_reply_succ]
        exact agreeOn_replyTo silent keeps registered contract reply
      · intro world contract bytes registered
        rw [Keeper.router_execute_succ, guardedRouter_execute_succ]
        unfold guardedExecute
        apply agreeOn_read_bind
        exact agreeOn_adaptError
          (agreeOn_executeWasm_execute inductionHypothesis keeps registered fun _ => rfl)

end Agree

/-! ## Applications -/

/-- No contract is ever told of tokens that the token has not just moved to it: in every
reachable state of an application, and for every action that is not signed in the name of
the token, guarding the router makes no difference. -/
theorem guarded_performs_alike {genesis : Genesis} {app : App ρ σ} {action : Action μ}
    (depth : Nat) (confined : Confined keeper voices) (unvoiced : ¬ voices keeper.tokenAddr)
    (reachable : (appSystem keeper genesis).Reachable app)
    (unforged : ¬ Signs action keeper.tokenAddr) :
    app.performWith (fun block => guardedRouter keeper block depth) action =
      app.perform keeper depth action := by
  have registered := registered_of_reachable confined reachable
  have keeps := routerKeeps_anybody confined app.block depth
  have agree := routersAgree confined unvoiced app.block depth
  cases action with
  | setBlock block => simp only [App.perform, App.performWith]
  | execute sender msgs =>
      have other : sender ≠ keeper.tokenAddr := fun same => unforged same.symm
      have alike : AgreeOn app.world ((keeper.router app.block depth).executeMulti sender msgs)
          ((guardedRouter keeper app.block depth).executeMulti sender msgs) := by
        apply agreeOn_transactional
        apply agreeOn_mapM _ _ app.world registered
        · exact WorldCalls keeper.api app.block (Speaks anybody)
        · intro msg
          exact keeps.execute sender msg (anybody_speaks sender)
        · intro msg _ world stays
          exact agree.execute msg stays other
      unfold App.perform App.performWith
      dsimp only
      rw [← alike]
  | runSudo msg =>
      have alike : AgreeOn app.world ((keeper.router app.block depth).appSudo msg)
          ((guardedRouter keeper app.block depth).appSudo msg) :=
        agreeOn_transactional (agree.runSudo msg registered)
      unfold App.perform App.performWith
      dsimp only
      rw [← alike]

/-- The burner is still told of the 1000 of alice. -/
theorem guarded_burner_performs_alike :
    ∃ (app next : App Unit Storage) (outcome : Except Failure (List AppResponse)),
      sampleSystem.Reachable app ∧
      Ledger.held next.world.token.balances (contractAddress 1) = 600 ∧
      app.perform sampleKeeper 3 (.execute ⟨"alice"⟩ [sampleSend]) = some (outcome, next) ∧
      app.performWith (fun block => guardedRouter sampleKeeper block 3)
        (.execute ⟨"alice"⟩ [sampleSend]) = some (outcome, next) := by
  rcases exists_sampleRun [] (fun _ app =>
      (app.perform sampleKeeper 3 (.execute ⟨"alice"⟩ [sampleSend])).any fun result => decide (
        Ledger.held result.2.world.token.balances (contractAddress 1) = 600))
      (by decide +kernel) with ⟨start, events, app, run, passed⟩
  rcases (Option.any_eq_true _ _).mp passed with ⟨⟨outcome, next⟩, performs, burned⟩
  have unvoiced : ¬ isTreasury (contractAddress 0) := by
    unfold isTreasury
    decide
  have unforged : contractAddress 0 ≠ ⟨"alice"⟩ := by decide
  have alike := guarded_performs_alike 3 confined_sample unvoiced run.reachable
    (show ¬ Signs (.execute ⟨"alice"⟩ [sampleSend]) (contractAddress 0) from unforged)
  exact ⟨app, next, outcome, run.reachable, of_decide_eq_true burned, performs,
    alike.trans performs⟩

end DemurrageToken.Properties
