import DemurrageToken.MultiTest.Executor
import DemurrageToken.Properties.Reentrancy
import DemurrageToken.Properties.ReplyData
import DemurrageToken.Spec.Registrations

/-!
Contract: what the helpers of the executor report, and for how long it is true.

Owns: that the address of an instantiated contract is read back from the response,
is new, and stays registered in every later state of the application.

Does not own: what the contract does.
-/

namespace DemurrageToken.Properties

open DemurrageToken.Library
open DemurrageToken.Library.System
open DemurrageToken.Library.Handler
open DemurrageToken.Contract
open DemurrageToken.MultiTest
open DemurrageToken.Spec

variable {ρ σ μ : Type} {keeper : Keeper ρ σ μ} {genesis : Genesis} {block : BlockInfo}
  {usizeBits depth : Nat} {sender : Addr} {funds : List Coin} {voices : Addr → Prop}

/-! ## The response of one message -/

theorem returns_appExecute {msg : CosmosMsg μ} {world after : World ρ σ} {response : AppResponse} :
    Returns (keeper.appExecute block depth sender msg) world response after ↔
      Returns ((keeper.router block depth).execute sender msg) world response after := by
  simp only [Keeper.appExecute, Router.executeMulti, returns_bind, returns_checked,
    returns_transactional, List.mapM_cons, List.mapM_nil, returns_pure]
  constructor
  · rintro ⟨_, _, ⟨first, _, ran, _, _, ⟨rfl, rfl⟩, rfl, rfl⟩, taken, rfl⟩
    cases taken
    exact ran
  · intro ran
    exact ⟨[response], after, ⟨response, after, ran, [], after, ⟨rfl, rfl⟩, rfl, rfl⟩, rfl, rfl⟩

/-- The data of an `execute` message is wrapped. -/
theorem data_of_execute {contractAddr : String} {msg : Binary} {world after : World ρ σ}
    {response : AppResponse}
    (ran : Returns ((keeper.router block depth).execute sender
      (.wasm (.execute contractAddr msg funds))) world response after) :
    ∃ inner, response.data = executeResponse inner := by
  cases depth with
  | zero =>
      rw [Keeper.router_execute_zero, returns_checked] at ran
      cases ran.1
  | succ depth =>
      rw [Keeper.router_execute_succ, Keeper.routerExecute, returns_adaptError] at ran
      simp only [Keeper.executeWasm, returns_bind, returns_pure] at ran
      rcases ran with ⟨_, _, _, _, _, _, _, _, _, res, _, _, rfl, _⟩
      exact ⟨res.data, rfl⟩

/-- An `instantiate` message registers the next contract, and wraps its address. -/
theorem registers_of_instantiate (confined : Confined keeper voices)
    {admin : Option String} {codeId : Nat} {msg : Binary} {label : String}
    {world after : World ρ σ} {response : AppResponse}
    (numbered : Numbered world.registry)
    (ran : Returns ((keeper.router block depth).execute sender
      (.wasm (.instantiate admin codeId msg funds label))) world response after) :
    (∃ inner, response.data =
      some (instantiateResponse inner (Keeper.nextAddress world.registry))) ∧
    ∃ data, after.registry[Keeper.nextAddress world.registry]? = some data ∧
      Persists ⟨codeId, sender, admin.map Addr.mk, label, block.height⟩ data := by
  cases depth with
  | zero =>
      rw [Keeper.router_execute_zero, returns_checked] at ran
      cases ran.1
  | succ depth =>
      rw [Keeper.router_execute_succ, Keeper.routerExecute, returns_adaptError,
        Keeper.executeWasm] at ran
      rcases returns_bind.mp ran with ⟨_, _, labelled, registering⟩
      rcases returns_reject.mp labelled with ⟨_, rfl⟩
      rcases returns_bind.mp registering with ⟨address, middle, made, rest⟩
      have registered := keepsRegistry_registerContract _ _ _ _ _ _ _ _ numbered made
      rcases returns_registerContract.mp made with ⟨_, rfl, rfl⟩
      have keeps := routerKeepsRegistry confined block depth
      have later : KeepsRegistry (do
          let _ ← keeper.send (keeper.router block depth) sender
            (Keeper.nextAddress world.registry).asStr funds
          let res ← keeper.callInstantiate block (Keeper.nextAddress world.registry) sender funds
            msg
          let event := Keeper.callEvent "instantiate" (Keeper.nextAddress world.registry)
            [("code_id", toString codeId)]
          let res ← keeper.processResponse (keeper.router block depth)
            (Keeper.nextAddress world.registry)
            (buildAppResponse (Keeper.nextAddress world.registry) event res)
          pure { res with
            data := some (instantiateResponse res.data (Keeper.nextAddress world.registry)) }) := by
        apply keeps_bind (keepsRegistry_send keeps _ _ _)
        intro _ _ _ _ _
        apply keeps_bind (keepsRegistry_call _ _)
        intro _ res _ _ _
        exact keepsRegistry_finish keeps _ _ res
          fun data => some (instantiateResponse data (Keeper.nextAddress world.registry))
      have grown := (later _ _ _ registered.1 rest).2
      simp only [returns_bind, returns_pure] at rest
      rcases rest with ⟨_, _, _, _, _, _, res, _, _, rfl, _⟩
      exact ⟨⟨res.data, rfl⟩, grown _ _ Std.ExtTreeMap.getElem?_insert_self⟩

/-! ## The helpers -/

theorem fits_of_parts {content part : Binary} (fits : Fits usizeBits content)
    (shorter : part.length ≤ content.length) : Fits usizeBits part :=
  ⟨shorter.trans_lt fits.1, shorter.trans_lt fits.2⟩

theorem length_protobufField (number : UInt8) (content : Binary) :
    content.length ≤ (protobufField number content).length := by
  unfold protobufField
  split
  · rename_i empty
    rw [empty]
  · rw [List.length_append]
    exact Nat.le_add_left _ _

theorem nextAddress_ne_empty (registry : Std.ExtTreeMap Addr ContractData) :
    (Keeper.nextAddress registry).asStr ≠ "" := by
  intro empty
  have length := congrArg String.length empty
  rw [Keeper.nextAddress, String.length_append] at length
  have positive : "contract".length = 8 := rfl
  rw [positive, String.length_empty] at length
  omega

/-- `execute_contract` unwraps the data that it is given. -/
theorem returns_executeContract {contractAddr : Addr} {msg : Binary} {world after : World ρ σ}
    {response : AppResponse}
    (executed : Returns (keeper.appExecute block depth sender
      (.wasm (.execute contractAddr.asStr msg funds))) world response after)
    (fits : ∀ data, response.data = some data → Fits usizeBits data) :
    ∃ inner, response.data = executeResponse inner ∧
      Returns (keeper.executeContract block usizeBits depth sender contractAddr msg funds) world
        { response with data := inner.bind optional } after := by
  rcases data_of_execute (returns_appExecute.mp executed) with ⟨inner, wrapped⟩
  refine ⟨inner, wrapped, returns_bind.mpr ⟨response, after, executed, ?_⟩⟩
  rcases response with ⟨events, data⟩
  cases inner with
  | none =>
      change data = none at wrapped
      rw [wrapped]
      exact returns_pure.mpr ⟨rfl, rfl⟩
  | some content =>
      change data = some (protobufField 1 content) at wrapped
      have fitting := fits_of_parts (fits _ wrapped) (length_protobufField 1 content)
      rw [wrapped]
      simp only [parse_executeResponse fitting]
      exact returns_bind.mpr ⟨_, after, returns_checked.mpr ⟨rfl, rfl⟩, returns_pure.mpr ⟨rfl, rfl⟩⟩

/-- `instantiate_contract` returns the address it is given. -/
theorem returns_instantiateContract (confined : Confined keeper voices)
    {admin : Option String} {codeId : Nat} {msg : Binary} {label : String}
    {world after : World ρ σ} {response : AppResponse}
    (numbered : Numbered world.registry)
    (executed : Returns (keeper.appExecute block depth sender
      (.wasm (.instantiate admin codeId msg funds label))) world response after)
    (fits : ∀ data, response.data = some data → Fits usizeBits data) :
    Returns (keeper.instantiateContract block usizeBits depth codeId sender msg funds label admin)
      world (Keeper.nextAddress world.registry) after := by
  rcases (registers_of_instantiate confined numbered (returns_appExecute.mp executed)).1 with
    ⟨inner, wrapped⟩
  have fitting := fits _ wrapped
  have parsed : parseInstantiateResponseData usizeBits (response.data.getD []) = .ok
      ⟨(Keeper.nextAddress world.registry).asStr, optional (inner.getD [])⟩ := by
    rw [wrapped]
    apply parse_instantiateResponse (nextAddress_ne_empty _)
    · apply fits_of_parts fitting
      rw [instantiateResponse, List.length_append]
      have bound := length_protobufField 1 (intoBytes (Keeper.nextAddress world.registry).asStr)
      exact bound.trans (Nat.le_add_right _ _)
    · apply fits_of_parts fitting
      rw [instantiateResponse, List.length_append]
      have bound := length_protobufField 2 (inner.getD [])
      exact bound.trans (Nat.le_add_left _ _)
  refine returns_bind.mpr ⟨response, after, returns_adaptError.mpr executed, ?_⟩
  rw [parsed]
  exact returns_bind.mpr ⟨_, after, returns_fromResult.mpr ⟨rfl, rfl⟩, returns_pure.mpr ⟨rfl, rfl⟩⟩

/-! ## Runs -/

theorem grows_of_perform (confined : Confined keeper voices) {app next : App ρ σ}
    {action : Action μ} {outcome : Except Failure (List AppResponse)} (numbered : Numbered app.world.registry)
    (performs : app.perform keeper depth action = some (outcome, next)) :
    Numbered next.world.registry ∧ Grows app.world next.world := by
  have keeps := routerKeepsRegistry confined app.block depth
  cases action with
  | setBlock block =>
      cases performs
      exact ⟨numbered, refl_of Grows app.world⟩
  | execute sender msgs =>
      rcases Option.map_eq_some_iff.mp performs with ⟨⟨result, world⟩, ran, same⟩
      cases same
      exact keepsRegistry_executeMulti keeps sender msgs app.world _ _ numbered ran
  | runSudo msg =>
      rcases Option.map_eq_some_iff.mp performs with ⟨⟨result, world⟩, ran, same⟩
      cases same
      exact keepsRegistry_appSudo keeps msg app.world _ _ numbered ran

theorem grows_of_run (confined : Confined keeper voices) {app later : App ρ σ}
    {events : List (Event (App ρ σ) (Transaction μ))} (numbered : Numbered app.world.registry)
    (run : ((appSystem keeper genesis).startingAt app).Run app events later) :
    Numbered later.world.registry ∧ Grows app.world later.world := by
  refine run.invariant
    (fun later => Numbered later.world.registry ∧ Grows app.world later.world) ?_ ?_
  · rintro _ rfl
    exact ⟨numbered, refl_of Grows _⟩
  · rintro state transaction next _ ⟨stateNumbered, grown⟩ ⟨_, depth, performs⟩
    have kept := grows_of_perform confined stateNumbered performs
    exact ⟨kept.1, trans_of Grows grown kept.2⟩

/-- An `instantiate` message that succeeds leaves a response that `instantiate_contract`
reads: it returns an address that no contract had before. In every later state of the
application a contract is registered there, by the same creator, with the same admin,
label and height, and with the same code unless it has an admin. -/
theorem instantiated_contract_stays_registered (confined : Confined keeper voices)
    {app later : App ρ σ} {codeId : Nat} {msg : Binary} {label : String}
    {admin : Option String} {response : AppResponse} {after : World ρ σ}
    {events : List (Event (App ρ σ) (Transaction μ))}
    (reachable : (appSystem keeper genesis).Reachable app)
    (executed : Returns (keeper.appExecute app.block depth sender
      (.wasm (.instantiate admin codeId msg funds label))) app.world response after)
    (fits : ∀ data, response.data = some data → Fits usizeBits data)
    (run : ((appSystem keeper genesis).startingAt ⟨after, app.block⟩).Run ⟨after, app.block⟩ events
      later) :
    ∃ address, Returns (keeper.instantiateContract app.block usizeBits depth codeId sender msg
        funds label admin) app.world address after ∧
      address ∉ app.world.registry ∧
      ∃ data, later.world.registry[address]? = some data ∧
        data.creator = sender ∧ data.admin = admin.map Addr.mk ∧ data.label = label ∧
        data.created = app.block.height ∧ (admin = none → data.codeId = codeId) := by
  have numbered := (registered_of_reachable confined reachable).numbered
  have afterNumbered := ((routerKeepsRegistry confined app.block depth).execute sender _ _ _ _
    numbered (returns_appExecute.mp executed)).1
  rcases (registers_of_instantiate confined numbered (returns_appExecute.mp executed)).2 with
    ⟨registered, stored, made⟩
  rcases (grows_of_run confined afterNumbered run).2 _ _ stored with ⟨data, present, kept⟩
  have persists := made.trans kept
  refine ⟨_, returns_instantiateContract confined numbered executed fits,
    numbered.nextAddress_notMem, data, present, persists.creator, persists.admin, persists.label,
    persists.created, ?_⟩
  rintro rfl
  exact persists.code rfl

/-- The message that instantiates a second burner. -/
def secondBurner : CosmosMsg NativeMsg :=
  .wasm (.instantiate none 2 [] [] "second burner")

/-- Bob instantiates a second burner, and alice goes on with the first one. -/
theorem second_burner_stays_registered :
    ∃ (app later : App Unit Storage) (after : World Unit Storage)
      (events : List (Event (App Unit Storage) (Transaction NativeMsg))),
      (sampleSystem.startingAt ⟨after, app.block⟩).Run ⟨after, app.block⟩ events later ∧
      events.map (fun event => event.label.outcome.isOk) = [true] ∧
      ∃ address, Returns (sampleKeeper.instantiateContract app.block 64 2 2 ⟨"bob"⟩ [] []
          "second burner" none) app.world address after ∧
        address ∉ app.world.registry ∧
        ∃ data, later.world.registry[address]? = some data ∧
          data.creator = ⟨"bob"⟩ ∧ data.admin = none ∧ data.label = "second burner" ∧
          data.created = app.block.height ∧ ((none : Option String) = none → data.codeId = 2) := by
  rcases exists_sampleRun [] (fun _ app =>
      (run (sampleKeeper.appExecute app.block 2 ⟨"bob"⟩ secondBurner) app.world).any
        fun outcome => outcome.1.toOption.any fun response =>
          (response.data.all fun data => decide (Fits 64 data)) &&
            (succeed ⟨outcome.2, app.block⟩ ⟨"alice"⟩ sampleSend).isSome)
      (by decide +kernel) with ⟨_, _, app, history, passed⟩
  rcases (Option.any_eq_true _ _).mp passed with ⟨⟨failure | response, after⟩, ran, checks⟩
  · cases checks
  · rcases (Option.any_eq_true _ _).mp checks with ⟨_, same, checks⟩
    cases same
    rw [Bool.and_eq_true, Option.all_eq_true] at checks
    rcases Option.isSome_iff_exists.mp checks.2 with ⟨⟨responses, later⟩, sent⟩
    have run : (sampleSystem.startingAt ⟨after, app.block⟩).Run ⟨after, app.block⟩
        ([] ++ [⟨⟨after, app.block⟩, ⟨.execute ⟨"alice"⟩ [sampleSend], .ok responses⟩, later⟩])
        later :=
      (System.Run.nil rfl).extend (step_of_succeed sent)
    exact ⟨app, later, after, _, run, rfl, instantiated_contract_stays_registered confined_sample
      history.reachable ran (fun data given => of_decide_eq_true (checks.1 data given)) run⟩

end DemurrageToken.Properties
