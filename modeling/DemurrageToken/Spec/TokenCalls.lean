import DemurrageToken.Spec.Modules

/-!
Contract: what a transaction can do to the token.

However the contracts of an application call each other, the token only ever
sees one `execute` call after the other, each from the signer of the transaction,
from a contract, or from an account that a module speaks for. A nested call that
fails leaves no trace of itself.

Owns: sequences of token calls, and that every handler of the keeper makes such a
sequence and keeps the token registered.

Does not own: what the calls do to the balances.
-/

namespace DemurrageToken.Spec

open DemurrageToken.Library
open DemurrageToken.Library.Handler
open DemurrageToken.Contract
open DemurrageToken.MultiTest

/-! ## Sequences of calls -/

/-- A call of the token in `block`, by an allowed sender. -/
def Called (api : Api) (block : BlockInfo) (allowed : Addr → Prop) (before after : Storage) :
    Prop :=
  ∃ sender msg, allowed sender ∧ Executes api ⟨⟨block⟩, ⟨sender⟩, msg⟩ before after

/-- Calls of the token in `block`, one after the other. -/
def TokenCalls (api : Api) (block : BlockInfo) (allowed : Addr → Prop) :
    Storage → Storage → Prop :=
  Relation.ReflTransGen (Called api block allowed)

/-- Who can call the token in a transaction: contracts, and the accounts in whose name
it is signed or a module speaks. -/
def Speaks (signer : Addr → Prop) (sender : Addr) : Prop :=
  signer sender ∨ IsContract sender

variable {ρ σ μ : Type}

/-- A world after calls of the token, whatever else has changed. -/
def WorldCalls (api : Api) (block : BlockInfo) (allowed : Addr → Prop)
    (before after : World ρ σ) : Prop :=
  TokenCalls api block allowed before.token after.token

section Relation

variable {api : Api} {block : BlockInfo} {allowed : Addr → Prop}

instance worldCalls_refl : Std.Refl (WorldCalls (ρ := ρ) (σ := σ) api block allowed) where
  refl := fun _ => .refl

instance worldCalls_trans :
    IsTrans (World ρ σ) (WorldCalls (ρ := ρ) (σ := σ) api block allowed) where
  trans := fun _ _ _ => .trans

theorem worldCalls_of_token_eq {before after : World ρ σ} (same : after.token = before.token) :
    WorldCalls api block allowed before after := by
  unfold WorldCalls
  rw [same]
  exact .refl

end Relation

variable {keeper : Keeper ρ σ μ} {world : World ρ σ}

/-! ## The handlers of the keeper -/

section Keeps

variable {block : BlockInfo} {allowed : Addr → Prop}

/-- A handler that keeps the token registered and makes only allowed calls of
it. -/
abbrev KeepsToken (keeper : Keeper ρ σ μ) (block : BlockInfo) (allowed : Addr → Prop) {α : Type}
    (handler : AppHandler ρ σ α) : Prop :=
  Keeps (Registered keeper) (WorldCalls keeper.api block allowed) handler

theorem returns_loadContract {address : Addr} {data : ContractData} {after : World ρ σ} :
    Returns (Keeper.loadContract address) world data after ↔
      world.registry[address]? = some data ∧ world = after := by
  simp only [Keeper.loadContract, returns_bind, returns_read, returns_orThrow, and_assoc,
    exists_eq_left', exists_and_left]

theorem keepsToken_loadContract (address : Addr) :
    KeepsToken keeper block allowed
      (Keeper.loadContract address : AppHandler ρ σ ContractData) := by
  apply keeps_bind (keeps_read _)
  intro _ registry _ _ _
  exact keeps_fromResult _

/-- The storage of the token is changed only by what its entry points do. -/
theorem keepsToken_withStorage (address : Addr)
    (action : ∀ {τ : Type}, Contract (World ρ σ) τ μ → World ρ σ →
      Handler τ Failure (ContractResponse μ))
    (calls : address = keeper.tokenAddr → ∀ world token response after,
      Returns (action keeper.tokenContract world) token response after →
        TokenCalls keeper.api block allowed token after) :
    KeepsToken keeper block allowed (keeper.withStorage address action) := by
  apply keeps_bind (keepsToken_loadContract address)
  intro _ data _ _ _
  split
  · rename_i isToken
    apply keeps_transactional_of_returns
    intro world response after registered returned
    rcases returns_onComponent.mp returned with ⟨token, ran, rfl⟩
    exact ⟨⟨registered.numbered, registered.token⟩, calls isToken.1 world _ _ _ ran⟩
  · apply keeps_bind (keeps_fromResult _)
    intro _ contract _ _ _
    apply keeps_transactional
    apply keeps_onComponent
    intro world storage registered
    exact ⟨⟨registered.numbered, registered.token⟩, worldCalls_of_token_eq rfl⟩

/-- A call of the token works on the storage of the token. -/
theorem returns_withStorage_token {data : ContractData} {response : ContractResponse μ}
    {after : World ρ σ}
    {action : ∀ {τ : Type}, Contract (World ρ σ) τ μ → World ρ σ →
      Handler τ Failure (ContractResponse μ)}
    (found : world.registry[keeper.tokenAddr]? = some data)
    (code : data.codeId = keeper.tokenCode) :
    Returns (keeper.withStorage keeper.tokenAddr action) world response after ↔
      ∃ token, Returns (action keeper.tokenContract world) world.token response token ∧
        { world with token } = after := by
  rw [Keeper.withStorage, returns_bind]
  constructor
  · intro called
    rcases called with ⟨loaded, middle, load, rest⟩
    rcases returns_loadContract.mp load with ⟨same, rfl⟩
    cases found.symm.trans same
    rw [if_pos ⟨rfl, code⟩, returns_transactional, returns_onComponent] at rest
    exact rest
  · intro ran
    refine ⟨data, world, returns_loadContract.mpr ⟨found, rfl⟩, ?_⟩
    rw [if_pos ⟨rfl, code⟩, returns_transactional, returns_onComponent]
    exact ran

theorem keepsToken_verified {call : AppHandler ρ σ (ContractResponse μ)}
    (keeps : KeepsToken keeper block allowed call) :
    KeepsToken keeper block allowed (Keeper.verified call) := by
  apply keeps_bind keeps
  intro _ response _ _ _
  exact keeps_fromResult _

/-- An `execute` call of the token that returns is one of its calls. -/
theorem tokenCalls_of_execute {sender : Addr} {funds : List Coin} {msg : Binary}
    {address : Addr} {before after : Storage} {response : ContractResponse μ}
    (speaks : allowed sender)
    (returned : Returns (keeper.tokenContract.execute world address ⟨block⟩ ⟨sender⟩ funds msg)
      before response after) :
    TokenCalls keeper.api block allowed before after := by
  simp only [Keeper.tokenContract, returns_bind, returns_fromResult, returns_adaptError,
    returns_pure] at returned
  rcases returned with ⟨decoded, _, ⟨_, rfl⟩, inner, _, executed, _, rfl⟩
  exact .single ⟨sender, decoded, speaks, inner, executed⟩

theorem keepsToken_callExecute {sender : Addr} (speaks : allowed sender) (address : Addr)
    (funds : List Coin) (msg : Binary) :
    KeepsToken keeper block allowed (keeper.callExecute block address sender funds msg) := by
  apply keepsToken_verified
  apply keepsToken_withStorage
  intro _ world before response after returned
  exact tokenCalls_of_execute speaks returned

theorem keepsToken_callInstantiate {address : Addr} (other : address ≠ keeper.tokenAddr)
    (sender : Addr) (funds : List Coin) (msg : Binary) :
    KeepsToken keeper block allowed (keeper.callInstantiate block address sender funds msg) := by
  apply keepsToken_verified
  apply keepsToken_withStorage
  intro same
  exact absurd same other

theorem keepsToken_callReply (address : Addr) (reply : Reply) :
    KeepsToken keeper block allowed (keeper.callReply block address reply) := by
  apply keepsToken_verified
  apply keepsToken_withStorage
  intro _ world before response after returned
  cases (returns_fromResult.mp returned).1

theorem keepsToken_callSudo (address : Addr) (msg : Binary) :
    KeepsToken keeper block allowed (keeper.callSudo block address msg) := by
  apply keepsToken_verified
  apply keepsToken_withStorage
  intro _ world before response after returned
  cases (returns_fromResult.mp returned).1

theorem keepsToken_callMigrate (address : Addr) (msg : Binary) :
    KeepsToken keeper block allowed (keeper.callMigrate block address msg) := by
  apply keepsToken_verified
  apply keepsToken_withStorage
  intro _ world before response after returned
  cases (returns_fromResult.mp returned).1

/-- A contract is called only where it is registered. -/
theorem isContract_of_call {address : Addr} {response : ContractResponse μ}
    {before after : World ρ σ}
    {action : ∀ {τ : Type}, Contract (World ρ σ) τ μ → World ρ σ →
      Handler τ Failure (ContractResponse μ)}
    (registered : Registered keeper before)
    (returned : Returns (Keeper.verified (keeper.withStorage address action)) before response
      after) : IsContract address := by
  rcases returns_bind.mp returned with ⟨_, _, called, _⟩
  rcases returns_bind.mp called with ⟨_, _, loaded, _⟩
  exact registered.isContract (returns_loadContract.mp loaded).1

/-! ## The router -/

/-- The ways back into the keeper keep the token. -/
structure RouterKeeps (keeper : Keeper ρ σ μ) (block : BlockInfo) (signer : Addr → Prop)
    (router : Router ρ σ μ) : Prop where
  execute : ∀ sender msg, Speaks signer sender →
    KeepsToken keeper block (Speaks signer) (router.execute sender msg)
  runSudo : ∀ msg, KeepsToken keeper block (Speaks signer) (router.runSudo msg)
  reply : ∀ contract reply, IsContract contract →
    KeepsToken keeper block (Speaks signer) (router.reply contract reply)

variable {signer : Addr → Prop} {router : Router ρ σ μ}

theorem keepsToken_executeSubmsg (keeps : RouterKeeps keeper block signer router)
    {contract : Addr} (isContract : IsContract contract) (msg : SubMsg μ) :
    KeepsToken keeper block (Speaks signer) (keeper.executeSubmsg router contract msg) := by
  apply keeps_bind
    (keeps_attempt (keeps_transactional (keeps.execute contract msg.msg (Or.inr isContract))))
  intro _ outcome _ _ _
  cases outcome with
  | ok response =>
      dsimp only
      split
      · apply keeps_bind (keeps.reply contract _ isContract)
        intro _ replied _ _ _
        exact keeps_pure _
      · exact keeps_pure _
  | error failure =>
      dsimp only
      split
      · exact keeps.reply contract _ isContract
      · exact keeps_fromResult _

theorem keepsToken_gatherSubmsg (keeps : RouterKeeps keeper block signer router)
    {contract : Addr} (isContract : IsContract contract) (gathered : AppResponse)
    (resend : SubMsg μ) :
    KeepsToken keeper block (Speaks signer)
      (keeper.gatherSubmsg router contract gathered resend) := by
  apply keeps_bind (keepsToken_executeSubmsg keeps isContract resend)
  intro _ subres _ _ _
  exact keeps_pure _

theorem keepsToken_processResponse (keeps : RouterKeeps keeper block signer router)
    {contract : Addr} (isContract : IsContract contract)
    (response : AppResponse × List (SubMsg μ)) :
    KeepsToken keeper block (Speaks signer) (keeper.processResponse router contract response) := by
  apply keeps_foldlM
  intro gathered resend _
  exact keepsToken_gatherSubmsg keeps isContract gathered resend

theorem keepsToken_send (keeps : RouterKeeps keeper block signer router) {sender : Addr}
    (speaks : Speaks signer sender) (recipient : String) (amount : List Coin) :
    KeepsToken keeper block (Speaks signer) (keeper.send router sender recipient amount) := by
  unfold Keeper.send
  split
  · exact keeps_pure _
  · exact keeps.execute sender _ speaks

theorem returns_registerContract {codeId : Nat} {creator : Addr} {admin : Option Addr}
    {label : String} {created : U64} {address : Addr} {after : World ρ σ} :
    Returns (keeper.registerContract codeId creator admin label created) world address after ↔
      ¬ (keeper.codes codeId).isNone ∧ Keeper.nextAddress world.registry = address ∧
        { world with registry :=
            world.registry.insert address { codeId, creator, admin, label, created } } = after := by
  simp only [Keeper.registerContract, Keeper.saveContract, returns_bind, returns_read,
    returns_reject, returns_write, returns_pure, and_assoc, exists_eq_left', exists_and_left,
    exists_const]
  refine and_congr_right fun _ => and_congr_right fun same => ?_
  rw [same]

theorem keepsToken_registerContract (codeId : Nat) (creator : Addr) (admin : Option Addr)
    (label : String) (created : U64) :
    KeepsToken keeper block allowed
      (keeper.registerContract codeId creator admin label created) := by
  apply keeps_bind (keeps_fromResult _)
  intro _ _ _ _ _
  apply keeps_bind_at (keeps_read _)
  intro world registry middle registered readIt result after _ settled
  rcases returns_read.mp readIt with ⟨rfl, rfl⟩
  simp only [Keeper.saveContract, settles_bind, returns_write, settles_write, settles_pure,
    exists_eq_left', reduceCtorEq, false_and, exists_false, or_false] at settled
  rcases settled with ⟨_, _, rfl⟩
  exact ⟨registered.saveOther registered.numbered.register registered.nextAddress_ne,
    worldCalls_of_token_eq rfl⟩

/-- What a keeper returns from a call, after the messages of its response. -/
theorem keepsToken_finish (keeps : RouterKeeps keeper block signer router) {contract : Addr}
    (isContract : IsContract contract) (event : AppEvent) (response : ContractResponse μ)
    (data : Option Binary → Option Binary) :
    KeepsToken keeper block (Speaks signer) (do
      let res ← keeper.processResponse router contract (buildAppResponse contract event response)
      pure { res with data := data res.data }) := by
  apply keeps_bind (keepsToken_processResponse keeps isContract _)
  intro _ res _ _ _
  exact keeps_pure _

/-- The token has no admin, so that its code stays. -/
theorem keepsToken_migrate (keeps : RouterKeeps keeper block signer router) (sender : Addr)
    (contractAddr : String) (newCodeId : Nat) (msg : Binary) :
    KeepsToken keeper block (Speaks signer)
      (keeper.executeWasm block router sender (.migrate contractAddr newCodeId msg)) := by
  apply keeps_bind (keeps_fromResult _)
  intro _ contract _ _ _
  apply keeps_bind (keeps_fromResult _)
  intro _ _ _ _ _
  apply keeps_bind_at (keepsToken_loadContract contract)
  intro world data middle registered loaded result after _ settled
  rcases returns_loadContract.mp loaded with ⟨found, rfl⟩
  have isContract := registered.isContract found
  rcases settles_bind.mp settled with ⟨_, middle, passed, saves⟩ | ⟨failure, failed, _⟩
  · rcases returns_reject.mp passed with ⟨admin, rfl⟩
    have saved := (registered.migrate newCodeId found (not_not.mp admin)).2
    have later : KeepsToken keeper block (Speaks signer) (do
        let res ← keeper.callMigrate block contract msg
        let event := Keeper.callEvent "migrate" contract [("code_id", toString newCodeId)]
        let res ← keeper.processResponse router contract (buildAppResponse contract event res)
        pure { res with data := executeResponse res.data }) := by
      apply keeps_bind (keepsToken_callMigrate contract msg)
      intro _ res _ _ _
      exact keepsToken_finish keeps isContract _ res executeResponse
    rcases settles_bind.mp saves with ⟨_, middle, wrote, rest⟩ | ⟨failure, failed, _⟩
    · obtain rfl := returns_write.mp wrote
      have kept := later _ result after saved rest
      exact ⟨kept.1, kept.2⟩
    · cases (settles_write.mp failed).1
  · rcases settles_fromResult.mp failed with ⟨_, rfl⟩
    exact ⟨registered, worldCalls_of_token_eq rfl⟩

theorem keepsToken_executeWasm (keeps : RouterKeeps keeper block signer router) {sender : Addr}
    (speaks : Speaks signer sender) (msg : WasmCall) :
    KeepsToken keeper block (Speaks signer) (keeper.executeWasm block router sender msg) := by
  cases msg with
  | execute contractAddr msg funds =>
      apply keeps_bind (keeps_fromResult _)
      intro _ contract _ _ _
      apply keeps_bind (keepsToken_send keeps speaks _ _)
      intro _ _ _ _ _
      apply keeps_bind (keepsToken_callExecute speaks contract funds msg)
      intro world res _ registered called
      exact keepsToken_finish keeps (isContract_of_call registered called) _ res executeResponse
  | «instantiate» admin codeId msg funds label =>
      apply keeps_bind (keeps_fromResult _)
      intro _ _ _ _ _
      apply keeps_bind (keepsToken_registerContract _ _ _ _ _)
      intro world contract _ registered made
      rcases returns_registerContract.mp made with ⟨_, rfl, _⟩
      apply keeps_bind (keepsToken_send keeps speaks _ _)
      intro _ _ _ _ _
      apply keeps_bind (keepsToken_callInstantiate registered.nextAddress_ne sender funds msg)
      intro _ res _ _ _
      exact keepsToken_finish keeps ⟨_, rfl⟩ _ res
        fun data => some (instantiateResponse data (Keeper.nextAddress world.registry))
  | migrate contractAddr newCodeId msg =>
      exact keepsToken_migrate keeps sender contractAddr newCodeId msg
  | unsupported => exact keeps_fromResult _

theorem keepsToken_replyTo (keeps : RouterKeeps keeper block signer router) (contract : Addr)
    (reply : Reply) :
    KeepsToken keeper block (Speaks signer) (keeper.replyTo block router contract reply) := by
  apply keeps_bind (keepsToken_callReply contract reply)
  intro world res _ registered called
  exact keepsToken_processResponse keeps (isContract_of_call registered called) _

theorem keepsToken_wasmSudo (keeps : RouterKeeps keeper block signer router) (contract : Addr)
    (msg : Binary) :
    KeepsToken keeper block (Speaks signer) (keeper.wasmSudo block router contract msg) := by
  apply keeps_bind (keepsToken_callSudo contract msg)
  intro world res _ registered called
  exact keepsToken_processResponse keeps (isContract_of_call registered called) _

theorem RouterKeeps.serves (keeps : RouterKeeps keeper block signer router) :
    Serves (Registered keeper) (WorldCalls keeper.api block (Speaks signer)) (Speaks signer)
      router.toCosmosRouter where
  owned _ _ registered :=
    ⟨⟨registered.numbered, registered.token⟩, worldCalls_of_token_eq rfl⟩
  execute := keeps.execute
  runSudo := keeps.runSudo

/-- However deep the calls are nested, they keep the token. -/
theorem routerKeeps {voices : Addr → Prop} (confined : Confined keeper voices)
    (block : BlockInfo) (heard : ∀ account, voices account → Speaks signer account)
    (depth : Nat) : RouterKeeps keeper block signer (keeper.router block depth) := by
  induction depth with
  | zero =>
      constructor
      · intro sender msg _
        exact keeps_checked none
      · intro msg
        exact keeps_checked none
      · intro contract reply _
        exact keeps_checked none
  | succ depth inductionHypothesis =>
      constructor
      · intro sender msg speaks
        cases msg with
        | wasm msg => exact keeps_adaptError (keepsToken_executeWasm inductionHypothesis speaks msg)
        | native msg => exact confined.keeps_execute inductionHypothesis.serves speaks heard
      · intro msg
        cases msg with
        | wasm contract msg => exact keepsToken_wasmSudo inductionHypothesis contract msg
        | native msg => exact confined.keeps_runSudo inductionHypothesis.serves heard
      · intro contract reply _
        exact keepsToken_replyTo inductionHypothesis contract reply

/-- Anybody may speak: that the token stays registered does not depend on it. -/
abbrev anybody : Addr → Prop := fun _ => True

theorem anybody_speaks (sender : Addr) : Speaks anybody sender := Or.inl trivial

/-- The router, whoever speaks. -/
theorem routerKeeps_anybody {voices : Addr → Prop} (confined : Confined keeper voices)
    (block : BlockInfo) (depth : Nat) :
    RouterKeeps keeper block anybody (keeper.router block depth) :=
  routerKeeps confined block (fun account _ => anybody_speaks account) depth

theorem registered_of_keeps (block : BlockInfo) {α : Type} {handler : AppHandler ρ σ α}
    {result : Except Failure α} {after : World ρ σ}
    (keeps : KeepsToken keeper block (Speaks anybody) handler)
    (registered : Registered keeper world) (settled : Settles handler world result after) :
    Registered keeper after :=
  (keeps world result after registered settled).1

/-! ## Transactions -/

theorem keepsToken_executeMulti (keeps : RouterKeeps keeper block signer router) {sender : Addr}
    (speaks : Speaks signer sender) (msgs : List (CosmosMsg μ)) :
    KeepsToken keeper block (Speaks signer) (router.executeMulti sender msgs) := by
  apply keeps_transactional
  apply keeps_mapM
  intro msg _
  exact keeps.execute sender msg speaks

theorem keepsToken_appSudo (keeps : RouterKeeps keeper block signer router) (msg : SudoMsg μ) :
    KeepsToken keeper block (Speaks signer) (router.appSudo msg) :=
  keeps_transactional (keeps.runSudo msg)

end Keeps

end DemurrageToken.Spec
