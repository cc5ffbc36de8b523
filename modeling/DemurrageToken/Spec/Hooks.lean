import DemurrageToken.Spec.Nesting
import DemurrageToken.Spec.TokenCalls

/-!
Contract: what the token answers, and the message it sends on.

Owns: the response of every message, which depends on the sender and the message
alone, the hook of the two messages to a contract, and what the host makes of such
a response.

Does not own: what the receiving contract does.
-/

namespace DemurrageToken.Spec

open DemurrageToken.Library
open DemurrageToken.Library.Handler
open DemurrageToken.Contract
open DemurrageToken.MultiTest

/-! ## Responses of the token -/

/-- The contract that a message calls, and what it is told. -/
def hookOf (sender : Addr) : ExecuteMsg → Option (String × Cw20ReceiveMsg)
  | .send contract amount msg | .sendFrom _ contract amount msg =>
      some (contract, { sender := sender.asStr, amount, msg })
  | _ => none

/-- The attributes of a response. -/
def attributesOf (sender : Addr) : ExecuteMsg → List (String × String)
  | .transfer recipient amount => [("action", "transfer"), ("from", sender.asStr),
      ("to", recipient), ("amount", amount.text)]
  | .burn amount => [("action", "burn"), ("from", sender.asStr), ("amount", amount.text)]
  | .send contract amount _ => [("action", "send"), ("from", sender.asStr), ("to", contract),
      ("amount", amount.text)]
  | .increaseAllowance spender amount _ => [("action", "increase_allowance"),
      ("owner", sender.asStr), ("spender", spender), ("amount", amount.text)]
  | .decreaseAllowance spender amount _ => [("action", "decrease_allowance"),
      ("owner", sender.asStr), ("spender", spender), ("amount", amount.text)]
  | .transferFrom owner recipient amount => [("action", "transfer"), ("from", owner),
      ("to", recipient), ("amount", amount.text)]
  | .sendFrom owner contract amount _ => [("action", "send_from"), ("from", owner),
      ("to", contract), ("by", sender.asStr), ("amount", amount.text)]
  | .burnFrom owner amount => [("action", "burn_from"), ("from", owner), ("by", sender.asStr),
      ("amount", amount.text)]
  | .mint recipient amount => [("action", "mint"), ("to", recipient), ("amount", amount.text)]
  | .updateMinter newMinter => [("action", "update_minter"), ("new_minter", newMinter)]
  | .changeSinkAddress address => [("action", "change sink address"), ("new address", address)]
  | .changeTaxLevel amount => [("action", "change tax level"), ("new tax amount", amount.text)]

/-- The response of a message that succeeds. -/
def responseOf (sender : Addr) (msg : ExecuteMsg) : Response where
  messages := (hookOf sender msg).toList.map fun hook => hook.2.intoCosmosMsg hook.1
  attributes := attributesOf sender msg

theorem answers_execute (api : Api) (env : Env) (info : MessageInfo) (msg : ExecuteMsg) :
    Answers (execute api env info msg) (responseOf info.sender msg) := by
  cases msg with
  | decreaseAllowance spender amount expires =>
      unfold execute executeDecreaseAllowance
      iterate 3
        apply answers_bind
        intro _
      split
      all_goals
        repeat
          apply answers_bind
          intro _
        exact answers_pure _
  | _ =>
      repeat
        apply answers_bind
        intro _
      exact answers_pure _

/-- The keys of the attributes pass the checks of the host, so that only blank
texts can fail them. -/
theorem verifyAttributes_attributesOf {sender : Addr} {msg : ExecuteMsg} :
    verifyAttributes (attributesOf sender msg) = .ok () ↔
      ∀ attr ∈ attributesOf sender msg, trimText attr.2 ≠ "" := by
  have keys : ∀ attr ∈ attributesOf sender msg, attr.1 ∈ ["action", "from", "to", "amount",
      "owner", "spender", "by", "new_minter", "new address", "new tax amount"] := by
    cases msg <;> simp [attributesOf]
  have plain : ∀ key ∈ ["action", "from", "to", "amount", "owner", "spender", "by",
      "new_minter", "new address", "new tax amount"],
      trimText key ≠ "" ∧ (trimText key).toList.head? ≠ some '_' := by
    decide +kernel
  rw [verifyAttributes_eq_ok]
  constructor
  · intro checked attr member
    exact (verifyAttribute_eq_ok.mp (checked attr member)).2.1
  · intro printed attr member
    have key := plain attr.1 (keys attr member)
    exact verifyAttribute_eq_ok.mpr ⟨key.1, printed attr member, key.2⟩

/-! ## Calls of the token on the host -/

variable {ρ σ μ : Type} {keeper : Keeper ρ σ μ} {block : BlockInfo} {world : World ρ σ}

/-- The events of a call of the token, before those of its message. -/
def tokenEvents (keeper : Keeper ρ σ μ) (sender : Addr) (msg : ExecuteMsg) : List AppEvent :=
  [Keeper.callEvent "execute" keeper.tokenAddr [],
    ⟨"wasm", (contractAttr, keeper.tokenAddr.asStr) :: attributesOf sender msg⟩]

/-- A message that asks for no reply. -/
theorem returns_executeSubmsg_never {router : Router ρ σ μ} {contract : Addr} {id : U64}
    {msg : CosmosMsg μ} {response : AppResponse} {after : World ρ σ} :
    Returns (keeper.executeSubmsg router contract ⟨id, msg, .never⟩) world response after ↔
      ∃ inner, Returns (router.execute contract msg) world inner after ∧
        { inner with data := none } = response := by
  rw [Keeper.executeSubmsg, returns_bind]
  constructor
  · intro executed
    rcases executed with ⟨outcome, middle, attempted, rest⟩
    cases outcome with
    | ok inner =>
        rcases returns_pure.mp rest with ⟨same, rfl⟩
        exact ⟨inner, returns_transactional.mp (returns_attempt.mp attempted), same⟩
    | error failure => cases (returns_fromResult.mp rest).1
  · intro executed
    rcases executed with ⟨inner, ran, same⟩
    refine ⟨.ok inner, after, returns_attempt.mpr (returns_transactional.mpr ran), ?_⟩
    exact returns_pure.mpr ⟨same, rfl⟩

/-- How a call of the token ends once it has moved the tokens: the message to the
receiving contract, if there is one, is delivered in the name of the token. -/
def Completes (keeper : Keeper ρ σ μ)
    (delivers : CosmosMsg μ → World ρ σ → AppResponse → World ρ σ → Prop) (sender : Addr)
    (msg : ExecuteMsg) (moved : World ρ σ) (response : AppResponse) (after : World ρ σ) : Prop :=
  match hookOf sender msg with
  | none => response = ⟨tokenEvents keeper sender msg, none⟩ ∧ after = moved
  | some (contract, receive) => ∃ inner,
      delivers (.wasm (.execute contract (keeper.encodeReceive receive) [])) moved inner after ∧
        response = ⟨tokenEvents keeper sender msg ++ inner.events, none⟩

/-- A call of the token in `block` that the host accepts, with what it decodes to
and the storage it leaves. -/
structure Accepts (keeper : Keeper ρ σ μ) (block : BlockInfo) (sender : Addr) (bytes : Binary)
    (before : Storage) (msg : ExecuteMsg) (moved : Storage) : Prop where
  valid : keeper.api.addrValidate keeper.tokenAddr.asStr = .ok keeper.tokenAddr
  decoded : keeper.decodeExecute bytes = .ok msg
  executed : Executes keeper.api ⟨⟨block⟩, ⟨sender⟩, msg⟩ before moved
  printed : ∀ attr ∈ attributesOf sender msg, trimText attr.2 ≠ ""

theorem returns_callExecute_token {sender : Addr} {funds : List Coin} {bytes : Binary}
    {response : ContractResponse μ} {after : World ρ σ} (registered : Registered keeper world)
    (valid : keeper.api.addrValidate keeper.tokenAddr.asStr = .ok keeper.tokenAddr) :
    Returns (keeper.callExecute block keeper.tokenAddr sender funds bytes) world response after ↔
      ∃ msg moved, Accepts keeper block sender bytes world.token msg moved ∧
        keeper.tokenResponse (responseOf sender msg) = response ∧
        { world with token := moved } = after := by
  rcases registered.token with ⟨data, found, code, _⟩
  simp only [Keeper.callExecute, Keeper.verified, returns_bind, returns_fromResult,
    returns_withStorage_token found code, Keeper.tokenContract, returns_adaptError, returns_pure,
    mapError_eq_ok, verifyResponse_eq_ok]
  constructor
  · intro called
    rcases called with ⟨_, _, ⟨_, ⟨msg, _, ⟨decoded, rfl⟩, inner, moved, executed, rfl, rfl⟩,
      rfl⟩, ⟨checked, _, rfl⟩, rfl⟩
    obtain rfl := answers_execute _ _ _ _ _ _ _ executed
    exact ⟨msg, moved, ⟨valid, decoded, ⟨_, executed⟩, verifyAttributes_attributesOf.mp checked⟩,
      rfl, rfl⟩
  · intro called
    rcases called with ⟨msg, moved, ⟨_, decoded, ⟨inner, executed⟩, printed⟩, rfl, rfl⟩
    obtain rfl := answers_execute _ _ _ _ _ _ _ executed
    exact ⟨_, _, ⟨moved, ⟨msg, _, ⟨decoded, rfl⟩, _, _, executed, rfl, rfl⟩, rfl⟩,
      ⟨verifyAttributes_attributesOf.mpr printed, rfl, rfl⟩, rfl⟩

/-- The host processes the response of the token, which has at most one message. -/
theorem returns_processResponse_token {router : Router ρ σ μ} {sender : Addr}
    {msg : ExecuteMsg} {response : AppResponse} {after : World ρ σ} :
    Returns (keeper.processResponse router keeper.tokenAddr
        (buildAppResponse keeper.tokenAddr (Keeper.callEvent "execute" keeper.tokenAddr [])
          (keeper.tokenResponse (responseOf sender msg)))) world response after ↔
      Completes keeper (fun msg => Returns (router.execute keeper.tokenAddr msg)) sender msg world
        response after := by
  have attributed : attributesOf sender msg ≠ [] := by
    cases msg <;> simp [attributesOf]
  unfold Keeper.processResponse buildAppResponse Keeper.tokenResponse responseOf Completes
  cases hookOf sender msg with
  | none =>
      simp [attributed, returns_pure, tokenEvents, eq_comm]
  | some hook =>
      simp only [Option.toList_some, List.map_cons, List.map_nil, List.foldlM_cons,
        List.foldlM_nil, Keeper.gatherSubmsg, returns_bind, returns_executeSubmsg_never, returns_pure,
        if_neg attributed, tokenEvents]
      constructor
      · intro processed
        rcases processed with ⟨_, _, ⟨_, _, ⟨inner, ran, rfl⟩, rfl, rfl⟩, rfl, rfl⟩
        exact ⟨inner, ran, rfl⟩
      · intro processed
        rcases processed with ⟨inner, ran, rfl⟩
        exact ⟨_, _, ⟨_, _, ⟨inner, ran, rfl⟩, rfl, rfl⟩, rfl, rfl⟩

/-- A message without a message of its own carries no data either. -/
theorem Completes.data {delivers : CosmosMsg μ → World ρ σ → AppResponse → World ρ σ → Prop}
    {sender : Addr} {msg : ExecuteMsg} {moved after : World ρ σ} {response : AppResponse}
    (completes : Completes keeper delivers sender msg moved response after) :
    response.data = none := by
  unfold Completes at completes
  split at completes
  · rw [completes.1]
  · rcases completes with ⟨inner, _, rfl⟩
    rfl

/-- A call of the token: the funds are sent first, whatever that does; the token moves
the tokens; and its message is delivered. -/
theorem returns_executeWasm_token {router : Router ρ σ μ} {sender : Addr} {bytes : Binary}
    {funds : List Coin} {response : AppResponse} {after : World ρ σ}
    (keeps : RouterKeeps keeper block anybody router) (registered : Registered keeper world) :
    Returns (keeper.executeWasm block router sender (.execute keeper.tokenAddr.asStr bytes funds))
        world response after ↔
      ∃ receipt paid,
        Returns (keeper.send router sender keeper.tokenAddr.asStr funds) world receipt paid ∧
        ∃ msg moved, Accepts keeper block sender bytes paid.token msg moved ∧
          Completes keeper (fun msg => Returns (router.execute keeper.tokenAddr msg)) sender msg
            { paid with token := moved } response after := by
  have stays : ∀ {receipt paid},
      Returns (keeper.send router sender keeper.tokenAddr.asStr funds) world receipt paid →
        Registered keeper paid :=
    fun sent => registered_of_keeps block (keepsToken_send keeps (anybody_speaks sender) _ _)
      registered sent
  simp only [Keeper.executeWasm, Keeper.validateAddr, returns_bind, returns_fromResult,
    returns_pure, mapError_eq_ok]
  constructor
  · intro executed
    rcases executed with ⟨contract, _, ⟨valid, rfl⟩, receipt, paid, sent, res, _, called, gathered,
      _, processed, rfl, rfl⟩
    obtain rfl := keeper.api.addrValidate_eq valid
    rcases (returns_callExecute_token (stays sent) valid).mp called with
      ⟨msg, moved, accepts, rfl, rfl⟩
    have completes := returns_processResponse_token.mp processed
    have undated := completes.data
    refine ⟨receipt, paid, sent, msg, moved, accepts, ?_⟩
    rcases gathered with ⟨events, data⟩
    obtain rfl : data = none := undated
    exact completes
  · intro executed
    rcases executed with ⟨receipt, paid, sent, msg, moved, accepts, completes⟩
    have undated := completes.data
    rcases response with ⟨events, data⟩
    obtain rfl : data = none := undated
    exact ⟨keeper.tokenAddr, world, ⟨accepts.valid, rfl⟩, receipt, paid, sent, _, _,
      (returns_callExecute_token (stays sent) accepts.valid).mpr ⟨msg, moved, accepts, rfl, rfl⟩,
      _, after, returns_processResponse_token.mpr completes, rfl, rfl⟩

end DemurrageToken.Spec
