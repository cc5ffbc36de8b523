import DemurrageToken.Contract.Instantiate
import DemurrageToken.Library.Atomic

/-!
Contract: the host of the contract tests, `packages/multi-test`.

Contracts run one inside another: what a contract returns may hold messages to
other contracts, which the keeper executes before the outer call is finished, and
replies, which it delivers to the contract that asked for them. A contract called
so may call back. The token is one contract among others, whose code is arbitrary.

Owns: the world the host keeps, responses and their checks, and the keeper of
`wasm.rs` with the ways back into it, `CosmosRouter::execute`, `sudo` and `_reply`.

Does not own: the other modules (bank, staking, custom), which get the whole storage
and the router and come as a parameter; the text encodings of messages; the key
prefixes that keep the parts of the storage apart.
-/

namespace DemurrageToken.MultiTest

open DemurrageToken.Library
open DemurrageToken.Library.Handler
open DemurrageToken.Contract

/-! ## Messages and responses -/

structure Coin where
  denom : String
  amount : U128
deriving DecidableEq, Repr

/-- `WasmMsg`; the host supports these three. -/
inductive WasmCall where
  | execute (contractAddr : String) (msg : Binary) (funds : List Coin)
  | instantiate (admin : Option String) (codeId : Nat) (msg : Binary) (funds : List Coin)
      (label : String)
  | migrate (contractAddr : String) (newCodeId : Nat) (msg : Binary)
  | unsupported
deriving DecidableEq, Repr

/-- `CosmosMsg`: to a contract, or to another module. -/
inductive CosmosMsg (μ : Type) where
  | wasm (msg : WasmCall)
  | native (msg : μ)

/-- `SudoMsg`: to a contract, or to another module. -/
inductive SudoMsg (μ : Type) where
  | wasm (contractAddr : Addr) (msg : Binary)
  | native (msg : μ)

inductive ReplyOn where
  | always
  | error
  | success
  | never
deriving DecidableEq, Repr

/-- `SubMsg`; the host has no use for its gas limit. -/
structure SubMsg (μ : Type) where
  id : U64
  msg : CosmosMsg μ
  replyOn : ReplyOn

/-- `Event`. -/
structure AppEvent where
  ty : String
  attributes : List (String × String)
deriving DecidableEq, Repr

/-- `Response` of any contract. -/
structure ContractResponse (μ : Type) where
  messages : List (SubMsg μ) := []
  attributes : List (String × String) := []
  events : List AppEvent := []
  data : Option Binary := none

/-- `AppResponse`. -/
structure AppResponse where
  events : List AppEvent := []
  data : Option Binary := none
deriving DecidableEq, Repr

/-- `SubMsgResult`, with the text of the error. -/
inductive SubMsgResult where
  | ok (events : List AppEvent) (data : Option Binary)
  | err (error : String)
deriving DecidableEq, Repr

structure Reply where
  id : U64
  result : SubMsgResult
deriving DecidableEq, Repr

/-- The errors of the host, and those of the contracts as texts. -/
inductive Failure where
  | emptyAttributeKey (value : String)
  | emptyAttributeValue (key : String)
  | reservedAttributeKey (key : String)
  | eventTypeTooShort (ty : String)
  | unsupportedWasmMsg
  | unregisteredCodeId (codeId : Nat)
  | onlyAdminCanMigrate (admin : Option Addr)
  | std (error : StdError)
  | token (error : ContractError)
  | text (message : String)
  | executing (sender : Addr) (msg : WasmCall) (cause : Failure)
deriving DecidableEq, Repr

/-! ## The checks on a response -/

/-- The characters that `str::trim` cuts off. -/
def isWhiteSpace (character : Char) : Bool :=
  let code := character.val
  (9 ≤ code && code ≤ 13) || code == 0x20 || code == 0x85 || code == 0xA0 || code == 0x1680 ||
    (0x2000 ≤ code && code ≤ 0x200A) || code == 0x2028 || code == 0x2029 || code == 0x202F ||
    code == 0x205F || code == 0x3000

/-- `str::trim`. -/
def trimText (text : String) : String :=
  let tail := text.toList.dropWhile isWhiteSpace
  .ofList (tail.reverse.dropWhile isWhiteSpace).reverse

/-- One attribute in `verify_attributes`. -/
def verifyAttribute (attr : String × String) : Except Failure Unit :=
  let key := trimText attr.1
  let val := trimText attr.2
  if key = "" then
    .error (.emptyAttributeKey val)
  else if val = "" then
    .error (.emptyAttributeValue key)
  else if key.toList.head? = some '_' then
    .error (.reservedAttributeKey key)
  else
    .ok ()

/-- `verify_attributes`. -/
def verifyAttributes (attributes : List (String × String)) : Except Failure Unit :=
  attributes.forM verifyAttribute

theorem verifyAttribute_eq_ok {attr : String × String} :
    verifyAttribute attr = .ok () ↔
      trimText attr.1 ≠ "" ∧ trimText attr.2 ≠ "" ∧
        (trimText attr.1).toList.head? ≠ some '_' := by
  unfold verifyAttribute
  dsimp only
  split
  · simp [*]
  · split
    · simp [*]
    · split
      · simp [*]
      · simp [*]

theorem verifyAttributes_eq_ok {attributes : List (String × String)} :
    verifyAttributes attributes = .ok () ↔ ∀ attr ∈ attributes, verifyAttribute attr = .ok () := by
  unfold verifyAttributes
  induction attributes with
  | nil => exact ⟨fun _ => List.forall_mem_nil _, fun _ => rfl⟩
  | cons attr rest inductionHypothesis =>
      show (verifyAttribute attr >>= fun _ => rest.forM verifyAttribute) = .ok () ↔ _
      rw [List.forall_mem_cons, ← inductionHypothesis]
      cases verifyAttribute attr with
      | error failure =>
          constructor
          · intro checked
            cases checked
          · intro checked
            cases checked.1
      | ok _ =>
          constructor
          · intro checked
            exact ⟨rfl, checked⟩
          · intro checked
            exact checked.2

/-- One event in `verify_response`. -/
def verifyEvent (event : AppEvent) : Except Failure Unit := do
  verifyAttributes event.attributes
  let ty := trimText event.ty
  if ty.utf8ByteSize < 2 then
    .error (.eventTypeTooShort ty)
  else
    .ok ()

/-- `verify_response`. -/
def verifyResponse {μ : Type} (response : ContractResponse μ) :
    Except Failure (ContractResponse μ) := do
  verifyAttributes response.attributes
  response.events.forM verifyEvent
  pure response

/-- The checks pass a response on as it is. -/
theorem verifyResponse_eq_ok {μ : Type} {response passed : ContractResponse μ} :
    verifyResponse response = .ok passed ↔
      verifyAttributes response.attributes = .ok () ∧
        response.events.forM verifyEvent = .ok () ∧ response = passed := by
  unfold verifyResponse
  cases verifyAttributes response.attributes with
  | error failure =>
      constructor
      · intro checked
        cases checked
      · intro checked
        cases checked.1
  | ok _ =>
      cases response.events.forM verifyEvent with
      | error failure =>
          constructor
          · intro checked
            cases checked
          · intro checked
            cases checked.2.1
      | ok _ =>
          constructor
          · intro checked
            exact ⟨rfl, rfl, Except.ok.inj checked⟩
          · intro checked
            rw [checked.2.2]
            rfl

/-- `CONTRACT_ATTR`. -/
def contractAttr : String := "_contract_addr"

/-- `build_app_response`. -/
def buildAppResponse {μ : Type} (contract : Addr) (customEvent : AppEvent)
    (response : ContractResponse μ) : AppResponse × List (SubMsg μ) :=
  let address := (contractAttr, contract.asStr)
  let wasmEvent : List AppEvent :=
    if response.attributes = [] then [] else [⟨"wasm", address :: response.attributes⟩]
  let wasmEvents := response.events.map fun event =>
    AppEvent.mk ("wasm-" ++ event.ty) (address :: event.attributes)
  ({ events := customEvent :: wasmEvent ++ wasmEvents, data := response.data }, response.messages)

/-! ## The data of a response -/

/-- The base-128 digits of a length, the low ones first. -/
def protobufVarint (value : Nat) : Binary :=
  if value < 128 then
    [UInt8.ofNat value]
  else
    UInt8.ofNat (value % 128 + 128) :: protobufVarint (value / 128)
termination_by value
decreasing_by omega

/-- A length-delimited field; an empty one is left out. -/
def protobufField (number : UInt8) (content : Binary) : Binary :=
  if content = [] then [] else (number <<< 3 ||| 2) :: protobufVarint content.length ++ content

/-- `execute_response`. -/
def executeResponse (data : Option Binary) : Option Binary :=
  data.map fun content => protobufField 1 content

/-- `instantiate_response`. -/
def instantiateResponse (data : Option Binary) (contractAddress : Addr) : Binary :=
  protobufField 1 contractAddress.asStr.toUTF8.data.toList ++ protobufField 2 (data.getD [])

/-! ## Contracts and the world -/

/-- `ContractData`. -/
structure ContractData where
  codeId : Nat
  creator : Addr
  admin : Option Addr
  label : String
  created : U64
deriving DecidableEq, Repr

/-- The storage of the host: the registered contracts, the storage of the token,
the storages of the other contracts and the part of the other modules. -/
structure World (ρ σ : Type) where
  registry : Std.ExtTreeMap Addr ContractData
  token : Storage
  contracts : Addr → σ
  modules : ρ

/-- `Contract`: the entry points, on the contract's own storage. They may query
the world as it is at entry. -/
structure Contract (ω σ μ : Type) where
  execute : ω → Addr → Env → MessageInfo → List Coin → Binary →
    Handler σ Failure (ContractResponse μ)
  instantiate : ω → Addr → Env → MessageInfo → List Coin → Binary →
    Handler σ Failure (ContractResponse μ)
  reply : ω → Addr → Env → Reply → Handler σ Failure (ContractResponse μ)
  wasmSudo : ω → Addr → Env → Binary → Handler σ Failure (ContractResponse μ)
  migrate : ω → Addr → Env → Binary → Handler σ Failure (ContractResponse μ)

abbrev AppHandler (ρ σ : Type) := Handler (World ρ σ) Failure

/-- `CosmosRouter`, the way of a module to the others. -/
structure CosmosRouter (ρ σ μ : Type) where
  execute : Addr → CosmosMsg μ → AppHandler ρ σ AppResponse
  runSudo : SudoMsg μ → AppHandler ρ σ AppResponse

/-- The ways back into the keeper: the router, and `_reply`. -/
structure Router (ρ σ μ : Type) extends CosmosRouter ρ σ μ where
  reply : Addr → Reply → AppHandler ρ σ AppResponse

/-- What an application is built with. One address is that of the token contract;
the code of all others is arbitrary, and so is that of the other modules: a module is
given the router and works on the whole world. -/
structure Keeper (ρ σ μ : Type) where
  api : Api
  tokenAddr : Addr
  tokenCode : Nat
  codes : Nat → Option (Contract (World ρ σ) σ μ)
  decodeExecute : Binary → Except String ExecuteMsg
  decodeInstantiate : Binary → Except String InstantiateMsg
  encodeReceive : Cw20ReceiveMsg → Binary
  bankSend : String → List Coin → μ
  moduleExecute : CosmosRouter ρ σ μ → BlockInfo → Addr → μ → AppHandler ρ σ AppResponse
  moduleSudo : CosmosRouter ρ σ μ → BlockInfo → μ → AppHandler ρ σ AppResponse
  describe : Failure → String

variable {ρ σ μ : Type}

/-- Replace the storage of one contract. -/
def World.setContract (address : Addr) (storage : σ) (world : World ρ σ) : World ρ σ :=
  { world with contracts := fun other =>
      if other = address then storage else world.contracts other }

namespace Keeper

variable (keeper : Keeper ρ σ μ) (block : BlockInfo)

/-! ## The token behind its wrapper -/

/-- The response of the token, with its messages as plain submessages. -/
def tokenResponse (response : Response) : ContractResponse μ where
  messages := response.messages.map fun message => {
    id := 0
    msg := .wasm (.execute message.contractAddr (keeper.encodeReceive message.receive) [])
    replyOn := .never }
  attributes := response.attributes

/-- `ContractWrapper` around the entry points of the token, which has neither
`reply`, nor `sudo`, nor `migrate`. -/
def tokenContract : Contract (World ρ σ) Storage μ where
  execute := fun _ _ env info _ msg => do
    let msg ← fromResult ((keeper.decodeExecute msg).mapError .text)
    let response ← adaptError .token (execute keeper.api env info msg)
    pure (keeper.tokenResponse response)
  instantiate := fun _ _ env _ _ msg => do
    let msg ← fromResult ((keeper.decodeInstantiate msg).mapError .text)
    let response ← adaptError .token (instantiate keeper.api env msg)
    pure (keeper.tokenResponse response)
  reply := fun _ _ _ _ => fromResult (.error (.text "reply not implemented for contract"))
  wasmSudo := fun _ _ _ _ => fromResult (.error (.text "sudo not implemented for contract"))
  migrate := fun _ _ _ _ => fromResult (.error (.text "migrate not implemented for contract"))

/-! ## Calls of a contract -/

/-- `load_contract`. -/
def loadContract (address : Addr) : AppHandler ρ σ ContractData := do
  orThrow (← read World.registry)[address]? (.std (.notFound "cw_multi_test::wasm::ContractData"))

/-- `with_storage`. The address of the token keeps its storage as long as the code
of the token is registered there. -/
def withStorage (address : Addr)
    (action : ∀ {τ : Type}, Contract (World ρ σ) τ μ → World ρ σ →
      Handler τ Failure (ContractResponse μ)) :
    AppHandler ρ σ (ContractResponse μ) := do
  let data ← loadContract address
  if address = keeper.tokenAddr ∧ data.codeId = keeper.tokenCode then
    transactional (onComponent World.token (fun token world => { world with token })
      (action keeper.tokenContract))
  else do
    let contract ← orThrow (keeper.codes data.codeId) (.unregisteredCodeId data.codeId)
    transactional (onComponent (fun world => world.contracts address)
      (World.setContract address) (action contract))

/-- `verify_response` of what a call returns. -/
def verified (call : AppHandler ρ σ (ContractResponse μ)) : AppHandler ρ σ (ContractResponse μ) := do
  let response ← call
  fromResult (verifyResponse response)

/-- `call_execute`. -/
def callExecute (address sender : Addr) (funds : List Coin) (msg : Binary) :
    AppHandler ρ σ (ContractResponse μ) :=
  verified (keeper.withStorage address fun contract world =>
    contract.execute world address ⟨block⟩ ⟨sender⟩ funds msg)

/-- `call_instantiate`. -/
def callInstantiate (address sender : Addr) (funds : List Coin) (msg : Binary) :
    AppHandler ρ σ (ContractResponse μ) :=
  verified (keeper.withStorage address fun contract world =>
    contract.instantiate world address ⟨block⟩ ⟨sender⟩ funds msg)

/-- `call_reply`. -/
def callReply (address : Addr) (reply : Reply) : AppHandler ρ σ (ContractResponse μ) :=
  verified (keeper.withStorage address fun contract world =>
    contract.reply world address ⟨block⟩ reply)

/-- `call_sudo`. -/
def callSudo (address : Addr) (msg : Binary) : AppHandler ρ σ (ContractResponse μ) :=
  verified (keeper.withStorage address fun contract world =>
    contract.wasmSudo world address ⟨block⟩ msg)

/-- `call_migrate`. -/
def callMigrate (address : Addr) (msg : Binary) : AppHandler ρ σ (ContractResponse μ) :=
  verified (keeper.withStorage address fun contract world =>
    contract.migrate world address ⟨block⟩ msg)

/-! ## The keeper -/

/-- `execute_submsg`. -/
def executeSubmsg (router : Router ρ σ μ) (contract : Addr) (msg : SubMsg μ) :
    AppHandler ρ σ AppResponse := do
  match ← attempt (transactional (router.execute contract msg.msg)) with
  | .ok response =>
      if msg.replyOn = .always ∨ msg.replyOn = .success then
        let reply := ⟨msg.id, .ok response.events response.data⟩
        let replied ← router.reply contract reply
        pure { events := response.events ++ replied.events, data := replied.data }
      else
        pure { response with data := none }
  | .error failure =>
      if msg.replyOn = .always ∨ msg.replyOn = .error then
        router.reply contract ⟨msg.id, .err (keeper.describe failure)⟩
      else
        fromResult (.error failure)

/-- One message in the loop of `process_response`. -/
def gatherSubmsg (router : Router ρ σ μ) (contract : Addr) (response : AppResponse)
    (resend : SubMsg μ) : AppHandler ρ σ AppResponse := do
  let subres ← keeper.executeSubmsg router contract resend
  pure { events := response.events ++ subres.events, data := subres.data.or response.data }

/-- `process_response`. -/
def processResponse (router : Router ρ σ μ) (contract : Addr)
    (response : AppResponse × List (SubMsg μ)) : AppHandler ρ σ AppResponse :=
  response.2.foldlM (keeper.gatherSubmsg router contract) response.1

/-- `send`. -/
def send (router : Router ρ σ μ) (sender : Addr) (recipient : String) (amount : List Coin) :
    AppHandler ρ σ AppResponse :=
  if amount = [] then
    pure {}
  else
    router.execute sender (.native (keeper.bankSend recipient amount))

/-- `deps.api.addr_validate(human)?`. -/
def validateAddr (human : String) : AppHandler ρ σ Addr :=
  fromResult ((keeper.api.addrValidate human).mapError .std)

/-- `next_address`. -/
def nextAddress (registry : Std.ExtTreeMap Addr ContractData) : Addr :=
  ⟨"contract" ++ toString registry.size⟩

/-- `save_contract`. -/
def saveContract (address : Addr) (data : ContractData) : AppHandler ρ σ Unit :=
  write fun world => { world with registry := world.registry.insert address data }

/-- `register_contract`. -/
def registerContract (codeId : Nat) (creator : Addr) (admin : Option Addr) (label : String)
    (created : U64) : AppHandler ρ σ Addr := do
  reject ((keeper.codes codeId).isNone)
    (.text "Cannot init contract with unregistered code id")
  let addr := nextAddress (← read World.registry)
  saveContract addr { codeId, creator, admin, label, created }
  pure addr

/-- The event a call adds to its response. -/
def callEvent (entry : String) (contract : Addr) (more : List (String × String)) : AppEvent :=
  ⟨entry, (contractAttr, contract.asStr) :: more⟩

/-- `execute_wasm`. -/
def executeWasm (router : Router ρ σ μ) (sender : Addr) : WasmCall → AppHandler ρ σ AppResponse
  | .execute contractAddr msg funds => do
      let contractAddr ← keeper.validateAddr contractAddr
      let _ ← keeper.send router sender contractAddr.asStr funds
      let res ← keeper.callExecute block contractAddr sender funds msg
      let res := buildAppResponse contractAddr (callEvent "execute" contractAddr []) res
      let res ← keeper.processResponse router contractAddr res
      pure { res with data := executeResponse res.data }
  | .instantiate admin codeId msg funds label => do
      reject (label = "") (.text "Label is required on all contracts")
      let contractAddr ←
        keeper.registerContract codeId sender (admin.map Addr.mk) label block.height
      let _ ← keeper.send router sender contractAddr.asStr funds
      let res ← keeper.callInstantiate block contractAddr sender funds msg
      let event := callEvent "instantiate" contractAddr [("code_id", toString codeId)]
      let res ← keeper.processResponse router contractAddr (buildAppResponse contractAddr event res)
      pure { res with data := some (instantiateResponse res.data contractAddr) }
  | .migrate contractAddr newCodeId msg => do
      let contractAddr ← keeper.validateAddr contractAddr
      reject ((keeper.codes newCodeId).isNone)
        (.text "Cannot migrate contract to unregistered code id")
      let data ← loadContract contractAddr
      reject (data.admin ≠ some sender) (.onlyAdminCanMigrate data.admin)
      saveContract contractAddr { data with codeId := newCodeId }
      let res ← keeper.callMigrate block contractAddr msg
      let event := callEvent "migrate" contractAddr [("code_id", toString newCodeId)]
      let res ← keeper.processResponse router contractAddr (buildAppResponse contractAddr event res)
      pure { res with data := executeResponse res.data }
  | .unsupported => fromResult (.error .unsupportedWasmMsg)

/-- `Router::execute`, with `Wasm::execute`. -/
def routerExecute (router : Router ρ σ μ) (sender : Addr) :
    CosmosMsg μ → AppHandler ρ σ AppResponse
  | .wasm msg =>
      adaptError (.executing sender msg) (keeper.executeWasm block router sender msg)
  | .native msg => keeper.moduleExecute router.toCosmosRouter block sender msg

/-- `_reply`. -/
def replyTo (router : Router ρ σ μ) (contract : Addr) (reply : Reply) :
    AppHandler ρ σ AppResponse := do
  let okAttr := match reply.result with
    | .ok .. => "handle_success"
    | .err _ => "handle_failure"
  let res ← keeper.callReply block contract reply
  let event := callEvent "reply" contract [("mode", okAttr)]
  keeper.processResponse router contract (buildAppResponse contract event res)

/-- `Wasm::sudo`. -/
def wasmSudo (router : Router ρ σ μ) (contract : Addr) (msg : Binary) :
    AppHandler ρ σ AppResponse := do
  let res ← keeper.callSudo block contract msg
  let res := buildAppResponse contract (callEvent "sudo" contract []) res
  keeper.processResponse router contract res

/-- `Router::sudo`. -/
def routerSudo (router : Router ρ σ μ) : SudoMsg μ → AppHandler ρ σ AppResponse
  | .wasm contractAddr msg => keeper.wasmSudo block router contractAddr msg
  | .native msg => keeper.moduleSudo router.toCosmosRouter block msg

/-- The router, with calls nested no deeper than `depth`. -/
def router : Nat → Router ρ σ μ
  | 0 => {
      execute := fun _ _ => checked none
      runSudo := fun _ => checked none
      reply := fun _ _ => checked none }
  | depth + 1 => {
      execute := keeper.routerExecute block (router depth)
      runSudo := keeper.routerSudo block (router depth)
      reply := keeper.replyTo block (router depth) }

section Router

variable {keeper : Keeper ρ σ μ} {block : BlockInfo} {depth : Nat} {sender contract : Addr}

@[simp] theorem router_execute_zero {msg : CosmosMsg μ} :
    (keeper.router block 0).execute sender msg = checked none :=
  rfl

@[simp] theorem router_execute_succ {msg : CosmosMsg μ} :
    (keeper.router block (depth + 1)).execute sender msg =
      keeper.routerExecute block (keeper.router block depth) sender msg :=
  rfl

@[simp] theorem router_runSudo_zero {msg : SudoMsg μ} :
    (keeper.router block 0).runSudo msg = checked none :=
  rfl

@[simp] theorem router_runSudo_succ {msg : SudoMsg μ} :
    (keeper.router block (depth + 1)).runSudo msg =
      keeper.routerSudo block (keeper.router block depth) msg :=
  rfl

@[simp] theorem router_reply_zero {reply : Reply} :
    (keeper.router block 0).reply contract reply = checked none :=
  rfl

@[simp] theorem router_reply_succ {reply : Reply} :
    (keeper.router block (depth + 1)).reply contract reply =
      keeper.replyTo block (keeper.router block depth) contract reply :=
  rfl

end Router

end Keeper

end DemurrageToken.MultiTest
