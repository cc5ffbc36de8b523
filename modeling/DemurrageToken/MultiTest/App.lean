import DemurrageToken.Contract.System
import DemurrageToken.MultiTest.Wasm

/-!
Contract: the application that runs the token among other contracts, `app.rs`.

A transaction is a list of messages of one signer, or one privileged message; it
takes effect as a whole or not at all. Between transactions the block may be
replaced by one that is not earlier.

Owns: the application, its transactions, and the application as a transition
system from the state in which the token is instantiated.

Does not own: how the application is built, and the direct access to its storage
that a test may take.
-/

namespace DemurrageToken.MultiTest

open DemurrageToken.Library
open DemurrageToken.Library.Handler
open DemurrageToken.Contract

variable {ρ σ μ : Type}

/-- `App::execute_multi`. -/
def Router.executeMulti (router : Router ρ σ μ) (sender : Addr) (msgs : List (CosmosMsg μ)) :
    AppHandler ρ σ (List AppResponse) :=
  transactional (msgs.mapM (router.execute sender))

/-- `App::sudo` and `App::wasm_sudo`. -/
def Router.appSudo (router : Router ρ σ μ) (msg : SudoMsg μ) : AppHandler ρ σ AppResponse :=
  transactional (router.runSudo msg)

/-- `App`: its storage and its block. -/
structure App (ρ σ : Type) where
  world : World ρ σ
  block : BlockInfo

/-- What a test does to an application. -/
inductive Action (μ : Type) where
  | setBlock (block : BlockInfo)
  | execute (sender : Addr) (msgs : List (CosmosMsg μ))
  | runSudo (msg : SudoMsg μ)

/-- An action, and what the caller is returned. -/
structure Transaction (μ : Type) where
  action : Action μ
  outcome : Except Failure (List AppResponse)

/-- One action, by the router of the block. -/
def App.performWith (router : BlockInfo → Router ρ σ μ) (app : App ρ σ) :
    Action μ → Option (Except Failure (List AppResponse) × App ρ σ)
  | .setBlock block => some (.ok [], { app with block })
  | .execute sender msgs =>
      (run ((router app.block).executeMulti sender msgs) app.world).map fun outcome =>
        (outcome.1, { app with world := outcome.2 })
  | .runSudo msg =>
      (run ((router app.block).appSudo msg) app.world).map fun outcome =>
        (outcome.1.map fun response => [response], { app with world := outcome.2 })

/-- One action, with calls nested no deeper than `depth`. -/
def App.perform (keeper : Keeper ρ σ μ) (depth : Nat) (app : App ρ σ) :
    Action μ → Option (Except Failure (List AppResponse) × App ρ σ) :=
  app.performWith fun block => keeper.router block depth

/-! ## The token in its application -/

/-- The address of the contract that was registered as number `count`. -/
def contractAddress (count : Nat) : Addr :=
  ⟨"contract" ++ toString count⟩

/-- The address of a contract. -/
def IsContract (address : Addr) : Prop :=
  ∃ count, address = contractAddress count

theorem contractAddress_injective : Function.Injective contractAddress := by
  intro left right same
  have texts := String.append_right_inj _ |>.mp (Addr.mk.inj same)
  exact Nat.repr_injective texts

/-- The registered contracts are numbered in the order of their registration. -/
def Numbered (registry : Std.ExtTreeMap Addr ContractData) : Prop :=
  ∀ address ∈ registry, ∃ count < registry.size, address = contractAddress count

section Numbered

variable {registry : Std.ExtTreeMap Addr ContractData} {address : Addr} {data : ContractData}

theorem Numbered.nextAddress_notMem (numbered : Numbered registry) :
    Keeper.nextAddress registry ∉ registry := by
  intro member
  rcases numbered _ member with ⟨count, below, same⟩
  have equal := contractAddress_injective same
  omega

theorem Numbered.register (numbered : Numbered registry) :
    Numbered (registry.insert (Keeper.nextAddress registry) data) := by
  intro other member
  rw [Std.ExtTreeMap.size_insert, if_neg]
  · rw [Std.ExtTreeMap.mem_insert, Std.LawfulEqCmp.compare_eq_iff_eq] at member
    rcases member with rfl | earlier
    · exact ⟨registry.size, Nat.lt_succ_self _, rfl⟩
    · rcases numbered other earlier with ⟨count, below, same⟩
      exact ⟨count, Nat.lt_succ_of_lt below, same⟩
  · rw [Std.ExtTreeMap.contains_iff_mem]
    exact numbered.nextAddress_notMem

theorem Numbered.update (numbered : Numbered registry) (member : address ∈ registry) :
    Numbered (registry.insert address data) := by
  intro other present
  rw [Std.ExtTreeMap.size_insert, if_pos (Std.ExtTreeMap.contains_iff_mem.mpr member)]
  rw [Std.ExtTreeMap.mem_insert, Std.LawfulEqCmp.compare_eq_iff_eq] at present
  rcases present with rfl | earlier
  · exact numbered address member
  · exact numbered other earlier

end Numbered

/-- The token has its code and no admin. -/
structure Registered (keeper : Keeper ρ σ μ) (world : World ρ σ) : Prop where
  numbered : Numbered world.registry
  token : ∃ data, world.registry[keeper.tokenAddr]? = some data ∧
    data.codeId = keeper.tokenCode ∧ data.admin = none

section Registered

variable {keeper : Keeper ρ σ μ} {world : World ρ σ}

theorem Registered.isContract {address : Addr} {data : ContractData}
    (registered : Registered keeper world) (found : world.registry[address]? = some data) :
    IsContract address := by
  have member : address ∈ world.registry :=
    Std.ExtTreeMap.isSome_getElem?_iff_mem.mp (Option.isSome_of_eq_some found)
  rcases registered.numbered address member with ⟨count, _, same⟩
  exact ⟨count, same⟩

/-- Saving another contract leaves the token registered. -/
theorem Registered.saveOther {address : Addr} {data : ContractData}
    (registered : Registered keeper world)
    (numbered : Numbered (world.registry.insert address data))
    (other : address ≠ keeper.tokenAddr) :
    Registered keeper { world with registry := world.registry.insert address data } := by
  rcases registered.token with ⟨token, found, kept⟩
  refine ⟨numbered, token, ?_, kept⟩
  have distinct : ¬ compare address keeper.tokenAddr = .eq := by
    rw [Std.LawfulEqCmp.compare_eq_iff_eq]
    exact other
  rw [Std.ExtTreeMap.getElem?_insert, if_neg distinct]
  exact found

theorem Registered.nextAddress_ne (registered : Registered keeper world) :
    Keeper.nextAddress world.registry ≠ keeper.tokenAddr := by
  intro same
  rcases registered.token with ⟨token, found, _⟩
  apply registered.numbered.nextAddress_notMem
  rw [same]
  exact Std.ExtTreeMap.isSome_getElem?_iff_mem.mp (Option.isSome_of_eq_some found)

/-- A contract with an admin is not the token, and may be given other code. -/
theorem Registered.migrate {address sender : Addr} {data : ContractData} (newCodeId : Nat)
    (registered : Registered keeper world) (found : world.registry[address]? = some data)
    (admin : data.admin = some sender) :
    address ≠ keeper.tokenAddr ∧ Registered keeper
      { world with registry := world.registry.insert address { data with codeId := newCodeId } } := by
  have other : address ≠ keeper.tokenAddr := by
    rintro rfl
    rcases registered.token with ⟨token, present, _, noAdmin⟩
    cases found.symm.trans present
    cases admin.symm.trans noAdmin
  have member : address ∈ world.registry :=
    Std.ExtTreeMap.isSome_getElem?_iff_mem.mp (Option.isSome_of_eq_some found)
  exact ⟨other, registered.saveOther (registered.numbered.update member) other⟩

end Registered

/-- The application at the end of the transaction that instantiates the token. -/
structure Launched (keeper : Keeper ρ σ μ) (genesis : Genesis) (app : App ρ σ) : Prop where
  registered : Registered keeper app.world
  token : ∃ response,
    Returns (instantiate keeper.api genesis.env genesis.msg) {} response app.world.token
  block : app.block = genesis.env.block

/-- The application, from the instantiation of the token on. -/
def appSystem (keeper : Keeper ρ σ μ) (genesis : Genesis) :
    System (App ρ σ) (Transaction μ) where
  init := Launched keeper genesis
  step := fun app transaction next =>
    (∀ block, transaction.action = .setBlock block →
      app.block.time.nanos.toNat ≤ block.time.nanos.toNat) ∧
    ∃ depth, app.perform keeper depth transaction.action = some (transaction.outcome, next)

end DemurrageToken.MultiTest
