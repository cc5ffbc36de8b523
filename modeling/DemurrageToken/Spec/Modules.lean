import DemurrageToken.Library.Client
import DemurrageToken.MultiTest.App

/-!
Contract: what the other modules of an application may be.

The code of a module is given the whole storage and the router. It is taken to write
only its own part of the storage and to reach everything else through the router, in
whose messages it may name any account that it speaks for.

Owns: this discipline, and what follows from it for the handlers of a module.

Does not own: what any module computes.
-/

namespace DemurrageToken.Spec

open DemurrageToken.Library
open DemurrageToken.Library.Handler
open DemurrageToken.Contract
open DemurrageToken.MultiTest

variable {ρ σ μ : Type}

/-- What a module asks of the router. -/
inductive Request (μ : Type) where
  | execute (sender : Addr) (msg : CosmosMsg μ)
  | runSudo (msg : SudoMsg μ)

/-- The router at its work. -/
def answer (router : CosmosRouter ρ σ μ) : Request μ → AppHandler ρ σ AppResponse
  | .execute sender msg => router.execute sender msg
  | .runSudo msg => router.runSudo msg

/-- The code of a module, which owns its part of the world. -/
abbrev ModuleCode (ρ σ μ : Type) := Client (World ρ σ) ρ (Request μ) Failure AppResponse

/-- Replace the part of the modules. -/
def setModules (modules : ρ) (world : World ρ σ) : World ρ σ := { world with modules }

/-- The messages are sent in the name of `accounts`. -/
def InNameOf (accounts : Addr → Prop) : Request μ → Prop
  | .execute sender _ => accounts sender
  | .runSudo _ => True

/-- The modules keep to their own part of the storage. They send messages only in the
name of their caller and of the accounts in `voices`. -/
structure Confined (keeper : Keeper ρ σ μ) (voices : Addr → Prop) : Prop where
  execute : ∀ block sender msg, ∃ code : ModuleCode ρ σ μ,
    code.Asks (InNameOf fun account => account = sender ∨ voices account) ∧
      ∀ router, keeper.moduleExecute router block sender msg = code.run setModules (answer router)
  runSudo : ∀ block msg, ∃ code : ModuleCode ρ σ μ, code.Asks (InNameOf voices) ∧
    ∀ router, keeper.moduleSudo router block msg = code.run setModules (answer router)

/-- What the router does for the accounts keeps the relation, and so do changes of the
part of the modules. -/
structure Serves (invariant : World ρ σ → Prop) (relation : World ρ σ → World ρ σ → Prop)
    (accounts : Addr → Prop) (router : CosmosRouter ρ σ μ) : Prop where
  owned : ∀ world modules, invariant world →
    invariant (setModules modules world) ∧ relation world (setModules modules world)
  execute : ∀ sender msg, accounts sender → Keeps invariant relation (router.execute sender msg)
  runSudo : ∀ msg, Keeps invariant relation (router.runSudo msg)

theorem Serves.answers {invariant : World ρ σ → Prop} {relation : World ρ σ → World ρ σ → Prop}
    {accounts : Addr → Prop} {router : CosmosRouter ρ σ μ}
    (serves : Serves invariant relation accounts router) (request : Request μ)
    (named : InNameOf accounts request) : Keeps invariant relation (answer router request) := by
  cases request with
  | execute sender msg => exact serves.execute sender msg named
  | runSudo msg => exact serves.runSudo msg

namespace Confined

variable {keeper : Keeper ρ σ μ} {voices accounts : Addr → Prop} {block : BlockInfo}
  {sender : Addr} {msg : μ}

theorem code_of_execute (confined : Confined keeper voices) (speaks : accounts sender)
    (heard : ∀ account, voices account → accounts account) :
    ∃ code : ModuleCode ρ σ μ, code.Asks (InNameOf accounts) ∧ ∀ router,
      keeper.moduleExecute router block sender msg = code.run setModules (answer router) := by
  rcases confined.execute block sender msg with ⟨code, asks, same⟩
  refine ⟨code, asks.mono ?_, same⟩
  rintro (⟨account, _⟩ | _) named
  · rcases named with rfl | voiced
    · exact speaks
    · exact heard account voiced
  · trivial

theorem code_of_runSudo (confined : Confined keeper voices)
    (heard : ∀ account, voices account → accounts account) :
    ∃ code : ModuleCode ρ σ μ, code.Asks (InNameOf accounts) ∧ ∀ router,
      keeper.moduleSudo router block msg = code.run setModules (answer router) := by
  rcases confined.runSudo block msg with ⟨code, asks, same⟩
  refine ⟨code, asks.mono ?_, same⟩
  rintro (⟨account, _⟩ | _) named
  · exact heard account named
  · trivial

/-! ## What modules keep -/

section Keeps

variable {invariant : World ρ σ → Prop} {relation : World ρ σ → World ρ σ → Prop}
  [Std.Refl relation] [IsTrans (World ρ σ) relation] {router : CosmosRouter ρ σ μ}

theorem keeps_execute (confined : Confined keeper voices)
    (serves : Serves invariant relation accounts router) (speaks : accounts sender)
    (heard : ∀ account, voices account → accounts account) :
    Keeps invariant relation (keeper.moduleExecute router block sender msg) := by
  rcases confined.code_of_execute speaks heard with ⟨code, asks, same⟩
  rw [same]
  exact Client.keeps_run serves.owned serves.answers asks

theorem keeps_runSudo (confined : Confined keeper voices)
    (serves : Serves invariant relation accounts router)
    (heard : ∀ account, voices account → accounts account) :
    Keeps invariant relation (keeper.moduleSudo router block msg) := by
  rcases confined.code_of_runSudo heard with ⟨code, asks, same⟩
  rw [same]
  exact Client.keeps_run serves.owned serves.answers asks

/-- Modules settle alike with two routers that serve their accounts alike. -/
theorem agreeOn_execute (confined : Confined keeper voices) {left right : CosmosRouter ρ σ μ}
    (serves : Serves invariant relation accounts left)
    (agree : ∀ request, InNameOf accounts request → ∀ world, invariant world →
      AgreeOn world (answer left request) (answer right request))
    (speaks : accounts sender) (heard : ∀ account, voices account → accounts account)
    {world : World ρ σ} (holds : invariant world) :
    AgreeOn world (keeper.moduleExecute left block sender msg)
      (keeper.moduleExecute right block sender msg) := by
  rcases confined.code_of_execute speaks heard with ⟨code, asks, same⟩
  rw [same, same]
  exact Client.agreeOn_run serves.owned serves.answers agree asks world holds

theorem agreeOn_runSudo (confined : Confined keeper voices) {left right : CosmosRouter ρ σ μ}
    (serves : Serves invariant relation accounts left)
    (agree : ∀ request, InNameOf accounts request → ∀ world, invariant world →
      AgreeOn world (answer left request) (answer right request))
    (heard : ∀ account, voices account → accounts account)
    {world : World ρ σ} (holds : invariant world) :
    AgreeOn world (keeper.moduleSudo left block msg) (keeper.moduleSudo right block msg) := by
  rcases confined.code_of_runSudo heard with ⟨code, asks, same⟩
  rw [same, same]
  exact Client.agreeOn_run serves.owned serves.answers agree asks world holds

end Keeps

/-! ## Modules and the depth of calls -/

section Extends

variable {earlier later : CosmosRouter ρ σ μ}

theorem extends_execute (confined : Confined keeper voices)
    (alike : ∀ request, Extends (answer earlier request) (answer later request)) :
    Extends (keeper.moduleExecute earlier block sender msg)
      (keeper.moduleExecute later block sender msg) := by
  rcases confined.execute block sender msg with ⟨code, _, same⟩
  rw [same, same]
  exact Client.extends_run alike code

theorem extends_runSudo (confined : Confined keeper voices)
    (alike : ∀ request, Extends (answer earlier request) (answer later request)) :
    Extends (keeper.moduleSudo earlier block msg) (keeper.moduleSudo later block msg) := by
  rcases confined.runSudo block msg with ⟨code, _, same⟩
  rw [same, same]
  exact Client.extends_run alike code

end Extends

end Confined

end DemurrageToken.Spec
