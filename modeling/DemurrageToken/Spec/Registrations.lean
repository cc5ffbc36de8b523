import DemurrageToken.Spec.TokenCalls

/-!
Contract: the registry of an application only grows.

However the contracts call each other, a registered contract stays registered at its
address, with its creator, its admin, its label and its creation height. Its code
changes only where it has an admin, who migrates it.

Owns: the relation between an earlier and a later registry, and that every handler of
the keeper stays inside it.

Does not own: the storages of the contracts.
-/

namespace DemurrageToken.Spec

open DemurrageToken.Library
open DemurrageToken.Library.Handler
open DemurrageToken.Contract
open DemurrageToken.MultiTest

variable {ρ σ μ : Type}

/-- What stays of a registration. -/
structure Persists (data later : ContractData) : Prop where
  creator : later.creator = data.creator
  admin : later.admin = data.admin
  label : later.label = data.label
  created : later.created = data.created
  code : data.admin = none → later.codeId = data.codeId

theorem Persists.refl (data : ContractData) : Persists data data :=
  ⟨rfl, rfl, rfl, rfl, fun _ => rfl⟩

theorem Persists.trans {first second third : ContractData} (early : Persists first second)
    (late : Persists second third) : Persists first third where
  creator := late.creator.trans early.creator
  admin := late.admin.trans early.admin
  label := late.label.trans early.label
  created := late.created.trans early.created
  code unmanaged := (late.code (early.admin.trans unmanaged)).trans (early.code unmanaged)

/-- Each contract of the earlier registry is in the later one. -/
def Grows (before after : World ρ σ) : Prop :=
  ∀ (address : Addr) (data : ContractData), before.registry[address]? = some data →
    ∃ later, after.registry[address]? = some later ∧ Persists data later

instance grows_refl : Std.Refl (Grows : World ρ σ → World ρ σ → Prop) where
  refl := fun _ _ data found => ⟨data, found, .refl data⟩

instance grows_trans : IsTrans (World ρ σ) Grows where
  trans := by
    intro first second third early late address data found
    rcases early address data found with ⟨middle, present, kept⟩
    rcases late address middle present with ⟨last, stored, onward⟩
    exact ⟨last, stored, kept.trans onward⟩

theorem grows_of_registry_eq {before after : World ρ σ} (same : after.registry = before.registry) :
    Grows before after := by
  intro address data found
  rw [same]
  exact ⟨data, found, .refl data⟩

/-- Saving a contract keeps the others, and the one at its address where it persists. -/
theorem grows_of_save {world : World ρ σ} {address : Addr} {data : ContractData}
    (kept : ∀ earlier, world.registry[address]? = some earlier → Persists earlier data) :
    Grows world { world with registry := world.registry.insert address data } := by
  intro other earlier found
  by_cases same : compare address other = .eq
  · refine ⟨data, ?_, ?_⟩
    · rw [Std.ExtTreeMap.getElem?_insert, if_pos same]
    · rw [Std.LawfulEqCmp.eq_of_compare same] at kept
      exact kept earlier found
  · refine ⟨earlier, ?_, .refl earlier⟩
    rw [Std.ExtTreeMap.getElem?_insert, if_neg same]
    exact found

/-! ## The handlers of the keeper -/

section Keeps

variable {keeper : Keeper ρ σ μ} {block : BlockInfo}

/-- A handler that keeps the numbering of the contracts, and each of them. -/
abbrev KeepsRegistry {α : Type} (handler : AppHandler ρ σ α) : Prop :=
  Keeps (fun world => Numbered world.registry) Grows handler

theorem keepsRegistry_call (address : Addr)
    (action : ∀ {τ : Type}, Contract (World ρ σ) τ μ → World ρ σ →
      Handler τ Failure (ContractResponse μ)) :
    KeepsRegistry (Keeper.verified (keeper.withStorage address action)) := by
  refine keeps_bind (keeps_bind (keeps_bind (keeps_read _) ?_) ?_) ?_
  · intro _ registry _ _ _
    exact keeps_fromResult _
  · intro _ data _ _ _
    split
    · apply keeps_transactional
      apply keeps_onComponent
      intro world token numbered
      exact ⟨numbered, grows_of_registry_eq rfl⟩
    · apply keeps_bind (keeps_fromResult _)
      intro _ contract _ _ _
      apply keeps_transactional
      apply keeps_onComponent
      intro world storage numbered
      exact ⟨numbered, grows_of_registry_eq rfl⟩
  · intro _ response _ _ _
    exact keeps_fromResult _

/-- The ways back into the keeper keep the registry. -/
structure RouterKeepsRegistry (router : Router ρ σ μ) : Prop where
  execute : ∀ sender msg, KeepsRegistry (router.execute sender msg)
  runSudo : ∀ msg, KeepsRegistry (router.runSudo msg)
  reply : ∀ contract reply, KeepsRegistry (router.reply contract reply)

variable {router : Router ρ σ μ}

theorem keepsRegistry_executeSubmsg (keeps : RouterKeepsRegistry router) (contract : Addr)
    (msg : SubMsg μ) : KeepsRegistry (keeper.executeSubmsg router contract msg) := by
  apply keeps_bind (keeps_attempt (keeps_transactional (keeps.execute contract msg.msg)))
  intro _ outcome _ _ _
  cases outcome with
  | ok response =>
      dsimp only
      split
      · apply keeps_bind (keeps.reply contract _)
        intro _ replied _ _ _
        exact keeps_pure _
      · exact keeps_pure _
  | error failure =>
      dsimp only
      split
      · exact keeps.reply contract _
      · exact keeps_fromResult _

theorem keepsRegistry_processResponse (keeps : RouterKeepsRegistry router) (contract : Addr)
    (response : AppResponse × List (SubMsg μ)) :
    KeepsRegistry (keeper.processResponse router contract response) := by
  apply keeps_foldlM
  intro gathered resend _
  apply keeps_bind (keepsRegistry_executeSubmsg keeps contract resend)
  intro _ subres _ _ _
  exact keeps_pure _

theorem keepsRegistry_send (keeps : RouterKeepsRegistry router) (sender : Addr)
    (recipient : String) (amount : List Coin) :
    KeepsRegistry (keeper.send router sender recipient amount) := by
  unfold Keeper.send
  split
  · exact keeps_pure _
  · exact keeps.execute sender _

theorem keepsRegistry_registerContract (codeId : Nat) (creator : Addr) (admin : Option Addr)
    (label : String) (created : U64) :
    KeepsRegistry (keeper.registerContract codeId creator admin label created) := by
  apply keeps_bind (keeps_fromResult _)
  intro _ _ _ _ _
  apply keeps_bind_at (keeps_read _)
  intro world registry middle numbered readIt result after _ settled
  rcases returns_read.mp readIt with ⟨rfl, rfl⟩
  simp only [Keeper.saveContract, settles_bind, returns_write, settles_write, settles_pure,
    exists_eq_left', reduceCtorEq, false_and, exists_false, or_false] at settled
  rcases settled with ⟨_, _, rfl⟩
  refine ⟨numbered.register, grows_of_save ?_⟩
  intro earlier found
  exact absurd (Std.ExtTreeMap.isSome_getElem?_iff_mem.mp (Option.isSome_of_eq_some found))
    numbered.nextAddress_notMem

/-- The rest of a call, from the response of the contract on. -/
theorem keepsRegistry_finish (keeps : RouterKeepsRegistry router) (contract : Addr)
    (event : AppEvent) (response : ContractResponse μ) (data : Option Binary → Option Binary) :
    KeepsRegistry (do
      let res ← keeper.processResponse router contract (buildAppResponse contract event response)
      pure { res with data := data res.data }) := by
  apply keeps_bind (keepsRegistry_processResponse keeps contract _)
  intro _ res _ _ _
  exact keeps_pure _

/-- Only the admin of a contract changes its code. -/
theorem keepsRegistry_migrate (keeps : RouterKeepsRegistry router) (sender : Addr)
    (contractAddr : String) (newCodeId : Nat) (msg : Binary) :
    KeepsRegistry
      (keeper.executeWasm block router sender (.migrate contractAddr newCodeId msg)) := by
  apply keeps_bind (keeps_fromResult _)
  intro _ contract _ _ _
  apply keeps_bind (keeps_fromResult _)
  intro _ _ _ _ _
  apply keeps_bind_at (keeps_bind (keeps_read _) fun _ _ _ _ _ => keeps_fromResult _)
  intro world data middle numbered loaded result after _ settled
  rcases returns_loadContract.mp loaded with ⟨found, rfl⟩
  rcases settles_bind.mp settled with ⟨_, middle, passed, saves⟩ | ⟨failure, failed, _⟩
  · rcases returns_reject.mp passed with ⟨admin, rfl⟩
    have member : contract ∈ world.registry :=
      Std.ExtTreeMap.isSome_getElem?_iff_mem.mp (Option.isSome_of_eq_some found)
    have saved : Grows world { world with
        registry := world.registry.insert contract { data with codeId := newCodeId } } := by
      apply grows_of_save
      intro earlier present
      cases found.symm.trans present
      refine ⟨rfl, rfl, rfl, rfl, fun unmanaged => ?_⟩
      cases (not_not.mp admin).symm.trans unmanaged
    rcases settles_bind.mp saves with ⟨_, middle, wrote, rest⟩ | ⟨failure, failed, _⟩
    · obtain rfl := returns_write.mp wrote
      have later : KeepsRegistry (do
          let res ← keeper.callMigrate block contract msg
          let event := Keeper.callEvent "migrate" contract [("code_id", toString newCodeId)]
          let res ← keeper.processResponse router contract (buildAppResponse contract event res)
          pure { res with data := executeResponse res.data }) := by
        apply keeps_bind (keepsRegistry_call contract _)
        intro _ res _ _ _
        exact keepsRegistry_finish keeps contract _ res executeResponse
      have kept := later _ result after (numbered.update member) rest
      exact ⟨kept.1, trans_of Grows saved kept.2⟩
    · cases (settles_write.mp failed).1
  · rcases settles_fromResult.mp failed with ⟨_, rfl⟩
    exact ⟨numbered, refl_of Grows world⟩

theorem keepsRegistry_executeWasm (keeps : RouterKeepsRegistry router) (sender : Addr)
    (msg : WasmCall) : KeepsRegistry (keeper.executeWasm block router sender msg) := by
  cases msg with
  | execute contractAddr msg funds =>
      apply keeps_bind (keeps_fromResult _)
      intro _ contract _ _ _
      apply keeps_bind (keepsRegistry_send keeps _ _ _)
      intro _ _ _ _ _
      apply keeps_bind (keepsRegistry_call contract _)
      intro _ res _ _ _
      exact keepsRegistry_finish keeps contract _ res executeResponse
  | «instantiate» admin codeId msg funds label =>
      apply keeps_bind (keeps_fromResult _)
      intro _ _ _ _ _
      apply keeps_bind (keepsRegistry_registerContract _ _ _ _ _)
      intro _ contract _ _ _
      apply keeps_bind (keepsRegistry_send keeps _ _ _)
      intro _ _ _ _ _
      apply keeps_bind (keepsRegistry_call contract _)
      intro _ res _ _ _
      exact keepsRegistry_finish keeps contract _ res
        fun data => some (instantiateResponse data contract)
  | migrate contractAddr newCodeId msg =>
      exact keepsRegistry_migrate keeps sender contractAddr newCodeId msg
  | unsupported => exact keeps_fromResult _

theorem RouterKeepsRegistry.serves (keeps : RouterKeepsRegistry router) :
    Serves (fun world => Numbered world.registry) Grows (fun _ => True)
      router.toCosmosRouter where
  owned _ _ numbered := ⟨numbered, grows_of_registry_eq rfl⟩
  execute sender msg _ := keeps.execute sender msg
  runSudo := keeps.runSudo

theorem routerKeepsRegistry {voices : Addr → Prop} (confined : Confined keeper voices)
    (block : BlockInfo) (depth : Nat) : RouterKeepsRegistry (keeper.router block depth) := by
  induction depth with
  | zero =>
      constructor
      · intro sender msg
        exact keeps_checked none
      · intro msg
        exact keeps_checked none
      · intro contract reply
        exact keeps_checked none
  | succ depth inductionHypothesis =>
      have serves := inductionHypothesis.serves
      constructor
      · intro sender msg
        cases msg with
        | wasm msg =>
            exact keeps_adaptError (keepsRegistry_executeWasm inductionHypothesis sender msg)
        | native msg => exact confined.keeps_execute serves trivial fun _ _ => trivial
      · intro msg
        cases msg with
        | wasm contract msg =>
            apply keeps_bind (keepsRegistry_call contract _)
            intro _ res _ _ _
            exact keepsRegistry_processResponse inductionHypothesis contract _
        | native msg => exact confined.keeps_runSudo serves fun _ _ => trivial
      · intro contract reply
        apply keeps_bind (keepsRegistry_call contract _)
        intro _ res _ _ _
        exact keepsRegistry_processResponse inductionHypothesis contract _

theorem keepsRegistry_executeMulti (keeps : RouterKeepsRegistry router) (sender : Addr)
    (msgs : List (CosmosMsg μ)) : KeepsRegistry (router.executeMulti sender msgs) := by
  apply keeps_transactional
  apply keeps_mapM
  intro msg _
  exact keeps.execute sender msg

theorem keepsRegistry_appSudo (keeps : RouterKeepsRegistry router) (msg : SudoMsg μ) :
    KeepsRegistry (router.appSudo msg) :=
  keeps_transactional (keeps.runSudo msg)

end Keeps

end DemurrageToken.Spec
