import DemurrageToken.Spec.Effects
import DemurrageToken.Spec.TokenCalls

/-!
Contract: how the token comes into an application.

Owns: that a contract which is instantiated at the address of the token, with its code
and without an admin, is the token, ready to be called.

Does not own: what the token does from then on.
-/

namespace DemurrageToken.Spec

open DemurrageToken.Library
open DemurrageToken.Library.Handler
open DemurrageToken.Library.Ledger
open DemurrageToken.Contract
open DemurrageToken.MultiTest

/-! ## Before the token is instantiated -/

section Empty

variable {api : Api} {block : BlockInfo} {after : Storage}

theorem not_sends_empty {owner : Addr} {contract : String} {amount : U128}
    (nonzero : amount ≠ 0) : ¬ Sends api owner contract amount {} after := by
  intro sends
  cases sends with
  | intro _ debits _ _ =>
      have positive : 0 < amount.toNat := Nat.pos_of_ne_zero fun zero =>
        nonzero (BitVec.eq_of_toNat_eq zero)
      exact absurd (debits.mem positive) Std.ExtTreeMap.not_mem_empty

theorem not_drawsFrom_empty {owner : String} {spender ownerAddr : Addr} {amount : U128} :
    ¬ DrawsFrom api block owner spender amount {} ownerAddr after := by
  intro draws
  cases draws with
  | intro _ draws =>
      rcases draws with ⟨entry, _, present, _⟩
      cases Std.ExtTreeMap.getElem?_empty.symm.trans present

/-- A token without a record answers every message with an error. -/
theorem not_effect_empty {env : Env} {sender : Addr} {msg : ExecuteMsg} :
    ¬ Effect api env sender {} after msg := by
  intro effect
  cases effect with
  | transfer _ transfers =>
      cases transfers with
      | intro stored _ _ _ _ _ _ _ => cases stored
  | burn _ burns =>
      cases burns with
      | intro _ token _ _ => cases token
  | send nonzero sends => exact not_sends_empty nonzero sends
  | increaseAllowance _ _ stored _ _ _ => cases stored
  | decreaseAllowance _ _ lowers _ =>
      cases lowers with
      | lowered present _ _ => cases Std.ExtTreeMap.getElem?_empty.symm.trans present
      | removed present _ => cases Std.ExtTreeMap.getElem?_empty.symm.trans present
  | transferFrom draws _ => exact not_drawsFrom_empty draws
  | sendFrom draws _ => exact not_drawsFrom_empty draws
  | burnFrom draws _ => exact not_drawsFrom_empty draws
  | mint _ token _ _ _ _ _ _ _ _ _ _ _ => cases token
  | updateMinter token _ _ _ _ => cases token
  | changeSinkAddress stored _ => cases stored
  | changeTaxLevel stored _ => cases stored

theorem eq_empty_of_tokenCalls {allowed : Addr → Prop}
    (calls : TokenCalls api block allowed {} after) : after = {} := by
  induction calls with
  | refl => rfl
  | tail _ call inductionHypothesis =>
      rcases call with ⟨sender, msg, _, executed⟩
      subst inductionHypothesis
      exact absurd (executes_iff_effect.mp executed) not_effect_empty

end Empty

/-! ## Instantiation -/

variable {ρ σ μ : Type} {keeper : Keeper ρ σ μ} {block : BlockInfo} {world : World ρ σ}

/-- `instantiate` answers with an empty response. -/
theorem answers_instantiate (api : Api) (env : Env) (msg : InstantiateMsg) :
    Answers (instantiate api env msg) {} := by
  unfold instantiate
  repeat
    apply answers_bind
    intro _
  exact answers_pure _

/-- The next contract with the code of the token and without an admin. -/
theorem registered_of_register {data : ContractData} (code : data.codeId = keeper.tokenCode)
    (noAdmin : data.admin = none) (numbered : Numbered world.registry)
    (next : Keeper.nextAddress world.registry = keeper.tokenAddr) :
    Registered keeper
      { world with registry := world.registry.insert keeper.tokenAddr data } where
  numbered := by
    rw [← next]
    exact numbered.register
  token := ⟨data, Std.ExtTreeMap.getElem?_insert_self, code, noAdmin⟩

theorem returns_callInstantiate_token {sender : Addr} {funds : List Coin} {msg : Binary}
    {response : ContractResponse μ} {after : World ρ σ} (registered : Registered keeper world)
    (initialised : Returns (keeper.callInstantiate block keeper.tokenAddr sender funds msg) world
      response after) :
    response = keeper.tokenResponse {} ∧ ∃ decoded token,
      keeper.decodeInstantiate msg = .ok decoded ∧
        Returns (instantiate keeper.api ⟨block⟩ decoded) world.token {} token ∧
        after = { world with token } := by
  rcases registered.token with ⟨data, found, code, _⟩
  rcases returns_bind.mp initialised with ⟨_, _, ran, checks⟩
  rcases returns_fromResult.mp checks with ⟨passed, rfl⟩
  rcases verifyResponse_eq_ok.mp passed with ⟨_, _, rfl⟩
  rw [returns_withStorage_token found code] at ran
  simp only [Keeper.tokenContract, returns_bind, returns_fromResult, returns_adaptError,
    returns_pure, mapError_eq_ok] at ran
  rcases ran with ⟨_, ⟨decoded, _, ⟨valid, rfl⟩, _, token, launches, rfl, rfl⟩, rfl⟩
  obtain rfl := answers_instantiate _ _ _ _ _ _ launches
  exact ⟨rfl, decoded, token, valid, launches, rfl⟩

/-- A contract that is instantiated at the address of the token, with its code and
without an admin, is the token, ready to be called: the funds that are sent first find no
token to call. -/
theorem launched_of_instantiate {voices : Addr → Prop} (confined : Confined keeper voices)
    {depth : Nat} {sender : Addr} {msg : Binary} {funds : List Coin} {label : String}
    {responses : List AppResponse} {after : World ρ σ}
    (fresh : world.token = {}) (numbered : Numbered world.registry)
    (next : Keeper.nextAddress world.registry = keeper.tokenAddr)
    (ran : Returns ((keeper.router block depth).executeMulti sender
      [.wasm (.instantiate none keeper.tokenCode msg funds label)]) world responses after) :
    ∃ decoded, keeper.decodeInstantiate msg = .ok decoded ∧
      Launched keeper ⟨⟨block⟩, decoded⟩ ⟨after, block⟩ := by
  have executed := returns_transactional.mp ran
  rw [List.mapM_cons, List.mapM_nil] at executed
  rcases returns_bind.mp executed with ⟨response, finished, called, rest⟩
  obtain rfl : finished = after := by
    rcases returns_bind.mp rest with ⟨_, _, nothing, last⟩
    exact (returns_pure.mp nothing).2.trans (returns_pure.mp last).2
  cases depth with
  | zero =>
      rw [Keeper.router_execute_zero, returns_checked] at called
      cases called.1
  | succ depth =>
      rw [Keeper.router_execute_succ, Keeper.routerExecute, returns_adaptError] at called
      simp only [Keeper.executeWasm, returns_bind, returns_registerContract, returns_reject,
        and_assoc, exists_and_left, exists_eq_left'] at called
      rw [next] at called
      rcases called with ⟨_, _, _, _, paid, sent, res, stored, initialised, gathered, ended, replied,
        done⟩
      have sends := keepsToken_send (routerKeeps_anybody confined block depth)
        (anybody_speaks sender) _ _ _ _ _ (registered_of_register rfl rfl numbered next) sent
      have untouched : paid.token = {} := eq_empty_of_tokenCalls (fresh ▸ sends.2)
      rcases returns_callInstantiate_token sends.1 initialised with
        ⟨rfl, decoded, token, valid, launches, rfl⟩
      cases (returns_pure.mp replied).2
      rcases returns_pure.mp done with ⟨_, rfl⟩
      rw [untouched] at launches
      exact ⟨decoded, valid, ⟨⟨sends.1.numbered, sends.1.token⟩, ⟨_, launches⟩, rfl⟩⟩

end DemurrageToken.Spec
