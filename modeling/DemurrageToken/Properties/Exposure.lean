import DemurrageToken.Properties.Custody
import DemurrageToken.Properties.Reentrancy

/-!
Contract: what an account can lose while it signs nothing.

The exposure of an owner is the sum of what the owner allows all spenders. Without
a signature of the owner the exposure never grows, and the balance falls by no
more than the exposure does, whatever contracts are called on the way.

Owns: the exposure, and the bound over calls, transactions and runs of an
application.

Does not own: how an allowance is granted.
-/

namespace DemurrageToken.Properties

open DemurrageToken.Library
open DemurrageToken.Library.System
open DemurrageToken.Library.Ledger
open DemurrageToken.Contract
open DemurrageToken.MultiTest
open DemurrageToken.Spec

/-- What `owner` allows `spender`. -/
def allowanceOf (allowed : Allowances) (owner spender : Addr) : Nat :=
  (allowed[(owner, spender)]?.getD default).allowance.toNat

/-- What `owner` allows all spenders. -/
noncomputable def exposure (allowed : Allowances) (owner : Addr) : Nat :=
  ∑ᶠ spender, allowanceOf allowed owner spender

theorem allowanceOf_support_finite (allowed : Allowances) (owner : Addr) :
    (Function.support (allowanceOf allowed owner)).Finite := by
  apply Set.Finite.subset (List.finite_toSet (allowed.keys.map Prod.snd))
  intro spender nonzero
  by_contra outside
  apply nonzero
  have missing : (owner, spender) ∉ allowed := by
    intro member
    exact outside (List.mem_map.mpr ⟨_, Std.ExtTreeMap.mem_keys.mpr member, rfl⟩)
  rw [allowanceOf, Std.ExtTreeMap.getElem?_eq_none missing]
  rfl

theorem allowanceOf_congr {before after : Allowances} {owner spender : Addr}
    (same : after[(owner, spender)]? = before[(owner, spender)]?) :
    allowanceOf after owner spender = allowanceOf before owner spender := by
  rw [allowanceOf, allowanceOf, same]

/-- From `before` to `after` the balance of `account` falls by no more than its
exposure does, and its exposure does not grow. -/
structure Shielded (account : Addr) (before after : Storage) : Prop where
  balance : held before.balances account + exposure after.allowances account ≤
    held after.balances account + exposure before.allowances account
  exposed : exposure after.allowances account ≤ exposure before.allowances account

theorem Shielded.refl (account : Addr) (storage : Storage) : Shielded account storage storage :=
  ⟨le_rfl, le_rfl⟩

theorem Shielded.trans {account : Addr} {before middle after : Storage}
    (first : Shielded account before middle) (second : Shielded account middle after) :
    Shielded account before after := by
  have balanced := first.balance
  have continued := second.balance
  have kept := first.exposed
  have keptOn := second.exposed
  exact ⟨by omega, by omega⟩

variable {api : Api} {env : Env} {sender account : Addr} {before after : Storage}
  {msg : ExecuteMsg}

/-- Where no entry of the owner is named, the exposure stays. -/
theorem exposure_eq_of_not_named (effect : Effect api env sender before after msg)
    (unnamed : ∀ spender, (account, spender) ∉ namedPair sender msg) :
    exposure after.allowances account = exposure before.allowances account := by
  apply finsum_congr
  intro spender
  exact allowanceOf_congr (allowances_eq_of_not_named effect (unnamed spender))

/-- A draw lowers the exposure by its amount. -/
theorem exposure_of_drawnUpon {block : BlockInfo} {spender : Addr} {amount : Nat}
    (drawn : DrawnUpon block account spender amount before after)
    (others : ∀ other, other ≠ spender →
      after.allowances[(account, other)]? = before.allowances[(account, other)]?) :
    exposure after.allowances account + amount = exposure before.allowances account := by
  rcases drawn.entry with ⟨entry, left, present, _, _, lowered, difference⟩
  have agree : ∀ other, other ≠ spender →
      allowanceOf after.allowances account other = allowanceOf before.allowances account other :=
    fun other different => allowanceOf_congr (others other different)
  have moved := finsum_add_eq_of_eq_off (allowanceOf_support_finite after.allowances account)
    (allowanceOf_support_finite before.allowances account) agree
  have beforeDraw : allowanceOf before.allowances account spender = entry.allowance.toNat := by
    rw [allowanceOf, present]
    rfl
  have afterDraw : allowanceOf after.allowances account spender = left.toNat := by
    rw [allowanceOf, lowered]
    rfl
  rw [beforeDraw, afterDraw] at moved
  unfold exposure
  omega

/-- A call that the account does not sign. -/
theorem shielded_of_effect (effect : Effect api env sender before after msg)
    (unsigned : account ≠ sender) : Shielded account before after := by
  cases delegated : delegation msg with
  | none =>
      have kept := held_mono_of_direct effect delegated unsigned
      have same : exposure after.allowances account = exposure before.allowances account := by
        apply exposure_eq_of_not_named effect
        intro spender named
        cases msg with
        | increaseAllowance _ _ _ =>
            cases named
            exact unsigned rfl
        | decreaseAllowance _ _ _ =>
            cases named
            exact unsigned rfl
        | _ => simp [namedPair, delegation] at named delegated
      exact ⟨by omega, same.le⟩
  | some owed =>
      rcases owed with ⟨named, amount⟩
      have pair : namedPair sender msg = some (⟨named⟩, sender) :=
        namedPair_of_delegated delegated
      rcases drawnUpon_of_delegated effect delegated with ⟨drawnUpon, others⟩
      by_cases owner : account = ⟨named⟩
      · subst owner
        have lowered := exposure_of_drawnUpon drawnUpon fun other different =>
          allowances_eq_of_not_named effect (by
            rw [pair]
            intro same
            cases same
            exact different rfl)
        have fell := drawnUpon.balance
        exact ⟨by omega, by omega⟩
      · have kept := others account owner
        have same : exposure after.allowances account = exposure before.allowances account := by
          apply exposure_eq_of_not_named effect
          intro spender equal
          rw [pair] at equal
          cases equal
          exact owner rfl
        exact ⟨by omega, same.le⟩

theorem shielded_of_tokenCalls {block : BlockInfo} {allowed : Addr → Prop}
    (calls : TokenCalls api block allowed before after) (outsider : ¬ allowed account) :
    Shielded account before after := by
  induction calls with
  | refl => exact .refl account before
  | tail _ call inductionHypothesis =>
      rcases call with ⟨sender, msg, speaks, executed⟩
      apply inductionHypothesis.trans
      apply shielded_of_effect (executes_iff_effect.mp executed)
      rintro rfl
      exact outsider speaks

/-! ## Runs of an application -/

variable {ρ σ μ : Type} {keeper : Keeper ρ σ μ} {genesis : Genesis} {voices : Addr → Prop}

/-- From any reachable state of an application, and through any transactions that an
account signs none of: unless it is itself a contract, or a module speaks for it, its
balance falls by no more than its allowances do, and nobody enlarges them. -/
theorem unsigned_account_shielded (confined : Confined keeper voices) {start app : App ρ σ}
    {events : List (Event (App ρ σ) (Transaction μ))}
    (reachable : (appSystem keeper genesis).Reachable start)
    (run : ((appSystem keeper genesis).startingAt start).Run start events app)
    (outside : ¬ IsContract account) (unvoiced : ¬ voices account)
    (unsigned : ∀ event ∈ events, ¬ Signs event.label.action account) :
    Shielded account start.world.token app.world.token := by
  have both : Registered keeper app.world ∧
      Shielded account start.world.token app.world.token := by
    induction run with
    | nil _ => exact ⟨registered_of_reachable confined reachable, .refl account _⟩
    | extend before step inductionHypothesis =>
        rcases inductionHypothesis fun event member =>
          unsigned event (List.mem_append_left _ member) with ⟨registered, shielded⟩
        rcases step with ⟨_, depth, performs⟩
        rcases performed confined registered performs with ⟨kept, calls, _⟩
        have signed := unsigned _ (List.mem_append_right _ (List.mem_singleton_self _))
        have outsider := not_or.mpr ⟨not_or.mpr ⟨signed, unvoiced⟩, outside⟩
        exact ⟨kept, shielded.trans (shielded_of_tokenCalls calls outsider)⟩
  exact both.2

/-- Alice is burned 300 of what she allows carol. -/
theorem alice_shielded :
    ∃ (start app : App Unit Storage) (events : List (Event (App Unit Storage)
        (Transaction NativeMsg))),
      sampleSystem.Reachable start ∧ (sampleSystem.startingAt start).Run start events app ∧
      held app.world.token.balances ⟨"alice"⟩ + 300 =
        held start.world.token.balances ⟨"alice"⟩ ∧
      Shielded ⟨"alice"⟩ start.world.token app.world.token := by
  let grant := toToken
    "\x7b\"increase_allowance\":\x7b\"spender\":\"carol\",\"amount\":\"500\"\x7d\x7d"
  let burn := toToken "\x7b\"burn_from\":\x7b\"owner\":\"alice\",\"amount\":\"300\"\x7d\x7d"
  rcases exists_sampleRun [(⟨"alice"⟩, grant)] (fun _ granted =>
      (succeed granted ⟨"carol"⟩ burn).any fun burned => decide (
        held burned.2.world.token.balances ⟨"alice"⟩ + 300 =
          held granted.world.token.balances ⟨"alice"⟩))
      (by decide +kernel) with ⟨_, _, start, history, passed⟩
  rcases (Option.any_eq_true _ _).mp passed with ⟨⟨responses, app⟩, burned, fell⟩
  have run : (sampleSystem.startingAt start).Run start
      ([] ++ [⟨start, ⟨.execute ⟨"carol"⟩ [burn], .ok responses⟩, app⟩]) app :=
    (System.Run.nil rfl).extend (step_of_succeed burned)
  refine ⟨start, app, _, history.reachable, run, of_decide_eq_true fell, ?_⟩
  apply unsigned_account_shielded confined_sample history.reachable run
  · intro contract
    rcases contract with ⟨count, same⟩
    have letters := congrArg (fun address : Addr => address.asStr.toList.head?) same
    simp [contractAddress] at letters
  · unfold isTreasury
    decide
  · intro event member
    rw [List.nil_append, List.mem_singleton] at member
    subst member
    have different : (⟨"alice"⟩ : Addr) ≠ ⟨"carol"⟩ := by decide
    exact different

end DemurrageToken.Properties
