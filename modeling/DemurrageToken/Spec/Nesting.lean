import DemurrageToken.Spec.Modules

/-!
Contract: how deep calls may be nested.

The model bounds the depth of nested calls. Where a call settles within a bound,
it settles alike within every larger one, so that what it does is a matter of the
call alone.

Owns: that the handlers of the keeper extend with their router, and calls without
a bound.
-/

namespace DemurrageToken.Spec

open DemurrageToken.Library
open DemurrageToken.Library.Handler
open DemurrageToken.Contract
open DemurrageToken.MultiTest

variable {ρ σ μ : Type} {keeper : Keeper ρ σ μ} {block : BlockInfo} {voices : Addr → Prop}

/-- `later` settles every call that `earlier` does, and alike. -/
structure RouterExtends (earlier later : Router ρ σ μ) : Prop where
  execute : ∀ sender msg, Extends (earlier.execute sender msg) (later.execute sender msg)
  runSudo : ∀ msg, Extends (earlier.runSudo msg) (later.runSudo msg)
  reply : ∀ contract reply, Extends (earlier.reply contract reply) (later.reply contract reply)

section Extends

variable {earlier later : Router ρ σ μ}

theorem extends_executeSubmsg (wider : RouterExtends earlier later) (contract : Addr)
    (msg : SubMsg μ) :
    Extends (keeper.executeSubmsg earlier contract msg)
      (keeper.executeSubmsg later contract msg) := by
  apply extends_bind (extends_attempt (extends_transactional (wider.execute contract msg.msg)))
  intro outcome
  cases outcome with
  | ok response =>
      dsimp only
      split
      · exact extends_bind (wider.reply contract _) fun replied => extends_refl _
      · exact extends_refl _
  | error failure =>
      dsimp only
      split
      · exact wider.reply contract _
      · exact extends_refl _

theorem extends_processResponse (wider : RouterExtends earlier later) (contract : Addr)
    (response : AppResponse × List (SubMsg μ)) :
    Extends (keeper.processResponse earlier contract response)
      (keeper.processResponse later contract response) := by
  apply extends_foldlM
  intro gathered resend
  exact extends_bind (extends_executeSubmsg wider contract resend) fun subres => extends_refl _

theorem extends_send (wider : RouterExtends earlier later) (sender : Addr) (recipient : String)
    (amount : List Coin) :
    Extends (keeper.send earlier sender recipient amount)
      (keeper.send later sender recipient amount) := by
  unfold Keeper.send
  split
  · exact extends_refl _
  · exact wider.execute sender _

theorem extends_finish (wider : RouterExtends earlier later) (contract : Addr)
    (response : AppResponse × List (SubMsg μ)) (data : Option Binary → Option Binary) :
    Extends
      (do
        let res ← keeper.processResponse earlier contract response
        pure { res with data := data res.data })
      (do
        let res ← keeper.processResponse later contract response
        pure { res with data := data res.data }) :=
  extends_bind (extends_processResponse wider contract response) fun _ => extends_refl _

theorem extends_executeWasm (wider : RouterExtends earlier later) (sender : Addr)
    (msg : WasmCall) :
    Extends (keeper.executeWasm block earlier sender msg)
      (keeper.executeWasm block later sender msg) := by
  cases msg with
  | execute contractAddr msg funds =>
      apply extends_bind (extends_refl _)
      intro contract
      apply extends_bind (extends_send wider _ _ _)
      intro _
      apply extends_bind (extends_refl _)
      intro res
      exact extends_finish wider contract _ executeResponse
  | «instantiate» admin codeId msg funds label =>
      apply extends_bind (extends_refl _)
      intro _
      apply extends_bind (extends_refl _)
      intro contract
      apply extends_bind (extends_send wider _ _ _)
      intro _
      apply extends_bind (extends_refl _)
      intro res
      exact extends_finish wider contract _ fun data => some (instantiateResponse data contract)
  | migrate contractAddr newCodeId msg =>
      apply extends_bind (extends_refl _)
      intro contract
      apply extends_bind (extends_refl _)
      intro _
      apply extends_bind (extends_refl _)
      intro data
      apply extends_bind (extends_refl _)
      intro _
      apply extends_bind (extends_refl _)
      intro _
      apply extends_bind (extends_refl _)
      intro res
      exact extends_finish wider contract _ executeResponse
  | unsupported => exact extends_refl _

theorem RouterExtends.answers (wider : RouterExtends earlier later) (request : Request μ) :
    Extends (answer earlier.toCosmosRouter request) (answer later.toCosmosRouter request) := by
  cases request with
  | execute sender msg => exact wider.execute sender msg
  | runSudo msg => exact wider.runSudo msg

theorem extends_routerExecute (confined : Confined keeper voices)
    (wider : RouterExtends earlier later) (sender : Addr) (msg : CosmosMsg μ) :
    Extends (keeper.routerExecute block earlier sender msg)
      (keeper.routerExecute block later sender msg) := by
  cases msg with
  | wasm msg => exact extends_adaptError (extends_executeWasm wider sender msg)
  | native msg => exact confined.extends_execute wider.answers

theorem extends_routerSudo (confined : Confined keeper voices)
    (wider : RouterExtends earlier later) (msg : SudoMsg μ) :
    Extends (keeper.routerSudo block earlier msg) (keeper.routerSudo block later msg) := by
  cases msg with
  | wasm contract msg =>
      apply extends_bind (extends_refl _)
      intro res
      exact extends_processResponse wider contract _
  | native msg => exact confined.extends_runSudo wider.answers

theorem extends_replyTo (wider : RouterExtends earlier later) (contract : Addr) (reply : Reply) :
    Extends (keeper.replyTo block earlier contract reply)
      (keeper.replyTo block later contract reply) := by
  apply extends_bind (extends_refl _)
  intro res
  exact extends_processResponse wider contract _

end Extends

theorem router_extends_succ (confined : Confined keeper voices) (block : BlockInfo)
    (depth : Nat) :
    RouterExtends (keeper.router block depth) (keeper.router block (depth + 1)) := by
  induction depth with
  | zero =>
      constructor
      · intro sender msg
        exact extends_none _
      · intro msg
        exact extends_none _
      · intro contract reply
        exact extends_none _
  | succ depth inductionHypothesis =>
      constructor
      · exact extends_routerExecute confined inductionHypothesis
      · exact extends_routerSudo confined inductionHypothesis
      · exact extends_replyTo inductionHypothesis

theorem router_extends (confined : Confined keeper voices) {shallow deep : Nat}
    (deeper : shallow ≤ deep) :
    RouterExtends (keeper.router block shallow) (keeper.router block deep) := by
  induction deeper with
  | refl =>
      constructor
      · intro sender msg
        exact extends_refl _
      · intro msg
        exact extends_refl _
      · intro contract reply
        exact extends_refl _
  | step _ inductionHypothesis =>
      have further := router_extends_succ confined block
      constructor
      · intro sender msg
        exact (inductionHypothesis.execute sender msg).trans ((further _).execute sender msg)
      · intro msg
        exact (inductionHypothesis.runSudo msg).trans ((further _).runSudo msg)
      · intro contract reply
        exact (inductionHypothesis.reply contract reply).trans ((further _).reply contract reply)

/-! ## Calls without a bound -/

/-- The message is executed on `before` and leaves `after`, however deep its calls
are nested. -/
def Delivers (keeper : Keeper ρ σ μ) (block : BlockInfo) (sender : Addr) (msg : CosmosMsg μ)
    (before : World ρ σ) (response : AppResponse) (after : World ρ σ) : Prop :=
  ∃ depth, Returns ((keeper.router block depth).execute sender msg) before response after

theorem Delivers.unique (confined : Confined keeper voices) {sender : Addr}
    {msg : CosmosMsg μ} {before left right : World ρ σ} {leftResponse rightResponse : AppResponse}
    (first : Delivers keeper block sender msg before leftResponse left)
    (second : Delivers keeper block sender msg before rightResponse right) :
    leftResponse = rightResponse ∧ left = right := by
  rcases first with ⟨shallow, ran⟩
  rcases second with ⟨deep, ranAgain⟩
  have one := (router_extends confined (le_max_left shallow deep)).execute sender msg _ _ _ ran
  have other :=
    (router_extends confined (le_max_right shallow deep)).execute sender msg _ _ _ ranAgain
  exact Returns.unique one other

end DemurrageToken.Spec
