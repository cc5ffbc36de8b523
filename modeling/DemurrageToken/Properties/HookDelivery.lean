import DemurrageToken.Properties.Reentrancy
import DemurrageToken.Spec.Hooks

/-!
Contract: what a message to the token does in an application.

Owns: that a call of the token is accepted exactly where its handler succeeds on
the stored tokens, the texts of its response are not blank, and the contract it
calls accepts the tokens; and the world and the response it then ends with.

Does not own: what the receiving contract does with the tokens.
-/

namespace DemurrageToken.Properties

open DemurrageToken.Library
open DemurrageToken.Library.System
open DemurrageToken.Library.Handler
open DemurrageToken.Contract
open DemurrageToken.MultiTest
open DemurrageToken.Spec

variable {ρ σ μ : Type} {keeper : Keeper ρ σ μ} {block : BlockInfo} {voices : Addr → Prop}
  {world after : World ρ σ} {sender : Addr} {bytes : Binary} {funds : List Coin}

/-- The funds of a call of the token are sent ahead of it, by a message to the bank. -/
def Pays (keeper : Keeper ρ σ μ) (block : BlockInfo) (sender : Addr) (funds : List Coin)
    (before after : World ρ σ) : Prop :=
  if funds = [] then
    after = before
  else
    ∃ receipt, Delivers keeper block sender
      (.native (keeper.bankSend keeper.tokenAddr.asStr funds)) before receipt after

/-- What sending the funds does within a bound. -/
def PaysWithin (keeper : Keeper ρ σ μ) (block : BlockInfo) (depth : Nat) (sender : Addr)
    (funds : List Coin) (before after : World ρ σ) : Prop :=
  ∃ receipt, Returns (keeper.send (keeper.router block depth) sender keeper.tokenAddr.asStr funds)
    before receipt after

theorem pays_iff : Pays keeper block sender funds world after ↔
    ∃ depth, PaysWithin keeper block depth sender funds world after := by
  unfold Pays PaysWithin Keeper.send
  split
  · simp only [returns_pure, exists_eq_left']
    exact ⟨fun same => ⟨0, same.symm⟩, fun found => found.choose_spec.symm⟩
  · exact exists_comm

theorem PaysWithin.deeper (confined : Confined keeper voices) {shallow deep : Nat}
    (bound : shallow ≤ deep) (pays : PaysWithin keeper block shallow sender funds world after) :
    PaysWithin keeper block deep sender funds world after := by
  rcases pays with ⟨receipt, sent⟩
  exact ⟨receipt, extends_send (router_extends confined bound) _ _ _ _ _ _ sent⟩

theorem completes_iff {msg : ExecuteMsg} {response : AppResponse} :
    Completes keeper (Delivers keeper block keeper.tokenAddr) sender msg world response after ↔
      ∃ depth, Completes keeper
        (fun msg => Returns ((keeper.router block depth).execute keeper.tokenAddr msg)) sender msg
        world response after := by
  unfold Completes
  cases hookOf sender msg with
  | none => exact ⟨fun same => ⟨0, same⟩, fun found => found.choose_spec⟩
  | some hook =>
      constructor
      · rintro ⟨inner, ⟨depth, ran⟩, same⟩
        exact ⟨depth, inner, ran, same⟩
      · rintro ⟨depth, inner, ran, same⟩
        exact ⟨inner, ⟨depth, ran⟩, same⟩

theorem completes_deeper (confined : Confined keeper voices) {shallow deep : Nat}
    (bound : shallow ≤ deep) {msg : ExecuteMsg} {response : AppResponse}
    (completes : Completes keeper
      (fun msg => Returns ((keeper.router block shallow).execute keeper.tokenAddr msg)) sender msg
      world response after) :
    Completes keeper
      (fun msg => Returns ((keeper.router block deep).execute keeper.tokenAddr msg)) sender msg
      world response after := by
  unfold Completes at completes ⊢
  split at completes
  · exact completes
  · rcases completes with ⟨inner, ran, same⟩
    exact ⟨inner, (router_extends confined bound).execute _ _ _ _ _ ran, same⟩

/-- A call of the token, wherever it is made from: exactly where the funds can be sent
first, the token accepts the message on what is stored then and, after a send, the
receiving contract accepts one call from the token with the sender, the amount and the
message, made on the world in which the tokens have moved. Whatever that call leaves is
what the whole call leaves, and nothing else can come of it. -/
theorem token_call_delivered_iff (confined : Confined keeper voices)
    (registered : Registered keeper world) {response : AppResponse} :
    (Delivers keeper block sender (.wasm (.execute keeper.tokenAddr.asStr bytes funds)) world
        response after ↔
      ∃ paid, Pays keeper block sender funds world paid ∧
        ∃ msg moved, Accepts keeper block sender bytes paid.token msg moved ∧
          Completes keeper (Delivers keeper block keeper.tokenAddr) sender msg
            { paid with token := moved } response after) ∧
      (Delivers keeper block sender (.wasm (.execute keeper.tokenAddr.asStr bytes funds)) world
          response after →
        ∀ other otherAfter, Delivers keeper block sender
            (.wasm (.execute keeper.tokenAddr.asStr bytes funds)) world other otherAfter →
          other = response ∧ otherAfter = after) := by
  have unfolded : ∀ depth, Returns ((keeper.router block (depth + 1)).execute sender
      (.wasm (.execute keeper.tokenAddr.asStr bytes funds))) world response after ↔
      ∃ receipt paid, Returns (keeper.send (keeper.router block depth) sender
          keeper.tokenAddr.asStr funds) world receipt paid ∧
        ∃ msg moved, Accepts keeper block sender bytes paid.token msg moved ∧
          Completes keeper
            (fun msg => Returns ((keeper.router block depth).execute keeper.tokenAddr msg)) sender
            msg { paid with token := moved } response after := by
    intro depth
    rw [Keeper.router_execute_succ, Keeper.routerExecute, returns_adaptError,
      returns_executeWasm_token (routerKeeps_anybody confined block depth) registered]
  refine ⟨?_, fun delivered _ _ again => again.unique confined delivered⟩
  constructor
  · intro delivered
    rcases delivered with ⟨depth, ran⟩
    cases depth with
    | zero =>
        rw [Keeper.router_execute_zero, returns_checked] at ran
        cases ran.1
    | succ depth =>
        rcases (unfolded depth).mp ran with ⟨receipt, paid, sent, msg, moved, accepts, completes⟩
        exact ⟨paid, pays_iff.mpr ⟨depth, receipt, sent⟩, msg, moved, accepts,
          completes_iff.mpr ⟨depth, completes⟩⟩
  · intro accepted
    rcases accepted with ⟨paid, pays, msg, moved, accepts, completes⟩
    rcases pays_iff.mp pays with ⟨shallow, pays⟩
    rcases completes_iff.mp completes with ⟨deep, completes⟩
    -- the funds and the message of the token may need different bounds
    rcases pays.deeper confined (le_max_left shallow deep) with ⟨receipt, sent⟩
    exact ⟨max shallow deep + 1, (unfolded _).mpr ⟨receipt, paid, sent, msg, moved, accepts,
      completes_deeper confined (le_max_right shallow deep) completes⟩⟩

/-- The burner is told of the 1000 that alice sends it. -/
theorem burner_call_delivered :
    ∃ (world after : World Unit Storage) (response : AppResponse),
      Delivers sampleKeeper (blockAt 0).block ⟨"alice"⟩ sampleSend world response after ∧
      Ledger.held after.token.balances (contractAddress 1) = 600 ∧
      ∃ paid, Pays sampleKeeper (blockAt 0).block ⟨"alice"⟩ [] world paid ∧
        ∃ msg moved, Accepts sampleKeeper (blockAt 0).block ⟨"alice"⟩ (bytesOf
            "\x7b\"send\":\x7b\"contract\":\"contract1\",\"amount\":\"1000\",\"msg\":\"\"\x7d\x7d")
            paid.token msg moved ∧
          Completes sampleKeeper (Delivers sampleKeeper (blockAt 0).block (contractAddress 0))
            ⟨"alice"⟩ msg { paid with token := moved } response after := by
  rcases exists_sampleRun []
      (fun _ app => (run ((sampleKeeper.router (blockAt 0).block 3).execute ⟨"alice"⟩ sampleSend)
        app.world).any fun outcome => outcome.1.isOk && decide (
          Ledger.held outcome.2.token.balances (contractAddress 1) = 600))
      (by decide +kernel) with ⟨start, events, app, history, passed⟩
  rcases (Option.any_eq_true _ _).mp passed with ⟨⟨failure | response, after⟩, ran, checks⟩
  · cases checks
  · have burned : Ledger.held after.token.balances (contractAddress 1) = 600 :=
      of_decide_eq_true checks
    have registered := registered_of_reachable confined_sample history.reachable
    have delivered : Delivers sampleKeeper (blockAt 0).block ⟨"alice"⟩ sampleSend app.world
        response after := ⟨3, ran⟩
    exact ⟨_, after, response, delivered, burned,
      (token_call_delivered_iff confined_sample registered).1.mp delivered⟩

end DemurrageToken.Properties
