import DemurrageToken.MultiTest.App
import DemurrageToken.MultiTest.ParseReply

/-!
Contract: the helpers of `executor.rs` that run one message and read its response.

Owns: `App::execute`, `instantiate_contract` and `execute_contract`.

Does not own: the encoding of the messages; `migrate_contract` and `send_tokens`
return the response of `execute` as it is.
-/

namespace DemurrageToken.MultiTest

open DemurrageToken.Library
open DemurrageToken.Library.Handler
open DemurrageToken.Contract

/-- The errors of the helpers. -/
inductive ExecutorError where
  | app (failure : Failure)
  | parseReply (error : ParseReplyError)

namespace Keeper

variable {ρ σ μ : Type} (keeper : Keeper ρ σ μ) (block : BlockInfo)

/-- `App::execute`. -/
def appExecute (depth : Nat) (sender : Addr) (msg : CosmosMsg μ) : AppHandler ρ σ AppResponse := do
  let all ← (keeper.router block depth).executeMulti sender [msg]
  checked all.getLast?

/-- `Executor::instantiate_contract`. -/
def instantiateContract (usizeBits depth codeId : Nat) (sender : Addr) (initMsg : Binary)
    (sendFunds : List Coin) (label : String) (admin : Option String) :
    Handler (World ρ σ) ExecutorError Addr := do
  let res ← adaptError .app (keeper.appExecute block depth sender
    (.wasm (.instantiate admin codeId initMsg sendFunds label)))
  let data ← fromResult
    ((parseInstantiateResponseData usizeBits (res.data.getD [])).mapError .parseReply)
  pure ⟨data.contractAddress⟩

/-- `Executor::execute_contract`, which unwraps what it parses. -/
def executeContract (usizeBits depth : Nat) (sender contractAddr : Addr) (msg : Binary)
    (sendFunds : List Coin) : AppHandler ρ σ AppResponse := do
  let res ← keeper.appExecute block depth sender
    (.wasm (.execute contractAddr.asStr msg sendFunds))
  match res.data with
  | none => pure res
  | some data =>
      let parsed ← checked (parseExecuteResponseData usizeBits data).toOption
      pure { res with data := parsed.data }

end Keeper

end DemurrageToken.MultiTest
