import DemurrageToken.Contract.Query
import DemurrageToken.Library.Runs

/-!
Contract: the token as a transition system.

A state of the system is the storage and the block of the last message. The
initial states are those a successful `instantiate` leaves on the empty
storage; a step is one successful `execute` message, from any sender, in a
block that is not earlier. A message that fails or aborts is rolled back by the
host, so it is no step at all.

Owns: the system and the shape of its initial states and steps.
-/

namespace DemurrageToken.Contract

open DemurrageToken.Library
open DemurrageToken.Library.Handler

/-- The storage, and the block of the last message. -/
structure Chain where
  storage : Storage
  block : BlockInfo
deriving DecidableEq

/-- One `execute` call. -/
structure Call where
  env : Env
  info : MessageInfo
  msg : ExecuteMsg
deriving DecidableEq, Repr

/-- The `instantiate` call of a contract. -/
structure Genesis where
  env : Env
  msg : InstantiateMsg
deriving DecidableEq, Repr

/-- The call succeeds on `before` and leaves `after`. -/
def Executes (api : Api) (call : Call) (before after : Storage) : Prop :=
  ∃ response, Returns (execute api call.env call.info call.msg) before response after

/-- The token contract instantiated by `genesis`. -/
def tokenSystem (api : Api) (genesis : Genesis) : System Chain Call where
  init := fun chain =>
    (∃ response, Returns (instantiate api genesis.env genesis.msg) {} response chain.storage) ∧
      chain.block = genesis.env.block
  step := fun chain call next =>
    chain.block.time.nanos.toNat ≤ call.env.block.time.nanos.toNat ∧
      Executes api call chain.storage next.storage ∧ next.block = call.env.block

end DemurrageToken.Contract
