import DemurrageToken.Library.Checked
import DemurrageToken.Library.Handler

/-!
Contract: what the token contract sees of its host.

Owns: the word sizes, addresses and their validation, timestamps and blocks,
the standard errors, the responses of a handler, and the expirations of the
vendored `cw-utils`.

Does not own: how the host validates addresses. `Api` takes the validator as a
parameter and keeps the one thing the contract relies on as a field: a
validated address is the string that was validated.
-/

namespace DemurrageToken.Contract

open DemurrageToken.Library

abbrev U32 := BitVec 32

abbrev U64 := BitVec 64

/-- Both `u128` and `Uint128`; the latter's operators abort on overflow too. -/
abbrev U128 := BitVec 128

/-- `Binary`. -/
abbrev Binary := List UInt8

/-! ## Addresses -/

/-- `Addr`, a newtype around its string. -/
structure Addr where
  asStr : String
deriving DecidableEq, Repr

instance : Ord Addr := ⟨compareOn Addr.asStr⟩

instance : Std.TransOrd Addr :=
  inferInstanceAs (Std.TransCmp (compareOn Addr.asStr))

instance : Std.LawfulEqOrd Addr where
  eq_of_compare := by
    intro left right equal
    have order : Std.LawfulEqCmp (compare : String → String → Ordering) := inferInstance
    have sameString : left.asStr = right.asStr := order.eq_of_compare equal
    cases left
    cases right
    exact congrArg Addr.mk sameString

/-- Pairs of addresses in the order of their composite key. -/
instance : Ord (Addr × Addr) := lexOrd

instance : Std.TransOrd (Addr × Addr) :=
  inferInstanceAs (@Std.TransOrd (Addr × Addr) lexOrd)

instance : Std.LawfulEqOrd (Addr × Addr) :=
  inferInstanceAs (@Std.LawfulEqOrd (Addr × Addr) lexOrd)

/-! ## Errors -/

inductive OverflowOperation where
  | sub
deriving DecidableEq, Repr

/-- `StdError`, the variants this contract and its host calls produce. The text
of `invalidUtf8` is that of the standard decoder and is left out. -/
inductive StdError where
  | genericErr (msg : String)
  | notFound (kind : String)
  | invalidUtf8
  | overflow (operation : OverflowOperation) (operand1 operand2 : String)
deriving DecidableEq, Repr

/-- The host's address validation: partial, and never rewriting its input. -/
structure Api where
  addrValidate : String → Except StdError Addr
  addrValidate_unchanged : ∀ {human : String} {addr : Addr},
    addrValidate human = .ok addr → addr.asStr = human

/-- Validating the same string again gives the same address. -/
theorem Api.addrValidate_asStr (api : Api) {human : String} {addr : Addr}
    (valid : api.addrValidate human = .ok addr) : api.addrValidate addr.asStr = .ok addr := by
  rw [api.addrValidate_unchanged valid]
  exact valid

/-- An address validates from one string only. -/
theorem Api.addrValidate_eq (api : Api) {human : String} {addr : Addr}
    (valid : api.addrValidate human = .ok addr) : addr = ⟨human⟩ := by
  rw [← api.addrValidate_unchanged valid]

/-! ## Time -/

/-- `Timestamp`: nanoseconds since the epoch. -/
structure Timestamp where
  nanos : U64
deriving DecidableEq, Repr

def nanosPerSecond : U64 := 1000000000

/-- `Timestamp::seconds`. -/
def Timestamp.seconds (timestamp : Timestamp) : U64 :=
  timestamp.nanos / nanosPerSecond

/-- `Timestamp::plus_seconds`, which returns the later timestamp and leaves
its receiver as it is. -/
def Timestamp.plusSeconds (timestamp : Timestamp) (addition : U64) : Option Timestamp := do
  let nanos ← Checked.mul addition nanosPerSecond
  let later ← Checked.add timestamp.nanos nanos
  pure ⟨later⟩

@[simp] theorem Timestamp.seconds_toNat (timestamp : Timestamp) :
    timestamp.seconds.toNat = timestamp.nanos.toNat / 10 ^ 9 := by
  rw [Timestamp.seconds, BitVec.toNat_udiv]
  rfl

theorem Timestamp.plusSeconds_eq_some {timestamp later : Timestamp} {addition : U64} :
    timestamp.plusSeconds addition = some later ↔
      timestamp.nanos.toNat + addition.toNat * 10 ^ 9 = later.nanos.toNat := by
  have unit : nanosPerSecond.toNat = 10 ^ 9 := rfl
  simp only [Timestamp.plusSeconds, Option.bind_eq_bind, Option.bind_eq_some_iff,
    Checked.mul_eq_some, Checked.add_eq_some, Option.pure_def, Option.some.injEq, unit]
  constructor
  · rintro ⟨nanos, product, value, sum, rfl⟩
    rw [product]
    exact sum
  · intro equal
    have bound := later.nanos.isLt
    obtain ⟨nanos, product⟩ : ∃ nanos : U64, addition.toNat * 10 ^ 9 = nanos.toNat :=
      Checked.word_exists (by omega)
    rw [product] at equal
    exact ⟨nanos, product, later.nanos, equal, rfl⟩

/-- `BlockInfo`. -/
structure BlockInfo where
  height : U64
  time : Timestamp
deriving DecidableEq, Repr

/-- `Env`. -/
structure Env where
  block : BlockInfo
deriving DecidableEq, Repr

/-- `MessageInfo`. -/
structure MessageInfo where
  sender : Addr
deriving DecidableEq, Repr

/-- `Expiration` of the vendored `cw-utils`. -/
inductive Expiration where
  | atHeight (height : U64)
  | atTime (time : Timestamp)
  | never
deriving DecidableEq, Repr

/-- `Expiration::default`. -/
instance : Inhabited Expiration := ⟨.never⟩

/-- `Expiration::is_expired`. -/
def Expiration.isExpired (expiration : Expiration) (block : BlockInfo) : Bool :=
  match expiration with
  | .atHeight height => height.toNat ≤ block.height.toNat
  | .atTime time => time.nanos.toNat ≤ block.time.nanos.toNat
  | .never => false

/-! ## Responses -/

/-- `Cw20ReceiveMsg`, delivered to the receiving contract. -/
structure Cw20ReceiveMsg where
  sender : String
  amount : U128
  msg : Binary
deriving DecidableEq, Repr

/-- `WasmMsg::Execute` with the `Receive` variant as its body and no funds. -/
structure WasmMsg where
  contractAddr : String
  receive : Cw20ReceiveMsg
deriving DecidableEq, Repr

/-- `Cw20ReceiveMsg::into_cosmos_msg`; the body always serialises. -/
def Cw20ReceiveMsg.intoCosmosMsg (receive : Cw20ReceiveMsg) (contractAddr : String) : WasmMsg :=
  ⟨contractAddr, receive⟩

/-- `Response`. -/
structure Response where
  messages : List WasmMsg := []
  attributes : List (String × String) := []
deriving DecidableEq, Repr

/-- The decimal text of an amount, as attributes and errors carry it. -/
def U128.text (amount : U128) : String := toString amount.toNat

end DemurrageToken.Contract
