import DemurrageToken.MultiTest.Wasm

/-!
Contract: the parser of reply data, `parse_reply.rs` of `cw-utils`.

The data of a reply is a short protobuf message, which contracts and the executor of
the host decode by hand.

Owns: the varint, field and message parsers with their errors. Each returns the data that
remains beside its value.

Does not own: the writer of the messages, which is that of the keeper.
-/

namespace DemurrageToken.MultiTest

open DemurrageToken.Contract

/-- `ParseReplyError`. -/
inductive ParseReplyError where
  | subMsgFailure (text : String)
  | parseFailure (text : String)
  | brokenUtf8
deriving DecidableEq, Repr

/-- `MsgInstantiateContractResponse`. -/
structure MsgInstantiateContractResponse where
  contractAddress : String
  data : Option Binary
deriving DecidableEq, Repr

/-- `MsgExecuteContractResponse`. -/
structure MsgExecuteContractResponse where
  data : Option Binary
deriving DecidableEq, Repr

/-- `WIRE_TYPE_LENGTH_DELIMITED`. -/
def wireTypeLengthDelimited : UInt8 := 2

/-- `VARINT_MAX_BYTES`. -/
def varintMaxBytes : Nat := 9

/-- The start of each text of a `ParseFailure` for a message that does not decode. -/
def decodeFailure (text : String) : ParseReplyError :=
  .parseFailure ("failed to decode Protobuf message: " ++ text)

/-- The loop of `parse_protobuf_varint`, with `remaining` turns left; `shift` is the
weight of the next byte. The nine bytes hold 63 bits, so that the sum stays an `u64`. -/
def varintLoop (fieldNumber : UInt8) : Nat → Nat → Nat → Binary →
    Except ParseReplyError (Nat × Binary)
  | 0, _, _, _ =>
      .error (decodeFailure ("field #" ++ toString fieldNumber ++ ": varint data too long"))
  | _ + 1, _, _, [] =>
      .error (decodeFailure ("field #" ++ toString fieldNumber ++ ": varint data too short"))
  | remaining + 1, shift, len, byte :: data =>
      let len := len + (byte &&& 0x7F).toNat * 2 ^ shift
      if byte &&& 0x80 = 0 then .ok (len, data)
      else varintLoop fieldNumber remaining (shift + 7) len data

/-- `parse_protobuf_varint`; the length falls back to the size of an address. -/
def parseProtobufVarint (usizeBits : Nat) (data : Binary) (fieldNumber : UInt8) :
    Except ParseReplyError (Nat × Binary) := do
  let (len, rest) ← varintLoop fieldNumber varintMaxBytes 0 0 data
  .ok (len % 2 ^ usizeBits, rest)

/-- `parse_protobuf_length_prefixed`. -/
def parseProtobufLengthPrefixed (usizeBits : Nat) (data : Binary) (fieldNumber : UInt8) :
    Except ParseReplyError (Binary × Binary) :=
  match data with
  | [] => .ok ([], [])
  | tag :: rest =>
      let wireType := tag &&& 0b11
      let field := tag >>> 3
      if field ≠ fieldNumber then
        .error (decodeFailure
          ("invalid field #" ++ toString field ++ " for field #" ++ toString fieldNumber))
      else if wireType ≠ wireTypeLengthDelimited then
        .error (decodeFailure
          ("field #" ++ toString fieldNumber ++ ": invalid wire type " ++ toString wireType))
      else do
        let (len, rest) ← parseProtobufVarint usizeBits rest fieldNumber
        if rest.length < len then
          .error (decodeFailure ("field #" ++ toString fieldNumber ++ ": message too short"))
        else
          .ok (rest.take len, rest.drop len)

/-- `parse_protobuf_string`. -/
def parseProtobufString (usizeBits : Nat) (data : Binary) (fieldNumber : UInt8) :
    Except ParseReplyError (String × Binary) := do
  let (field, rest) ← parseProtobufLengthPrefixed usizeBits data fieldNumber
  match String.fromUTF8? ⟨field.toArray⟩ with
  | none => .error .brokenUtf8
  | some text => .ok (text, rest)

/-- `parse_protobuf_bytes`. -/
def parseProtobufBytes (usizeBits : Nat) (data : Binary) (fieldNumber : UInt8) :
    Except ParseReplyError (Option Binary × Binary) := do
  let (field, rest) ← parseProtobufLengthPrefixed usizeBits data fieldNumber
  .ok (if field = [] then none else some field, rest)

/-- `parse_instantiate_response_data`. -/
def parseInstantiateResponseData (usizeBits : Nat) (data : Binary) :
    Except ParseReplyError MsgInstantiateContractResponse := do
  let (contractAddr, rest) ← parseProtobufString usizeBits data 1
  let (inner, _) ← parseProtobufBytes usizeBits rest 2
  .ok ⟨contractAddr, inner⟩

/-- `parse_execute_response_data`. -/
def parseExecuteResponseData (usizeBits : Nat) (data : Binary) :
    Except ParseReplyError MsgExecuteContractResponse := do
  let (inner, _) ← parseProtobufBytes usizeBits data 1
  .ok ⟨inner⟩

/-- What `parse_reply_instantiate_data` and `parse_reply_execute_data` do before they
parse the data. -/
def replyData (msg : Reply) : Except ParseReplyError Binary :=
  match msg.result with
  | .err error => .error (.subMsgFailure error)
  | .ok _ none => .error (.parseFailure "Missing reply data")
  | .ok _ (some data) => .ok data

/-- `parse_reply_instantiate_data`. -/
def parseReplyInstantiateData (usizeBits : Nat) (msg : Reply) :
    Except ParseReplyError MsgInstantiateContractResponse := do
  parseInstantiateResponseData usizeBits (← replyData msg)

/-- `parse_reply_execute_data`. -/
def parseReplyExecuteData (usizeBits : Nat) (msg : Reply) :
    Except ParseReplyError MsgExecuteContractResponse := do
  parseExecuteResponseData usizeBits (← replyData msg)

end DemurrageToken.MultiTest
