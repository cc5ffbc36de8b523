import DemurrageToken.Library.Base128
import DemurrageToken.MultiTest.ParseReply
import DemurrageToken.Spec.Ranges

/-!
Contract: the data of a reply, as written by the keeper and read by the parser.

A message is one or two length-prefixed fields. The parser reads each field in its
place and ignores what follows the last one; what the keeper writes is read back.

Owns: fields and exactly which data the parsers accept, and the round trip.

Does not own: the contracts that ask for replies.
-/

namespace DemurrageToken.Properties

open DemurrageToken.Library
open DemurrageToken.Contract
open DemurrageToken.MultiTest
open DemurrageToken.Spec
open Base128 (Denotes)

variable {usizeBits : Nat}

/-! ## Lengths -/

theorem varintLoop_eq_ok {fieldNumber : UInt8} {remaining shift len total : Nat}
    {data rest : Binary} :
    varintLoop fieldNumber remaining shift len data = .ok (total, rest) ↔
      ∃ bytes value, Denotes bytes value ∧ bytes.length ≤ remaining ∧ data = bytes ++ rest ∧
        total = len + value * 2 ^ shift := by
  induction remaining generalizing shift len data with
  | zero =>
      constructor
      · intro read
        cases read
      · rintro ⟨bytes, value, denotes, short, _⟩
        exact absurd (List.length_eq_zero_iff.mp (Nat.le_zero.mp short)) denotes.ne_nil
  | succ remaining inductionHypothesis =>
      cases data with
      | nil =>
          constructor
          · intro read
            cases read
          · rintro ⟨bytes, value, denotes, _, same, _⟩
            exact absurd (List.append_eq_nil_iff.mp same.symm).1 denotes.ne_nil
      | cons byte data =>
          rw [varintLoop]
          simp only [Base128.top_eq_zero_iff, Base128.toNat_low]
          split
          · rename_i ends
            rw [Nat.mod_eq_of_lt ends, Except.ok.injEq, Prod.mk.injEq]
            constructor
            · rintro ⟨rfl, rfl⟩
              exact ⟨[byte], byte.toNat, .last byte ends, by simp, rfl, rfl⟩
            · rintro ⟨bytes, value, denotes, _, same, rfl⟩
              rcases denotes.append_unique (.last byte ends) same.symm with ⟨_, rfl, rfl⟩
              exact ⟨rfl, rfl⟩
          · rename_i continues
            rw [inductionHypothesis]
            constructor
            · rintro ⟨bytes, value, denotes, short, rfl, rfl⟩
              refine ⟨byte :: bytes, _, .more byte (Nat.le_of_not_lt continues) denotes,
                Nat.succ_le_succ short, rfl, ?_⟩
              rw [pow_add]
              ring
            · rintro ⟨bytes, value, denotes, short, same, rfl⟩
              cases denotes with
              | last _ ends =>
                  rcases List.cons.inj same with ⟨rfl, _⟩
                  exact absurd ends continues
              | @more _ bytes value _ high =>
                  rcases List.cons.inj same with ⟨rfl, rfl⟩
                  refine ⟨bytes, value, high, Nat.le_of_succ_le_succ short, rfl, ?_⟩
                  rw [pow_add]
                  ring

theorem parseProtobufVarint_eq_ok {fieldNumber : UInt8} {size : Nat} {data rest : Binary} :
    parseProtobufVarint usizeBits data fieldNumber = .ok (size, rest) ↔
      ∃ bytes value, Denotes bytes value ∧ bytes.length ≤ varintMaxBytes ∧
        data = bytes ++ rest ∧ size = value % 2 ^ usizeBits := by
  have unfolded : parseProtobufVarint usizeBits data fieldNumber =
      (varintLoop fieldNumber varintMaxBytes 0 0 data).map fun read =>
        (read.1 % 2 ^ usizeBits, read.2) := by
    unfold parseProtobufVarint
    cases varintLoop fieldNumber varintMaxBytes 0 0 data with
    | error failure => rfl
    | ok read => rfl
  rw [unfolded]
  constructor
  · intro read
    cases looped : varintLoop fieldNumber varintMaxBytes 0 0 data with
    | error failure =>
        rw [looped] at read
        cases read
    | ok found =>
        rw [looped] at read
        cases read
        rcases varintLoop_eq_ok.mp looped with ⟨bytes, value, denotes, short, same, total⟩
        refine ⟨bytes, value, denotes, short, same, ?_⟩
        rw [total, pow_zero, mul_one, Nat.zero_add]
  · rintro ⟨bytes, value, denotes, short, same, rfl⟩
    have looped : varintLoop fieldNumber varintMaxBytes 0 0 data = .ok (value, rest) :=
      varintLoop_eq_ok.mpr ⟨bytes, value, denotes, short, same, by simp⟩
    rw [looped]
    rfl

/-! ## Fields -/

/-- The bytes are a field with a number, of length-delimited content. The parser looks
at two of the three bits of the wire type, and takes the length modulo the size of an
address. -/
def IsField (usizeBits : Nat) (number : UInt8) (bytes content : Binary) : Prop :=
  ∃ tag length size, bytes = tag :: length ++ content ∧
    tag.toNat / 8 = number.toNat ∧ tag.toNat % 4 = 2 ∧
    Denotes length size ∧ length.length ≤ varintMaxBytes ∧ size % 2 ^ usizeBits = content.length

/-- The content of the field that the data has in its place, which is empty at the end
of the data, and what follows it. -/
def FieldAt (usizeBits : Nat) (number : UInt8) (data content rest : Binary) : Prop :=
  (data = [] ∧ content = [] ∧ rest = []) ∨
    ∃ bytes, IsField usizeBits number bytes content ∧ data = bytes ++ rest

theorem shift_eq_iff (tag number : UInt8) : tag >>> 3 = number ↔ tag.toNat / 8 = number.toNat := by
  rw [← UInt8.toNat_inj, UInt8.toNat_shiftRight]
  show tag.toNat >>> 3 = _ ↔ _
  rw [Nat.shiftRight_eq_div_pow]

theorem wireType_eq_iff (tag : UInt8) :
    tag &&& 0b11 = wireTypeLengthDelimited ↔ tag.toNat % 4 = 2 := by
  rw [← UInt8.toNat_inj, UInt8.toNat_and]
  exact Eq.congr (Nat.and_two_pow_sub_one_eq_mod tag.toNat 2) rfl

/-- The parser of a field accepts the data that have one in its place. -/
theorem parseProtobufLengthPrefixed_eq_ok {number : UInt8} {data content rest : Binary} :
    parseProtobufLengthPrefixed usizeBits data number = .ok (content, rest) ↔
      FieldAt usizeBits number data content rest := by
  cases data with
  | nil =>
      constructor
      · intro read
        cases read
        exact Or.inl ⟨rfl, rfl, rfl⟩
      · rintro (⟨_, rfl, rfl⟩ | ⟨bytes, ⟨tag, _, _, rfl, _⟩, same⟩)
        · rfl
        · cases same
  | cons tag data =>
      simp only [parseProtobufLengthPrefixed, shift_eq_iff, wireType_eq_iff, ne_eq, ite_not]
      constructor
      · intro read
        split at read
        · rename_i sameNumber
          split at read
          · rename_i delimited
            cases measured : parseProtobufVarint usizeBits data number with
            | error failure =>
                rw [measured] at read
                cases read
            | ok found =>
                rcases found with ⟨size, body⟩
                rw [measured] at read
                change (if body.length < size then _ else _) = _ at read
                split at read
                · cases read
                · rename_i enough
                  cases read
                  rcases parseProtobufVarint_eq_ok.mp measured with
                    ⟨length, value, denotes, short, rfl, rfl⟩
                  refine Or.inr ⟨tag :: length ++ body.take (value % 2 ^ usizeBits),
                    ⟨tag, length, value, rfl, sameNumber, delimited, denotes, short, ?_⟩, ?_⟩
                  · rw [List.length_take, Nat.min_eq_left (Nat.le_of_not_lt enough)]
                  · simp
          · cases read
        · cases read
      · rintro (⟨empty, _⟩ | ⟨bytes, ⟨first, length, size, rfl, sameNumber, delimited, denotes,
          short, measured⟩, same⟩)
        · cases empty
        · rw [List.cons_append, List.cons_append, List.append_assoc] at same
          rcases List.cons.inj same with ⟨rfl, rfl⟩
          rw [if_pos sameNumber, if_pos delimited]
          have read : parseProtobufVarint usizeBits (length ++ (content ++ rest)) number =
              .ok (content.length, content ++ rest) :=
            parseProtobufVarint_eq_ok.mpr ⟨length, size, denotes, short, rfl, measured.symm⟩
          rw [read]
          show (if (content ++ rest).length < content.length then _ else _) = _
          rw [if_neg (by simp), List.take_left, List.drop_left]

theorem fromUTF8_eq_some {bytes : Binary} {text : String} :
    String.fromUTF8? ⟨bytes.toArray⟩ = some text ↔ bytes = intoBytes text := by
  constructor
  · intro decoded
    rw [String.fromUTF8?] at decoded
    split at decoded
    · cases decoded
      simp [intoBytes, String.fromUTF8]
    · cases decoded
  · rintro rfl
    have whole : (⟨(intoBytes text).toArray⟩ : ByteArray) = text.toByteArray := by
      simp [intoBytes]
    rw [whole, String.fromUTF8?, dif_pos text.isValidUTF8]
    rfl

theorem parseProtobufString_eq_ok {number : UInt8} {data rest : Binary} {text : String} :
    parseProtobufString usizeBits data number = .ok (text, rest) ↔
      FieldAt usizeBits number data (intoBytes text) rest := by
  rw [← parseProtobufLengthPrefixed_eq_ok, parseProtobufString]
  cases parseProtobufLengthPrefixed usizeBits data number with
  | error failure =>
      constructor
      · intro read
        cases read
      · intro read
        cases read
  | ok found =>
      rcases found with ⟨field, after⟩
      rw [Except.ok.injEq, Prod.mk.injEq, ← fromUTF8_eq_some]
      dsimp only [bind, Except.bind]
      cases String.fromUTF8? ⟨field.toArray⟩ with
      | none => simp
      | some decoded => simp

/-- An optional field is there where it has content. -/
def optional (content : Binary) : Option Binary :=
  if content = [] then none else some content

theorem parseProtobufBytes_eq_ok {number : UInt8} {data rest : Binary}
    {inner : Option Binary} :
    parseProtobufBytes usizeBits data number = .ok (inner, rest) ↔
      ∃ content, FieldAt usizeBits number data content rest ∧ inner = optional content := by
  simp only [← parseProtobufLengthPrefixed_eq_ok, parseProtobufBytes]
  cases parseProtobufLengthPrefixed usizeBits data number with
  | error failure =>
      constructor
      · intro read
        cases read
      · rintro ⟨_, read, _⟩
        cases read
  | ok found =>
      constructor
      · intro read
        cases read
        exact ⟨found.1, rfl, rfl⟩
      · rintro ⟨_, read, rfl⟩
        cases read
        rfl

/-! ## Messages -/

theorem parseExecuteResponseData_eq_ok {data : Binary} {response : MsgExecuteContractResponse} :
    parseExecuteResponseData usizeBits data = .ok response ↔
      ∃ content trailing, FieldAt usizeBits 1 data content trailing ∧
        response.data = optional content := by
  rw [parseExecuteResponseData]
  cases parsed : parseProtobufBytes usizeBits data 1 with
  | error failure =>
      constructor
      · intro read
        cases read
      · rintro ⟨content, trailing, field, _⟩
        have read := parseProtobufBytes_eq_ok.mpr ⟨content, field, rfl⟩
        cases parsed.symm.trans read
  | ok found =>
      constructor
      · intro read
        cases read
        rcases parseProtobufBytes_eq_ok.mp parsed with ⟨content, field, same⟩
        exact ⟨content, found.2, field, same⟩
      · rintro ⟨content, trailing, field, same⟩
        have read := parseProtobufBytes_eq_ok.mpr ⟨content, field, rfl⟩
        cases parsed.symm.trans read
        rcases response with ⟨inner⟩
        cases same
        rfl

theorem parseInstantiateResponseData_eq_ok {data : Binary}
    {response : MsgInstantiateContractResponse} :
    parseInstantiateResponseData usizeBits data = .ok response ↔
      ∃ rest content trailing,
        FieldAt usizeBits 1 data (intoBytes response.contractAddress) rest ∧
        FieldAt usizeBits 2 rest content trailing ∧ response.data = optional content := by
  rw [parseInstantiateResponseData]
  cases address : parseProtobufString usizeBits data 1 with
  | error failure =>
      constructor
      · intro read
        cases read
      · rintro ⟨rest, content, trailing, field, _⟩
        cases address.symm.trans (parseProtobufString_eq_ok.mpr field)
  | ok found =>
      rcases found with ⟨text, rest⟩
      have first := parseProtobufString_eq_ok.mp address
      cases parsed : parseProtobufBytes usizeBits rest 2 with
      | error failure =>
          constructor
          · intro read
            change (parseProtobufBytes usizeBits rest 2 >>= _) = _ at read
            rw [parsed] at read
            cases read
          · rintro ⟨other, content, trailing, field, inner, _⟩
            cases address.symm.trans (parseProtobufString_eq_ok.mpr field)
            cases parsed.symm.trans (parseProtobufBytes_eq_ok.mpr ⟨content, inner, rfl⟩)
      | ok inner =>
          constructor
          · intro read
            change (parseProtobufBytes usizeBits rest 2 >>= _) = _ at read
            rw [parsed] at read
            cases read
            rcases parseProtobufBytes_eq_ok.mp parsed with ⟨content, field, same⟩
            exact ⟨rest, content, inner.2, first, field, same⟩
          · rintro ⟨other, content, trailing, field, last, same⟩
            cases address.symm.trans (parseProtobufString_eq_ok.mpr field)
            cases parsed.symm.trans (parseProtobufBytes_eq_ok.mpr ⟨content, last, rfl⟩)
            show (parseProtobufBytes usizeBits _ 2 >>= _) = _
            rw [parsed]
            rcases response with ⟨_, _⟩
            cases same
            rfl

theorem replyData_eq_ok {msg : Reply} {data : Binary} :
    replyData msg = .ok data ↔ ∃ events, msg.result = .ok events (some data) := by
  rcases msg with ⟨id, events | error⟩
  · rename_i given
    cases given with
    | none => simp [replyData]
    | some given => simp [replyData]
  · simp [replyData]

/-- A reply is accepted exactly where the submessage succeeded with data in which the
fields stand in their places: for an instantiation the UTF-8 text of the address in the
first and the inner data in the second, for an execution the inner data in the first.
What follows these fields is not looked at. -/
theorem reply_accepted_iff {msg : Reply} :
    (∀ response, parseReplyInstantiateData usizeBits msg = .ok response ↔
      ∃ events data rest content trailing, msg.result = .ok events (some data) ∧
        FieldAt usizeBits 1 data (intoBytes response.contractAddress) rest ∧
        FieldAt usizeBits 2 rest content trailing ∧ response.data = optional content) ∧
    (∀ response, parseReplyExecuteData usizeBits msg = .ok response ↔
      ∃ events data content trailing, msg.result = .ok events (some data) ∧
        FieldAt usizeBits 1 data content trailing ∧ response.data = optional content) := by
  unfold parseReplyInstantiateData parseReplyExecuteData
  cases given : replyData msg with
  | error failure =>
      have missing : ∀ events data, msg.result ≠ .ok events (some data) := by
        intro events data same
        cases given.symm.trans (replyData_eq_ok.mpr ⟨events, same⟩)
      constructor
      · intro response
        constructor
        · intro read
          cases read
        · rintro ⟨events, data, _, _, _, same, _⟩
          exact absurd same (missing events data)
      · intro response
        constructor
        · intro read
          cases read
        · rintro ⟨events, data, _, _, same, _⟩
          exact absurd same (missing events data)
  | ok data =>
      rcases replyData_eq_ok.mp given with ⟨events, result⟩
      constructor
      · intro response
        show parseInstantiateResponseData usizeBits data = _ ↔ _
        rw [parseInstantiateResponseData_eq_ok]
        constructor
        · rintro ⟨rest, content, trailing, fields⟩
          exact ⟨events, data, rest, content, trailing, result, fields⟩
        · rintro ⟨_, _, rest, content, trailing, same, fields⟩
          cases result.symm.trans same
          exact ⟨rest, content, trailing, fields⟩
      · intro response
        show parseExecuteResponseData usizeBits data = _ ↔ _
        rw [parseExecuteResponseData_eq_ok]
        constructor
        · rintro ⟨content, trailing, fields⟩
          exact ⟨events, data, content, trailing, result, fields⟩
        · rintro ⟨_, _, content, trailing, same, fields⟩
          cases result.symm.trans same
          exact ⟨content, trailing, fields⟩

/-! ## What the keeper writes -/

theorem denotes_protobufVarint (value : Nat) : Denotes (protobufVarint value) value := by
  induction value using protobufVarint.induct with
  | case1 value small =>
      have byte : (UInt8.ofNat value).toNat = value := by
        rw [UInt8.toNat_ofNat']
        omega
      rw [protobufVarint, if_pos small]
      have read := Denotes.last (UInt8.ofNat value) (byte.trans_lt small)
      rw [byte] at read
      exact read
  | case2 value large inductionHypothesis =>
      have byte : (UInt8.ofNat (value % 128 + 128)).toNat = value % 128 + 128 := by
        rw [UInt8.toNat_ofNat']
        omega
      rw [protobufVarint, if_neg large]
      have read := Denotes.more (UInt8.ofNat (value % 128 + 128)) (by omega) inductionHypothesis
      have whole : (value % 128 + 128) % 128 + 128 * (value / 128) = value := by omega
      rw [byte, whole] at read
      exact read

theorem length_protobufVarint {value count : Nat} (below : value < 128 ^ (count + 1)) :
    (protobufVarint value).length ≤ count + 1 := by
  induction count generalizing value with
  | zero =>
      rw [protobufVarint, if_pos (by simpa using below)]
      exact le_rfl
  | succ count inductionHypothesis =>
      rw [protobufVarint]
      split
      · simp
      · rw [List.length_cons]
        apply Nat.succ_le_succ
        apply inductionHypothesis
        rw [pow_succ] at below
        exact Nat.div_lt_of_lt_mul (by omega)

/-- The content fits into the memory of the host and into a varint. -/
def Fits (usizeBits : Nat) (content : Binary) : Prop :=
  content.length < 2 ^ usizeBits ∧ content.length < 2 ^ 63

instance decidableFits (content : Binary) : Decidable (Fits usizeBits content) :=
  inferInstanceAs (Decidable (_ ∧ _))

theorem fieldAt_protobufField {number : UInt8} (known : number = 1 ∨ number = 2)
    {content rest : Binary} (fits : Fits usizeBits content) (present : content ≠ [] ∨ rest = []) :
    FieldAt usizeBits number (protobufField number content ++ rest) content rest := by
  unfold protobufField
  split
  · rename_i empty
    obtain rfl : rest = [] := present.resolve_left (not_not.mpr empty)
    exact Or.inl ⟨rfl, empty, rfl⟩
  · refine Or.inr ⟨_, ⟨number <<< 3 ||| 2, protobufVarint content.length, content.length, rfl, ?_,
      ?_, denotes_protobufVarint _, ?_, Nat.mod_eq_of_lt fits.1⟩, rfl⟩
    · rcases known with rfl | rfl
      · rfl
      · rfl
    · rcases known with rfl | rfl
      · rfl
      · rfl
    · apply length_protobufVarint
      have bound := fits.2
      norm_num
      omega

theorem parse_executeResponse {content : Binary} (fits : Fits usizeBits content) :
    parseExecuteResponseData usizeBits (protobufField 1 content) = .ok ⟨optional content⟩ := by
  apply parseExecuteResponseData_eq_ok.mpr
  refine ⟨content, [], ?_, rfl⟩
  have field := @fieldAt_protobufField usizeBits 1 (Or.inl rfl) content [] fits (Or.inr rfl)
  rw [List.append_nil] at field
  exact field

theorem parse_instantiateResponse {data : Option Binary} {address : Addr}
    (named : address.asStr ≠ "") (addressFits : Fits usizeBits (intoBytes address.asStr))
    (fits : Fits usizeBits (data.getD [])) :
    parseInstantiateResponseData usizeBits (instantiateResponse data address) =
      .ok ⟨address.asStr, optional (data.getD [])⟩ := by
  apply parseInstantiateResponseData_eq_ok.mpr
  refine ⟨protobufField 2 (data.getD []), data.getD [], [], ?_, ?_, rfl⟩
  · apply fieldAt_protobufField (Or.inl rfl) addressFits
    refine Or.inl fun empty => named ?_
    exact intoBytes_injective (empty.trans rfl)
  · have field := @fieldAt_protobufField usizeBits 2 (Or.inr rfl) _ [] fits (Or.inr rfl)
    rw [List.append_nil] at field
    exact field

end DemurrageToken.Properties
