import DemurrageToken.Contract.State

/-!
Contract: the raw keys and ranges of `cw-storage-plus`, as vendored under
`packages/storage-plus`.

A map keeps its entries in the host's store under length-prefixed keys, and a
range reads them back in ascending byte order.

Owns: the key encoding, the bounds of a range, `Prefix::range` and
`Prefix::keys` in ascending order, and the records of the two maps.

Does not own: the encoding of values, which always decode, and the other
regions of the store, whose namespaces differ.
-/

namespace DemurrageToken.Contract

open DemurrageToken.Library

abbrev Bytes := List UInt8

instance instLinearOrderByte : LinearOrder UInt8 where
  le_refl := UInt8.le_refl
  le_trans _ _ _ := UInt8.le_trans
  le_antisymm _ _ := UInt8.le_antisymm
  le_total := UInt8.le_total
  lt_iff_le_not_ge left right := by
    rw [UInt8.lt_iff_toNat_lt, UInt8.le_iff_toNat_le, UInt8.le_iff_toNat_le]
    omega
  toDecidableLE := inferInstance
  toDecidableLT := inferInstance
  toDecidableEq := inferInstance

/-- `String::into_bytes`. -/
def intoBytes (text : String) : Bytes := text.toUTF8.data.toList

/-! ## Keys -/

/-- `encode_length`: two bytes, the high one first; it aborts on a longer name. -/
def encodeLength (name : Bytes) : Option Bytes :=
  if name.length > 0xFFFF then
    none
  else
    some [UInt8.ofNat (name.length / 256), UInt8.ofNat name.length]

/-- `to_length_prefixed`. -/
def toLengthPrefixed (name : Bytes) : Option Bytes := do
  let length ← encodeLength name
  pure (length ++ name)

/-- `nested_namespaces_with_key`. -/
def nestedNamespacesWithKey (topNames subNames : List Bytes) (key : Bytes) : Option Bytes := do
  let names ← (topNames ++ subNames).mapM toLengthPrefixed
  pure (names.flatten ++ key)

/-- `PrimaryKey::key` of an address. -/
def Addr.key (account : Addr) : List Bytes := [intoBytes account.asStr]

/-- `PrimaryKey::key` of a pair. -/
def pairKey (pair : Addr × Addr) : List Bytes := pair.1.key ++ pair.2.key

/-- `Path::new`: every component but the last is a namespace. -/
def pathNew (name : Bytes) (keys : List Bytes) : Option Bytes :=
  nestedNamespacesWithKey [name] keys.dropLast (keys.getLastD [])

/-- `Prefix::new`. -/
def prefixNew (topName : Bytes) (subNames : List Bytes) : Option Bytes :=
  nestedNamespacesWithKey [topName] subNames []

/-- `from_vec` of an address, which is not validated again. -/
def Addr.fromVec (value : Bytes) : Except StdError Addr :=
  match String.fromUTF8? ⟨value.toArray⟩ with
  | none => .error .invalidUtf8
  | some text => .ok ⟨text⟩

/-! ## Bounds -/

/-- `RawBound`. -/
inductive RawBound where
  | inclusive (limit : Bytes)
  | exclusive (limit : Bytes)
deriving DecidableEq, Repr

/-- `extend_one_byte`. -/
def extendOneByte (limit : Bytes) : Bytes := limit ++ [0]

/-- The loop of `increment_last_byte`, which runs from the last byte. -/
def incrementBackwards : Bytes → Bytes
  | [] => []
  | byte :: earlier =>
      if byte = 255 then 0 :: incrementBackwards earlier else (byte + 1) :: earlier

/-- `increment_last_byte`. -/
def incrementLastByte (input : Bytes) : Bytes :=
  (incrementBackwards input.reverse).reverse

/-- `calc_start_bound`. -/
def calcStartBound (storagePrefix : Bytes) : Option RawBound → Bytes
  | none => storagePrefix
  | some (.inclusive limit) => storagePrefix ++ limit
  | some (.exclusive limit) => storagePrefix ++ extendOneByte limit

/-- `calc_end_bound`. -/
def calcEndBound (storagePrefix : Bytes) : Option RawBound → Bytes
  | none => incrementLastByte storagePrefix
  | some (.exclusive limit) => storagePrefix ++ limit
  | some (.inclusive limit) => storagePrefix ++ extendOneByte limit

/-! ## Ranges -/

/-- The raw entries of a map, in the ascending byte order of the host's store. An
entry whose key aborts was never saved. -/
def rawRecords {κ ν : Type} (name : Bytes) (key : κ → List Bytes) (entries : List (κ × ν)) :
    List (Bytes × ν) :=
  (entries.filterMap fun entry =>
    (pathNew name (key entry.1)).map fun raw => (raw, entry.2)).insertionSort
      fun left right => left.1 ≤ right.1

variable {ν : Type}

/-- `Storage::range` of the host, ascending: from `start` on and before `stop`. -/
def hostRange (records : List (Bytes × ν)) (start stop : Bytes) : List (Bytes × ν) :=
  records.filter fun record => start ≤ record.1 ∧ record.1 < stop

/-- `trim`. The keys of a range start with the prefix, so there is something to
cut off. -/
def trim (storagePrefix key : Bytes) : Bytes := key.drop storagePrefix.length

/-- `range_with_prefix`. -/
def rangeWithPrefix (records : List (Bytes × ν)) (storagePrefix : Bytes)
    (start stop : Option RawBound) : List (Bytes × ν) :=
  (hostRange records (calcStartBound storagePrefix start)
    (calcEndBound storagePrefix stop)).map fun record =>
      (trim storagePrefix record.1, record.2)

/-- `deserialize_kv` with an address as the key. -/
def deserializeKv (record : Bytes × ν) : Except StdError (Addr × ν) := do
  let key ← Addr.fromVec record.1
  pure (key, record.2)

/-- `Prefix::range`. -/
def prefixRange (records : List (Bytes × ν)) (storagePrefix : Bytes)
    (start stop : Option RawBound) : List (Except StdError (Addr × ν)) :=
  (rangeWithPrefix records storagePrefix start stop).map deserializeKv

/-- `Prefix::keys`, which leaves out what does not decode. -/
def prefixKeys (records : List (Bytes × ν)) (storagePrefix : Bytes)
    (start stop : Option RawBound) : List (Except StdError Addr) :=
  (rangeWithPrefix records storagePrefix start stop).filterMap fun record =>
    match deserializeKv record with
    | .error _ => none
    | .ok entry => some (.ok entry.1)

/-! ## The two maps -/

/-- The namespace of `BALANCES`. -/
def balanceNamespace : Bytes := intoBytes "balance"

/-- The namespace of `ALLOWANCES`. -/
def allowanceNamespace : Bytes := intoBytes "allowance"

/-- `BALANCES` in the host's store. -/
def rawBalances (storage : Storage) : List (Bytes × U128) :=
  rawRecords balanceNamespace Addr.key storage.balances.toList

/-- `ALLOWANCES` in the host's store. -/
def rawAllowances (storage : Storage) : List (Bytes × AllowanceResponse) :=
  rawRecords allowanceNamespace pairKey storage.allowances.toList

end DemurrageToken.Contract
