import DemurrageToken.Contract.StoragePlus
import DemurrageToken.Library.Keyspace

/-!
Contract: what a range over the raw keys of a map reads.

Owns: the bytes of strings, length-prefixed keys as prefix-free codes, and the
records that a range behind a bound gives out.

Does not own: the queries that read a range.
-/

namespace DemurrageToken.Spec

open DemurrageToken.Library
open DemurrageToken.Library.Keyspace
open DemurrageToken.Contract

/-! ## The bytes of strings -/

theorem intoBytes_injective : Function.Injective intoBytes := by
  intro left right same
  apply String.toByteArray_inj.mp
  exact ByteArray.ext (Array.toList_inj.mp same)

/-- A key that was an address decodes to it. -/
theorem fromVec_intoBytes (account : Addr) :
    Addr.fromVec (intoBytes account.asStr) = .ok account := by
  have bytes : (⟨(intoBytes account.asStr).toArray⟩ : ByteArray) = account.asStr.toByteArray := by
    simp [intoBytes]
  have decoded : String.fromUTF8? account.asStr.toByteArray = some account.asStr := by
    rw [String.fromUTF8?, dif_pos account.asStr.isValidUTF8]
    rfl
  rw [Addr.fromVec, bytes, decoded]

private theorem utf8EncodeChar_lt (char : Char) :
    ∀ byte ∈ String.utf8EncodeChar char, byte.toNat < 248 := by
  unfold String.utf8EncodeChar
  dsimp only
  split_ifs
  all_goals
    simp only [List.forall_mem_cons, List.not_mem_nil, false_implies, implies_true, and_true,
      UInt8.toNat_ofNat']
    omega

/-- UTF-8 never uses the highest byte. -/
theorem ne_of_mem_intoBytes {text : String} {byte : UInt8} (member : byte ∈ intoBytes text) :
    byte ≠ 255 := by
  have encoded : intoBytes text = text.toList.flatMap String.utf8EncodeChar := by
    rw [intoBytes, String.toUTF8, ← String.utf8Encode_toList, List.utf8Encode,
      List.toList_data_toByteArray]
  rw [encoded] at member
  rcases List.mem_flatMap.mp member with ⟨char, _, inChar⟩
  have small := utf8EncodeChar_lt char byte inChar
  intro highest
  rw [highest] at small
  exact absurd small (by decide)

/-! ## Length-prefixed keys -/

theorem toLengthPrefixed_eq_some {name code : Bytes} :
    toLengthPrefixed name = some code ↔ name.length ≤ 0xFFFF ∧
      UInt8.ofNat (name.length / 256) :: UInt8.ofNat name.length :: name = code := by
  unfold toLengthPrefixed encodeLength
  by_cases long : name.length > 0xFFFF
  · simp [long]
  · simp [long, Nat.le_of_not_lt long]

/-- Length-prefixed names are a prefix-free code: what follows one never counts
as part of it. -/
theorem toLengthPrefixed_unique {left right leftCode rightCode leftRest rightRest : Bytes}
    (leftCoded : toLengthPrefixed left = some leftCode)
    (rightCoded : toLengthPrefixed right = some rightCode)
    (same : leftCode ++ leftRest = rightCode ++ rightRest) :
    left = right ∧ leftRest = rightRest := by
  rcases toLengthPrefixed_eq_some.mp leftCoded with ⟨leftFits, rfl⟩
  rcases toLengthPrefixed_eq_some.mp rightCoded with ⟨rightFits, rfl⟩
  simp only [List.cons_append, List.cons.injEq] at same
  rcases same with ⟨high, low, names⟩
  have highEqual := congrArg UInt8.toNat high
  have lowEqual := congrArg UInt8.toNat low
  rw [UInt8.toNat_ofNat', UInt8.toNat_ofNat'] at highEqual lowEqual
  exact List.append_inj names (by omega)

section Keys

variable {name topCode : Bytes}

theorem pathNew_key (top : toLengthPrefixed name = some topCode) {account : Addr} {raw : Bytes} :
    pathNew name account.key = some raw ↔ topCode ++ intoBytes account.asStr = raw := by
  simp [pathNew, nestedNamespacesWithKey, Addr.key, top]

theorem pathNew_pairKey (top : toLengthPrefixed name = some topCode) {pair : Addr × Addr}
    {raw : Bytes} :
    pathNew name (pairKey pair) = some raw ↔
      ∃ code, toLengthPrefixed (intoBytes pair.1.asStr) = some code ∧
        topCode ++ code ++ intoBytes pair.2.asStr = raw := by
  cases coded : toLengthPrefixed (intoBytes pair.1.asStr) with
  | none => simp [pathNew, nestedNamespacesWithKey, pairKey, Addr.key, top, coded]
  | some code => simp [pathNew, nestedNamespacesWithKey, pairKey, Addr.key, top, coded]

theorem prefixNew_nil (top : toLengthPrefixed name = some topCode) :
    prefixNew name [] = some topCode := by
  simp [prefixNew, nestedNamespacesWithKey, top]

theorem prefixNew_key (top : toLengthPrefixed name = some topCode) {owner : Addr}
    {storagePrefix : Bytes} :
    prefixNew name owner.key = some storagePrefix ↔
      ∃ code, toLengthPrefixed (intoBytes owner.asStr) = some code ∧
        topCode ++ code = storagePrefix := by
  cases coded : toLengthPrefixed (intoBytes owner.asStr) with
  | none => simp [prefixNew, nestedNamespacesWithKey, Addr.key, top, coded]
  | some code => simp [prefixNew, nestedNamespacesWithKey, Addr.key, top, coded]

end Keys

/-! ## The bounds of a range -/

/-- The last byte can be incremented. -/
def Steps (storagePrefix : Bytes) : Prop :=
  ∃ front byte, storagePrefix = front ++ [byte] ∧ byte ≠ 255

/-- A length-prefixed string ends in a byte of UTF-8 or in its length, which is
then zero. -/
theorem steps_of_toLengthPrefixed {text : String} {code : Bytes}
    (coded : toLengthPrefixed (intoBytes text) = some code) (front : Bytes) :
    Steps (front ++ code) := by
  rcases toLengthPrefixed_eq_some.mp coded with ⟨_, rfl⟩
  rcases List.eq_nil_or_concat' (intoBytes text) with empty | ⟨start, last, ends⟩
  · refine ⟨front ++ [0], 0, ?_, by decide⟩
    rw [empty, List.append_assoc]
    rfl
  · have inText : last ∈ intoBytes text := by
      rw [ends]
      simp
    generalize UInt8.ofNat (intoBytes text).length = low
    generalize UInt8.ofNat ((intoBytes text).length / 256) = high
    rw [ends]
    exact ⟨front ++ high :: low :: start, last, by simp, ne_of_mem_intoBytes inText⟩

theorem incrementLastByte_snoc (front : Bytes) {byte : UInt8} (notHighest : byte ≠ 255) :
    incrementLastByte (front ++ [byte]) = front ++ [byte + 1] := by
  simp [incrementLastByte, incrementBackwards, notHighest]

theorem covBy_succ {byte : UInt8} (notHighest : byte ≠ 255) : byte ⋖ byte + 1 := by
  have different : byte.toNat ≠ 255 := fun same => notHighest (UInt8.toNat_inj.mp same)
  have bound := byte.toNat_lt
  have one : (1 : UInt8).toNat = 1 := rfl
  have next : (byte + 1).toNat = byte.toNat + 1 := by
    rw [UInt8.toNat_add, one]
    omega
  constructor
  · rw [UInt8.lt_iff_toNat_lt, next]
    omega
  · intro between above below
    rw [UInt8.lt_iff_toNat_lt] at above below
    omega

theorem inRange_iff {storagePrefix key : Bytes} (steps : Steps storagePrefix) :
    storagePrefix ≤ key ∧ key < incrementLastByte storagePrefix ↔ storagePrefix <+: key := by
  rcases steps with ⟨front, byte, rfl, notHighest⟩
  rw [incrementLastByte_snoc front notHighest]
  exact between_snoc_iff (covBy_succ notHighest)

theorem calcStartBound_exclusive_le_iff {storagePrefix limit rest : Bytes} :
    calcStartBound storagePrefix (some (.exclusive limit)) ≤ storagePrefix ++ rest ↔
      limit < rest := by
  have least : ∀ byte : UInt8, 0 ≤ byte := by
    intro byte
    rw [UInt8.le_iff_toNat_le]
    exact Nat.zero_le _
  rw [calcStartBound, append_le_append_iff, extendOneByte]
  exact snoc_least_le_iff least

/-! ## The records of a range -/

section Records

variable {ν : Type} {records : List (Bytes × ν)} {storagePrefix : Bytes}

theorem trim_append (rest : Bytes) : trim storagePrefix (storagePrefix ++ rest) = rest :=
  List.drop_left

/-- A whole range reads the records under its prefix, and no others. -/
theorem mem_rangeWithPrefix (steps : Steps storagePrefix) {rest : Bytes} {value : ν} :
    (rest, value) ∈ rangeWithPrefix records storagePrefix none none ↔
      (storagePrefix ++ rest, value) ∈ records := by
  simp only [rangeWithPrefix, hostRange, calcStartBound, calcEndBound, inRange_iff steps,
    List.mem_map, List.mem_filter, decide_eq_true_eq, Prod.mk.injEq]
  constructor
  · intro found
    rcases found with ⟨record, ⟨member, ⟨tail, start⟩⟩, trimmed, rfl⟩
    rw [← start, trim_append] at trimmed
    rw [← trimmed, start]
    exact member
  · intro member
    exact ⟨_, ⟨member, List.prefix_append _ _⟩, trim_append rest, rfl⟩

theorem rangeWithPrefix_ascending (steps : Steps storagePrefix)
    (ascending : records.Pairwise fun left right => left.1 < right.1) :
    (rangeWithPrefix records storagePrefix none none).Pairwise
      fun left right => left.1 < right.1 := by
  simp only [rangeWithPrefix, hostRange, calcStartBound, calcEndBound, inRange_iff steps]
  apply List.pairwise_map.mpr
  apply (ascending.filter _).imp_of_mem
  intro left right leftMember rightMember less
  rcases of_decide_eq_true (List.mem_filter.mp leftMember).2 with ⟨leftRest, leftKey⟩
  rcases of_decide_eq_true (List.mem_filter.mp rightMember).2 with ⟨rightRest, rightKey⟩
  rw [← leftKey, ← rightKey] at less ⊢
  rw [trim_append, trim_append]
  exact (append_lt_append_iff storagePrefix).mp less

/-- Behind an exclusive bound a range goes on with the keys above it. -/
theorem rangeWithPrefix_exclusive (steps : Steps storagePrefix) (limit : Bytes) :
    rangeWithPrefix records storagePrefix (some (.exclusive limit)) none =
      (rangeWithPrefix records storagePrefix none none).filter fun record => limit < record.1 := by
  have sameRange : ∀ key, calcStartBound storagePrefix (some (.exclusive limit)) ≤ key ∧
      key < incrementLastByte storagePrefix ↔
        limit < trim storagePrefix key ∧
          (storagePrefix ≤ key ∧ key < incrementLastByte storagePrefix) := by
    intro key
    have wider : storagePrefix ≤ calcStartBound storagePrefix (some (.exclusive limit)) := by
      have front := @append_le_append_iff _ _ storagePrefix [] (extendOneByte limit)
      rw [List.append_nil] at front
      exact front.mpr (not_lt.mp (List.not_lt_nil _))
    constructor
    · intro between
      have whole := (inRange_iff steps).mp ⟨wider.trans between.1, between.2⟩
      rcases whole with ⟨rest, rfl⟩
      rw [trim_append]
      exact ⟨calcStartBound_exclusive_le_iff.mp between.1, wider.trans between.1, between.2⟩
    · intro found
      rcases (inRange_iff steps).mp found.2 with ⟨rest, rfl⟩
      rw [trim_append] at found
      exact ⟨calcStartBound_exclusive_le_iff.mpr found.1, found.2.2⟩
  simp only [rangeWithPrefix, hostRange, calcEndBound, sameRange]
  rw [List.filter_map, List.filter_filter]
  congr 1
  apply List.filter_congr
  intro record _
  rw [Bool.decide_and]
  rfl

end Records

/-! ## The records of a map -/

section Maps

variable {κ ν : Type} {name : Bytes} {key : κ → List Bytes} {entries : List (κ × ν)}

theorem mem_rawRecords {raw : Bytes} {value : ν} :
    (raw, value) ∈ rawRecords name key entries ↔
      ∃ stored, (stored, value) ∈ entries ∧ pathNew name (key stored) = some raw := by
  rw [rawRecords, List.mem_insertionSort, List.mem_filterMap]
  constructor
  · intro found
    rcases found with ⟨entry, member, path⟩
    rcases Option.map_eq_some_iff.mp path with ⟨coded, pathOfKey, same⟩
    rcases Prod.mk.inj same with ⟨rfl, rfl⟩
    exact ⟨entry.1, member, pathOfKey⟩
  · intro found
    rcases found with ⟨stored, member, path⟩
    exact ⟨(stored, value), member, Option.map_eq_some_iff.mpr ⟨raw, path, rfl⟩⟩

/-- Keys with different paths are kept apart and in order. -/
theorem rawRecords_ascending (distinct : (entries.map Prod.fst).Nodup)
    (injective : ∀ {left right raw}, pathNew name (key left) = some raw →
      pathNew name (key right) = some raw → left = right) :
    (rawRecords name key entries).Pairwise fun left right => left.1 < right.1 := by
  let stored := entries.filterMap fun entry =>
    (pathNew name (key entry.1)).map fun raw => (raw, entry.2)
  have rawKeys : stored.map Prod.fst =
      (entries.map Prod.fst).filterMap fun key' => pathNew name (key key') := by
    simp [stored, List.map_filterMap, List.filterMap_map, Function.comp_def]
  have rawDistinct : (stored.map Prod.fst).Nodup := by
    rw [rawKeys]
    apply distinct.filterMap
    intro left right raw leftPath rightPath
    exact injective leftPath rightPath
  have total : Std.Total fun left right : Bytes × ν => left.1 ≤ right.1 :=
    ⟨fun left right => le_total left.1 right.1⟩
  have transitive : IsTrans (Bytes × ν) fun left right => left.1 ≤ right.1 :=
    ⟨fun _ _ _ => le_trans⟩
  have sorted := List.pairwise_insertionSort
    (fun left right : Bytes × ν => left.1 ≤ right.1) stored
  have sortedKeys : ((rawRecords name key entries).map Prod.fst).Nodup :=
    ((List.perm_insertionSort _ stored).map Prod.fst).nodup_iff.mpr rawDistinct
  exact sorted.imp₂ (fun _ _ => lt_of_le_of_ne) (List.pairwise_map.mp sortedKeys)

end Maps

end DemurrageToken.Spec
