import DemurrageToken.Contract.Enumerable
import DemurrageToken.Library.Pages
import DemurrageToken.Spec.Ranges

/-!
Contract: the listing queries as pages of one ascending list.

Owns: the byte order of addresses, the entries of a map under a prefix as an
ascending list, and what the two queries return in terms of it.

Does not own: the walk over the pages.
-/

namespace DemurrageToken.Spec

open DemurrageToken.Library
open DemurrageToken.Library.Pages
open DemurrageToken.Contract

/-- The byte order of strings. -/
def ByteBefore (left right : String) : Prop := intoBytes left < intoBytes right

instance : DecidableRel ByteBefore := fun left right =>
  inferInstanceAs (Decidable (intoBytes left < intoBytes right))

instance : IsStrictOrder String ByteBefore where
  irrefl _ := lt_irrefl _
  trans _ _ _ := lt_trans

/-- The string of an entry's address. -/
def entryName {ν : Type} (entry : Addr × ν) : String := entry.1.asStr

section Maps

variable {ν : Type} {records : List (Bytes × ν)} {storagePrefix : Bytes}

/-- A listed entry as the range reads it. -/
def rawEntry (entry : Addr × ν) : Bytes × ν := (intoBytes (entryName entry), entry.2)

theorem addr_eq_of_intoBytes {left right : Addr}
    (same : intoBytes left.asStr = intoBytes right.asStr) : left = right := by
  have sameString := intoBytes_injective same
  cases left
  cases right
  exact congrArg Addr.mk sameString

theorem rawEntry_injective : Function.Injective (rawEntry : Addr × ν → Bytes × ν) := by
  intro left right same
  rcases Prod.mk.inj same with ⟨sameBytes, sameValue⟩
  exact Prod.ext (addr_eq_of_intoBytes sameBytes) sameValue

theorem deserializeKv_rawEntry (entry : Addr × ν) : deserializeKv (rawEntry entry) = .ok entry := by
  show (do let key ← Addr.fromVec (intoBytes entry.1.asStr); pure (key, entry.2)) = _
  rw [fromVec_intoBytes]
  rfl

/-- `listing` is what a range under the prefix reads, decoded. -/
structure Lists (records : List (Bytes × ν)) (storagePrefix : Bytes)
    (listing : List (Addr × ν)) : Prop where
  whole : rangeWithPrefix records storagePrefix none none = listing.map rawEntry
  steps : Steps storagePrefix
  ascending : Ascending ByteBefore entryName listing

/-- Where the records under the prefix are those of some addresses, the range is
a listing of these. -/
theorem lists_exists {stored : Addr → ν → Prop} (steps : Steps storagePrefix)
    (ordered : records.Pairwise fun left right => left.1 < right.1)
    (members : ∀ {rest value}, (storagePrefix ++ rest, value) ∈ records ↔
      ∃ account : Addr, intoBytes account.asStr = rest ∧ stored account value) :
    ∃ listing, Lists records storagePrefix listing ∧
      ∀ account value, (account, value) ∈ listing ↔ stored account value := by
  have decodes :
      rangeWithPrefix records storagePrefix none none ∈ Set.range (List.map rawEntry) := by
    rw [Set.range_list_map]
    intro record member
    rcases members.mp ((mem_rangeWithPrefix steps).mp member) with ⟨account, bytes, _⟩
    exact ⟨(account, record.2), Prod.ext bytes rfl⟩
  rcases decodes with ⟨listing, whole⟩
  have ascending := rangeWithPrefix_ascending steps ordered
  rw [← whole, List.pairwise_map] at ascending
  refine ⟨listing, ⟨whole.symm, steps, ascending⟩, ?_⟩
  intro account value
  have found := @mem_rangeWithPrefix _ records _ steps (intoBytes account.asStr) value
  rw [← whole, members] at found
  rw [← List.mem_map_of_injective rawEntry_injective]
  constructor
  · intro member
    rcases found.mp member with ⟨other, sameBytes, holds⟩
    exact addr_eq_of_intoBytes sameBytes ▸ holds
  · intro holds
    exact found.mpr ⟨account, rfl, holds⟩

variable {listing : List (Addr × ν)} (lists : Lists records storagePrefix listing)
include lists

/-- Behind a cursor the range reads what the listing has behind it. -/
theorem Lists.range (after : Option String) :
    rangeWithPrefix records storagePrefix
        (after.map fun after => .exclusive (intoBytes after)) none =
      (behind ByteBefore entryName listing after).map rawEntry := by
  cases after with
  | none => exact lists.whole
  | some after =>
      rw [Option.map_some, rangeWithPrefix_exclusive lists.steps, lists.whole, List.filter_map]
      rfl

/-- Every entry of a listing decodes. -/
theorem Lists.prefixRange (after : Option String) :
    prefixRange records storagePrefix
        (after.map fun after => .exclusive (intoBytes after)) none =
      (behind ByteBefore entryName listing after).map .ok := by
  rw [Contract.prefixRange, lists.range, List.map_map]
  apply List.map_congr_left
  intro entry _
  exact deserializeKv_rawEntry entry

/-- No key of a listing is left out. -/
theorem Lists.prefixKeys (after : Option String) :
    prefixKeys records storagePrefix
        (after.map fun after => .exclusive (intoBytes after)) none =
      ((behind ByteBefore entryName listing after).map Prod.fst).map .ok := by
  rw [Contract.prefixKeys, lists.range, List.filterMap_map, List.map_map, ← List.filterMap_eq_map]
  apply List.filterMap_congr
  intro entry _
  rw [Function.comp_apply, deserializeKv_rawEntry]
  rfl

end Maps

/-- `collect` of results that are all there. -/
theorem mapM_ok {α β : Type} (form : α → β) (items : List α) :
    (items.map (Except.ok : α → Except StdError α)).mapM (fun item => item.map form) =
      .ok (items.map form) := by
  rw [List.mapM_map]
  exact List.mapM_pure

/-! ## Accounts -/

theorem toLengthPrefixed_exists {name : Bytes} (fits : name.length ≤ 0xFFFF) :
    ∃ code, toLengthPrefixed name = some code :=
  ⟨_, toLengthPrefixed_eq_some.mpr ⟨fits, rfl⟩⟩

theorem nodup_keys_toList {κ ν : Type} [Ord κ] [Std.TransOrd κ] [Std.LawfulEqOrd κ]
    (entries : Std.ExtTreeMap κ ν) : (entries.toList.map Prod.fst).Nodup := by
  rw [Std.ExtTreeMap.map_fst_toList_eq_keys]
  exact Std.ExtTreeMap.nodup_keys

theorem rawBalances_ascending (storage : Storage) :
    (rawBalances storage).Pairwise fun left right => left.1 < right.1 := by
  rcases @toLengthPrefixed_exists balanceNamespace (by decide) with ⟨topCode, top⟩
  apply rawRecords_ascending (nodup_keys_toList storage.balances)
  intro left right raw leftPath rightPath
  have sameRaw := ((pathNew_key top).mp leftPath).trans ((pathNew_key top).mp rightPath).symm
  exact addr_eq_of_intoBytes (List.append_cancel_left sameRaw)

/-- The accounts as `query_all_accounts` reads them. -/
theorem queryAllAccounts_lists (storage : Storage) :
    ∃ names : List String, Ascending ByteBefore id names ∧
      (∀ name, name ∈ names ↔ (⟨name⟩ : Addr) ∈ storage.balances) ∧
      ∀ after limit, queryAllAccounts storage after limit =
        some (.ok ⟨(behind ByteBefore id names after).take (pageLimit limit)⟩) := by
  rcases @toLengthPrefixed_exists balanceNamespace (by decide) with ⟨topCode, top⟩
  have members : ∀ {rest value}, (topCode ++ rest, value) ∈ rawBalances storage ↔
      ∃ account : Addr, intoBytes account.asStr = rest ∧
        storage.balances[account]? = some value := by
    intro rest value
    rw [rawBalances, mem_rawRecords]
    simp only [pathNew_key top, List.append_cancel_left_eq,
      Std.ExtTreeMap.mem_toList_iff_getElem?_eq_some]
    exact exists_congr fun _ => and_comm
  have steps : Steps topCode := steps_of_toLengthPrefixed top []
  obtain ⟨listing, lists, listed⟩ :=
    lists_exists steps (rawBalances_ascending storage) members
  refine ⟨listing.map entryName, List.pairwise_map.mpr lists.ascending, ?_, ?_⟩
  · intro name
    rw [← Std.ExtTreeMap.isSome_getElem?_iff_mem, Option.isSome_iff_exists, List.mem_map]
    constructor
    · intro found
      rcases found with ⟨entry, member, rfl⟩
      exact ⟨entry.2, (listed entry.1 entry.2).mp member⟩
    · intro found
      rcases found with ⟨balance, stored⟩
      exact ⟨(⟨name⟩, balance), (listed _ _).mpr stored, rfl⟩
  · intro after limit
    unfold queryAllAccounts
    rw [prefixNew_nil top]
    simp only [Option.bind_eq_bind, Option.bind_some]
    rw [lists.prefixKeys, ← List.map_take, mapM_ok, behind_map, List.map_take, List.map_map]
    rfl

/-! ## Allowances -/

theorem rawAllowances_ascending (storage : Storage) :
    (rawAllowances storage).Pairwise fun left right => left.1 < right.1 := by
  rcases @toLengthPrefixed_exists allowanceNamespace (by decide) with ⟨topCode, top⟩
  apply rawRecords_ascending (nodup_keys_toList storage.allowances)
  intro left right raw leftPath rightPath
  rcases (pathNew_pairKey top).mp leftPath with ⟨leftCode, leftCoded, rfl⟩
  rcases (pathNew_pairKey top).mp rightPath with ⟨rightCode, rightCoded, same⟩
  rw [List.append_assoc, List.append_assoc] at same
  obtain ⟨sameOwner, sameSpender⟩ :=
    toLengthPrefixed_unique rightCoded leftCoded (List.append_cancel_left same)
  exact Prod.ext (addr_eq_of_intoBytes sameOwner.symm) (addr_eq_of_intoBytes sameSpender.symm)

/-- The allowances of an owner as `query_all_allowances` reads them: those of any
other owner have a different length-prefixed name in their keys. -/
theorem queryAllAllowances_lists {api : Api} (storage : Storage) {owner : String}
    {ownerAddr : Addr} (valid : api.addrValidate owner = .ok ownerAddr)
    (fits : owner.utf8ByteSize ≤ 0xFFFF) :
    ∃ infos : List AllowanceInfo, Ascending ByteBefore AllowanceInfo.spender infos ∧
      (∀ info, info ∈ infos ↔ storage.allowances[(ownerAddr, (⟨info.spender⟩ : Addr))]? =
        some { allowance := info.allowance, expires := info.expires }) ∧
      ∀ after limit, queryAllAllowances api storage owner after limit =
        some (.ok ⟨(behind ByteBefore AllowanceInfo.spender infos after).take
          (pageLimit limit)⟩) := by
  rcases @toLengthPrefixed_exists allowanceNamespace (by decide) with ⟨topCode, top⟩
  have ownerFits : (intoBytes ownerAddr.asStr).length ≤ 0xFFFF := by
    rw [api.addrValidate_unchanged valid]
    exact fits
  rcases toLengthPrefixed_exists ownerFits with ⟨ownerCode, ownerCoded⟩
  have members : ∀ {rest value}, (topCode ++ ownerCode ++ rest, value) ∈ rawAllowances storage ↔
      ∃ spender : Addr, intoBytes spender.asStr = rest ∧
        storage.allowances[(ownerAddr, spender)]? = some value := by
    intro rest value
    rw [rawAllowances, mem_rawRecords]
    simp only [pathNew_pairKey top, List.append_assoc, List.append_cancel_left_eq,
      Std.ExtTreeMap.mem_toList_iff_getElem?_eq_some]
    constructor
    · intro found
      rcases found with ⟨pair, stored, code, coded, same⟩
      rcases toLengthPrefixed_unique coded ownerCoded same with ⟨sameOwner, sameSpender⟩
      obtain rfl := addr_eq_of_intoBytes sameOwner
      exact ⟨pair.2, sameSpender, stored⟩
    · intro found
      rcases found with ⟨spender, rfl, stored⟩
      exact ⟨(ownerAddr, spender), stored, ownerCode, ownerCoded, rfl⟩
  obtain ⟨listing, lists, listed⟩ :=
    lists_exists (steps_of_toLengthPrefixed ownerCoded topCode) (rawAllowances_ascending storage)
      members
  refine ⟨listing.map allowanceInfo, List.pairwise_map.mpr lists.ascending, ?_, ?_⟩
  · intro info
    rw [List.mem_map, ← listed]
    constructor
    · intro found
      rcases found with ⟨entry, member, rfl⟩
      exact member
    · intro member
      exact ⟨_, member, rfl⟩
  · intro after limit
    have storagePrefix := (prefixNew_key top).mpr ⟨ownerCode, ownerCoded, rfl⟩
    unfold queryAllAllowances
    rw [valid]
    simp only [storagePrefix, Option.bind_eq_bind, Option.bind_some]
    rw [lists.prefixRange, ← List.map_take, mapM_ok, behind_map, List.map_take]
    rfl

end DemurrageToken.Spec
