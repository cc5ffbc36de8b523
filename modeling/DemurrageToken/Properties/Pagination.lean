import DemurrageToken.Contract.Replay
import DemurrageToken.Spec.Listing

/-!
Contract: reading all accounts, and all allowances of an owner, page by page.

Owns: which owners `query_all_allowances` answers for, and that a walk over the
pages of either query ends with everything read once, whatever the limits.

Does not own: a store that changes between two pages.
-/

namespace DemurrageToken.Properties

open DemurrageToken.Library.Pages
open DemurrageToken.Contract
open DemurrageToken.Spec

variable {api : Api} {storage : Storage} {limits : Nat → Option U32}

/-! ## Pages -/

theorem pageLimit_le (limit : Option U32) : pageLimit limit ≤ 30 :=
  Nat.min_le_right _ _

/-- Only a limit of zero leaves no room on a page. -/
theorem pageLimit_pos {limit : Option U32} (nonzero : limit ≠ some 0) : 0 < pageLimit limit := by
  refine Nat.lt_min.mpr ⟨?_, by decide⟩
  cases limit with
  | none => decide
  | some limit =>
      apply Nat.pos_of_ne_zero
      intro zero
      exact nonzero (congrArg some (BitVec.eq_of_toNat_eq zero))

/-- A page of `query_all_accounts`, asked with the client's next limit. -/
def AccountPage (storage : Storage) (limits : Nat → Option U32) (request : Nat)
    (cursor : Option String) (page : List String) : Prop :=
  queryAllAccounts storage cursor (limits request) = some (.ok ⟨page⟩)

/-- A page of `query_all_allowances`, asked with the client's next limit. -/
def AllowancePage (api : Api) (storage : Storage) (owner : String) (limits : Nat → Option U32)
    (request : Nat) (cursor : Option String) (page : List AllowanceInfo) : Prop :=
  queryAllAllowances api storage owner cursor (limits request) = some (.ok ⟨page⟩)

/-- The pages hold every stored entry once, in ascending byte order. -/
structure HoldsOnce {ε : Type} (token : ε → String) (stored : ε → Prop)
    (pages : List (List ε)) : Prop where
  all : ∀ entry, entry ∈ pages.flatten ↔ stored entry
  once : pages.flatten.Nodup
  ascending : Ascending ByteBefore token pages.flatten
  bounded : ∀ page ∈ pages, page.length ≤ 30

/-- The walk from the first page ends, in one way, and reads everything once. -/
def ReadsOnce {ε : Type} (token : ε → String) (fetch : Nat → Option String → List ε → Prop)
    (stored : ε → Prop) : Prop :=
  ∃ pages, Walk token fetch 0 none pages ∧ HoldsOnce token stored pages ∧
    ∀ others, Walk token fetch 0 none others → others = pages

/-- A query that gives out pages of one ascending list is read once. -/
theorem readsOnce_of_pages {ε : Type} {token : ε → String}
    {fetch : Nat → Option String → List ε → Prop} {stored : ε → Prop} {entries : List ε}
    (ascending : Ascending ByteBefore token entries)
    (listed : ∀ entry, entry ∈ entries ↔ stored entry)
    (room : ∀ request, limits request ≠ some 0)
    (pages : ∀ request cursor page, fetch request cursor page ↔
      (behind ByteBefore token entries cursor).take (pageLimit (limits request)) = page) :
    ReadsOnce token fetch stored := by
  obtain ⟨read, walk, whole⟩ := walk_exists ascending (fun request => pageLimit_pos (room request))
    (fun request cursor => (pages request cursor _).mpr rfl) entries.length 0 none le_rfl
  have readAll : read.flatten = entries := whole
  refine ⟨read, walk, ⟨?_, ?_, ?_, ?_⟩, ?_⟩
  · intro entry
    rw [readAll, listed]
  · rw [readAll]
    apply ascending.imp
    intro left right less same
    rw [same] at less
    exact irrefl_of ByteBefore _ less
  · rw [readAll]
    exact ascending
  · intro page member
    rcases walk.fetched page member with ⟨request, cursor, fetched⟩
    rw [← (pages request cursor page).mp fetched]
    exact (List.length_take_le _ _).trans (pageLimit_le _)
  · intro others other
    apply other.unique _ walk
    intro request cursor page otherPage fetched otherFetched
    exact ((pages _ _ _).mp fetched).symm.trans ((pages _ _ _).mp otherFetched)

/-- Whatever the limits of the pages are, as long as each is at least one, a walk
reads every account once; and a walk for an owner reads every allowance of that
owner once, as it is stored, and none of another owner. -/
theorem listings_read_once (room : ∀ request, limits request ≠ some 0) :
    ReadsOnce id (AccountPage storage limits) (fun name => (⟨name⟩ : Addr) ∈ storage.balances) ∧
      ∀ owner ownerAddr, api.addrValidate owner = .ok ownerAddr → owner.utf8ByteSize ≤ 0xFFFF →
        ReadsOnce AllowanceInfo.spender (AllowancePage api storage owner limits)
          fun info => storage.allowances[(ownerAddr, (⟨info.spender⟩ : Addr))]? =
            some { allowance := info.allowance, expires := info.expires } := by
  constructor
  · rcases queryAllAccounts_lists storage with ⟨names, ascending, listed, pages⟩
    apply readsOnce_of_pages ascending listed room
    intro request cursor page
    simp [AccountPage, pages]
  · intro owner ownerAddr valid fits
    rcases queryAllAllowances_lists storage valid fits with ⟨infos, ascending, listed, pages⟩
    apply readsOnce_of_pages ascending listed room
    intro request cursor page
    simp [AllowancePage, pages]

/-- Two owners; the name of one starts with that of the other. -/
def sampleListings : Storage where
  balances := ((∅ : Balances).insert ⟨"anna"⟩ 5).insert ⟨"ann"⟩ 7
  allowances := (((∅ : Allowances).insert (⟨"ann"⟩, ⟨"zoe"⟩) { allowance := 1 }).insert
    (⟨"anna"⟩, ⟨"bob"⟩) { allowance := 2 }).insert (⟨"ann"⟩, ⟨"annabel"⟩) { allowance := 3 }

/-- With a limit that runs from one to nine over the pages. -/
theorem listings_read_once_ann :
    ReadsOnce id (AccountPage sampleListings fun request => some (.ofNat 32 (request % 9 + 1)))
        (fun name => (⟨name⟩ : Addr) ∈ sampleListings.balances) ∧
      ReadsOnce AllowanceInfo.spender
        (AllowancePage sampleApi sampleListings "ann" fun request =>
          some (.ofNat 32 (request % 9 + 1)))
        fun info => sampleListings.allowances[((⟨"ann"⟩ : Addr), (⟨info.spender⟩ : Addr))]? =
          some { allowance := info.allowance, expires := info.expires } := by
  have room : ∀ request, some (BitVec.ofNat 32 (request % 9 + 1)) ≠ some 0 := by
    intro request zero
    have zeroNat := congrArg BitVec.toNat (Option.some.inj zero)
    rw [BitVec.toNat_ofNat] at zeroNat
    have nothing : (0 : U32).toNat = 0 := rfl
    omega
  have both := @listings_read_once sampleApi sampleListings
    (fun request => some (.ofNat 32 (request % 9 + 1))) room
  exact ⟨both.1, both.2 "ann" ⟨"ann"⟩ (by decide) (by decide)⟩

/-- The allowance of the longer name is not among those of the shorter one. -/
example : queryAllAllowances sampleApi sampleListings "ann" none none =
    some (.ok ⟨[⟨"annabel", 3, .never⟩, ⟨"zoe", 1, .never⟩]⟩) := by
  decide +kernel

end DemurrageToken.Properties
