import Mathlib

/-!
Contract: ordered reads of a store with changes on top.

A store lists its records in the order of their keys, in one of two directions.
Changes that are kept beside the store replace or delete records; a merge of two
sorted lists reads both as one.

Owns: directions, sorted lists of records and their uniqueness, the merge and what
it lists, logs of changes with the store each leads to, and listings of a store.

Does not own: the encoding of keys, and when a log is written back.
-/

namespace DemurrageToken.Library.Overlay

/-- The direction of a read. -/
inductive Direction where
  | ascending
  | descending
deriving DecidableEq, Repr

variable {κ ν : Type} [Ord κ]

/-- The comparison of two keys in a direction. -/
def Direction.compare (direction : Direction) (left right : κ) : Ordering :=
  match direction with
  | .ascending => Ord.compare left right
  | .descending => Ord.compare right left

/-- The list is sorted by its keys, each of which occurs once. -/
def Sorted (direction : Direction) {τ : Type} (records : List (κ × τ)) : Prop :=
  records.Pairwise fun left right => direction.compare left.1 right.1 = .lt

/-- The head of a sorted list comes before all other keys. -/
theorem Sorted.head_lt {direction : Direction} {τ : Type} {key other : κ} {value : τ}
    {rest : List (κ × τ)} (sorted : Sorted direction ((key, value) :: rest))
    (member : other ∈ rest.map Prod.fst) : direction.compare key other = .lt := by
  rcases List.mem_map.mp member with ⟨record, listed, rfl⟩
  exact (List.pairwise_cons.mp sorted).1 record listed

theorem Sorted.tail {direction : Direction} {τ : Type} {record : κ × τ} {rest : List (κ × τ)}
    (sorted : Sorted direction (record :: rest)) : Sorted direction rest :=
  (List.pairwise_cons.mp sorted).2

instance directionTransCmp [Std.TransOrd κ] (direction : Direction) :
    Std.TransCmp (direction.compare : κ → κ → Ordering) :=
  match direction with
  | .ascending => inferInstanceAs (Std.TransCmp (Ord.compare : κ → κ → Ordering))
  | .descending => inferInstanceAs (Std.TransCmp fun left right : κ => Ord.compare right left)

instance directionLawfulEqCmp [Std.LawfulEqOrd κ] (direction : Direction) :
    Std.LawfulEqCmp (direction.compare : κ → κ → Ordering) :=
  match direction with
  | .ascending => inferInstanceAs (Std.LawfulEqCmp (Ord.compare : κ → κ → Ordering))
  | .descending =>
      { compare_self := fun {key} => (Std.ReflOrd.compare_self : Ord.compare key key = .eq)
        eq_of_compare := fun same => (Std.LawfulEqOrd.eq_of_compare same).symm }

variable [Std.TransOrd κ] {direction : Direction}

theorem compare_lt_irrefl (key : κ) : direction.compare key key ≠ .lt := by
  rw [(Std.ReflCmp.compare_self : direction.compare key key = .eq)]
  exact nofun

/-- Sorted lists with the same records are equal. -/
theorem Sorted.eq_of_mem_iff {τ : Type} {left right : List (κ × τ)}
    (leftSorted : Sorted direction left) (rightSorted : Sorted direction right)
    (same : ∀ record, record ∈ left ↔ record ∈ right) : left = right := by
  have distinct : ∀ {records : List (κ × τ)}, Sorted direction records → records.Nodup := by
    intro records sorted
    apply List.Pairwise.imp _ sorted
    intro first second before same
    rw [same] at before
    exact compare_lt_irrefl _ before
  have permuted := (List.perm_ext_iff_of_nodup (distinct leftSorted) (distinct rightSorted)).mpr
    same
  apply permuted.eq_of_pairwise _ leftSorted rightSorted
  intro first second _ _ before after
  exact absurd (Std.TransCmp.lt_trans before after) (compare_lt_irrefl _)

/-! ## The merge -/

/-- What is left to list of a changed record: a deleted one is left out. -/
def emit (key : κ) (change : Option ν) : List (κ × ν) :=
  (change.map fun value => (key, value)).toList

/-- Read the records with the changes on top; both lists are sorted. -/
def merge (direction : Direction) : List (κ × Option ν) → List (κ × ν) → List (κ × ν)
  | [], records => records
  | (key, change) :: changes, [] => emit key change ++ merge direction changes []
  | (key, change) :: changes, (other, value) :: records =>
      match direction.compare key other with
      | .lt => emit key change ++ merge direction changes ((other, value) :: records)
      | .eq => emit key change ++ merge direction changes records
      | .gt => (other, value) :: merge direction ((key, change) :: changes) records
termination_by changes records => changes.length + records.length

omit [Std.TransOrd κ] in
theorem merge_of_lt {direction : Direction} (item : κ × Option ν) {record : κ × ν}
    (before : direction.compare item.1 record.1 = .lt) (changes : List (κ × Option ν))
    (records : List (κ × ν)) :
    merge direction (item :: changes) (record :: records) =
      emit item.1 item.2 ++ merge direction changes (record :: records) := by
  rcases item with ⟨key, change⟩
  rcases record with ⟨other, value⟩
  simp only [merge, before]

omit [Std.TransOrd κ] in
theorem merge_of_eq {direction : Direction} (item : κ × Option ν) {record : κ × ν}
    (same : direction.compare item.1 record.1 = .eq) (changes : List (κ × Option ν))
    (records : List (κ × ν)) :
    merge direction (item :: changes) (record :: records) =
      emit item.1 item.2 ++ merge direction changes records := by
  rcases item with ⟨key, change⟩
  rcases record with ⟨other, value⟩
  simp only [merge, same]

omit [Std.TransOrd κ] in
theorem merge_of_gt {direction : Direction} (item : κ × Option ν) {record : κ × ν}
    (after : direction.compare item.1 record.1 = .gt) (changes : List (κ × Option ν))
    (records : List (κ × ν)) :
    merge direction (item :: changes) (record :: records) =
      record :: merge direction (item :: changes) records := by
  rcases item with ⟨key, change⟩
  rcases record with ⟨other, value⟩
  simp only [merge, after]

omit [Ord κ] in
theorem mem_emit {key : κ} {change : Option ν} {record : κ × ν} :
    record ∈ emit key change ↔ (record.1, some record.2) = (key, change) := by
  rw [emit, Option.mem_toList, Option.map_eq_some_iff]
  constructor
  · intro found
    rcases found with ⟨value, rfl, rfl⟩
    rfl
  · intro same
    cases same
    exact ⟨record.2, rfl, rfl⟩

/-- A key before the head of a sorted list is not in it. -/
theorem Sorted.notMem_of_lt {τ : Type} {key other : κ} {value : τ} {rest : List (κ × τ)}
    (sorted : Sorted direction ((other, value) :: rest))
    (before : direction.compare key other = .lt) :
    key ∉ ((other, value) :: rest).map Prod.fst := by
  intro member
  rcases List.mem_cons.mp member with same | later
  · rw [same] at before
    exact compare_lt_irrefl _ before
  · exact compare_lt_irrefl _ (Std.TransCmp.lt_trans before (sorted.head_lt later))

variable [Std.LawfulEqOrd κ]

/-- The merge lists what was changed to a value, and the records without a change. -/
theorem mem_merge {changes : List (κ × Option ν)} {records : List (κ × ν)}
    (changesSorted : Sorted direction changes) (recordsSorted : Sorted direction records)
    (record : κ × ν) :
    record ∈ merge direction changes records ↔
      (record.1, some record.2) ∈ changes ∨
        (record ∈ records ∧ record.1 ∉ changes.map Prod.fst) := by
  induction changes, records using @merge.induct κ ν _ direction with
  | case1 records => simp [merge]
  | case2 key change changes inductionHypothesis =>
      rw [merge, List.mem_append, mem_emit, inductionHypothesis changesSorted.tail .nil]
      simp
  | case3 key change changes other value records before inductionHypothesis =>
      rw [merge_of_lt _ before, List.mem_append, mem_emit,
        inductionHypothesis changesSorted.tail recordsSorted, List.mem_cons]
      have absent := recordsSorted.notMem_of_lt before
      have differs : record ∈ (other, value) :: records → record.1 ≠ key := by
        intro member same
        exact absent (List.mem_map.mpr ⟨record, member, same⟩)
      grind
  | case4 key change changes other value records same inductionHypothesis =>
      rw [merge_of_eq _ same, List.mem_append, mem_emit,
        inductionHypothesis changesSorted.tail recordsSorted.tail, List.mem_cons]
      obtain rfl := Std.LawfulEqCmp.eq_of_compare same
      have differs : record ∈ records → record.1 ≠ key := by
        intro member same
        have later := recordsSorted.head_lt (List.mem_map.mpr ⟨record, member, same⟩)
        exact compare_lt_irrefl _ later
      have once : record = (key, value) → record.1 = key := fun same => congrArg Prod.fst same
      grind
  | case5 key change changes other value records after inductionHypothesis =>
      rw [merge_of_gt _ after, List.mem_cons,
        inductionHypothesis changesSorted recordsSorted.tail]
      have absent := changesSorted.notMem_of_lt (Std.OrientedCmp.lt_of_gt after)
      have fresh : record = (other, value) → record.1 ∉ ((key, change) :: changes).map Prod.fst := by
        intro same
        rw [same]
        exact absent
      grind

/-- The merge is sorted. -/
theorem merge_sorted {changes : List (κ × Option ν)} {records : List (κ × ν)}
    (changesSorted : Sorted direction changes) (recordsSorted : Sorted direction records) :
    Sorted direction (merge direction changes records) := by
  have later : ∀ {key : κ} {changes : List (κ × Option ν)} {records : List (κ × ν)},
      Sorted direction changes → Sorted direction records →
      (∀ other ∈ changes.map Prod.fst, direction.compare key other = .lt) →
      (∀ other ∈ records.map Prod.fst, direction.compare key other = .lt) →
      ∀ record ∈ merge direction changes records, direction.compare key record.1 = .lt := by
    intro key changes records changesSorted recordsSorted beforeChanges beforeRecords record member
    rcases (mem_merge changesSorted recordsSorted record).mp member with changed | ⟨kept, _⟩
    · exact beforeChanges _ (List.mem_map.mpr ⟨_, changed, rfl⟩)
    · exact beforeRecords _ (List.mem_map.mpr ⟨_, kept, rfl⟩)
  have emitted : ∀ {key : κ} {change : Option ν} {rest : List (κ × ν)},
      Sorted direction rest → (∀ record ∈ rest, direction.compare key record.1 = .lt) →
      Sorted direction (emit key change ++ rest) := by
    intro key change rest sorted before
    cases change with
    | none => exact sorted
    | some value => exact List.pairwise_cons.mpr ⟨before, sorted⟩
  induction changes, records using @merge.induct κ ν _ direction with
  | case1 records =>
      rw [merge]
      exact recordsSorted
  | case2 key change changes inductionHypothesis =>
      rw [merge]
      apply emitted (inductionHypothesis changesSorted.tail .nil)
      apply later changesSorted.tail .nil
      · intro other member
        exact changesSorted.head_lt member
      · exact List.forall_mem_nil _
  | case3 key change changes other value records before inductionHypothesis =>
      rw [merge_of_lt _ before]
      apply emitted (inductionHypothesis changesSorted.tail recordsSorted)
      apply later changesSorted.tail recordsSorted
      · intro next member
        exact changesSorted.head_lt member
      · intro next member
        rcases List.mem_cons.mp member with rfl | member
        · exact before
        · exact Std.TransCmp.lt_trans before (recordsSorted.head_lt member)
  | case4 key change changes other value records same inductionHypothesis =>
      rw [merge_of_eq _ same]
      obtain rfl := Std.LawfulEqCmp.eq_of_compare same
      apply emitted (inductionHypothesis changesSorted.tail recordsSorted.tail)
      apply later changesSorted.tail recordsSorted.tail
      · intro next member
        exact changesSorted.head_lt member
      · intro next member
        exact recordsSorted.head_lt member
  | case5 key change changes other value records after inductionHypothesis =>
      rw [merge_of_gt _ after]
      apply List.pairwise_cons.mpr ⟨_, inductionHypothesis changesSorted recordsSorted.tail⟩
      apply later changesSorted recordsSorted.tail
      · intro next member
        have before := Std.OrientedCmp.lt_of_gt after
        rcases List.mem_cons.mp member with rfl | member
        · exact before
        · exact Std.TransCmp.lt_trans before (changesSorted.head_lt member)
      · intro next member
        exact recordsSorted.head_lt member

/-! ## Logs of changes -/

/-- Change one entry of a store; the change to nothing deletes it. -/
def applyChange (entries : Std.ExtTreeMap κ ν) (change : κ × Option ν) :
    Std.ExtTreeMap κ ν :=
  match change.2 with
  | some value => entries.insert change.1 value
  | none => entries.erase change.1

/-- Apply a log of changes in its order. -/
def replay (entries : Std.ExtTreeMap κ ν) (log : List (κ × Option ν)) : Std.ExtTreeMap κ ν :=
  log.foldl applyChange entries

/-- The last change of each key in a log. -/
def latest (log : List (κ × Option ν)) : Std.ExtTreeMap κ (Option ν) :=
  log.foldl (fun changes change => changes.insert change.1 change.2) ∅

omit [Std.LawfulEqOrd κ] in
/-- A log replays to its last changes on top of the store. -/
theorem getElem?_replay (entries : Std.ExtTreeMap κ ν) (log : List (κ × Option ν)) (key : κ) :
    (replay entries log)[key]? = ((latest log)[key]?).getD entries[key]? := by
  induction log using List.reverseRecOn with
  | nil =>
      rw [latest, List.foldl_nil, Std.ExtTreeMap.getElem?_empty]
      rfl
  | append_singleton log change inductionHypothesis =>
      rw [replay, latest, List.foldl_append, List.foldl_append]
      show (applyChange (replay entries log) change)[key]? =
        (((latest log).insert change.1 change.2)[key]?).getD entries[key]?
      rcases change with ⟨changed, _ | value⟩
      · simp only [applyChange, Std.ExtTreeMap.getElem?_erase, Std.ExtTreeMap.getElem?_insert,
          inductionHypothesis]
        split <;> rfl
      · simp only [applyChange, Std.ExtTreeMap.getElem?_insert, inductionHypothesis]
        split <;> rfl

/-! ## Listings -/

/-- The entries of a store with a key inside, in a direction. -/
def listing (direction : Direction) {τ : Type} (entries : Std.ExtTreeMap κ τ)
    (inside : κ → Bool) : List (κ × τ) :=
  let found := entries.toList.filter fun entry => inside entry.1
  match direction with
  | .ascending => found
  | .descending => found.reverse

theorem mem_listing {τ : Type} {entries : Std.ExtTreeMap κ τ} {inside : κ → Bool}
    {record : κ × τ} :
    record ∈ listing direction entries inside ↔
      entries[record.1]? = some record.2 ∧ inside record.1 = true := by
  have found : record ∈ (entries.toList.filter fun entry => inside entry.1) ↔
      entries[record.1]? = some record.2 ∧ inside record.1 = true := by
    rw [List.mem_filter, Std.ExtTreeMap.mem_toList_iff_getElem?_eq_some]
  cases direction with
  | ascending => exact found
  | descending => exact List.mem_reverse.trans found

omit [Std.LawfulEqOrd κ] in
theorem listing_sorted {τ : Type} (entries : Std.ExtTreeMap κ τ) (inside : κ → Bool) :
    Sorted direction (listing direction entries inside) := by
  have ascending : (entries.toList.filter fun entry => inside entry.1).Pairwise
      fun left right => Ord.compare left.1 right.1 = .lt :=
    Std.ExtTreeMap.ordered_keys_toList.filter _
  cases direction with
  | ascending => exact ascending
  | descending => exact List.pairwise_reverse.mpr ascending

theorem key_mem_listing {τ : Type} {entries : Std.ExtTreeMap κ τ} {inside : κ → Bool} {key : κ} :
    key ∈ (listing direction entries inside).map Prod.fst ↔
      entries[key]? ≠ none ∧ inside key = true := by
  rw [List.mem_map, Option.ne_none_iff_exists']
  constructor
  · intro found
    rcases found with ⟨record, member, rfl⟩
    have listed := mem_listing.mp member
    exact ⟨⟨record.2, listed.1⟩, listed.2⟩
  · intro found
    rcases found with ⟨⟨value, stored⟩, within⟩
    exact ⟨(key, value), mem_listing.mpr ⟨stored, within⟩, rfl⟩

/-- A replayed log lists as the merge of its last changes with the store. -/
theorem listing_replay (entries : Std.ExtTreeMap κ ν) (log : List (κ × Option ν))
    (inside : κ → Bool) :
    listing direction (replay entries log) inside =
      merge direction (listing direction (latest log) inside)
        (listing direction entries inside) := by
  have changesSorted := @listing_sorted κ _ _ direction _ (latest log) inside
  have recordsSorted := @listing_sorted κ _ _ direction _ entries inside
  apply (listing_sorted _ _).eq_of_mem_iff (merge_sorted changesSorted recordsSorted)
  intro record
  rw [mem_merge changesSorted recordsSorted, mem_listing, mem_listing, mem_listing,
    key_mem_listing, getElem?_replay]
  cases (latest log)[record.1]? with
  | none => simp
  | some change => simp

end DemurrageToken.Library.Overlay
