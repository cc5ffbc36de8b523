import DemurrageToken.MultiTest.Transactions

/-!
Contract: storage transactions are transparent.

Code that runs on a chain of caches over a store computes what it computes on a plain
map: each `get` and each `range` sees the changes so far, an action that fails leaves
nothing behind, and one that returns leaves all of its changes. This holds for caches
on top of caches to any depth. A store refuses empty values where a cache does not, so
that an empty value panics when the outermost cache is committed, if it is still there
in the log.

Owns: stores that answer as a map does, the cache as such a store, the plain meaning
of a program, and the theorem between the two.

Does not own: code that reads a store after it panicked.
-/

namespace DemurrageToken.Properties

open DemurrageToken.Library
open DemurrageToken.Library.Handler
open DemurrageToken.Library.Overlay
open DemurrageToken.Contract (Bytes Binary)
open DemurrageToken.MultiTest
open DemurrageToken.MultiTest.Transactions

variable {τ ε α : Type} {base : τ}

/-- The plain map that a store stands for. -/
abbrev Content := Std.ExtTreeMap Bytes Binary

/-- The store answers as the map of its content does, and panics at empty values, as a
store in memory does. -/
structure Lawful (storage : RawStorage τ) (content : τ → Content) : Prop where
  get : ∀ state key, storage.get state key = (content state)[key]?
  range : ∀ state start stop order, storage.range state start stop order =
    some (listing order (content state) (withinBounds start stop))
  set : ∀ state key value, (storage.set state key value).map content =
    if value = [] then none else some ((content state).insert key value)
  remove : ∀ state key, content (storage.remove state key) = (content state).erase key

/-! ## Plain storage -/

/-- A plain map, and whether a value that no store takes has been set. -/
structure Plain where
  entries : Content
  doomed : Bool

namespace Plain

/-- Set a value. -/
def set (key : Bytes) (value : Binary) (plain : Plain) : Plain where
  entries := plain.entries.insert key value
  doomed := plain.doomed || value.isEmpty

/-- Remove a key. -/
def remove (key : Bytes) (plain : Plain) : Plain := { plain with entries := plain.entries.erase key }

/-- Apply an operation. -/
def apply (plain : Plain) : Op → Plain
  | .set key value => plain.set key value
  | .delete key => plain.remove key

end Plain

/-- The store answers as a plain map. Where it is strict, it panics at empty values, and
never holds one; a cache is not strict. -/
structure AnswersAs (storage : RawStorage τ) (plain : τ → Plain) (strict : Bool) : Prop where
  get : ∀ state key, storage.get state key = (plain state).entries[key]?
  range : ∀ state start stop order, storage.range state start stop order =
    some (listing order (plain state).entries (withinBounds start stop))
  set : ∀ state key value, (storage.set state key value).map plain =
    if strict = true ∧ value = [] then none else some ((plain state).set key value)
  remove : ∀ state key, plain (storage.remove state key) = (plain state).remove key
  sound : strict = true → ∀ state, (plain state).doomed = false

theorem Lawful.answers {storage : RawStorage τ} {content : τ → Content}
    (lawful : Lawful storage content) :
    AnswersAs storage (fun state => ⟨content state, false⟩) true where
  get := lawful.get
  range := lawful.range
  set state key value := by
    have stored := lawful.set state key value
    by_cases empty : value = []
    · rw [if_pos empty, Option.map_eq_none_iff] at stored
      rw [if_pos ⟨rfl, empty⟩, stored]
      rfl
    · rw [if_neg empty, Option.map_eq_some_iff] at stored
      rcases stored with ⟨after, set, same⟩
      rw [if_neg fun refused => empty refused.2, set, Option.map_some, same, Plain.set]
      simp [empty]
  remove state key := by
    rw [lawful.remove]
    rfl
  sound _ _ := rfl

/-! ## The log -/

/-- What a delta makes of its key. -/
def changeOfDelta : Delta → Option Binary
  | .set value => some value
  | .delete => none

/-- The change of an operation. -/
def changeOfOp (op : Op) : Bytes × Option Binary := (op.key, changeOfDelta op.toDelta)

/-- What a cache stands for over what its store stands for. -/
def cached (plain : τ → Plain) (cache : StorageTransaction base) : Plain :=
  cache.repLog.foldl Plain.apply (plain base)

/-- The map of a cache is that of the store with the changes of its log. -/
theorem entries_foldl (log : RepLog) (plain : Plain) :
    (log.foldl Plain.apply plain).entries = replay plain.entries (log.map changeOfOp) := by
  unfold replay
  induction log generalizing plain with
  | nil => rfl
  | cons op log inductionHypothesis =>
      rw [List.foldl_cons, inductionHypothesis, List.map_cons, List.foldl_cons]
      cases op <;> rfl

theorem doomed_foldl (log : RepLog) {plain : Plain} (doomed : plain.doomed = true) :
    (log.foldl Plain.apply plain).doomed = true := by
  induction log generalizing plain with
  | nil => exact doomed
  | cons op log inductionHypothesis =>
      rw [List.foldl_cons]
      apply inductionHypothesis
      cases op with
      | set key value =>
          show (plain.doomed || _) = true
          rw [doomed, Bool.true_or]
      | delete key => exact doomed

/-- A commit replays the log, if the store takes all of its values. -/
theorem plain_commit {storage : RawStorage τ} {plain : τ → Plain} {strict : Bool}
    (answers : AnswersAs storage plain strict) (log : RepLog) (state : τ) :
    (log.commit storage state).map plain =
      if strict = true ∧ (log.foldl Plain.apply (plain state)).doomed = true then none
      else some (log.foldl Plain.apply (plain state)) := by
  unfold RepLog.commit
  induction log generalizing state with
  | nil =>
      rw [if_neg]
      · rfl
      · rintro ⟨isStrict, doomed⟩
        cases (answers.sound isStrict state).symm.trans doomed
  | cons op log inductionHypothesis =>
      rw [List.foldlM_cons, List.foldl_cons]
      cases op with
      | delete key =>
          show (List.foldlM (Op.apply storage) (storage.remove state key) log).map plain = _
          rw [inductionHypothesis, answers.remove]
          rfl
      | set key value =>
          have stored := answers.set state key value
          show ((storage.set state key value).bind fun after =>
            List.foldlM (Op.apply storage) after log).map plain = _
          split at stored
          · rename_i refused
            rw [Option.map_eq_none_iff] at stored
            have doomed : ((plain state).set key value).doomed = true := by
              rw [Plain.set, refused.2]
              exact Bool.or_true _
            rw [stored, if_pos ⟨refused.1, doomed_foldl log doomed⟩]
            rfl
          · rcases Option.map_eq_some_iff.mp stored with ⟨after, set, same⟩
            rw [set, Option.bind_some, inductionHypothesis, same]
            rfl

theorem getElem?_localState (cache : StorageTransaction base) (key : Bytes) :
    (latest (cache.repLog.map changeOfOp))[key]? =
      (cache.localState[key]?).map changeOfDelta := by
  rw [cache.logged, latest, List.foldl_map]
  induction cache.repLog using List.reverseRecOn with
  | nil => simp
  | append_singleton log op inductionHypothesis =>
      rw [List.foldl_append, List.foldl_append]
      simp only [List.foldl_cons, List.foldl_nil, Std.ExtTreeMap.getElem?_insert,
        inductionHypothesis]
      show (if compare op.key key = .eq then _ else _) = _
      split <;> rfl

/-! ## Reads of a cache -/

/-- A local item as a changed record. -/
def changedRecord (item : Bytes × Delta) : Bytes × Option Binary :=
  (item.1, changeOfDelta item.2)

theorem listing_localState (cache : StorageTransaction base) (order : Order)
    (inside : Bytes → Bool) :
    (listing order cache.localState inside).map changedRecord =
      listing order (latest (cache.repLog.map changeOfOp)) inside := by
  have sorted : Sorted order ((listing order cache.localState inside).map changedRecord) :=
    List.pairwise_map.mpr (listing_sorted cache.localState inside)
  apply sorted.eq_of_mem_iff (listing_sorted _ _)
  intro record
  rw [mem_listing, getElem?_localState, Option.map_eq_some_iff, List.mem_map]
  constructor
  · intro found
    rcases found with ⟨item, member, rfl⟩
    have listed := mem_listing.mp member
    exact ⟨⟨item.2, listed.1, rfl⟩, listed.2⟩
  · intro found
    rcases found with ⟨⟨delta, stored, same⟩, within⟩
    exact ⟨(record.1, delta), mem_listing.mpr ⟨stored, within⟩, Prod.ext rfl same⟩

/-- What an overlay has left to list. -/
def pending (overlay : MergeOverlay) : List Record :=
  merge overlay.order (overlay.left.map changedRecord) overlay.right

/-- The item of `next`, and what is left after it. -/
def stepped : Option (Record × MergeOverlay) → List Record
  | none => []
  | some (record, rest) => record :: pending rest

theorem stepped_takeLeft (item : Bytes × Delta) {rest : MergeOverlay}
    {onward : Option (Record × MergeOverlay)} (skips : stepped onward = pending rest) :
    stepped (MergeOverlay.takeLeft item rest onward) =
      emit item.1 (changeOfDelta item.2) ++ pending rest := by
  rcases item with ⟨key, value | _⟩
  · rfl
  · exact skips

/-- `next` reads the merge of the two sides. -/
theorem stepped_nextFrom (order : Order) (left : List (Bytes × Delta)) (right : List Record) :
    stepped (MergeOverlay.nextFrom order left right) = pending ⟨left, right, order⟩ := by
  induction left, right using MergeOverlay.nextFrom.induct order with
  | case1 litem left ritem right before inductionHypothesis =>
      simp only [MergeOverlay.nextFrom, before]
      rw [stepped_takeLeft litem inductionHypothesis]
      exact (merge_of_lt (changedRecord litem) before _ _).symm
  | case2 litem left ritem right same inductionHypothesis =>
      simp only [MergeOverlay.nextFrom, same]
      rw [stepped_takeLeft litem inductionHypothesis]
      exact (merge_of_eq (changedRecord litem) same _ _).symm
  | case3 litem left ritem right after =>
      simp only [MergeOverlay.nextFrom, after]
      exact (merge_of_gt (changedRecord litem) after _ _).symm
  | case4 litem left inductionHypothesis =>
      rw [MergeOverlay.nextFrom, stepped_takeLeft litem inductionHypothesis]
      simp only [pending, List.map_cons, changedRecord, merge]
  | case5 ritem right => simp [MergeOverlay.nextFrom, stepped, pending, merge]
  | case6 => simp [MergeOverlay.nextFrom, stepped, pending, merge]

/-- The iterator collects the merge of its two sides. -/
theorem collect_eq_pending (overlay : MergeOverlay) : overlay.collect = pending overlay := by
  have step : stepped overlay.next = pending overlay := stepped_nextFrom _ _ _
  induction overlay using MergeOverlay.collect.induct with
  | case1 overlay ended =>
      rw [MergeOverlay.collect, ← step, ended]
      rfl
  | case2 overlay record rest found inductionHypothesis =>
      have onward := inductionHypothesis (stepped_nextFrom _ _ _)
      rw [MergeOverlay.collect, ← step, found]
      exact congrArg (record :: ·) onward

/-- No key is in a range whose start is behind its end. -/
theorem listing_reversed {ν : Type} (entries : Std.ExtTreeMap Bytes ν) (order : Order)
    {first last : Bytes} (behind : compare first last = .gt) :
    listing order entries (withinBounds (some first) (some last)) = [] := by
  rw [List.eq_nil_iff_forall_not_mem]
  intro record member
  have inside := (mem_listing.mp member).2
  simp only [withinBounds, Option.all_some, Bool.and_eq_true, beq_iff_eq] at inside
  have before := Std.TransCmp.lt_of_isLE_of_lt inside.1 inside.2
  rw [behind] at before
  cases before

/-- The local side of a range never panics. -/
theorem localRange_eq (cache : StorageTransaction base) (start stop : Option Bytes)
    (order : Order) :
    cache.localRange start stop order =
      some (listing order cache.localState (withinBounds start stop)) := by
  rcases start with _ | first
  · rfl
  · rcases stop with _ | last
    · rfl
    · simp only [StorageTransaction.localRange, btreeRange]
      split
      · rename_i behind
        rw [listing_reversed _ _ behind]
      · rfl

theorem cached_push {plain : τ → Plain} (cache : StorageTransaction base) (op : Op) :
    cached plain (cache.push op) = (cached plain cache).apply op := by
  show List.foldl Plain.apply _ (cache.repLog ++ [op]) = _
  rw [List.foldl_append]
  rfl

/-- A cache over a store that answers as a map answers as the changed map, and takes every
value. -/
theorem answers_rawStorage {storage : RawStorage τ} {plain : τ → Plain} {strict : Bool}
    (answers : AnswersAs storage plain strict) :
    AnswersAs (StorageTransaction.rawStorage storage base) (cached plain) false where
  get cache key := by
    rw [cached, entries_foldl, getElem?_replay, getElem?_localState]
    show StorageTransaction.get storage cache key = _
    unfold StorageTransaction.get
    rw [answers.get]
    rcases cache.localState[key]? with _ | value | _ <;> rfl
  range cache start stop order := by
    show StorageTransaction.range storage cache start stop order = _
    unfold StorageTransaction.range
    rw [localRange_eq, answers.range]
    simp only [Option.bind_eq_bind, Option.bind_some, Option.pure_def]
    rw [collect_eq_pending, pending, listing_localState, cached, entries_foldl, listing_replay]
  set cache key value := by
    rw [if_neg (by simp)]
    exact congrArg some (cached_push cache (.set key value))
  remove cache key := cached_push cache (.delete key)
  sound strict := by cases strict

/-! ## The plain meaning -/

/-- Go on where the condition holds, and abort elsewhere. -/
def ensure {σ : Type} (condition : Prop) [Decidable condition] : Handler σ ε Unit :=
  checked (if condition then some () else none)

/-- Run a program on a plain map, with a copy of a map to read beside it. A failed
transaction puts the map back. Outside all transactions the map is strict: a value that
no store takes aborts there, be it set there or committed from a transaction. -/
def meaning (strict : Bool) : Program ε α → Content → Handler Plain ε α
  | .finish result, _ => fromResult result
  | .get key next, view => do
      let value ← read fun plain : Plain => plain.entries[key]?
      meaning strict (next value) view
  | .range start stop order next, view => do
      let records ← read fun plain => listing order plain.entries (withinBounds start stop)
      meaning strict (next records) view
  | .readGet key next, view => meaning strict (next view[key]?) view
  | .readRange start stop order next, view =>
      meaning strict (next (listing order view (withinBounds start stop))) view
  | .set key value next, view => do
      ensure ¬ (strict = true ∧ value = [])
      write (Plain.set key value)
      meaning strict next view
  | .remove key next, view => do
      write (Plain.remove key)
      meaning strict next view
  | .transactional action next, view => do
      let base ← read Plain.entries
      let result ← attempt (Handler.transactional (meaning false action base))
      let doomed ← read Plain.doomed
      ensure ¬ (strict = true ∧ doomed = true)
      meaning strict (next result) view

/-- The reader answers as the map does. -/
structure Reads (reader : Reader) (view : Content) : Prop where
  get : ∀ key, reader.get key = view[key]?
  range : ∀ start stop order,
    reader.range start stop order = some (listing order view (withinBounds start stop))

theorem reads_reader {storage : RawStorage τ} {plain : τ → Plain} {strict : Bool}
    (answers : AnswersAs storage plain strict) (state : τ) :
    Reads (storage.reader state) (plain state).entries where
  get key := answers.get state key
  range start stop order := answers.range state start stop order

theorem run_ensure_bind {σ β : Type} {condition : Prop} [Decidable condition]
    {next : Unit → Handler σ ε β} {store : σ} :
    run (ensure condition >>= next) store = if condition then run (next ()) store else none := by
  unfold ensure
  rw [run_checked_bind]
  split <;> rfl

section Transaction

variable {storage : RawStorage τ} {state : τ} {error : ε} {value : α}
  {action : (base : τ) → Handler (StorageTransaction base) ε α} {cache : StorageTransaction state}

theorem run_transactional_error
    (ran : run (action state) (StorageTransaction.new state) = some (.error error, cache)) :
    run (Transactions.transactional storage action) state = some (.error error, state) := by
  show (run (action state) (StorageTransaction.new state)).bind _ = _
  rw [ran]
  rfl

theorem run_transactional_ok
    (ran : run (action state) (StorageTransaction.new state) = some (.ok value, cache)) :
    run (Transactions.transactional storage action) state =
      (cache.prepare.commit storage state).map fun after => (.ok value, after) := by
  show (run (action state) (StorageTransaction.new state)).bind _ = _
  rw [ran]
  show (cache.prepare.commit storage state).bind _ = _
  cases cache.prepare.commit storage state <;> rfl

/-- Seen through the plain map, the real transaction is the plain one, which a strict
store commits only without values that it does not take. -/
theorem runVia_transactional {plain : τ → Plain} {strict : Bool}
    (answers : AnswersAs storage plain strict) {ideal : Handler Plain ε α}
    (inner : runVia (cached plain) (action state) (StorageTransaction.new state) =
      run ideal (plain state)) :
    runVia plain (Transactions.transactional storage action) state =
      (run (Handler.transactional ideal) (plain state)).bind fun outcome =>
        if ¬ (strict = true ∧ outcome.2.doomed = true) then some outcome else none := by
  have ideally : run (Handler.transactional ideal) (plain state) =
      (run ideal (plain state)).map _ := rfl
  rw [runVia] at inner ⊢
  rw [ideally, ← inner]
  cases ran : run (action state) (StorageTransaction.new state) with
  | none =>
      show ((run (action state) (StorageTransaction.new state)).bind _).map _ = _
      rw [ran]
      rfl
  | some outcome =>
      rcases outcome with ⟨failure | value, cache⟩
      · rw [run_transactional_error ran]
        simp only [Option.bind_some, Option.map_some]
        rw [if_pos]
        rintro ⟨isStrict, doomed⟩
        cases (answers.sound isStrict state).symm.trans doomed
      · have committed : (cache.prepare.commit storage state).map plain =
            if strict = true ∧ (cached plain cache).doomed = true then none
            else some (cached plain cache) := plain_commit answers cache.repLog state
        rw [run_transactional_ok ran, Option.map_map]
        simp only [Option.bind_some, Option.map_some]
        show Option.map ((fun after => (Except.ok value, after)) ∘ plain)
          (cache.prepare.commit storage state) = _
        rw [← Option.map_map, committed]
        split
        · rfl
        · rfl

end Transaction

/-- Seen through the plain map, a program runs on a store as on the map. -/
theorem runVia_runOn {program : Program ε α} {storage : RawStorage τ} {plain : τ → Plain}
    {strict : Bool} (answers : AnswersAs storage plain strict) {reader : Reader} {view : Content}
    (reads : Reads reader view) (state : τ) :
    runVia plain (program.runOn storage reader) state =
      run (meaning strict program view) (plain state) := by
  induction program generalizing τ reader view strict state with
  | finish result => rfl
  | get key next inductionHypothesis =>
      rw [Program.runOn, meaning, runVia, run_read_bind, run_read_bind, answers.get]
      exact inductionHypothesis _ answers reads state
  | range start stop order next inductionHypothesis =>
      rw [Program.runOn, meaning, runVia, run_read_bind, run_read_bind, answers.range,
        run_checked_bind, Option.bind_some]
      exact inductionHypothesis _ answers reads state
  | readGet key next inductionHypothesis =>
      rw [Program.runOn, meaning, reads.get]
      exact inductionHypothesis _ answers reads state
  | readRange start stop order next inductionHypothesis =>
      rw [Program.runOn, meaning, reads.range, runVia, run_checked_bind, Option.bind_some]
      exact inductionHypothesis _ answers reads state
  | set key value next inductionHypothesis =>
      have stored := answers.set state key value
      rw [Program.runOn, meaning, runVia, run_read_bind, run_checked_bind, run_ensure_bind]
      split at stored
      · rename_i refused
        rw [Option.map_eq_none_iff.mp stored, if_neg (not_not.mpr refused)]
        rfl
      · rename_i taken
        rcases Option.map_eq_some_iff.mp stored with ⟨after, set, same⟩
        rw [set, Option.bind_some, run_write_bind, if_pos taken, run_write_bind, ← same]
        exact inductionHypothesis answers reads after
  | remove key next inductionHypothesis =>
      rw [Program.runOn, meaning, runVia, run_write_bind, run_write_bind, ← answers.remove]
      exact inductionHypothesis answers reads _
  | transactional action next actionHypothesis nextHypothesis =>
      have whole : runVia plain (Transactions.transactional storage fun base =>
          action.runOn (StorageTransaction.rawStorage storage base) (storage.reader base)) state =
          _ :=
        runVia_transactional answers (actionHypothesis (answers_rawStorage answers)
          (reads_reader answers state) (StorageTransaction.new state))
      have onward : ∀ outcome : Except ε α × τ,
          runVia plain ((next outcome.1).runOn storage reader) outcome.2 =
            run (meaning strict (next outcome.1) view) (plain outcome.2) :=
        fun outcome => nextHypothesis outcome.1 answers reads outcome.2
      have real : runVia plain ((Program.transactional action next).runOn storage reader) state =
          (runVia plain (Transactions.transactional storage fun base =>
            action.runOn (StorageTransaction.rawStorage storage base) (storage.reader base))
            state).bind fun outcome => run (meaning strict (next outcome.1) view) outcome.2 := by
        rw [Program.runOn, runVia, run_attempt_bind, Option.map_bind, runVia, Option.bind_map]
        exact congrArg _ (funext onward)
      rw [real, whole, Option.bind_assoc, meaning, run_read_bind, run_attempt_bind]
      congr 1
      funext outcome
      rw [run_read_bind, run_ensure_bind]
      split <;> rfl

/-! ## Programs without empty values -/

/-- The program sets no empty value, whatever it reads. -/
def SetsValues : Program ε α → Prop
  | .finish _ => True
  | .get _ next => ∀ value, SetsValues (next value)
  | .range _ _ _ next => ∀ records, SetsValues (next records)
  | .readGet _ next => ∀ value, SetsValues (next value)
  | .readRange _ _ _ next => ∀ records, SetsValues (next records)
  | .set _ value next => value ≠ [] ∧ SetsValues next
  | .remove _ next => SetsValues next
  | .transactional action next => SetsValues action ∧ ∀ result, SetsValues (next result)

/-- Such a program does not abort on the plain map. -/
theorem settles_meaning {program : Program ε α} (values : SetsValues program) (strict : Bool)
    (view : Content) {plain : Plain} (sound : plain.doomed = false) :
    ∃ result after, run (meaning strict program view) plain = some (result, after) ∧
      after.doomed = false := by
  induction program generalizing strict view plain with
  | finish result => exact ⟨result, plain, rfl, sound⟩
  | get key next inductionHypothesis =>
      rw [meaning, run_read_bind]
      exact inductionHypothesis _ (values _) strict view sound
  | range start stop order next inductionHypothesis =>
      rw [meaning, run_read_bind]
      exact inductionHypothesis _ (values _) strict view sound
  | readGet key next inductionHypothesis =>
      rw [meaning]
      exact inductionHypothesis _ (values _) strict view sound
  | readRange start stop order next inductionHypothesis =>
      rw [meaning]
      exact inductionHypothesis _ (values _) strict view sound
  | set key value next inductionHypothesis =>
      have kept : (plain.set key value).doomed = false := by
        rw [Plain.set, sound, Bool.false_or, List.isEmpty_eq_false_iff]
        exact values.1
      rw [meaning, run_ensure_bind, if_pos fun refused => values.1 refused.2, run_write_bind]
      exact inductionHypothesis values.2 strict view kept
  | remove key next inductionHypothesis =>
      have kept : (plain.remove key).doomed = false := sound
      rw [meaning, run_write_bind]
      exact inductionHypothesis values strict view kept
  | transactional action next actionHypothesis nextHypothesis =>
      rcases actionHypothesis values.1 false plain.entries sound with ⟨result, inner, ran, clean⟩
      have settled : ∃ outcome middle, run (Handler.transactional (meaning false action plain.entries))
          plain = some (outcome, middle) ∧ middle.doomed = false := by
        cases result with
        | ok value => exact ⟨_, inner, returns_transactional.mpr ran, clean⟩
        | error failure =>
            exact ⟨_, plain, settles_transactional.mpr (Or.inr ⟨failure, inner, rfl, ran, rfl⟩),
              sound⟩
      rcases settled with ⟨outcome, middle, committed, unspoilt⟩
      rw [meaning, run_read_bind, run_attempt_bind, committed, Option.bind_some, run_read_bind,
        run_ensure_bind, if_pos]
      · exact nextHypothesis outcome (values.2 outcome) strict view unspoilt
      · rintro ⟨_, doomed⟩
        cases unspoilt.symm.trans doomed

/-! ## The theorem -/

/-- Run on any store, through caches nested to any depth, a program settles or panics as
it does on the plain map of the store's content, and leaves the content it leaves there.
If it sets no empty value, it settles. -/
theorem program_runs_as_on_map {storage : RawStorage τ} {content : τ → Content}
    (lawful : Lawful storage content) (program : Program ε α) (state : τ) :
    runVia content (program.runOn storage (storage.reader state)) state =
        runVia Plain.entries (meaning true program (content state)) ⟨content state, false⟩ ∧
      (SetsValues program →
        (run (program.runOn storage (storage.reader state)) state).isSome = true) := by
  have alike : runVia (fun state => (⟨content state, false⟩ : Plain))
      (program.runOn storage (storage.reader state)) state =
        run (meaning true program (content state)) ⟨content state, false⟩ :=
    runVia_runOn lawful.answers (reads_reader lawful.answers state) state
  constructor
  · rw [runVia, runVia, ← alike, runVia, Option.map_map]
    rfl
  · intro values
    have sound : (⟨content state, false⟩ : Plain).doomed = false := rfl
    rcases settles_meaning values true (content state) sound with ⟨result, after, ran, _⟩
    rw [ran] at alike
    rcases Option.map_eq_some_iff.mp alike with ⟨outcome, settled, _⟩
    rw [settled]
    rfl

/-- A store in memory. -/
def memoryStorage : RawStorage Content where
  get entries key := entries[key]?
  range entries start stop order := some (listing order entries (withinBounds start stop))
  set entries key value := if value = [] then none else some (entries.insert key value)
  remove entries key := entries.erase key

theorem lawful_memoryStorage : Lawful memoryStorage id where
  get _ _ := rfl
  range _ _ _ _ := rfl
  set entries key value := by
    rw [Option.map_id]
    rfl
  remove _ _ := rfl

/-- Two transactions inside one: the first fails, the second lists what is there. -/
def sampleProgram : Program String (List Record) :=
  .set [1] [10] <| .transactional
    (.set [2] [20] <| .transactional
      (.remove [1] <| .set [4] [] <| .finish (.error "failed"))
      fun _ => .transactional
        (.set [3] [30] <| .range none none .descending fun records => .finish (.ok records))
        .finish)
    .finish

/-- A transaction that sets an empty value and takes it back. -/
def emptyProgram : Program String (List Record) :=
  .transactional (.set [1] [] <| .remove [1] <| .finish (.ok [])) .finish

/-- The first program settles, since the empty value is rolled back; the commit of the
second panics. -/
theorem sample_runs_as_on_map :
    (runVia id (sampleProgram.runOn memoryStorage (memoryStorage.reader ∅)) ∅).map
        (fun outcome => outcome.1.toOption) = some (some [([3], [30]), ([2], [20]), ([1], [10])]) ∧
      run (emptyProgram.runOn memoryStorage (memoryStorage.reader ∅)) ∅ = none := by
  have listed : (runVia Plain.entries (meaning true sampleProgram ∅) ⟨∅, false⟩).map
      (fun outcome => outcome.1.toOption) = some (some [([3], [30]), ([2], [20]), ([1], [10])]) := by
    decide +kernel
  have panicked : runVia Plain.entries (meaning true emptyProgram ∅) ⟨∅, false⟩ = none := by
    have none : (runVia Plain.entries (meaning true emptyProgram ∅) ⟨∅, false⟩).isNone = true := by
      decide +kernel
    exact Option.isNone_iff_eq_none.mp none
  have sample := (program_runs_as_on_map lawful_memoryStorage sampleProgram ∅).1
  have empty := (program_runs_as_on_map lawful_memoryStorage emptyProgram ∅).1
  constructor
  · rw [sample]
    exact listed
  · rw [← Option.map_eq_none_iff]
    exact empty.trans panicked

end DemurrageToken.Properties
