import DemurrageToken.Contract.StoragePlus
import DemurrageToken.Library.Atomic
import DemurrageToken.Library.Overlay

/-!
Contract: the storage transactions of `cw-multi-test`, as vendored under
`packages/multi-test`.

A transaction keeps its changes beside a store that it only reads: the last change of
each key in a map, and all of them in a log. Its own reads see the changes on top of
the store, and a commit applies the log to it.

Owns: what a store answers to, `StorageTransaction` with its `RepLog`, the iterator
`MergeOverlay`, `transactional`, and programs that run on any store.

Does not own: the stores themselves, and what the programs compute with records.
-/

namespace DemurrageToken.MultiTest.Transactions

open DemurrageToken.Library
open DemurrageToken.Library.Handler
open DemurrageToken.Library.Overlay
open DemurrageToken.Contract (Bytes Binary)

/-- A key with its value. -/
abbrev Record := Bytes × Binary

/-- `Order`. -/
abbrev Order := Overlay.Direction

/-- The trait `Storage`; `none` is a panic of `range` or `set`. -/
structure RawStorage (τ : Type) where
  get : τ → Bytes → Option Binary
  range : τ → Option Bytes → Option Bytes → Order → Option (List Record)
  set : τ → Bytes → Binary → Option τ
  remove : τ → Bytes → τ

/-- The key is from `start` on and before `stop`. -/
def withinBounds (start stop : Option Bytes) (key : Bytes) : Bool :=
  (start.all fun start => (compare start key).isLE) &&
    (stop.all fun stop => compare key stop == .lt)

/-- `BTreeMap::range`, which panics where the start is behind the end. -/
def btreeRange {ν : Type} (entries : Std.ExtTreeMap Bytes ν) (start stop : Option Bytes)
    (order : Order) : Option (List (Bytes × ν)) :=
  match start, stop with
  | some first, some last =>
      if compare first last = .gt then none
      else some (listing order entries (withinBounds start stop))
  | _, _ => some (listing order entries (withinBounds start stop))

/-! ## Operations -/

/-- `Delta`. -/
inductive Delta where
  | set (value : Binary)
  | delete
deriving DecidableEq, Repr

/-- `Op`. -/
inductive Op where
  | set (key : Bytes) (value : Binary)
  | delete (key : Bytes)
deriving DecidableEq, Repr

namespace Op

variable {τ : Type}

/-- The key that the operation changes. -/
def key : Op → Bytes
  | .set key _ => key
  | .delete key => key

/-- `Op::apply`. -/
def apply (storage : RawStorage τ) (state : τ) : Op → Option τ
  | .set key value => storage.set state key value
  | .delete key => some (storage.remove state key)

/-- `Op::to_delta`. -/
def toDelta : Op → Delta
  | .set _ value => .set value
  | .delete _ => .delete

end Op

/-- `RepLog`, the operations in the order of the calls. -/
abbrev RepLog := List Op

/-- `RepLog::commit`. -/
def RepLog.commit {τ : Type} (storage : RawStorage τ) (log : RepLog) (state : τ) : Option τ :=
  log.foldlM (Op.apply storage) state

/-! ## Merged iteration -/

/-- `MergeOverlay`. -/
structure MergeOverlay where
  left : List (Bytes × Delta)
  right : List Record
  order : Order

namespace MergeOverlay

/-- `take_left`; `onward` is `next` of the iterator without the item. -/
def takeLeft (item : Bytes × Delta) (rest : MergeOverlay)
    (onward : Option (Record × MergeOverlay)) : Option (Record × MergeOverlay) :=
  match item.2 with
  | .set value => some ((item.1, value), rest)
  | .delete => onward

/-- `next`, with `pick_match` on the two keys. -/
def nextFrom (order : Order) :
    List (Bytes × Delta) → List Record → Option (Record × MergeOverlay)
  | litem :: left, ritem :: right =>
      match order.compare litem.1 ritem.1 with
      | .lt => takeLeft litem ⟨left, ritem :: right, order⟩ (nextFrom order left (ritem :: right))
      | .eq => takeLeft litem ⟨left, right, order⟩ (nextFrom order left right)
      | .gt => some (ritem, ⟨litem :: left, right, order⟩)
  | litem :: left, [] => takeLeft litem ⟨left, [], order⟩ (nextFrom order left [])
  | [], ritem :: right => some (ritem, ⟨[], right, order⟩)
  | [], [] => none

/-- `Iterator::next`. -/
def next (overlay : MergeOverlay) : Option (Record × MergeOverlay) :=
  nextFrom overlay.order overlay.left overlay.right

/-- The number of items that are left to read. -/
def size (overlay : MergeOverlay) : Nat := overlay.left.length + overlay.right.length

theorem size_of_nextFrom {order : Order} {left : List (Bytes × Delta)} {right : List Record}
    {record : Record} {rest : MergeOverlay}
    (found : nextFrom order left right = some (record, rest)) :
    rest.size < left.length + right.length := by
  induction left, right using nextFrom.induct order with
  | case1 litem left ritem right before inductionHypothesis =>
      simp only [nextFrom, before, takeLeft] at found
      split at found
      · cases found
        simp [size]
      · have smaller := inductionHypothesis found
        simp only [List.length_cons] at smaller ⊢
        omega
  | case2 litem left ritem right same inductionHypothesis =>
      simp only [nextFrom, same, takeLeft] at found
      split at found
      · cases found
        simp only [size, List.length_cons]
        omega
      · have smaller := inductionHypothesis found
        simp only [List.length_cons] at smaller ⊢
        omega
  | case3 litem left ritem right after =>
      simp only [nextFrom, after] at found
      cases found
      simp [size]
  | case4 litem left inductionHypothesis =>
      simp only [nextFrom, takeLeft] at found
      split at found
      · cases found
        simp [size]
      · have smaller := inductionHypothesis found
        simp only [List.length_cons, List.length_nil] at smaller ⊢
        omega
  | case5 ritem right =>
      cases found
      simp [size]
  | case6 => cases found

/-- `Iterator::collect`. -/
def collect (overlay : MergeOverlay) : List Record :=
  match _found : overlay.next with
  | none => []
  | some (record, rest) => record :: rest.collect
termination_by overlay.size
decreasing_by exact size_of_nextFrom _found

end MergeOverlay

/-! ## Transactions -/

/-- `StorageTransaction` over a store, which it only reads. -/
structure StorageTransaction {τ : Type} (storage : τ) where
  localState : Std.ExtTreeMap Bytes Delta
  repLog : RepLog
  /-- The local changes are the last ones of the log. -/
  logged : localState = repLog.foldl (fun changes op => changes.insert op.key op.toDelta) ∅

namespace StorageTransaction

variable {τ : Type} {base : τ}

/-- `StorageTransaction::new`. -/
def new (base : τ) : StorageTransaction base where
  localState := ∅
  repLog := []
  logged := rfl

/-- `StorageTransaction::prepare`. -/
def prepare (cache : StorageTransaction base) : RepLog := cache.repLog

/-- What `set` and `remove` do with their operation. -/
def push (cache : StorageTransaction base) (op : Op) : StorageTransaction base where
  localState := cache.localState.insert op.key op.toDelta
  repLog := cache.repLog ++ [op]
  logged := by
    rw [List.foldl_append, ← cache.logged]
    rfl

/-- `Storage::get`. -/
def get (storage : RawStorage τ) (cache : StorageTransaction base) (key : Bytes) :
    Option Binary :=
  match cache.localState[key]? with
  | some (.set value) => some value
  | some .delete => none
  | none => storage.get base key

/-- The local side of `Storage::range`, which asks the map for no range that panics. -/
def localRange (cache : StorageTransaction base) (start stop : Option Bytes) (order : Order) :
    Option (List (Bytes × Delta)) :=
  match start, stop with
  | some first, some last =>
      if compare first last = .gt then some []
      else btreeRange cache.localState start stop order
  | _, _ => btreeRange cache.localState start stop order

/-- `Storage::range`. -/
def range (storage : RawStorage τ) (cache : StorageTransaction base) (start stop : Option Bytes)
    (order : Order) : Option (List Record) := do
  let changed ← cache.localRange start stop order
  let records ← storage.range base start stop order
  pure (MergeOverlay.collect ⟨changed, records, order⟩)

/-- `impl Storage for StorageTransaction`. -/
def rawStorage (storage : RawStorage τ) (base : τ) : RawStorage (StorageTransaction base) where
  get := get storage
  range := range storage
  set cache key value := some (cache.push (.set key value))
  remove cache key := cache.push (.delete key)

end StorageTransaction

section Programs

variable {τ ε α : Type}

/-- `transactional`. The action also sees the store that the cache reads. -/
def transactional (storage : RawStorage τ)
    (action : (base : τ) → Handler (StorageTransaction base) ε α) : Handler τ ε α :=
  ExceptT.mk fun base => do
    let (res, cache) ← run (action base) (StorageTransaction.new base)
    match res with
    | .error error => pure (.error error, base)
    | .ok value => do
        let committed ← cache.prepare.commit storage base
        pure (.ok value, committed)

/-- A read-only view of a store. -/
structure Reader where
  get : Bytes → Option Binary
  range : Option Bytes → Option Bytes → Order → Option (List Record)

/-- The view of a store as it is. -/
def RawStorage.reader (storage : RawStorage τ) (state : τ) : Reader where
  get := storage.get state
  range := storage.range state

/-- What code can do with a store and a read-only one beside it, for any use of the
records it reads. Inside a transaction the read-only store is the one around it. -/
inductive Program (ε α : Type) where
  | finish (result : Except ε α)
  | get (key : Bytes) (next : Option Binary → Program ε α)
  | range (start stop : Option Bytes) (order : Order) (next : List Record → Program ε α)
  | readGet (key : Bytes) (next : Option Binary → Program ε α)
  | readRange (start stop : Option Bytes) (order : Order) (next : List Record → Program ε α)
  | set (key : Bytes) (value : Binary) (next : Program ε α)
  | remove (key : Bytes) (next : Program ε α)
  | transactional (action : Program ε α) (next : Except ε α → Program ε α)

/-- Run a program on a store. -/
def Program.runOn (program : Program ε α) {τ : Type} (storage : RawStorage τ)
    (reader : Reader) : Handler τ ε α :=
  match program with
  | .finish result => fromResult result
  | .get key next => do
      let value ← read fun state => storage.get state key
      (next value).runOn storage reader
  | .range start stop order next => do
      let found ← read fun state => storage.range state start stop order
      let records ← checked found
      (next records).runOn storage reader
  | .readGet key next => (next (reader.get key)).runOn storage reader
  | .readRange start stop order next => do
      let records ← checked (reader.range start stop order)
      (next records).runOn storage reader
  | .set key value next => do
      let changed ← read fun state => storage.set state key value
      let state ← checked changed
      write fun _ => state
      next.runOn storage reader
  | .remove key next => do
      write fun state => storage.remove state key
      next.runOn storage reader
  | .transactional action next => do
      let result ← attempt (Transactions.transactional storage fun base =>
        action.runOn (StorageTransaction.rawStorage storage base) (storage.reader base))
      (next result).runOn storage reader

end Programs

end DemurrageToken.MultiTest.Transactions
