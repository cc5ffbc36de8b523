import DemurrageToken.Library.Handler

/-!
Contract: typed cells and keyed maps inside the store of a handler.

An `Item` is one optional cell of the store and a `Map` is one keyed region
of it. Both are given by how their contents are read and replaced, so one store
type can hold any number of them side by side.

Owns: loading, saving, updating and removing, and the `returns_` equivalence
of each operation.

Does not own: the byte encoding of keys and values; the contents are typed.
-/

namespace DemurrageToken.Library

open Handler

variable {σ ε κ ν : Type}

/-- One optional cell of the store `σ`. -/
structure Item (σ ν : Type) where
  contents : σ → Option ν
  replace : Option ν → σ → σ

namespace Item

/-- The value of the cell, if any. -/
def mayLoad (item : Item σ ν) : Handler σ ε (Option ν) :=
  read item.contents

/-- The value of the cell; the error `missing` where it is empty. -/
def load (item : Item σ ν) (missing : ε) : Handler σ ε ν := do
  orThrow (← item.mayLoad) missing

/-- Overwrite the cell. -/
def save (item : Item σ ν) (value : ν) : Handler σ ε Unit :=
  write (item.replace (some value))

/-- Load, compute and save. -/
def update (item : Item σ ν) (missing : ε) (action : ν → Handler σ ε ν) : Handler σ ε ν := do
  let input ← item.load missing
  let output ← action input
  item.save output
  pure output

theorem returns_mayLoad {item : Item σ ν} {store after : σ} {value : Option ν} :
    Returns (item.mayLoad : Handler σ ε _) store value after ↔
      item.contents store = value ∧ store = after :=
  returns_read

theorem returns_load {item : Item σ ν} {missing : ε} {store after : σ} {value : ν} :
    Returns (item.load missing) store value after ↔
      item.contents store = some value ∧ store = after := by
  simp only [load, returns_bind, returns_mayLoad, returns_orThrow]
  constructor
  · rintro ⟨_, _, ⟨rfl, rfl⟩, found⟩
    exact found
  · exact fun found => ⟨_, _, ⟨rfl, rfl⟩, found⟩

theorem returns_save {item : Item σ ν} {store after : σ} {value : ν} {result : Unit} :
    Returns (item.save value : Handler σ ε _) store result after ↔
      item.replace (some value) store = after :=
  returns_write

theorem returns_update {item : Item σ ν} {missing : ε} {action : ν → Handler σ ε ν}
    {store after : σ} {value : ν} :
    Returns (item.update missing action) store value after ↔
      ∃ input middle, item.contents store = some input ∧
        Returns (action input) store value middle ∧
        item.replace (some value) middle = after := by
  simp only [update, returns_bind, returns_load, returns_save, returns_pure]
  constructor
  · rintro ⟨input, _, ⟨found, rfl⟩, output, middle, computed, _, _, saved, rfl, rfl⟩
    exact ⟨input, middle, found, computed, saved⟩
  · rintro ⟨input, middle, found, computed, saved⟩
    exact ⟨input, _, ⟨found, rfl⟩, value, middle, computed, (), _, saved, rfl, rfl⟩

end Item

/-- One region of the store `σ`, mapping keys to values. -/
structure Map (σ κ ν : Type) [Ord κ] where
  contents : σ → Std.ExtTreeMap κ ν
  replace : Std.ExtTreeMap κ ν → σ → σ

namespace Map

variable [Ord κ] [Std.TransOrd κ]

/-- The value at `key`, if any. -/
def mayLoad (map : Map σ κ ν) (key : κ) : Handler σ ε (Option ν) :=
  read fun store => (map.contents store)[key]?

/-- The value at `key`; the error `missing` where there is none. -/
def load (map : Map σ κ ν) (key : κ) (missing : ε) : Handler σ ε ν := do
  orThrow (← map.mayLoad key) missing

/-- Overwrite the value at `key`. -/
def save (map : Map σ κ ν) (key : κ) (value : ν) : Handler σ ε Unit :=
  write fun store => map.replace ((map.contents store).insert key value) store

/-- Remove the entry at `key`. -/
def remove (map : Map σ κ ν) (key : κ) : Handler σ ε Unit :=
  write fun store => map.replace ((map.contents store).erase key) store

/-- Load, compute and save; the action sees whether there was a value. -/
def update (map : Map σ κ ν) (key : κ) (action : Option ν → Handler σ ε ν) :
    Handler σ ε ν := do
  let input ← map.mayLoad key
  let output ← action input
  map.save key output
  pure output

theorem returns_mayLoad {map : Map σ κ ν} {key : κ} {store after : σ} {value : Option ν} :
    Returns (map.mayLoad key : Handler σ ε _) store value after ↔
      (map.contents store)[key]? = value ∧ store = after :=
  returns_read

theorem returns_load {map : Map σ κ ν} {key : κ} {missing : ε} {store after : σ} {value : ν} :
    Returns (map.load key missing) store value after ↔
      (map.contents store)[key]? = some value ∧ store = after := by
  simp only [load, returns_bind, returns_mayLoad, returns_orThrow]
  constructor
  · rintro ⟨_, _, ⟨rfl, rfl⟩, found⟩
    exact found
  · exact fun found => ⟨_, _, ⟨rfl, rfl⟩, found⟩

theorem returns_save {map : Map σ κ ν} {key : κ} {store after : σ} {value : ν} {result : Unit} :
    Returns (map.save key value : Handler σ ε _) store result after ↔
      map.replace ((map.contents store).insert key value) store = after :=
  returns_write

theorem returns_remove {map : Map σ κ ν} {key : κ} {store after : σ} {result : Unit} :
    Returns (map.remove key : Handler σ ε _) store result after ↔
      map.replace ((map.contents store).erase key) store = after :=
  returns_write

theorem returns_update {map : Map σ κ ν} {key : κ} {action : Option ν → Handler σ ε ν}
    {store after : σ} {value : ν} :
    Returns (map.update key action) store value after ↔
      ∃ middle, Returns (action (map.contents store)[key]?) store value middle ∧
        map.replace ((map.contents middle).insert key value) middle = after := by
  simp only [update, returns_bind, returns_mayLoad, returns_save, returns_pure]
  constructor
  · rintro ⟨_, _, ⟨rfl, rfl⟩, output, middle, computed, _, _, saved, rfl, rfl⟩
    exact ⟨middle, computed, saved⟩
  · rintro ⟨middle, computed, saved⟩
    exact ⟨_, _, ⟨rfl, rfl⟩, value, middle, computed, (), _, saved, rfl, rfl⟩

/-- An update fails only where its action does. -/
theorem settles_update_error {map : Map σ κ ν} {key : κ} {action : Option ν → Handler σ ε ν}
    {store after : σ} {error : ε} :
    Settles (map.update key action) store (.error error) after ↔
      Settles (action (map.contents store)[key]?) store (.error error) after := by
  simp only [update, mayLoad, save, settles_bind, settles_pure, settles_read, settles_write,
    returns_read]
  constructor
  · rintro (⟨_, _, ⟨rfl, rfl⟩, (⟨_, _, _, rest⟩ | ⟨_, failed, same⟩)⟩ | ⟨_, ⟨mismatch, _⟩, _⟩)
    · rcases rest with ⟨_, _, _, mismatch, _⟩ | ⟨_, ⟨mismatch, _⟩, _⟩ <;> cases mismatch
    · cases same
      exact failed
    · cases mismatch
  · intro failed
    exact Or.inl ⟨_, store, ⟨rfl, rfl⟩, Or.inr ⟨error, failed, rfl⟩⟩

end Map

/-! ## Other keys -/

section OtherKeys

variable [Ord κ] [Std.TransOrd κ] [Std.LawfulEqOrd κ] {contents : Std.ExtTreeMap κ ν}
  {key other : κ}

theorem getElem?_insert_of_ne {value : ν} (different : other ≠ key) :
    (contents.insert key value)[other]? = contents[other]? := by
  rw [Std.ExtTreeMap.getElem?_insert, if_neg]
  rw [Std.LawfulEqCmp.compare_eq_iff_eq]
  exact different.symm

theorem getElem?_erase_of_ne (different : other ≠ key) :
    (contents.erase key)[other]? = contents[other]? := by
  rw [Std.ExtTreeMap.getElem?_erase, if_neg]
  rw [Std.LawfulEqCmp.compare_eq_iff_eq]
  exact different.symm

end OtherKeys

end DemurrageToken.Library
