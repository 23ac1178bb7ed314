/-!
# Registries

A map that remembers the order in which its keys were first inserted: the entries in that order,
and an index that says where the entry of a key stands. Every operation finds its entry through the
index, so a registry carries the proof that the two are in step. Changing the value of a key leaves
every other entry, and the order, alone.
-/

namespace Companion

theorem Registry.indexed_nil {κ α : Type} (key : κ) (position : Nat) :
    (none : Option Nat) = some position ↔
      (([] : List (κ × α)).map Prod.fst)[position]? = some key := by
  simp

/-- A map that remembers in which order its keys were first inserted. -/
structure Registry (κ α : Type) where
  entries : List (κ × α) := []
  /-- The position of the entry of a key. -/
  index : κ → Option Nat := fun _ => none
  indexed : ∀ key position,
    index key = some position ↔ (entries.map Prod.fst)[position]? = some key := by
    exact Companion.Registry.indexed_nil

namespace Registry

variable {κ α : Type}

instance : Inhabited (Registry κ α) := ⟨{}⟩

theorem index_lt (r : Registry κ α) {key : κ} {position : Nat} (h : r.index key = some position) :
    position < r.entries.length := by
  obtain ⟨hlt, -⟩ := List.getElem?_eq_some_iff.mp ((r.indexed key position).mp h)
  rwa [List.length_map] at hlt

/-- The position of the entry of a key, at which there always is one. -/
def position? (r : Registry κ α) (key : κ) : Option (Fin r.entries.length) :=
  match h : r.index key with
  | some position => some ⟨position, r.index_lt h⟩
  | none => none

/-- The value of a key, found through the index. -/
def get? (r : Registry κ α) (key : κ) : Option α :=
  (r.position? key).map fun position => (r.entries.get position).2

/-- Whether a key has a value. -/
def contains (r : Registry κ α) (key : κ) : Bool := (r.index key).isSome

/-- The keys in the order in which they were first inserted. -/
def keys (r : Registry κ α) : List κ := r.entries.map Prod.fst

/-- The values in the order of their keys. -/
def values (r : Registry κ α) : List α := r.entries.map Prod.snd

/-- The number of keys. -/
def size (r : Registry κ α) : Nat := r.entries.length

/-- Whether there is no key. -/
def isEmpty (r : Registry κ α) : Bool := r.entries.isEmpty

theorem map_fst_modify (entries : List (κ × α)) (position : Nat) (change : α → α) :
    (entries.modify position fun e => (e.1, change e.2)).map Prod.fst = entries.map Prod.fst := by
  apply List.ext_getElem?
  intro place
  rw [List.getElem?_map, List.getElem?_map, List.getElem?_modify]
  cases entries[place]? with
  | none => rfl
  | some e =>
    simp only [Option.map_eq_map, Option.map_some, Option.some.injEq]
    split <;> rfl

/-- Changes the value of the entry at a position. -/
def modifyAt (r : Registry κ α) (position : Fin r.entries.length) (change : α → α) :
    Registry κ α where
  entries := r.entries.modify position fun e => (e.1, change e.2)
  index := r.index
  indexed := by
    rw [map_fst_modify]
    exact r.indexed

/-- Changes the value of a key, if it has one. -/
def modify (r : Registry κ α) (key : κ) (change : α → α) : Registry κ α :=
  match r.position? key with
  | some position => r.modifyAt position change
  | none => r

theorem getElem?_concat_eq_some_iff {l : List κ} {last key : κ} {position : Nat} :
    (l ++ [last])[position]? = some key ↔
      l[position]? = some key ∨ position = l.length ∧ key = last := by
  rcases Nat.lt_trichotomy position l.length with hlt | rfl | hgt
  · rw [List.getElem?_append_left hlt]
    simp [Nat.ne_of_lt hlt]
  · simp [eq_comm]
  · have hbeyond : (l ++ [last]).length ≤ position := by
      rw [List.length_append]
      exact hgt
    rw [List.getElem?_eq_none hbeyond, List.getElem?_eq_none (Nat.le_of_lt hgt)]
    simp [Nat.ne_of_gt hgt]

variable [DecidableEq κ]

/-- Enters a key behind all others. -/
def push (r : Registry κ α) (key : κ) (value : α) (h : r.index key = none) : Registry κ α where
  entries := r.entries ++ [(key, value)]
  index other := if other = key then some r.entries.length else r.index other
  indexed other place := by
    rw [List.map_append, List.map_singleton, getElem?_concat_eq_some_iff, ← r.indexed,
      List.length_map]
    split
    · next hkey =>
      subst hkey
      simp [h, eq_comm]
    · next hkey => simp [hkey]

/-- Changes the value of a key, which is entered with the value `fresh` first if it has none. -/
def upsert (r : Registry κ α) (key : κ) (fresh : α) (change : α → α) : Registry κ α :=
  match h : r.index key with
  | some position => r.modifyAt ⟨position, r.index_lt h⟩ change
  | none => r.push key (change fresh) h

/-- Gives a key a value, in place of the one it had. -/
def insert (r : Registry κ α) (key : κ) (value : α) : Registry κ α :=
  r.upsert key value fun _ => value

end Registry

end Companion
