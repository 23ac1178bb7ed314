import Mathlib.Data.List.Induction
import Companion.Proofs.Basic

/-!
# Registries along their history

A registry keeps the same thing twice, in its entries and in its index. After any series of
operations both say what a plain list of entries would say, in which every key is looked for from
the front and a new key is put at the end (`after_follows`). What the operations make of the value
of a key depends on the operations with that key only, and a value to start with counts at the
first of them only.
-/

namespace Companion.Registry

variable {κ α : Type} [DecidableEq κ]

/-! ## Operations -/

inductive Operation (κ α : Type) where
  /-- Changes the value of a key, which is entered with the value `fresh` first if it has none. -/
  | upsert (key : κ) (fresh : α) (change : α → α)
  /-- Changes the value of a key, if it has one. -/
  | modify (key : κ) (change : α → α)
  | get (key : κ)
  | contains (key : κ)

/-- What an operation gives back. -/
inductive Answer (α : Type) where
  | value (value? : Option α)
  | flag (isThere : Bool)

namespace Operation

/-- The key that an operation enters, if it is new. -/
def inserted? : Operation κ α → Option κ
  | upsert key _ _ => some key
  | modify _ _ | get _ | contains _ => none

/-- What an operation makes of the value of a key. -/
def effect (key : κ) : Operation κ α → Option α → Option α
  | upsert other fresh change, old =>
    if key = other then some (change (old.getD fresh)) else old
  | modify other change, old => if key = other then old.map change else old
  | get _, old | contains _, old => old

/-! ### On a registry -/

def apply (r : Registry κ α) : Operation κ α → Registry κ α
  | upsert key fresh change => r.upsert key fresh change
  | modify key change => r.modify key change
  | get _ | contains _ => r

/-- What an operation answers. One that changes a value answers with the changed value. -/
def answer (r : Registry κ α) : Operation κ α → Answer α
  | upsert key fresh change => .value ((r.upsert key fresh change).get? key)
  | modify key change => .value ((r.modify key change).get? key)
  | get key => .value (r.get? key)
  | contains key => .flag (r.contains key)

/-! ### On a list of entries -/

def applyTo (entries : List (κ × α)) : Operation κ α → List (κ × α)
  | upsert key fresh change =>
    if key ∈ entries.map Prod.fst then changeAt key change entries
    else entries ++ [(key, change fresh)]
  | modify key change => changeAt key change entries
  | get _ | contains _ => entries

def answerFrom (entries : List (κ × α)) : Operation κ α → Answer α
  | upsert key fresh change => .value (some (change ((entries.lookup key).getD fresh)))
  | modify key change => .value ((entries.lookup key).map change)
  | get key => .value (entries.lookup key)
  | contains key => .flag (decide (key ∈ entries.map Prod.fst))

end Operation

/-! ## Histories -/

/-- The registry after some operations on a new one. -/
def after (operations : List (Operation κ α)) : Registry κ α :=
  operations.foldl Operation.apply {}

/-- The list of entries after some operations on an empty one. -/
def entriesAfter (operations : List (Operation κ α)) : List (κ × α) :=
  operations.foldl Operation.applyTo []

/-- The keys that are entered, in order and with repetitions. -/
def insertedKeys (operations : List (Operation κ α)) : List κ :=
  operations.filterMap Operation.inserted?

/-- What operations make of the value of a key, which has none at first. -/
def valueAfter (key : κ) (operations : List (Operation κ α)) : Option α :=
  operations.foldl (fun old operation => operation.effect key old) none

/-- A registry is what its history says: an index and entries in step with each other, that together
are as good as a list of entries. -/
structure Follows (operations : List (Operation κ α)) (r : Registry κ α) : Prop where
  index_iff : ∀ key position,
    r.index key = some position ↔ ∃ value, r.entries[position]? = some (key, value)
  index_lt : ∀ key position, r.index key = some position → position < r.size
  distinct : r.keys.Nodup
  /-- The keys stand in the order in which they were first entered. -/
  order : r.keys = (insertedKeys operations).eraseDups
  /-- A key has the value that the operations with this key gave it. -/
  values : ∀ key, r.get? key = valueAfter key operations
  /-- A key that was entered before is not given a value to start with again. -/
  once : ∀ key ∈ insertedKeys operations, ∀ fresh change,
    r.upsert key fresh change = r.modify key change
  entries_eq : r.entries = entriesAfter operations
  size_eq : r.size = (entriesAfter operations).length
  /-- Whatever is asked next has the same answer. -/
  answers : ∀ operation : Operation κ α,
    operation.answer r = operation.answerFrom (entriesAfter operations)

/-! ## One operation -/

theorem keys_changeAt (key : κ) (change : α → α) (entries : List (κ × α)) :
    (changeAt key change entries).map Prod.fst = entries.map Prod.fst := by
  rw [changeAt, List.map_map]
  apply List.map_congr_left
  intro e _
  rw [Function.comp]
  split <;> rfl

theorem keys_modify (r : Registry κ α) (key : κ) (change : α → α) :
    (r.modify key change).keys = r.keys := by
  rw [keys, entries_modify, keys_changeAt, keys]

theorem keys_upsert (r : Registry κ α) (key : κ) (fresh : α) (change : α → α) :
    (r.upsert key fresh change).keys = if key ∈ r.keys then r.keys else r.keys ++ [key] := by
  rw [keys, entries_upsert, keys]
  split
  · exact keys_changeAt key change r.entries
  · rw [List.map_append, List.map_singleton]

theorem upsert_of_mem {r : Registry κ α} {key : κ} (h : key ∈ r.keys) (fresh : α)
    (change : α → α) : r.upsert key fresh change = r.modify key change := by
  apply eq_of_entries_eq
  rw [entries_upsert, entries_modify]
  exact if_pos h

theorem contains_eq (r : Registry κ α) (key : κ) : r.contains key = decide (key ∈ r.keys) := by
  rw [Bool.eq_iff_iff, decide_eq_true_iff, contains, Option.isSome_iff_ne_none, Ne,
    index_eq_none_iff, not_not, keys]

theorem entries_apply (r : Registry κ α) (operation : Operation κ α) :
    (operation.apply r).entries = operation.applyTo r.entries := by
  cases operation with
  | upsert key fresh change => exact r.entries_upsert key fresh change
  | modify key change => exact r.entries_modify key change
  | get key => rfl
  | contains key => rfl

theorem get?_apply (r : Registry κ α) (operation : Operation κ α) (key : κ) :
    (operation.apply r).get? key = operation.effect key (r.get? key) := by
  cases operation with
  | upsert other fresh change =>
    rw [Operation.apply, get?_upsert, Operation.effect]
    split
    · next h => rw [h]
    · rfl
  | modify other change => exact r.get?_modify other key change
  | get other => rfl
  | contains other => rfl

theorem answer_eq (r : Registry κ α) (operation : Operation κ α) :
    operation.answer r = operation.answerFrom r.entries := by
  cases operation with
  | upsert key fresh change =>
    rw [Operation.answer, get?_upsert, if_pos rfl, get?_eq_lookup, Operation.answerFrom]
  | modify key change =>
    rw [Operation.answer, get?_modify, if_pos rfl, get?_eq_lookup, Operation.answerFrom]
  | get key => rw [Operation.answer, get?_eq_lookup, Operation.answerFrom]
  | contains key => rw [Operation.answer, contains_eq, Operation.answerFrom, keys]

/-! ## All operations -/

theorem entries_after (operations : List (Operation κ α)) :
    (after operations).entries = entriesAfter operations :=
  (List.foldl_hom entries fun r operation => (entries_apply r operation).symm).symm

theorem get?_after (operations : List (Operation κ α)) (key : κ) :
    (after operations).get? key = valueAfter key operations :=
  (List.foldl_hom (get? · key) fun r operation => (get?_apply r operation key).symm).symm

theorem eraseDups_concat (l : List κ) (key : κ) :
    (l ++ [key]).eraseDups = if key ∈ l then l.eraseDups else l.eraseDups ++ [key] := by
  rw [List.eraseDups_append]
  split
  · next h => simp [List.removeAll, h]
  · next h => simp [List.removeAll, h, List.eraseDups_cons]

omit [DecidableEq κ] in
theorem insertedKeys_concat (operations : List (Operation κ α)) (operation : Operation κ α) :
    insertedKeys (operations ++ [operation]) =
      insertedKeys operations ++ operation.inserted?.toList := by
  rw [insertedKeys, List.filterMap_append]
  cases operation <;> rfl

/-- What is entered next comes last, unless it was entered before. -/
theorem keys_after (operations : List (Operation κ α)) :
    (after operations).keys = (insertedKeys operations).eraseDups := by
  induction operations using List.reverseRecOn with
  | nil => rfl
  | append_singleton operations operation ih =>
    rw [after, List.foldl_concat, ← after, insertedKeys_concat]
    cases operation with
    | upsert key fresh change =>
      simp only [Operation.apply, keys_upsert, ih, List.mem_eraseDups]
      exact (eraseDups_concat (insertedKeys operations) key).symm
    | modify key change =>
      rw [Operation.apply, keys_modify, ih, Operation.inserted?, Option.toList_none,
        List.append_nil]
    | get key => rw [Operation.apply, ih, Operation.inserted?, Option.toList_none, List.append_nil]
    | contains key =>
      rw [Operation.apply, ih, Operation.inserted?, Option.toList_none, List.append_nil]

/-- After any operations a registry is as good as a list of entries in the order of their first
insertion, and its index and its entries are in step. -/
theorem after_follows (operations : List (Operation κ α)) :
    Follows operations (after operations) where
  index_iff _ _ := index_eq_some_iff
  index_lt _ _ := (after operations).index_lt
  distinct := (after operations).distinct
  order := keys_after operations
  values := get?_after operations
  once key hkey fresh change := by
    apply upsert_of_mem
    rwa [keys_after, List.mem_eraseDups]
  entries_eq := entries_after operations
  size_eq := by rw [size, entries_after]
  answers operation := by rw [answer_eq, entries_after]

end Companion.Registry
