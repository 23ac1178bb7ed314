/-!
# Sets of namespaces

Namespaces in the order in which they were first added. The empty text names no namespace and is
never a member, and no member is repeated; a set carries the proof of both.
-/

namespace Companion

theorem NamespaceSet.proper_nil : "" ∉ ([] : List String) := List.not_mem_nil

theorem NamespaceSet.nodup_nil : ([] : List String).Nodup := List.nodup_nil

/-- Namespaces, each once, in the order in which they were first added. -/
structure NamespaceSet where
  items : List String := []
  proper : "" ∉ items := by exact Companion.NamespaceSet.proper_nil
  nodup : items.Nodup := by exact Companion.NamespaceSet.nodup_nil
  deriving DecidableEq, Repr

namespace NamespaceSet

instance : Inhabited NamespaceSet := ⟨{}⟩

/-- Whether a namespace is a member. -/
def contains (set : NamespaceSet) (name : String) : Bool := set.items.contains name

/-- Whether there is no member. -/
def isEmpty (set : NamespaceSet) : Bool := set.items.isEmpty

/-- Adds a namespace behind all others. -/
def push (set : NamespaceSet) (name : String) (hname : name ≠ "") (hnew : name ∉ set.items) :
    NamespaceSet where
  items := set.items ++ [name]
  proper := by simp [set.proper, hname.symm]
  nodup := by
    refine List.nodup_append.mpr ⟨set.nodup, List.pairwise_singleton _ name, ?_⟩
    rintro old hold other hother rfl
    exact hnew (List.mem_singleton.mp hother ▸ hold)

/-- Adds a namespace, and tells whether it was new. -/
def insertNew (set : NamespaceSet) (name : String) : Bool × NamespaceSet :=
  if h : name = "" ∨ name ∈ set.items then (false, set)
  else (true, set.push name (not_or.mp h).1 (not_or.mp h).2)

/-- Adds a namespace, unless it is a member or names none. -/
def insert (set : NamespaceSet) (name : String) : NamespaceSet := (set.insertNew name).2

/-- Adds namespaces one after the other. -/
def insertAll (set : NamespaceSet) (names : List String) : NamespaceSet := names.foldl insert set

/-- Takes a namespace out; the others keep their order. -/
def remove (set : NamespaceSet) (name : String) : NamespaceSet where
  items := set.items.filter (· ≠ name)
  proper h := set.proper (List.mem_filter.mp h).1
  nodup := List.Pairwise.filter _ set.nodup

theorem items_insert (set : NamespaceSet) (name : String) :
    (set.insert name).items =
      if name = "" ∨ name ∈ set.items then set.items else set.items ++ [name] := by
  unfold insert insertNew
  split <;> rfl

theorem mem_insert {set : NamespaceSet} {name first : String} :
    name ∈ (set.insert first).items ↔ name ∈ set.items ∨ name = first ∧ name ≠ "" := by
  rw [items_insert]
  split
  · next hold =>
    constructor
    · exact .inl
    · rintro (hmem | ⟨rfl, hne⟩)
      · exact hmem
      · exact hold.resolve_left hne
  · next hnew =>
    rw [List.mem_append, List.mem_singleton]
    constructor
    · exact Or.imp_right fun heq => ⟨heq, heq ▸ (not_or.mp hnew).1⟩
    · exact Or.imp_right And.left

theorem mem_insertAll {set : NamespaceSet} {name : String} {names : List String} :
    name ∈ (set.insertAll names).items ↔ name ∈ set.items ∨ name ∈ names ∧ name ≠ "" := by
  induction names generalizing set with
  | nil => simp [insertAll]
  | cons first names ih =>
    rw [insertAll, List.foldl_cons, ← insertAll, ih, mem_insert, List.mem_cons, or_and_right,
      or_assoc]

theorem mem_remove {set : NamespaceSet} {name other : String} :
    name ∈ (set.remove other).items ↔ name ∈ set.items ∧ name ≠ other := by
  simp [remove]

theorem foldl_insertAll {α : Type} {set : NamespaceSet} (needs : α → List String) (xs : List α) :
    xs.foldl (fun set x => set.insertAll (needs x)) set = set.insertAll (xs.flatMap needs) := by
  rw [insertAll, List.foldl_flatMap]
  rfl

end NamespaceSet

end Companion
