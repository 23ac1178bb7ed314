import Mathlib.Data.List.Induction
import Companion.Proofs.Symbol.Order
import Companion.Proofs.Symbol.Resolution

/-!
# What declarations say about a type

A model is built in three passes over the declarations. What it knows in the end can be said without
them: the parts of a type are the declarations with its key, the first part gives the type its name
and its kind, all parts give it members and imports, and the first part that names a class as its
base gives it the base (`symbolOf?`). `lookup?_eq_symbolOf?` says that this is what the model knows.
Which members a part gives it is said by `TypeDecl.mem_members_iff` and `TypeDecl.members_ordered`,
and which types a name may mean by `Scope.candidates_of_isSimpleName`, `Scope.mem_enclosing_iff` and
`Scope.pairwise_enclosing`.
-/

namespace Companion

theorem addMissing_append (texts more more' : List String) :
    addMissing texts (more ++ more') = addMissing (addMissing texts more) more' :=
  List.foldl_append

/-- Added one by one, texts come out in the order in which they were first seen. -/
theorem addMissing_nil (texts : List String) : addMissing [] texts = texts.eraseDups := by
  induction texts using List.reverseRecOn with
  | nil => rfl
  | append_singleton texts text ih =>
    rw [addMissing_append, ih, List.eraseDups_append]
    by_cases h : text ∈ texts
    · simp [addMissing, List.removeAll, h]
    · simp [addMissing, List.removeAll, h, List.eraseDups_cons]

theorem TypeKind.canBeBase_iff {kind : TypeKind} :
    kind.canBeBase = true ↔ kind = .plainClass ∨ kind = .record := by
  cases kind <;> simp [canBeBase]

namespace Model

/-! ## Declared types -/

section

variable (units : List SourceUnit)

/-- The declarations of the type with a key, in order, each with the imports of its unit. -/
def partsOf (key : TypeKey) : List (List String × TypeDecl) :=
  (declarations units).filter (·.2.key = key)

/-- The kind of a declared type. Its first part decides. -/
def kindOf? (key : TypeKey) : Option TypeKind := (partsOf units key).head?.map (·.2.kind)

/-- The declared type that a name means in a scope: the first that it may stand for. -/
def declaredAs? (scope : Scope) (name : String) (arity : Nat) : Option TypeKey :=
  ((scope.candidates name).map (·, arity)).find? fun key => (kindOf? units key).isSome

/-- The class or record that an entry of a base list means in a scope. -/
def classAs? (scope : Scope) (entry : String) : Option TypeKey :=
  match TypeRef.parse entry with
  | .ok (.named name args) =>
    (declaredAs? units scope name args.length).filter fun key =>
      (kindOf? units key).any TypeKind.canBeBase
  | _ => none

/-- The base that a part gives its type: the first entry of its base list that means a class or a
record where the part is written. Only classes and records have one. -/
def baseIn? (part : List String × TypeDecl) : Option TypeKey :=
  if part.2.kind.canBeBase then
    part.2.baseList.findSome? (classAs? units (.of part.2.namespaceName part.1))
  else none

/-- The symbol of a declared type. An empty namespace is none. -/
def symbolOf? (key : TypeKey) : Option Symbol :=
  (partsOf units key).head?.map fun first =>
    { namespaceName := properNamespace first.2.namespaceName
      name := first.2.name
      arity := first.2.arity
      kind := first.2.kind
      base := (partsOf units key).findSome? (baseIn? units)
      members := (partsOf units key).flatMap (·.2.members)
      usings := ((partsOf units key).flatMap Prod.fst).eraseDups }

end

variable {units : List SourceUnit} {model : Model} {key : TypeKey} {s : Symbol}

theorem mem_partsOf {part : List String × TypeDecl} :
    part ∈ partsOf units key ↔ part ∈ declarations units ∧ part.2.key = key := by
  simp [partsOf]

theorem symbolOf?_isSome_iff :
    (symbolOf? units key).isSome = true ↔ ∃ part ∈ declarations units, part.2.key = key := by
  rw [symbolOf?, Option.isSome_map, List.isSome_head?, Ne, List.eq_nil_iff_forall_not_mem,
    not_forall]
  simp only [not_not, mem_partsOf]

theorem kindOf?_eq_map_symbolOf? : kindOf? units key = (symbolOf? units key).map (·.kind) := by
  rw [kindOf?, symbolOf?, Option.map_map]
  rfl

/-! ## Entering declarations -/

/-- All declarations, entered one after the other. -/
def enterAll (parts : List (List String × TypeDecl)) : Model :=
  parts.foldl (fun model (usings, decl) => model.addDecl usings decl) empty

/-- The parts of one type together, before its base is known. -/
def merge? (parts : List (List String × TypeDecl)) : Option Symbol :=
  parts.head?.map fun first =>
    { Symbol.bare first.2.namespaceName first.2.name first.2.arity first.2.kind with
      members := parts.flatMap (·.2.members)
      usings := addMissing [] (parts.flatMap Prod.fst) }

/-- One part more. -/
theorem merge?_concat (parts : List (List String × TypeDecl)) (part : List String × TypeDecl) :
    merge? (parts ++ [part]) =
      let s := (merge? parts).getD
        (.bare part.2.namespaceName part.2.name part.2.arity part.2.kind)
      some { s with
        members := s.members ++ part.2.members
        usings := addMissing s.usings part.1 } := by
  cases parts with
  | nil => simp [merge?, Symbol.bare]
  | cons first rest => simp [merge?, addMissing_append]

theorem lookup?_enterAll (parts : List (List String × TypeDecl)) (key : TypeKey) :
    (enterAll parts).lookup? key = merge? (parts.filter (·.2.key = key)) := by
  induction parts using List.reverseRecOn with
  | nil => rfl
  | append_singleton parts part ih =>
    have hstep : enterAll (parts ++ [part]) = (enterAll parts).addDecl part.1 part.2 :=
      List.foldl_append
    rw [hstep, lookup?_addDecl, List.filter_append]
    by_cases hkey : part.2.key = key
    · rw [if_pos hkey.symm, List.filter_cons_of_pos (by simpa using hkey), List.filter_nil,
        merge?_concat, hkey, ih]
    · rw [if_neg (Ne.symm hkey), List.filter_cons_of_neg (by simpa using hkey), List.filter_nil,
        List.append_nil, ih]

/-! ## Resolving bases -/

/-- A name means the same in a model and among declarations, if the model has just the declared
types. -/
theorem map_key_resolve? (hkinds : ∀ key, (model.lookup? key).map (·.kind) = kindOf? units key)
    (scope : Scope) (name : String) (arity : Nat) :
    (model.resolve? scope name arity).map Symbol.key = declaredAs? units scope name arity := by
  unfold resolve? declaredAs?
  induction scope.candidates name with
  | nil => rfl
  | cons full candidates ih =>
    rw [List.findSome?_cons, List.map_cons, List.find?_cons, ← hkinds]
    cases hlookup : model.lookup? (full, arity) with
    | none => exact ih
    | some s => exact congrArg some (key_of_lookup? hlookup)

theorem baseClass?_eq_baseIn?
    (hkinds : ∀ key, (model.lookup? key).map (·.kind) = kindOf? units key)
    (part : List String × TypeDecl) :
    model.baseClass? part.1 part.2 = baseIn? units part := by
  unfold baseClass? baseIn?
  congr 1
  refine congrArg (List.findSome? · part.2.baseList) (funext fun entry => ?_)
  unfold classAs?
  cases TypeRef.parse entry with
  | error => rfl
  | ok t =>
    cases t with
    | named name args =>
      change (model.resolve? _ name args.length).bind _ = Option.filter _ _
      rw [← map_key_resolve? hkinds]
      cases hresolve : model.resolve? (.of part.2.namespaceName part.1) name args.length with
      | none => rfl
      | some s =>
        have hkind : kindOf? units s.key = some s.kind := by
          rw [← hkinds, lookup?_key_of_resolve? hresolve, Option.map_some]
        simp [Option.filter, hkind]
    | predefined | array | tuple | nullable | pointer | functionPointer => rfl

/-- Of the bases that are given to a type the first one stays, unless it has one. -/
theorem lookup?_foldl_addBase (bases : List (TypeKey × TypeKey)) (model : Model) (key : TypeKey) :
    (bases.foldl (fun model (key, base) => model.addBase key base) model).lookup? key =
      (model.lookup? key).map fun s => { s with base := s.base.or (bases.lookup key) } := by
  induction bases generalizing model with
  | nil => simp
  | cons entry bases ih =>
    rw [List.foldl_cons, ih, lookup?_addBase, Option.map_map]
    refine Option.map_congr fun s hs => ?_
    have hkey := key_of_lookup? hs
    cases hbase : s.base with
    | some base => simp [hbase]
    | none =>
      obtain ⟨key', base⟩ := entry
      by_cases hentry : key = key'
      · simp [hbase, hkey, hentry]
      · have hne : (key == key') = false := beq_false_of_ne hentry
        simp [hbase, hkey, hentry, List.lookup_cons, hne]

theorem lookup_filterMap_key {parts : List (List String × TypeDecl)}
    (base? : List String × TypeDecl → Option TypeKey) (key : TypeKey) :
    (parts.filterMap fun part => (base? part).map (part.2.key, ·)).lookup key =
      (parts.filter (·.2.key = key)).findSome? base? := by
  induction parts with
  | nil => rfl
  | cons part parts ih =>
    rw [List.filterMap_cons, List.filter_cons]
    by_cases hkey : part.2.key = key
    · cases hbase : base? part <;> simp [hkey, hbase, ih]
    · have hne : (key == part.2.key) = false := beq_false_of_ne (Ne.symm hkey)
      cases hbase : base? part <;> simp [hkey, ih, List.lookup_cons, hne]

/-! ## The model of units -/

/-- A model knows of a type what its declarations say. -/
theorem lookup?_eq_symbolOf? (units : List SourceUnit) (key : TypeKey) :
    (ofUnits units).lookup? key = symbolOf? units key := by
  let entered := enterAll (declarations units)
  have hentered (key : TypeKey) : entered.lookup? key = merge? (partsOf units key) :=
    lookup?_enterAll (declarations units) key
  have hkinds (key : TypeKey) : (entered.lookup? key).map (·.kind) = kindOf? units key := by
    rw [hentered, merge?, kindOf?, Option.map_map]
    rfl
  -- Bases are resolved when all types are entered and none has its base yet.
  have hbases : (declarations units).filterMap (fun part =>
      (entered.baseClass? part.1 part.2).map (part.2.key, ·)) =
        (declarations units).filterMap fun part => (baseIn? units part).map (part.2.key, ·) := by
    simp only [baseClass?_eq_baseIn? hkinds]
  change (List.foldl _ entered ((declarations units).filterMap fun part =>
    (entered.baseClass? part.1 part.2).map (part.2.key, ·))).lookup? key = _
  rw [hbases, lookup?_foldl_addBase, lookup_filterMap_key, hentered, merge?, Option.map_map,
    symbolOf?]
  refine Option.map_congr fun first _ => ?_
  simp [Symbol.bare, partsOf, addMissing_nil]

/-- A type has the members that its parts declare and no others. -/
theorem mem_members_iff_declares (h : (ofUnits units).lookup? key = some s) {m : Member} :
    m ∈ s.members ↔ ∃ part ∈ partsOf units key, part.2.Declares m := by
  rw [lookup?_eq_symbolOf?] at h
  obtain ⟨first, -, rfl⟩ := Option.map_eq_some_iff.mp h
  simp only [List.mem_flatMap, TypeDecl.mem_members_iff]

/-- The properties of a type are those of its parts, in order. -/
theorem properties_of_lookup? (h : (ofUnits units).lookup? key = some s) :
    s.properties = (partsOf units key).flatMap (·.2.properties.map PropertyDecl.member) := by
  rw [lookup?_eq_symbolOf?] at h
  obtain ⟨first, -, rfl⟩ := Option.map_eq_some_iff.mp h
  simp only [Symbol.properties, List.filter_flatMap, TypeDecl.filter_isProperty_members]

/-- The methods of a type are those of its parts, in order. -/
theorem methods_of_lookup? (h : (ofUnits units).lookup? key = some s) :
    s.methods = (partsOf units key).flatMap (·.2.methods.map MethodDecl.member) := by
  rw [lookup?_eq_symbolOf?] at h
  obtain ⟨first, -, rfl⟩ := Option.map_eq_some_iff.mp h
  simp only [Symbol.methods, List.filter_flatMap, TypeDecl.filter_isMethod_members]

theorem symbolOf?_key_of_mem (h : s ∈ (ofUnits units).symbols) :
    symbolOf? units s.key = some s := by
  rw [← lookup?_eq_symbolOf?]
  exact (hasDistinctKeys_ofUnits units).lookup?_eq_some_iff.mpr ⟨h, rfl⟩

/-- What an entry of a base list means is declared as a class or a record. -/
theorem canBeBase_of_classAs? {scope : Scope} {entry : String} {base : TypeKey}
    (h : classAs? units scope entry = some base) :
    ∃ kind, kindOf? units base = some kind ∧ kind.canBeBase = true := by
  unfold classAs? at h
  split at h
  · rw [Option.filter_eq_some_iff] at h
    exact (Option.any_eq_true _ _).mp h.2
  · cases h

/-- A base is a class or a record of the model. -/
theorem exists_base_of_mem {base : TypeKey} (h : s ∈ (ofUnits units).symbols)
    (hbase : s.base = some base) :
    ∃ b, (ofUnits units).lookup? base = some b ∧ (b.kind = .plainClass ∨ b.kind = .record) := by
  obtain ⟨first, -, hs⟩ := Option.map_eq_some_iff.mp (symbolOf?_key_of_mem h)
  rw [← hs] at hbase
  obtain ⟨part, -, hpart⟩ := List.exists_of_findSome?_eq_some hbase
  unfold baseIn? at hpart
  split at hpart
  · obtain ⟨entry, -, hentry⟩ := List.exists_of_findSome?_eq_some hpart
    obtain ⟨kind, hkind, hclass⟩ := canBeBase_of_classAs? hentry
    rw [kindOf?_eq_map_symbolOf?, ← lookup?_eq_symbolOf?] at hkind
    obtain ⟨b, hb, rfl⟩ := Option.map_eq_some_iff.mp hkind
    exact ⟨b, hb, TypeKind.canBeBase_iff.mp hclass⟩
  · cases hpart

/-- The model of units has a symbol for each declared type and for no other. The symbol is the one
that the declarations of the type give it, and its base, if it has one, is a class or a record of
the model. -/
theorem ofUnits_means_declarations (units : List SourceUnit) :
    (∀ key, ((ofUnits units).lookup? key).isSome = true ↔
      ∃ part ∈ declarations units, part.2.key = key) ∧
    (∀ key, (ofUnits units).lookup? key = symbolOf? units key) ∧
    ∀ s ∈ (ofUnits units).symbols, ∀ base, s.base = some base →
      ∃ b, (ofUnits units).lookup? base = some b ∧
        (b.kind = .plainClass ∨ b.kind = .record) := by
  refine ⟨fun key => ?_, lookup?_eq_symbolOf? units, fun s hs base hbase =>
    exists_base_of_mem hs hbase⟩
  rw [lookup?_eq_symbolOf?]
  exact symbolOf?_isSome_iff

end Model

end Companion
