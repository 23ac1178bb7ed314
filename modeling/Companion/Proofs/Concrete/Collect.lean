import Mathlib.Data.List.Induction
import Companion.Concrete.Collect
import Companion.Proofs.Symbol.Model

/-!
# Which concrete types are collected

A registry of concrete types is made in two passes over the declarations. What it has under a
qualified name can be said without them: the entry of the first declaration with that name and a
marker, with the modifiers of all declarations with that name (`get?_collect`).
-/

namespace Companion.ConcreteType

variable {decl : TypeDecl} {t : ConcreteType}

/-- The entry is that of the declared type. -/
structure IsOf (t : ConcreteType) (decl : TypeDecl) : Prop where
  namespaceName : t.namespaceName = properNamespace decl.namespaceName
  name : t.name = decl.name
  typeParameters : t.typeParameters = decl.typeParameters

theorem IsOf.key_eq (h : t.IsOf decl) : t.key = decl.key := by
  rw [key, fullName, h.namespaceName, h.name, h.typeParameters]
  rfl

theorem IsOf.qualifiedName_eq (h : t.IsOf decl) : t.qualifiedName = decl.qualifiedName := by
  rw [qualifiedName, h.namespaceName, h.name, qualifiedNameIn_properNamespace]
  rfl

/-- The entry of a declaration before any modifiers are entered. -/
theorem isOf_of_marked? (h : marked? decl = some t) :
    t.IsOf decl ∧ t.modifiers = Modifiers.initial := by
  obtain ⟨arguments, -, h⟩ := Option.bind_eq_some_iff.mp h
  split at h
  · cases h
    exact ⟨⟨rfl, rfl, rfl⟩, rfl⟩
  · cases h

/-! ## The two passes -/

theorem get?_collectDecl (registry : Registry String ConcreteType) (decl : TypeDecl)
    (key : String) :
    (collectDecl registry decl).get? key =
      if key = decl.qualifiedName then (registry.get? key).or (marked? decl)
      else registry.get? key := by
  rw [collectDecl]
  cases marked? decl with
  | none => simp
  | some t =>
    rw [Registry.get?_upsert]
    split
    · next hkey =>
      rw [← hkey]
      cases registry.get? key <;> rfl
    · rfl

/-- Of several parts of a type with a marker the first one counts. -/
theorem get?_foldl_collectDecl (decls : List TypeDecl) (key : String) :
    (decls.foldl collectDecl {}).get? key =
      (decls.filter (·.qualifiedName = key)).findSome? marked? := by
  induction decls using List.reverseRecOn with
  | nil => rfl
  | append_singleton decls decl ih =>
    rw [List.foldl_concat, get?_collectDecl, ih, List.filter_append, List.findSome?_append]
    split
    · next hkey => simp [hkey]
    · next hkey => simp [Ne.symm hkey]

/-- The entry of the first part with a marker has the modifiers of all parts. -/
theorem get?_collect (units : List SourceUnit) (name : String) :
    (collect units).get? name =
      ((Model.declaredUnder units name).findSome? marked?).map
        (((Model.declaredUnder units name).map (·.modifiers)).foldl addModifiers) := by
  have hpasses := Registry.get?_foldl_modify TypeDecl.qualifiedName
    (fun (t : ConcreteType) decl => t.addModifiers decl.modifiers)
    ((Model.declarations units).map Prod.snd)
    (((Model.declarations units).map Prod.snd).foldl collectDecl {}) name
  rw [get?_foldl_collectDecl] at hpasses
  refine hpasses.trans (Option.map_congr fun t _ => ?_)
  rw [List.foldl_map]
  rfl

/-- An entry is that of a declaration with its name, and has the modifiers of all of them. -/
theorem exists_of_get?_collect {units : List SourceUnit} {name : String}
    (h : (collect units).get? name = some t) :
    ∃ entered : ConcreteType, entered.modifiers = Modifiers.initial ∧
      (∃ decl ∈ Model.declaredUnder units name, t.IsOf decl) ∧
      t = ((Model.declaredUnder units name).map (·.modifiers)).foldl addModifiers entered := by
  rw [get?_collect] at h
  obtain ⟨entered, hentered, rfl⟩ := Option.map_eq_some_iff.mp h
  obtain ⟨decl, hdecl, hmarked⟩ := List.exists_of_findSome?_eq_some hentered
  obtain ⟨hof, hinitial⟩ := isOf_of_marked? hmarked
  refine ⟨entered, hinitial, ⟨decl, hdecl, ?_⟩, rfl⟩
  exact List.foldlRecOn (motive := (IsOf · decl)) _ _ hof
    fun _ h _ _ => ⟨h.namespaceName, h.name, h.typeParameters⟩

end Companion.ConcreteType
