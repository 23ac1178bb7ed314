import Companion.Concrete.Properties
import Companion.Concrete.Synthesis
import Companion.Proofs.Basic
import Companion.Proofs.Symbol.Resolution

/-!
# What the companion of a concrete type imports

If the properties of an interface can be read, then every one of them is among those that are taken
over, and the companion imports what its type needs.
-/

namespace Companion

/-- If all computations succeed, nothing but their results is returned. -/
theorem eq_map_ok_of_mapM_id {ε α : Type} {results : List (Except ε α)} {values : List α}
    (h : results.mapM id = .ok values) : results = values.map .ok := by
  induction results generalizing values with
  | nil =>
    cases h
    rfl
  | cons first results ih =>
    rw [List.mapM_cons, except_bind_eq_ok] at h
    obtain ⟨value, hfirst, h⟩ := h
    obtain ⟨rest, hrest, hvalues⟩ := except_bind_eq_ok.mp h
    cases hvalues
    rw [List.map_cons, ← ih hrest]
    exact congrArg (· :: results) hfirst

theorem mem_of_mapM_id_eq_ok {ε α : Type} {results : List (Except ε α)} {values : List α} {a : α}
    (h : results.mapM id = .ok values) (ha : .ok a ∈ results) : a ∈ values := by
  rw [eq_map_ok_of_mapM_id h] at ha
  obtain ⟨value, hvalue, heq⟩ := List.mem_map.mp ha
  exact Except.ok.inj heq ▸ hvalue

namespace ConcreteType

variable {model : Model} {interface : Symbol} {arguments : ConcreteArguments} {options : Options}
  {properties : List InterfaceProperty}

/-- What is taken over of a property whose type can be read. -/
theorem exists_mem_of_readProperties {name typeName : String} {hasSetter : Bool} {type : TypeRef}
    (h : readProperties interface model arguments options = .ok properties)
    (hmember : .property name typeName hasSetter ∈ interface.members)
    (htype : TypeRef.parse typeName = .ok type) :
    ∃ p ∈ properties, p.namespaces = model.requiredNamespaces interface.scope type := by
  let p : InterfaceProperty := {
    name
    type := applyNullability type (model.isReference interface.scope type) arguments
      options.nullableContext
    readOnly := !hasSetter
    namespaces := model.requiredNamespaces interface.scope type }
  have hread : readMember? interface model arguments options (.property name typeName hasSetter) =
      some (.ok p) := by
    simp only [readMember?, htype, p]
  exact ⟨p, mem_of_mapM_id_eq_ok h (List.mem_filterMap.mpr ⟨_, hmember, hread⟩), rfl⟩

/-- A companion imports the namespaces that its properties need. -/
theorem imports_companionUsings {t : ConcreteType} {p : InterfaceProperty} {ns : String}
    (hp : p ∈ t.properties) (h : ns ∈ p.namespaces.items) :
    (Scope.of t.namespaceName t.companionUsings).Imports ns := by
  refine Scope.imports_of_mem ?_ t.namespaceName
  rw [NamespaceSet.foldl_insertAll, NamespaceSet.mem_insertAll]
  exact .inr ⟨List.mem_flatMap.mpr ⟨p, hp, h⟩,
    ne_of_mem_of_not_mem h p.namespaces.proper⟩

end ConcreteType

end Companion
