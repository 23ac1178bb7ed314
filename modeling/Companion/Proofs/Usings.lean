import Mathlib.Data.List.Basic
import Companion.Proofs.Concrete.Companion
import Companion.Proofs.FirstSeen
import Companion.Proofs.Observable.Companion

/-!
# What companions import

A type needs the namespaces of all types that are named in it. To see that none is missed, the type
is taken apart in one way for all constructors (`TypeRef.parts`), and its nodes are listed in
pre-order. A companion imports the namespaces that every companion has or that of the interface, and
then what its fields or properties need. In both cases a namespace stands where it is first met
(`FirstSeen`), as `usings_firstSeen` says.
-/

namespace Companion

/-! ## Sets of namespaces -/

namespace FirstSeen

variable {wanted : String → Prop} {all : List String} {set : NamespaceSet}

theorem empty : FirstSeen wanted [] ({} : NamespaceSet).items := .nil

theorem insert (h : FirstSeen (· ≠ "") all set.items) (name : String) :
    FirstSeen (· ≠ "") (all ++ [name]) (set.insert name).items := by
  rw [NamespaceSet.items_insert]
  split
  · next hold => exact h.pass (hold.imp_left not_not.mpr)
  · next hnew =>
    obtain ⟨hname, hfresh⟩ := not_or.mp hnew
    exact h.keep hname hfresh

theorem insertAll (h : FirstSeen (· ≠ "") all set.items) (names : List String) :
    FirstSeen (· ≠ "") (all ++ names) (set.insertAll names).items := by
  induction names generalizing all set with
  | nil => rwa [List.append_nil]
  | cons name names ih =>
    have hnext := ih (h.insert name)
    rwa [List.append_assoc] at hnext

theorem remove (h : FirstSeen wanted all set.items) (own : String) :
    FirstSeen (fun text => wanted text ∧ text ≠ own) all (set.remove own).items where
  mem_iff text := by rw [NamespaceSet.mem_remove, h.mem_iff, and_assoc]
  nodup := h.nodup.filter _
  ordered := h.ordered.filter _

/-- What is left for a file that may have a namespace of its own. -/
theorem remove_own (h : FirstSeen (· ≠ "") all set.items) (own : Option String) :
    FirstSeen (fun text => text ≠ "" ∧ own ≠ some text) all
      (match own with
        | some name => (set.remove name).items
        | none => set.items) := by
  cases own with
  | none => simpa using h
  | some own => simpa [eq_comm] using h.remove own

end FirstSeen

/-! ## The nodes of a type -/

namespace TypeRef

/-- The types of which a type is made directly, from left to right. -/
def parts : TypeRef → List TypeRef
  | predefined _ => []
  | named _ args => args
  | array element _ => [element]
  | tuple elements => elements.map Prod.fst
  | nullable inner => [inner]
  | pointer inner => [inner]
  | functionPointer _ parameters => parameters

theorem sizeOf_lt_of_mem_parts {t part : TypeRef} (h : part ∈ t.parts) :
    sizeOf part < sizeOf t := by
  cases t with
  | predefined => cases h
  | named name args =>
    have hlt := List.sizeOf_lt_of_mem h
    simp only [parts, named.sizeOf_spec] at hlt ⊢
    omega
  | functionPointer convention parameters =>
    have hlt := List.sizeOf_lt_of_mem h
    simp only [parts, functionPointer.sizeOf_spec] at hlt ⊢
    omega
  | tuple elements =>
    obtain ⟨⟨type, name⟩, helement, rfl⟩ := List.mem_map.mp h
    have hlt := List.sizeOf_lt_of_mem helement
    simp only [Prod.mk.sizeOf_spec] at hlt
    simp only [tuple.sizeOf_spec]
    omega
  | array | nullable | pointer =>
    obtain rfl := List.mem_singleton.mp h
    simp only [array.sizeOf_spec, nullable.sizeOf_spec, pointer.sizeOf_spec]
    omega

/-- A type and all types in it, in pre-order. -/
def nodes (t : TypeRef) : List TypeRef := t :: t.parts.attach.flatMap fun part => part.1.nodes
termination_by sizeOf t
decreasing_by exact sizeOf_lt_of_mem_parts part.2

theorem nodes_eq (t : TypeRef) : t.nodes = t :: t.parts.flatMap nodes := by
  rw [nodes, List.flatMap_subtype (g := nodes) fun _ _ => rfl, List.unattach_attach]

/-- The name of a node that has one, with the number of its type arguments. -/
def name? : TypeRef → Option TypeKey
  | named name args => some (name, args.length)
  | _ => none

theorem filterMap_name?_nodes (t : TypeRef) :
    t.nodes.filterMap name? = t.name?.toList ++ (t.parts.flatMap nodes).filterMap name? := by
  rw [nodes_eq, List.filterMap_cons]
  cases t.name? <;> rfl

mutual

theorem names_eq : (t : TypeRef) → t.names = t.nodes.filterMap name?
  | predefined _ => by
    rw [names, filterMap_name?_nodes]
    rfl
  | named _ args => by
    rw [names, filterMap_name?_nodes, namesAll_eq args]
    rfl
  | array element _ => by
    rw [names, filterMap_name?_nodes, names_eq element]
    simp [parts, name?]
  | tuple elements => by
    rw [names, filterMap_name?_nodes, namesElements_eq elements]
    rfl
  | nullable inner => by
    rw [names, filterMap_name?_nodes, names_eq inner]
    simp [parts, name?]
  | pointer inner => by
    rw [names, filterMap_name?_nodes, names_eq inner]
    simp [parts, name?]
  | functionPointer _ parameters => by
    rw [names, filterMap_name?_nodes, namesAll_eq parameters]
    rfl

theorem namesAll_eq : (ts : List TypeRef) → namesAll ts = (ts.flatMap nodes).filterMap name?
  | [] => rfl
  | t :: ts => by
    rw [namesAll, names_eq t, namesAll_eq ts, List.flatMap_cons, List.filterMap_append]

theorem namesElements_eq : (elements : List (TypeRef × Option String)) →
    namesElements elements = ((elements.map Prod.fst).flatMap nodes).filterMap name?
  | [] => rfl
  | (t, _) :: elements => by
    rw [namesElements, names_eq t, namesElements_eq elements, List.map_cons, List.flatMap_cons,
      List.filterMap_append]

end

end TypeRef

/-- The namespaces of the types that the nodes of a type mean, in pre-order. -/
def Model.namespacesIn (model : Model) (scope : Scope) (t : TypeRef) : List String :=
  (t.nodes.filterMap (model.resolveRef? scope)).filterMap (·.namespaceName)

theorem Model.filterMap_namespaceOf?_names (model : Model) (scope : Scope) (t : TypeRef) :
    t.names.filterMap (model.namespaceOf? scope) = model.namespacesIn scope t := by
  rw [namespacesIn, TypeRef.names_eq, List.filterMap_filterMap, List.filterMap_filterMap]
  refine List.filterMap_congr fun node _ => ?_
  cases node <;> rfl

/-! ## Companions -/

/-- The namespaces that a type needs, and those that companions import, are listed in the order in
which they are first met, each once. The empty text is no namespace, and a companion does not import
its own. -/
theorem usings_firstSeen (model : Model) (scope : Scope) (type : TypeRef) (t : ObservableType)
    (c : ConcreteType) (options : Options) :
    FirstSeen (· ≠ "") (model.namespacesIn scope type)
      (model.requiredNamespaces scope type).items ∧
    (∀ file, t.synthesize options = .ok file →
      FirstSeen (fun ns => ns ≠ "" ∧ t.namespaceName ≠ some ns)
        (["System", "System.Collections.Generic", "System.ComponentModel",
          "System.Runtime.CompilerServices"] ++ t.fields.flatMap (·.namespaces.items))
        file.usings) ∧
    FirstSeen (fun ns => ns ≠ "" ∧ c.namespaceName ≠ some ns)
      (c.namespaces.items ++ c.properties.flatMap (·.namespaces.items))
      (c.synthesize options).usings := by
  refine ⟨?_, ?_, ?_⟩
  · rw [Model.requiredNamespaces, Model.filterMap_namespaceOf?_names]
    exact FirstSeen.empty.insertAll _
  · intro file hfile
    rw [(ObservableType.isCompanion_of_synthesize hfile).usings, ObservableType.companionUsings,
      NamespaceSet.foldl_insertAll]
    exact ((FirstSeen.empty.insertAll _).insertAll _).remove_own t.namespaceName
  · rw [ConcreteType.synthesize, ConcreteType.companionUsings, NamespaceSet.foldl_insertAll]
    exact ((FirstSeen.empty.insertAll _).insertAll _).remove_own c.namespaceName

/-- A type that needs a namespace in two of its fields, its own namespace, and one that every
companion imports. -/
def crmOrder : ObservableType where
  namespaceName := some "Shop"
  name := "Order"
  fields := [
    { name := "_lines", type := .named "List" [.named "Line" []]
      arguments := ⟨"Lines", false, false⟩
      namespaces := ⟨["System.Collections.Generic", "Shop"], by decide, by decide⟩ },
    { name := "_buyer", type := .tuple [(.named "Buyer" [], none), (.named "Part" [], none)]
      arguments := ⟨"Buyer", true, true⟩
      namespaces := ⟨["Crm", "Shop.Parts"], by decide, by decide⟩ },
    { name := "_seller", type := .named "Seller" [], arguments := ⟨"Seller", true, false⟩
      namespaces := ⟨["Crm"], by decide, by decide⟩ }]

theorem usings_firstSeen_crmOrder : ∃ file, crmOrder.synthesize {} = .ok file ∧
    file.usings = ["System", "System.Collections.Generic", "System.ComponentModel",
      "System.Runtime.CompilerServices", "Crm", "Shop.Parts"] ∧
    FirstSeen (fun ns => ns ≠ "" ∧ some "Shop" ≠ some ns)
      (["System", "System.Collections.Generic", "System.ComponentModel",
        "System.Runtime.CompilerServices"] ++
          ["System.Collections.Generic", "Shop", "Crm", "Shop.Parts", "Crm"]) file.usings := by
  have hvalid : crmOrder.validate = .ok () :=
    ObservableType.validateFields_eq_ok_iff.mpr ⟨by decide +kernel, by decide⟩
  have hfile : crmOrder.synthesize {} = .ok _ :=
    ObservableType.synthesize_eq_ok_iff.mpr ⟨hvalid, rfl⟩
  exact ⟨_, hfile, by decide,
    (usings_firstSeen {} {} (.predefined "int") crmOrder { name := "Order" } {}).2.1 _ hfile⟩

end Companion
