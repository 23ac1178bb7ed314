import Companion.Proofs.Concrete.Collect
import Companion.Proofs.FirstSeen
import Companion.Proofs.Observable.Collect

/-!
# Modifiers of all parts

Every merge takes `partial` from the end of the list, adds what is new, and puts it back. Whatever
lists are merged one after the other, the result is the union of what they give, without repetition
and with `partial` at the end (`Unites`). It does not tell where one list ends and the next begins,
since there is only one such union (`Unites.unique`).
-/

namespace Companion

namespace Modifiers

/-- The modifiers that are given, apart from `partial`, each once and in the order in which they are
first met, and then `partial`. -/
def Unites (given modifiers : List String) : Prop :=
  ∃ others, FirstSeen (· ≠ "partial") given others ∧ modifiers = others ++ ["partial"]

variable {given modifiers modifiers' others : List String}

/-- Another modifier next to those that are not `partial`. -/
def add (others : List String) (m : String) : List String :=
  if m = "partial" || others.contains m then others else others ++ [m]

theorem merge_eq (modifiers more : List String) :
    merge modifiers more = more.foldl add (modifiers.filter (· ≠ "partial")) ++ ["partial"] := rfl

theorem unites_initial : Unites [] initial := ⟨[], .nil, rfl⟩

theorem Unites.unique (h : Unites given modifiers) (h' : Unites given modifiers') :
    modifiers = modifiers' := by
  obtain ⟨others, hothers, rfl⟩ := h
  obtain ⟨others', hothers', rfl⟩ := h'
  rw [hothers.unique hothers']

theorem firstSeen_add (h : FirstSeen (· ≠ "partial") given others) (m : String) :
    FirstSeen (· ≠ "partial") (given ++ [m]) (add others m) := by
  rw [add]
  split
  · next hold => exact h.pass (by simpa using hold)
  · next hnew =>
    rw [Bool.or_eq_true, decide_eq_true_iff, List.contains_iff_mem, not_or] at hnew
    exact h.keep hnew.1 hnew.2

theorem firstSeen_foldl_add (h : FirstSeen (· ≠ "partial") given others) (more : List String) :
    FirstSeen (· ≠ "partial") (given ++ more) (more.foldl add others) := by
  induction more generalizing given others with
  | nil => rwa [List.append_nil]
  | cons m more ih =>
    have hnext := ih (firstSeen_add h m)
    rwa [List.append_assoc] at hnext

/-- One merge. -/
theorem Unites.merge (h : Unites given modifiers) (more : List String) :
    Unites (given ++ more) (merge modifiers more) := by
  obtain ⟨others, hothers, rfl⟩ := h
  have hproper : (others ++ ["partial"]).filter (· ≠ "partial") = others := by
    rw [List.filter_append, List.filter_eq_self.mpr]
    · simp
    · intro m hm
      exact decide_eq_true ((hothers.mem_iff m).mp hm).2
  exact ⟨_, firstSeen_foldl_add hothers more, by rw [merge_eq, hproper]⟩

/-- Any number of merges. -/
theorem Unites.foldl_merge (h : Unites given modifiers) (lists : List (List String)) :
    Unites (given ++ lists.flatten) (lists.foldl Modifiers.merge modifiers) := by
  induction lists generalizing given modifiers with
  | nil => rwa [List.flatten_nil, List.append_nil]
  | cons more lists ih =>
    have hnext := ih (h.merge more)
    rwa [List.append_assoc] at hnext

end Modifiers

open Modifiers (Unites)

theorem ObservableType.unites_foldl_addModifiers {t : ObservableType}
    (h : t.modifiers = Modifiers.initial) (lists : List (List String)) :
    Unites lists.flatten (lists.foldl addModifiers t).modifiers := by
  have hmerged : (lists.foldl addModifiers t).modifiers =
      lists.foldl Modifiers.merge t.modifiers :=
    (List.foldl_hom ObservableType.modifiers fun _ _ => rfl).symm
  rw [hmerged, h]
  exact Modifiers.unites_initial.foldl_merge lists

theorem ConcreteType.unites_foldl_addModifiers {t : ConcreteType}
    (h : t.modifiers = Modifiers.initial) (lists : List (List String)) :
    Unites lists.flatten (lists.foldl addModifiers t).modifiers := by
  have hmerged : (lists.foldl addModifiers t).modifiers =
      lists.foldl Modifiers.merge t.modifiers :=
    (List.foldl_hom ConcreteType.modifiers fun _ _ => rfl).symm
  rw [hmerged, h]
  exact Modifiers.unites_initial.foldl_merge lists

/-! ## Collected types -/

/-- The modifiers of all declarations with a qualified name, in order. -/
def Model.modifiersUnder (units : List SourceUnit) (name : String) : List String :=
  (declaredUnder units name).flatMap (·.modifiers)

theorem ObservableType.unites_of_mem_collect {units : List SourceUnit} {t : ObservableType}
    (h : t ∈ (collect units).values) :
    Unites (Model.modifiersUnder units t.qualifiedName) t.modifiers := by
  obtain ⟨name, hname⟩ := Registry.mem_values_iff.mp h
  obtain ⟨part, -, hpart, hof⟩ := allDeclared_collect units name t hname
  obtain rfl : t.qualifiedName = name := hof.qualifiedName_eq.trans hpart
  obtain ⟨entered, hinitial, heq⟩ := exists_of_get?_collect hname
  rw [Model.modifiersUnder, List.flatMap_def, congrArg modifiers heq]
  exact unites_foldl_addModifiers hinitial _

theorem ConcreteType.unites_of_mem_collect {units : List SourceUnit} {t : ConcreteType}
    (h : t ∈ (collect units).values) :
    Unites (Model.modifiersUnder units t.qualifiedName) t.modifiers := by
  obtain ⟨name, hname⟩ := Registry.mem_values_iff.mp h
  obtain ⟨entered, hinitial, ⟨decl, hdecl, hof⟩, heq⟩ := exists_of_get?_collect hname
  obtain rfl : t.qualifiedName = name :=
    hof.qualifiedName_eq.trans (Model.mem_declaredUnder.mp hdecl).2
  rw [Model.modifiersUnder, List.flatMap_def, congrArg modifiers heq]
  exact unites_foldl_addModifiers hinitial _

/-- Starting from a new type, the modifiers are the union of all that are added, so that it does not
matter how these are spread over lists. A type that is collected has the union of the modifiers of
all declarations with its qualified name. -/
theorem modifiers_unite (namespaceName : Option String) (name : String) (kind : TypeKind)
    (arguments : ConcreteArguments) (lists : List (List String)) :
    let observable (lists : List (List String)) : ObservableType :=
      lists.foldl ObservableType.addModifiers (.bare namespaceName name kind)
    let concrete (lists : List (List String)) : ConcreteType :=
      lists.foldl ConcreteType.addModifiers (.bare namespaceName name kind arguments)
    Unites lists.flatten (observable lists).modifiers ∧
    Unites lists.flatten (concrete lists).modifiers ∧
    (∀ lists', lists'.flatten = lists.flatten →
      (observable lists').modifiers = (observable lists).modifiers ∧
      (concrete lists').modifiers = (concrete lists).modifiers) ∧
    ∀ units,
      (∀ t ∈ (ObservableType.collect units).values,
        Unites (Model.modifiersUnder units t.qualifiedName) t.modifiers) ∧
      ∀ t ∈ (ConcreteType.collect units).values,
        Unites (Model.modifiersUnder units t.qualifiedName) t.modifiers := by
  intro observable concrete
  have hobservable (lists : List (List String)) :
      Unites lists.flatten (observable lists).modifiers :=
    ObservableType.unites_foldl_addModifiers rfl lists
  have hconcrete (lists : List (List String)) :
      Unites lists.flatten (concrete lists).modifiers :=
    ConcreteType.unites_foldl_addModifiers rfl lists
  refine ⟨hobservable lists, hconcrete lists, fun lists' hsame => ⟨?_, ?_⟩, fun units =>
    ⟨fun t => ObservableType.unites_of_mem_collect, fun t => ConcreteType.unites_of_mem_collect⟩⟩
  · exact (hobservable lists').unique (hsame ▸ hobservable lists)
  · exact (hconcrete lists').unique (hsame ▸ hconcrete lists)

/-- A type with both markers in one of its parts, and a part without any. -/
def vmInParts : List SourceUnit :=
  [{ types := [
      { namespaceName := some "App", name := "Vm", modifiers := ["partial", "public"]
        attributes := [⟨"MakeConcrete", ["\"App.IVm\""]⟩]
        fields := [{ name := some "_size", typeName := some "int"
                     attributes := [⟨"MakeProperty", ["\"Size\""]⟩] }] },
      { namespaceName := some "App", name := "IVm", kind := .interface, modifiers := ["internal"] }] },
    { types := [
      { namespaceName := some "App", name := "Vm", modifiers := ["sealed", "partial", "public"] }] }]

theorem vmInParts_modifiers_unite :
    let lists := [["partial", "public"], ["sealed", "partial", "public"]]
    let fresh : ObservableType := .bare (some "App") "Vm" .plainClass
    ([["partial"], [], ["public", "sealed", "partial"], ["public"]].foldl
        ObservableType.addModifiers fresh).modifiers =
      (lists.foldl ObservableType.addModifiers fresh).modifiers ∧
    (∃ t ∈ (ObservableType.collect vmInParts).values,
      t.modifiers = ["public", "sealed", "partial"] ∧ Unites lists.flatten t.modifiers) ∧
    ∃ t ∈ (ConcreteType.collect vmInParts).values,
      t.modifiers = ["public", "sealed", "partial"] ∧ Unites lists.flatten t.modifiers := by
  intro lists fresh
  obtain ⟨-, -, hsame, hcollected⟩ := modifiers_unite (some "App") "Vm" .plainClass {} lists
  obtain ⟨hobservable, hconcrete⟩ := hcollected vmInParts
  have hgiven : Model.modifiersUnder vmInParts "App.Vm" = lists.flatten := by decide
  refine ⟨(hsame [["partial"], [], ["public", "sealed", "partial"], ["public"]] rfl).1, ?_, ?_⟩
  · have hentry : ((ObservableType.collect vmInParts).values.map fun t =>
        (t.qualifiedName, t.modifiers)) = [("App.Vm", ["public", "sealed", "partial"])] := by
      decide +kernel
    obtain ⟨t, ht, hview⟩ := List.exists_of_mem_map (hentry ▸ List.mem_singleton_self _)
    obtain ⟨hname, hmodifiers⟩ := Prod.mk.inj hview
    exact ⟨t, ht, hmodifiers, hgiven ▸ hname ▸ hobservable t ht⟩
  · have hentry : ((ConcreteType.collect vmInParts).values.map fun t =>
        (t.qualifiedName, t.modifiers)) = [("App.Vm", ["public", "sealed", "partial"])] := by
      decide +kernel
    obtain ⟨t, ht, hview⟩ := List.exists_of_mem_map (hentry ▸ List.mem_singleton_self _)
    obtain ⟨hname, hmodifiers⟩ := Prod.mk.inj hview
    exact ⟨t, ht, hmodifiers, hgiven ▸ hname ▸ hconcrete t ht⟩

end Companion
