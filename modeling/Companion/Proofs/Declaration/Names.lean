import Mathlib.Data.List.Basic
import Companion.Declaration.Basic

/-!
# Names of types

A full name, or a qualified name, can be taken apart into namespace and simple name as long as
simple names have no dots in them: the last dot is the one in between.
-/

namespace Companion

/-- A simple name as the language has them: without a dot. -/
def IsSimpleName (name : String) : Prop := '.' ∉ name.toList

instance (name : String) : Decidable (IsSimpleName name) :=
  inferInstanceAs (Decidable ('.' ∉ name.toList))

theorem toList_append_dot (ns name : String) :
    (ns ++ "." ++ name).toList = ns.toList ++ '.' :: name.toList := by
  simp

theorem not_isSimpleName_append_dot (ns name : String) : ¬IsSimpleName (ns ++ "." ++ name) := by
  rw [IsSimpleName, toList_append_dot]
  simp

theorem append_dot_inj {ns ns' name name' : String} (hname : IsSimpleName name)
    (hname' : IsSimpleName name') (h : ns ++ "." ++ name = ns' ++ "." ++ name') :
    ns = ns' ∧ name = name' := by
  have hchars := congrArg String.toList h
  rw [toList_append_dot, toList_append_dot] at hchars
  have hparts : ns.toList = ns'.toList ∧ name.toList = name'.toList := by
    -- if one namespace went on where the other ends, the other name would have a dot
    rcases List.append_eq_append_iff.mp hchars with ⟨more, hns, hrest⟩ | ⟨more, hns, hrest⟩
    all_goals
      cases more with
      | nil => simp_all
      | cons c more =>
        simp only [List.cons_append, List.cons.injEq] at hrest
        simp [IsSimpleName, hrest.2] at hname hname'
  exact ⟨String.toList_inj.mp hparts.1, String.toList_inj.mp hparts.2⟩

/-- A name with a dot is a simple name behind the last dot. -/
theorem exists_eq_append_dot {name : String} (h : ¬IsSimpleName name) :
    ∃ ns simple, IsSimpleName simple ∧ name = ns ++ "." ++ simple := by
  have hdot : '.' ∈ name.toList := not_not.mp h
  rw [← List.mem_reverse] at hdot
  obtain ⟨behind, before, hreverse, hsimple⟩ := List.eq_append_cons_of_mem hdot
  refine ⟨String.ofList before.reverse, String.ofList behind.reverse, by simpa [IsSimpleName], ?_⟩
  rw [← String.toList_inj, toList_append_dot, ← List.reverse_reverse name.toList, hreverse]
  simp

/-- A namespace is a segment, or a segment behind a namespace. -/
theorem namespace_induction {motive : String → Prop}
    (segment : ∀ ns, IsSimpleName ns → motive ns)
    (nested : ∀ ns segment, IsSimpleName segment → motive ns → motive (ns ++ "." ++ segment))
    (ns : String) : motive ns := by
  induction hlength : ns.length using Nat.strongRecOn generalizing ns with
  | ind length ih =>
    by_cases hns : IsSimpleName ns
    · exact segment ns hns
    · obtain ⟨outer, inner, hinner, rfl⟩ := exists_eq_append_dot hns
      refine nested outer inner hinner (ih outer.length ?_ outer rfl)
      rw [← hlength, String.length_append, String.length_append]
      have hpoint : ".".length = 1 := rfl
      omega

theorem fullNameIn_inj {ns ns' : Option String} {name name' : String} (hname : IsSimpleName name)
    (hname' : IsSimpleName name') (h : fullNameIn ns name = fullNameIn ns' name') :
    ns = ns' ∧ name = name' := by
  cases ns with
  | none =>
    cases ns' with
    | none => exact ⟨rfl, h⟩
    | some ns' =>
      have hdot : name = ns' ++ "." ++ name' := h
      exact absurd (hdot ▸ hname) (not_isSimpleName_append_dot ns' name')
  | some ns =>
    cases ns' with
    | none =>
      have hdot : ns ++ "." ++ name = name' := h
      exact absurd (hdot ▸ hname') (not_isSimpleName_append_dot ns name)
    | some ns' =>
      obtain ⟨rfl, rfl⟩ := append_dot_inj hname hname' h
      exact ⟨rfl, rfl⟩

/-! ## The global namespace -/

theorem properNamespace_ne_empty (ns : Option String) : properNamespace ns ≠ some "" := by
  simp [properNamespace, Option.filter_eq_some_iff]

theorem properNamespace_of_ne {ns : Option String} (h : ns ≠ some "") :
    properNamespace ns = ns := by
  cases ns with
  | none => rfl
  | some ns =>
    have hne : ns ≠ "" := fun hns => h (congrArg some hns)
    simp [properNamespace, hne]

theorem properNamespace_properNamespace (ns : Option String) :
    properNamespace (properNamespace ns) = properNamespace ns :=
  properNamespace_of_ne (properNamespace_ne_empty ns)

theorem properNamespace_getD (ns : Option String) : (properNamespace ns).getD "" = ns.getD "" := by
  cases ns with
  | none => rfl
  | some ns =>
    by_cases hns : ns = ""
    · simp [properNamespace, hns, Option.filter]
    · rw [properNamespace_of_ne (by simpa using hns)]

theorem qualifiedNameIn_properNamespace (ns : Option String) (name : String) :
    qualifiedNameIn (properNamespace ns) name = qualifiedNameIn ns name := by
  rw [qualifiedNameIn, properNamespace_getD, qualifiedNameIn]

theorem qualifiedNameIn_inj {ns ns' : Option String} {name name' : String}
    (hns : ns ≠ some "") (hns' : ns' ≠ some "") (hname : IsSimpleName name)
    (hname' : IsSimpleName name') (h : qualifiedNameIn ns name = qualifiedNameIn ns' name') :
    ns = ns' ∧ name = name' := by
  obtain ⟨hgetD, rfl⟩ := append_dot_inj hname hname' h
  refine ⟨?_, rfl⟩
  cases ns <;> cases ns' <;> simp_all

/-- Declarations have the same qualified name exactly if they have the same full name. -/
theorem TypeDecl.qualifiedName_eq_iff {decl decl' : TypeDecl} (hname : IsSimpleName decl.name)
    (hname' : IsSimpleName decl'.name) :
    decl.qualifiedName = decl'.qualifiedName ↔ decl.fullName = decl'.fullName := by
  rw [qualifiedName, ← qualifiedNameIn_properNamespace, qualifiedName,
    ← qualifiedNameIn_properNamespace decl'.namespaceName, fullName, fullName]
  constructor
  · intro h
    obtain ⟨hns, hsame⟩ := qualifiedNameIn_inj (properNamespace_ne_empty _)
      (properNamespace_ne_empty _) hname hname' h
    rw [hns, hsame]
  · intro h
    obtain ⟨hns, hsame⟩ := fullNameIn_inj hname hname' h
    rw [hns, hsame]

end Companion
