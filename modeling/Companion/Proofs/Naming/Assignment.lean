import Companion.Proofs.Basic
import Companion.Proofs.Naming.Unique

/-!
# Which identifiers are assigned

Whoever asks for a name gets it, if nobody has it yet as an identifier. Otherwise the name is tried
with one number after the other, starting behind the last number that was tried for this very name,
and the first identifier that is free is given out. The names that were asked for and the
identifiers that they got are enough to say what a search can find (`Records`): a number that a name
got before is not above its counter, so the next one is greater.
-/

namespace Companion.Naming.UniqueNames

variable {names : UniqueNames} {name : String} {rounds : Nat} {history : List (String × String)}

/-! ## One search -/

/-- The last number that was tried for a name, zero if there was none. -/
def counter (names : UniqueNames) (name : String) : Nat := (names.counters.get? name).getD 0

/-- What is tried for a name in one round after the other, where `last` is the last number that was
tried for it before. -/
def attempt (name : String) (last : Nat) : Nat → String
  | 0 => name
  | round + 1 => name ++ toString (last + 1 + round)

theorem append_toString_ne (name : String) (k : Nat) : name ++ toString k ≠ name := by
  intro h
  have hlength := congrArg String.length h
  have hdigits : 0 < (toString k).length := by
    rw [Nat.toString_eq_repr, ← String.length_toList, Nat.toList_repr]
    exact List.length_pos_iff.mpr Nat.toDigits_ne_nil
  rw [String.length_append] at hlength
  omega

theorem attempt_injective (name : String) (last : Nat) :
    Function.Injective (attempt name last) := by
  intro i j h
  cases i with
  | zero =>
    cases j with
    | zero => rfl
    | succ j => exact absurd h.symm (append_toString_ne name _)
  | succ i =>
    cases j with
    | zero => exact absurd h (append_toString_ne name _)
    | succ j =>
      have hnumbers := append_toString_injective name h
      omega

/-- The search for an identifier ends after so many rounds that tried one in vain. -/
def EndsAfter (names : UniqueNames) (name : String) (rounds : Nat) : Prop :=
  IsFirstFree (attempt name (names.counter name)) names.taken rounds

theorem exists_endsAfter (names : UniqueNames) (name : String) :
    ∃ rounds ≤ names.taken.length, names.EndsAfter name rounds :=
  exists_isFirstFree (attempt_injective name _) names.taken

/-- The identifier is what was tried last, and the rounds are counted for the name. -/
theorem assign_of_endsAfter (h : names.EndsAfter name rounds)
    (hrounds : rounds ≤ names.taken.length) :
    (names.assign name).1 = attempt name (names.counter name) rounds ∧
      ∀ other, (names.assign name).2.counter other =
        if other = name then names.counter name + rounds else names.counter other := by
  cases rounds with
  | zero =>
    have hfree : name ∉ names.taken := h.free
    rw [assign_of_not_mem hfree]
    refine ⟨rfl, fun other => ?_⟩
    split
    · next hother => rw [hother]; rfl
    · rfl
  | succ round =>
    have htaken : name ∈ names.taken := h.passed 0 (Nat.succ_pos round)
    have hfirst : IsFirstFree (fun k => name ++ toString (names.counter name + 1 + k))
        names.taken round :=
      ⟨h.free, fun i hi => h.passed (i + 1) (Nat.succ_lt_succ hi)⟩
    have hnumber : nextNumber names.taken name ((names.counters.get? name).getD 0) =
        names.counter name + 1 + round :=
      nextNumber_eq hfirst (Nat.le_of_succ_le hrounds)
    rw [assign, if_pos (by simpa using htaken), hnumber]
    refine ⟨rfl, fun other => ?_⟩
    simp only [counter, Registry.get?_insert]
    split
    · simp only [Option.getD_some]
      omega
    · rfl

theorem assign_eq_self_iff : (names.assign name).1 = name ↔ name ∉ names.taken := by
  constructor
  · intro h
    rw [← h]
    exact names.assign_not_mem name
  · intro hfree
    rw [assign_of_not_mem hfree]

/-- A name that somebody has gets a number. -/
theorem exists_number_of_mem (h : name ∈ names.taken) :
    ∃ k, 1 ≤ k ∧ (names.assign name).1 = name ++ toString k := by
  obtain ⟨rounds, hrounds, hends⟩ := names.exists_endsAfter name
  rw [(assign_of_endsAfter hends hrounds).1]
  cases rounds with
  | zero => exact absurd h hends.free
  | succ round => exact ⟨names.counter name + 1 + round, by omega, rfl⟩

/-- The number that a name gets is its counter from then on, and greater than it was before. -/
theorem counter_of_assign_eq {k : Nat} (h : (names.assign name).1 = name ++ toString k) :
    names.counter name < k ∧ (names.assign name).2.counter name = k := by
  obtain ⟨rounds, hrounds, hends⟩ := names.exists_endsAfter name
  obtain ⟨hidentifier, hcounter⟩ := assign_of_endsAfter hends hrounds
  rw [hidentifier] at h
  rw [hcounter, if_pos rfl]
  cases rounds with
  | zero => exact absurd h.symm (append_toString_ne name k)
  | succ round =>
    have hnumber : names.counter name + 1 + round = k := append_toString_injective name h
    omega

theorem counter_le_assign (names : UniqueNames) (name other : String) :
    names.counter other ≤ (names.assign name).2.counter other := by
  obtain ⟨rounds, hrounds, hends⟩ := names.exists_endsAfter name
  rw [(assign_of_endsAfter hends hrounds).2]
  split
  · next hother =>
    rw [hother]
    exact Nat.le_add_right _ _
  · exact Nat.le_refl _

/-! ## A run of searches -/

/-- The state knows the history: each name that was asked for, with the identifier that it got. -/
structure Records (names : UniqueNames) (history : List (String × String)) : Prop where
  taken : ∀ identifier, identifier ∈ names.taken ↔ identifier ∈ history.map Prod.snd
  counted : ∀ (name : String) (k : Nat), (name, name ++ toString k) ∈ history →
    k ≤ names.counter name

/-- After such a history, a name may get this identifier: the name itself if it is not in use, and
else the name with a number greater than all numbers that it got before. -/
structure Follows (history : List (String × String)) (name identifier : String) : Prop where
  eq_iff : identifier = name ↔ name ∉ history.map Prod.snd
  numbered : identifier ≠ name → ∃ k, 1 ≤ k ∧ identifier = name ++ toString k
  increases : ∀ k l : Nat, (name, name ++ toString k) ∈ history →
    identifier = name ++ toString l → k < l

theorem records_empty : Records {} [] := ⟨fun _ => Iff.rfl, by simp⟩

theorem Records.follows (h : names.Records history) (name : String) :
    Follows history name (names.assign name).1 where
  eq_iff := by
    rw [← h.taken]
    exact assign_eq_self_iff
  numbered hne := exists_number_of_mem (not_not.mp (mt assign_eq_self_iff.mpr hne))
  increases k l hmem hl :=
    Nat.lt_of_le_of_lt (h.counted name k hmem) (counter_of_assign_eq hl).1

theorem Records.assign (h : names.Records history) (name : String) :
    (names.assign name).2.Records (history ++ [(name, (names.assign name).1)]) where
  taken identifier := by
    rw [assign_taken, List.map_append, List.mem_append, List.mem_cons, h.taken, or_comm]
    simp
  counted other k hmem := by
    rcases List.mem_append.mp hmem with hold | hnew
    · exact Nat.le_trans (h.counted other k hold) (names.counter_le_assign name other)
    · obtain ⟨rfl, hidentifier⟩ := Prod.mk.inj (List.mem_singleton.mp hnew)
      exact Nat.le_of_eq (counter_of_assign_eq hidentifier.symm).2.symm

theorem assignAll_cons (names : UniqueNames) (name : String) (wanted : List String) :
    names.assignAll (name :: wanted) =
      (names.assign name).1 :: (names.assign name).2.assignAll wanted :=
  rfl

theorem Records.follows_assignAll (h : names.Records history) (wanted : List String) {i : Nat}
    {name identifier : String} (hname : wanted[i]? = some name)
    (hidentifier : (names.assignAll wanted)[i]? = some identifier) :
    Follows (history ++ (wanted.zip (names.assignAll wanted)).take i) name identifier := by
  induction wanted generalizing names history i with
  | nil => cases hname
  | cons first rest ih =>
    rw [assignAll_cons] at hidentifier ⊢
    cases i with
    | zero =>
      cases hname
      cases hidentifier
      simpa using h.follows name
    | succ i =>
      have hrest := ih (h.assign first) hname hidentifier
      rw [List.append_assoc] at hrest
      exact hrest

theorem length_assignAll (names : UniqueNames) (wanted : List String) :
    (names.assignAll wanted).length = wanted.length := by
  induction wanted generalizing names with
  | nil => rfl
  | cons name wanted ih => simp [assignAll_cons, ih]

theorem not_mem_taken_of_mem_assignAll {wanted : List String} {identifier : String}
    (h : identifier ∈ names.assignAll wanted) : identifier ∉ names.taken := by
  induction wanted generalizing names with
  | nil => cases h
  | cons name wanted ih =>
    rw [assignAll_cons] at h
    rcases List.mem_cons.mp h with rfl | h
    · exact names.assign_not_mem name
    · have hlater := ih h
      rw [assign_taken] at hlater
      exact fun hmem => hlater (List.mem_cons_of_mem _ hmem)

theorem nodup_assignAll (names : UniqueNames) (wanted : List String) :
    (names.assignAll wanted).Nodup := by
  induction wanted generalizing names with
  | nil => exact List.nodup_nil
  | cons name wanted ih =>
    rw [assignAll_cons]
    refine List.nodup_cons.mpr ⟨fun hmem => ?_, ih _⟩
    refine not_mem_taken_of_mem_assignAll hmem ?_
    rw [assign_taken]
    exact List.mem_cons_self

/-- Every search ends, after no more rounds than there are identifiers. The identifiers of a run are
different from each other, and each one follows from those before it. -/
theorem assignAll_follows (wanted : List String) :
    let identifiers := ({} : UniqueNames).assignAll wanted
    (∀ (names : UniqueNames) (name : String), ∃ rounds ≤ names.taken.length,
      names.EndsAfter name rounds ∧
        (names.assign name).1 = attempt name (names.counter name) rounds) ∧
    identifiers.length = wanted.length ∧ identifiers.Nodup ∧
    ∀ i name identifier, wanted[i]? = some name → identifiers[i]? = some identifier →
      Follows ((wanted.zip identifiers).take i) name identifier := by
  intro identifiers
  refine ⟨fun names name => ?_, length_assignAll _ wanted, nodup_assignAll _ wanted, ?_⟩
  · obtain ⟨rounds, hrounds, hends⟩ := names.exists_endsAfter name
    exact ⟨rounds, hrounds, hends, (assign_of_endsAfter hends hrounds).1⟩
  · intro i name identifier hname hidentifier
    exact records_empty.follows_assignAll wanted hname hidentifier

/-- A name that another one got with its number is asked for itself. -/
theorem assignAll_follows_foo :
    let wanted := ["Foo", "Bar", "Foo", "Foo1", "Foo"]
    ({} : UniqueNames).assignAll wanted = ["Foo", "Bar", "Foo1", "Foo11", "Foo2"] ∧
      Follows [("Foo", "Foo"), ("Bar", "Bar"), ("Foo", "Foo1"), ("Foo1", "Foo11")] "Foo"
        "Foo2" := by
  intro wanted
  have hrun : ({} : UniqueNames).assignAll wanted = ["Foo", "Bar", "Foo1", "Foo11", "Foo2"] := by
    decide +kernel
  have hfollows := (assignAll_follows wanted).2.2.2 4 "Foo" "Foo2" rfl (by rw [hrun]; rfl)
  rw [hrun] at hfollows
  exact ⟨hrun, hfollows⟩

end Companion.Naming.UniqueNames
