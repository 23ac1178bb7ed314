import Mathlib.Data.List.Nodup
import Mathlib.Data.List.Perm.Subperm
import Mathlib.Data.Nat.Find
import Companion.Naming

/-!
# Unique names are unique

The search for a free number looks at one number more than there are names taken, and different
numbers make different identifiers, so it never comes back empty-handed.
-/

namespace Companion.Naming

theorem append_toString_injective (name : String) :
    Function.Injective fun k : Nat => name ++ toString k := by
  intro i j h
  have hrepr : i.repr = j.repr := (String.append_right_inj name).mp h
  have hdigits : Nat.toDigits 10 i = Nat.toDigits 10 j := by
    rw [← Nat.toList_repr, ← Nat.toList_repr, hrepr]
  rw [← Nat.ofDigitChars_ten_toDigits (n := i), hdigits, Nat.ofDigitChars_ten_toDigits]

/-- Of more different names than there are names taken, some name is free. -/
theorem exists_free_choice {choice : Nat → String} (h : Function.Injective choice)
    (taken : List String) : ∃ k ∈ List.range (taken.length + 1), choice k ∉ taken := by
  by_contra hall
  push Not at hall
  have hnodup : ((List.range (taken.length + 1)).map choice).Nodup := List.nodup_range.map h
  have hsubset : (List.range (taken.length + 1)).map choice ⊆ taken := by
    intro name hname
    obtain ⟨k, hk, rfl⟩ := List.mem_map.mp hname
    exact hall k hk
  have hlength := (hnodup.subperm hsubset).length_le
  rw [List.length_map, List.length_range] at hlength
  omega

/-- A search through choices ends with this one: it is the first that is not taken. -/
structure IsFirstFree (choice : Nat → String) (taken : List String) (k : Nat) : Prop where
  free : choice k ∉ taken
  passed : ∀ i < k, choice i ∈ taken

/-- A search through different choices ends, and passes no more of them than are taken. -/
theorem exists_isFirstFree {choice : Nat → String} (h : Function.Injective choice)
    (taken : List String) : ∃ k ≤ taken.length, IsFirstFree choice taken k := by
  obtain ⟨n, hn, hfree⟩ := exists_free_choice h taken
  have hex : ∃ k, choice k ∉ taken := ⟨n, hfree⟩
  refine ⟨Nat.find hex, ?_, Nat.find_spec hex, fun i hi => not_not.mp (Nat.find_min hex hi)⟩
  exact Nat.le_trans (Nat.find_min' hex hfree) (Nat.le_of_lt_succ (List.mem_range.mp hn))

theorem IsFirstFree.find?_range {choice : Nat → String} {taken : List String} {k n : Nat}
    (h : IsFirstFree choice taken k) (hk : k < n) :
    (List.range n).find? (fun i => !taken.contains (choice i)) = some k := by
  rw [List.find?_range_eq_some]
  refine ⟨by simpa using h.free, List.mem_range.mpr hk, fun i hi => ?_⟩
  simpa using h.passed i hi

namespace UniqueNames

theorem nextNumber_eq {taken : List String} {name : String} {last k : Nat}
    (h : IsFirstFree (fun k => name ++ toString (last + 1 + k)) taken k)
    (hk : k ≤ taken.length) : nextNumber taken name last = last + 1 + k := by
  rw [nextNumber, List.find?_map]
  exact congrArg (fun found => (found.map (last + 1 + ·)).getD (last + 1))
    (h.find?_range (Nat.lt_succ_of_le hk))

theorem nextNumber_not_mem (taken : List String) (name : String) (last : Nat) :
    name ++ toString (nextNumber taken name last) ∉ taken := by
  have hchoice : Function.Injective fun k => name ++ toString (last + 1 + k) :=
    (append_toString_injective name).comp fun _ _ h => Nat.add_left_cancel h
  obtain ⟨k, hk, hfirst⟩ := exists_isFirstFree hchoice taken
  rw [nextNumber_eq hfirst hk]
  exact hfirst.free

theorem assign_not_mem (names : UniqueNames) (name : String) :
    (names.assign name).1 ∉ names.taken := by
  unfold assign
  split
  · exact nextNumber_not_mem _ _ _
  · next h => simpa using h

theorem assign_of_not_mem {names : UniqueNames} {name : String} (h : name ∉ names.taken) :
    names.assign name = (name, { names with taken := name :: names.taken }) := by
  rw [assign, if_neg (by simpa using h)]

/-- Different names that are free are given out as they are. -/
theorem assignAll_of_nodup {names : UniqueNames} {wanted : List String} (h : wanted.Nodup)
    (hfree : ∀ name ∈ wanted, name ∉ names.taken) : names.assignAll wanted = wanted := by
  induction wanted generalizing names with
  | nil => rfl
  | cons name wanted ih =>
    obtain ⟨hname, hwanted⟩ := List.nodup_cons.mp h
    rw [List.forall_mem_cons] at hfree
    rw [assignAll, assign_of_not_mem hfree.1]
    refine congrArg (name :: ·) (ih hwanted fun other hother hmem => ?_)
    rcases List.mem_cons.mp hmem with rfl | htaken
    · exact hname hother
    · exact hfree.2 other hother htaken

theorem assign_taken (names : UniqueNames) (name : String) :
    (names.assign name).2.taken = (names.assign name).1 :: names.taken := by
  unfold assign
  split <;> rfl

end UniqueNames

end Companion.Naming
