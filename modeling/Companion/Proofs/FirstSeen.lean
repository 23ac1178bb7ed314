import Mathlib.Data.List.Perm.Basic
import Mathlib.Data.List.Nodup

/-!
# First occurrences

Lists of imports and of modifiers are made from texts that come one by one, some of them again and
again. What such a list has to be is said by `FirstSeen`; no other list is (`FirstSeen.unique`). A
text that comes next is passed over (`FirstSeen.pass`) or kept behind the others
(`FirstSeen.keep`).
-/

namespace Companion

/-- Of all texts in a list, those that are wanted, each once and in the order in which they are
first met. -/
structure FirstSeen (wanted : String → Prop) (all kept : List String) : Prop where
  mem_iff : ∀ text, text ∈ kept ↔ text ∈ all ∧ wanted text
  nodup : kept.Nodup
  ordered : kept.Pairwise fun first second => all.idxOf first < all.idxOf second

namespace FirstSeen

variable {wanted : String → Prop} {all kept kept' : List String} {text : String}

theorem nil : FirstSeen wanted [] [] := ⟨by simp, List.nodup_nil, .nil⟩

/-- A text more does not change the order of those before it. -/
theorem ordered_concat (h : FirstSeen wanted all kept) (text : String) :
    kept.Pairwise fun first second =>
      (all ++ [text]).idxOf first < (all ++ [text]).idxOf second := by
  refine h.ordered.imp_of_mem fun hfirst hsecond hlt => ?_
  rwa [List.idxOf_append_of_mem ((h.mem_iff _).mp hfirst).1,
    List.idxOf_append_of_mem ((h.mem_iff _).mp hsecond).1]

/-- What is not wanted, or was met before, changes nothing. -/
theorem pass (h : FirstSeen wanted all kept) (hpass : ¬wanted text ∨ text ∈ kept) :
    FirstSeen wanted (all ++ [text]) kept where
  mem_iff other := by
    rw [h.mem_iff, List.mem_append, List.mem_singleton]
    constructor
    · exact fun ⟨hmem, hwanted⟩ => ⟨.inl hmem, hwanted⟩
    · rintro ⟨hmem | rfl, hwanted⟩
      · exact ⟨hmem, hwanted⟩
      · exact (h.mem_iff _).mp (hpass.resolve_left (not_not.mpr hwanted))
  nodup := h.nodup
  ordered := h.ordered_concat text

/-- What is wanted and was not met before comes last. -/
theorem keep (h : FirstSeen wanted all kept) (hwanted : wanted text) (hnew : text ∉ kept) :
    FirstSeen wanted (all ++ [text]) (kept ++ [text]) where
  mem_iff other := by
    rw [List.mem_append, List.mem_append, h.mem_iff, List.mem_singleton, or_and_right]
    refine or_congr_right (iff_self_and.mpr ?_)
    rintro rfl
    exact hwanted
  nodup := h.nodup.append (List.nodup_singleton text) (List.disjoint_singleton.mpr hnew)
  ordered := by
    have hunseen : text ∉ all := fun hmem => hnew ((h.mem_iff text).mpr ⟨hmem, hwanted⟩)
    refine List.pairwise_append.mpr
      ⟨h.ordered_concat text, List.pairwise_singleton _ text, ?_⟩
    intro first hfirst last hlast
    obtain rfl := List.mem_singleton.mp hlast
    have hseen : first ∈ all := ((h.mem_iff first).mp hfirst).1
    rw [List.idxOf_append_of_mem hseen, List.idxOf_append_of_notMem hunseen]
    exact Nat.lt_add_right _ (List.idxOf_lt_length_of_mem hseen)

/-- There is only one such list: the texts in it are determined, and so is their order. -/
theorem unique (h : FirstSeen wanted all kept) (h' : FirstSeen wanted all kept') :
    kept = kept' := by
  have hperm : kept.Perm kept' := by
    refine (List.perm_ext_iff_of_nodup h.nodup h'.nodup).mpr fun text => ?_
    rw [h.mem_iff, h'.mem_iff]
  refine hperm.eq_of_pairwise (fun first second _ _ hlt hgt => ?_) h.ordered h'.ordered
  exact absurd hlt (Nat.lt_asymm hgt)

end FirstSeen

end Companion
