import Mathlib.Data.List.Basic
import Companion.Text.Search

/-!
# Pieces of a text

The pieces between separators are those of the parts around any one separator, and a text comes back
when its pieces are joined again. A mark occurs in a text exactly if it is a part of it, and a cut is
made where it occurs first.
-/

namespace Companion.Text

variable {separates : Char → Bool}

theorem splitBy_ne_nil (text : List Char) : splitBy separates text ≠ [] := by
  unfold splitBy
  split
  · simp
  · split
    · simp
    · split <;> simp

theorem splitBy_of_none {text : List Char} (h : ∀ c ∈ text, separates c = false) :
    splitBy separates text = [text] := by
  induction text with
  | nil => rfl
  | cons c text ih =>
    rw [List.forall_mem_cons] at h
    simp [splitBy, h.1, ih h.2]

theorem splitBy_append_cons {c : Char} (hc : separates c = true) (left right : List Char) :
    splitBy separates (left ++ c :: right) =
      splitBy separates left ++ splitBy separates right := by
  induction left with
  | nil => simp [splitBy, hc]
  | cons d left ih =>
    rw [List.cons_append, splitBy, splitBy, ih]
    split
    · rfl
    · cases hleft : splitBy separates left with
      | nil => exact absurd hleft (splitBy_ne_nil left)
      | cons piece pieces => rfl

theorem intercalate_splitBy (c : Char) (text : List Char) :
    [c].intercalate (splitBy (· = c) text) = text := by
  induction text with
  | nil => rfl
  | cons x text ih =>
    obtain ⟨piece, pieces, hpieces⟩ := List.exists_cons_of_ne_nil (splitBy_ne_nil text)
    rw [splitBy]
    rw [hpieces] at ih ⊢
    split
    · next hx =>
      obtain rfl : x = c := of_decide_eq_true hx
      rw [List.intercalate_cons_cons, ih]
      rfl
    · rw [← ih]
      cases pieces with
      | nil => simp
      | cons => simp [List.intercalate_cons_cons]

/-! ## Occurrences -/

theorem after?_isSome_iff {lead text : List Char} :
    (after? lead text).isSome = true ↔ lead <+: text := by
  induction lead generalizing text with
  | nil => simp [after?]
  | cons l lead ih =>
    cases text with
    | nil => simp [after?]
    | cons c text =>
      rw [after?, List.cons_prefix_cons]
      split
      · next hc => rw [ih, and_iff_right hc]
      · next hc => simp [hc]

theorem occurs_iff_isInfix {mark text : List Char} : occurs mark text = true ↔ mark <:+: text := by
  unfold occurs
  induction text with
  | nil => rw [cut?, Option.isSome_map, after?_isSome_iff, List.prefix_nil, List.infix_nil]
  | cons c text ih =>
    rw [cut?, List.infix_cons_iff, ← after?_isSome_iff]
    cases after? mark (c :: text) with
    | some rest => simp
    | none => simpa using ih

/-! ## Cuts -/

theorem after?_eq_some_iff {lead text rest : List Char} :
    after? lead text = some rest ↔ text = lead ++ rest := by
  induction lead generalizing text with
  | nil => simp [after?]
  | cons l lead ih =>
    cases text with
    | nil => simp [after?]
    | cons c text =>
      rw [after?, List.cons_append, List.cons.injEq, ← ih]
      split
      · next hc => rw [and_iff_right hc.symm]
      · next hc => simp [Ne.symm hc]

theorem before?_eq_some_iff {tail text left : List Char} :
    before? tail text = some left ↔ text = left ++ tail := by
  rw [before?, Option.map_eq_some_iff]
  constructor
  · rintro ⟨rest, hrest, rfl⟩
    have hreverse := congrArg List.reverse (after?_eq_some_iff.mp hrest)
    simpa using hreverse
  · rintro rfl
    exact ⟨left.reverse, after?_eq_some_iff.mpr (by simp), List.reverse_reverse left⟩

theorem after?_eq_none_iff {lead text : List Char} :
    after? lead text = none ↔ ¬lead <+: text := by
  rw [← after?_isSome_iff, Bool.not_eq_true, Option.isSome_eq_false_iff, Option.isNone_iff_eq_none]

/-- The first occurrence of `mark` in a text stands between `left` and `right`. -/
structure CutsAt (mark text left right : List Char) : Prop where
  eq : text = left ++ mark ++ right
  first : ∀ left' right', text = left' ++ mark ++ right' → left.length ≤ left'.length

theorem cut?_eq_none_iff {mark text : List Char} : cut? mark text = none ↔ ¬mark <:+: text := by
  rw [← occurs_iff_isInfix, occurs, Bool.not_eq_true, Option.isSome_eq_false_iff,
    Option.isNone_iff_eq_none]

theorem cutsAt_of_cut? {mark text left right : List Char}
    (h : cut? mark text = some (left, right)) : CutsAt mark text left right := by
  induction text generalizing left with
  | nil =>
    simp only [cut?, Option.map_eq_some_iff, Prod.mk.injEq] at h
    obtain ⟨rest, hrest, rfl, rfl⟩ := h
    exact ⟨by simpa using after?_eq_some_iff.mp hrest, fun _ _ _ => Nat.zero_le _⟩
  | cons c text ih =>
    rw [cut?] at h
    split at h
    · next rest hrest =>
      cases h
      exact ⟨by simpa using after?_eq_some_iff.mp hrest, fun _ _ _ => Nat.zero_le _⟩
    · next hnone =>
      simp only [Option.map_eq_some_iff, Prod.mk.injEq, Prod.exists] at h
      obtain ⟨l, r, hcut, rfl, rfl⟩ := h
      obtain ⟨heq, hfirst⟩ := ih hcut
      refine ⟨by simp [heq], fun left' right' h' => ?_⟩
      cases left' with
      | nil =>
        rw [List.nil_append, ← after?_eq_some_iff, hnone] at h'
        cases h'
      | cons c' left' =>
        rw [List.cons_append, List.cons_append, List.cons.injEq] at h'
        exact Nat.succ_le_succ (hfirst left' right' h'.2)

theorem cut?_eq_some_iff {mark text left right : List Char} :
    cut? mark text = some (left, right) ↔ CutsAt mark text left right := by
  refine ⟨cutsAt_of_cut?, fun h => ?_⟩
  cases hcut : cut? mark text with
  | none => exact absurd ⟨left, right, h.eq.symm⟩ (cut?_eq_none_iff.mp hcut)
  | some pieces =>
    obtain ⟨l, r⟩ := pieces
    obtain ⟨heq, hfirst⟩ := cutsAt_of_cut? hcut
    -- two first occurrences stand at the same place
    have hlength : l.length = left.length :=
      Nat.le_antisymm (hfirst left right h.eq) (h.first l r heq)
    have hpieces := h.eq.symm.trans heq
    rw [List.append_assoc, List.append_assoc] at hpieces
    obtain ⟨rfl, hright⟩ := List.append_inj hpieces hlength.symm
    rw [List.append_cancel_left hright]

theorem cut?_singleton {c : Char} {left : List Char} (h : c ∉ left) (right : List Char) :
    cut? [c] (left ++ c :: right) = some (left, right) := by
  induction left with
  | nil => simp [cut?, after?]
  | cons d left ih =>
    obtain ⟨hd, hleft⟩ : c ≠ d ∧ c ∉ left := by simpa using h
    rw [List.cons_append, cut?, after?, if_neg hd, ih hleft]
    rfl

end Companion.Text
