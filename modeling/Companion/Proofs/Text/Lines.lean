import Mathlib.Data.List.DropRight
import Mathlib.Data.List.TakeWhile
import Companion.Options
import Companion.Text.Search

/-!
# Lines and what stands around them

Trimming takes characters of one class off both ends of a text, so it loses none of the others, and
a character of the class is left exactly if it stands between two others. Neither does cutting a
text into lines lose anything but the line breaks.

A printed text is shown in lines that end at a line feed, at a carriage return, or at both. A text
that was printed line by line is shown in the same lines exactly if none of them has a line break
inside.
-/

namespace Companion.Text

variable {drop : Char → Bool}

/-! ## Trimming -/

/-- What trimming takes away. -/
theorem exists_eq_trimBy (drop : Char → Bool) (s : List Char) : ∃ before after,
    s = before ++ trimBy drop s ++ after ∧ (∀ c ∈ before, drop c = true) ∧
      ∀ c ∈ after, drop c = true := by
  let rest := s.dropWhile drop
  refine ⟨s.takeWhile drop, (rest.reverse.takeWhile drop).reverse, ?_, ?_, ?_⟩
  · have hrest : (rest.reverse.dropWhile drop).reverse ++ (rest.reverse.takeWhile drop).reverse =
        rest := by
      rw [← List.reverse_append, List.takeWhile_append_dropWhile, List.reverse_reverse]
    rw [List.append_assoc, trimBy, hrest, List.takeWhile_append_dropWhile]
  · exact fun c hc => List.mem_takeWhile_imp hc
  · exact fun c hc => List.mem_takeWhile_imp (List.mem_reverse.mp hc)

theorem drop_of_head?_trimBy {s : List Char} {c : Char} (h : (trimBy drop s).head? = some c) :
    drop c = false := by
  have hprefix : trimBy drop s <+: s.dropWhile drop := List.rdropWhile_prefix drop _
  obtain ⟨rest, hrest⟩ := List.head?_eq_some_iff.mp h
  obtain ⟨after, hafter⟩ := hprefix
  have hne := List.head?_dropWhile_not drop s
  rw [← hafter, hrest, List.cons_append, List.head?_cons] at hne
  simpa using hne

theorem drop_of_getLast?_trimBy {s : List Char} {c : Char}
    (h : (trimBy drop s).getLast? = some c) : drop c = false := by
  rw [trimBy, List.getLast?_reverse] at h
  have hne := List.head?_dropWhile_not drop (s.dropWhile drop).reverse
  rw [h] at hne
  simpa using hne

/-- Trimming loses only characters of the class. -/
theorem filter_trimBy (drop : Char → Bool) (s : List Char) :
    (trimBy drop s).filter (!drop ·) = s.filter (!drop ·) := by
  obtain ⟨before, after, hs, hbefore, hafter⟩ := exists_eq_trimBy drop s
  have hnone {cs : List Char} (h : ∀ c ∈ cs, drop c = true) : cs.filter (!drop ·) = [] := by
    simpa [List.filter_eq_nil_iff] using h
  conv_rhs => rw [hs]
  rw [List.filter_append, List.filter_append, hnone hbefore, hnone hafter, List.nil_append,
    List.append_nil]

/-- A character stands between two of a class, which need not be next to it. -/
def StandsBetween (around : Char → Bool) (c : Char) (s : List Char) : Prop :=
  ∃ left right, s = left ++ c :: right ∧ (∃ x ∈ left, around x = true) ∧
    ∃ x ∈ right, around x = true

theorem dropWhile_append_of_exists {left : List Char} (h : ∃ x ∈ left, drop x = false)
    (right : List Char) : (left ++ right).dropWhile drop = left.dropWhile drop ++ right := by
  rw [List.dropWhile_append, if_neg]
  rw [List.isEmpty_iff, List.dropWhile_eq_nil_iff]
  obtain ⟨x, hx, hdrop⟩ := h
  exact fun hall => by simp [hall x hx] at hdrop

/-- What trimming leaves of its own class. -/
theorem mem_trimBy_iff {s : List Char} {c : Char} (hc : drop c = true) :
    c ∈ trimBy drop s ↔ StandsBetween (!drop ·) c s := by
  simp only [StandsBetween, Bool.not_eq_true']
  constructor
  · intro hmem
    obtain ⟨before, after, hs, -, -⟩ := exists_eq_trimBy drop s
    obtain ⟨left, right, htrim⟩ := List.append_of_mem hmem
    refine ⟨before ++ left, right ++ after, by rw [hs, htrim]; simp, ?_, ?_⟩
    · cases left with
      | nil =>
        have hfirst : (trimBy drop s).head? = some c := by rw [htrim]; rfl
        simp [drop_of_head?_trimBy hfirst] at hc
      | cons x left =>
        have hfirst : (trimBy drop s).head? = some x := by rw [htrim]; rfl
        exact ⟨x, by simp, drop_of_head?_trimBy hfirst⟩
    · rcases List.eq_nil_or_concat' right with rfl | ⟨right, x, rfl⟩
      · have hlast : (trimBy drop s).getLast? = some c := by rw [htrim, List.getLast?_concat]
        simp [drop_of_getLast?_trimBy hlast] at hc
      · have hlast : (trimBy drop s).getLast? = some x := by
          rw [htrim, ← List.cons_append, ← List.append_assoc, List.getLast?_concat]
        exact ⟨x, by simp, drop_of_getLast?_trimBy hlast⟩
  · rintro ⟨left, right, rfl, hleft, hright⟩
    have hright' : ∃ x ∈ right.reverse, drop x = false := by simpa using hright
    rw [trimBy, dropWhile_append_of_exists hleft, List.reverse_append, List.reverse_cons,
      List.append_assoc, dropWhile_append_of_exists hright']
    simp

/-- Neither end of a text is in a class. -/
def TrimmedBy (drop : Char → Bool) (s : List Char) : Prop :=
  (∀ c ∈ s.head?, drop c = false) ∧ ∀ c ∈ s.getLast?, drop c = false

theorem dropWhile_of_head? {s : List Char} (h : ∀ c ∈ s.head?, drop c = false) :
    s.dropWhile drop = s := by
  cases s with
  | nil => rfl
  | cons c s => rw [List.dropWhile_cons_of_neg (by simp [h c rfl])]

/-- Trimming finds a text with characters of the class around it. -/
theorem trimBy_append {before s after : List Char} (hs : TrimmedBy drop s)
    (hbefore : ∀ c ∈ before, drop c = true) (hafter : ∀ c ∈ after, drop c = true) :
    trimBy drop (before ++ s ++ after) = s := by
  obtain ⟨hfirst, hlast⟩ := hs
  rw [trimBy, List.append_assoc, List.dropWhile_append_of_pos hbefore]
  cases s with
  | nil =>
    rw [List.nil_append, List.dropWhile_eq_nil_iff.mpr hafter]
    rfl
  | cons c s =>
    have hafter' : ∀ x ∈ after.reverse, drop x = true := by simpa using hafter
    have hlast' : ∀ x ∈ (c :: s).reverse.head?, drop x = false := by
      rwa [List.head?_reverse]
    have hfirst' : ∀ x ∈ (c :: s ++ after).head?, drop x = false := hfirst
    rw [dropWhile_of_head? hfirst', List.reverse_append, List.dropWhile_append_of_pos hafter',
      dropWhile_of_head? hlast', List.reverse_reverse]

/-! ## Lines -/

/-- Cutting a text into lines loses only the line breaks. -/
theorem filter_flatten_lines {keep : Char → Bool} (hlf : keep '\n' = false)
    (hcr : keep '\r' = false) (text : List Char) :
    (lines text).flatten.filter keep = text.filter keep := by
  fun_induction lines text with
  | case1 => rfl
  | case2 text ih => simpa [hlf] using ih
  | case3 text ih => simpa [hlf, hcr] using ih
  | case4 c text _ _ hnil ih =>
    rw [hnil, List.flatten_nil, List.filter_nil] at ih
    simp [List.filter_cons, ← ih]
  | case5 c text _ _ line more hcons ih =>
    rw [hcons] at ih
    rw [List.flatten_cons, List.filter_append] at ih ⊢
    rw [List.filter_cons, List.filter_cons, ← ih]
    split <;> simp

/-! ## Shown lines -/

def isLineBreak (c : Char) : Bool := c = '\n' || c = '\r'

/-- The lines in which a text is shown. A line ends at a line feed, at a carriage return, or at a
carriage return and a line feed. -/
def shownLines : List Char → List (List Char)
  | [] => []
  | '\r' :: '\n' :: text => [] :: shownLines text
  | c :: text =>
    if isLineBreak c then [] :: shownLines text
    else
      match shownLines text with
      | [] => [[c]]
      | line :: more => (c :: line) :: more

theorem shownLines_ending (ending : LineEnding) (rest : List Char) :
    shownLines (ending.text.toList ++ rest) = [] :: shownLines rest := by
  cases ending <;> simp [LineEnding.text, shownLines, isLineBreak]

theorem shownLines_of_break {c : Char} {text : List Char} (hc : isLineBreak c = true)
    (hnext : c = '\r' → text.head? ≠ some '\n') : shownLines (c :: text) = [] :: shownLines text := by
  rw [shownLines]
  · rw [if_pos hc]
  · rintro text' hc' rfl
    exact hnext hc' rfl

theorem shownLines_of_not_break {c : Char} {text line : List Char} {more : List (List Char)}
    (hc : isLineBreak c = false) (h : shownLines text = line :: more) :
    shownLines (c :: text) = (c :: line) :: more := by
  rw [shownLines]
  · simp [hc, h]
  · rintro text' rfl
    simp [isLineBreak] at hc

/-- A line without a break in it is shown as it is. -/
theorem shownLines_line {line : List Char} (h : ∀ c ∈ line, isLineBreak c = false)
    (ending : LineEnding) (rest : List Char) :
    shownLines (line ++ (ending.text.toList ++ rest)) = line :: shownLines rest := by
  induction line with
  | nil => exact shownLines_ending ending rest
  | cons c line ih =>
    rw [List.forall_mem_cons] at h
    exact shownLines_of_not_break h.1 (ih h.2)

/-- A line that does not end in a carriage return is shown in at least one line, and in more if it
has a break in it. -/
theorem length_shownLines {line : List Char} (hend : line.getLast? ≠ some '\r')
    (ending : LineEnding) (rest : List Char) :
    (shownLines rest).length + 1 ≤
        (shownLines (line ++ (ending.text.toList ++ rest))).length ∧
      ((∃ c ∈ line, isLineBreak c = true) → (shownLines rest).length + 2 ≤
        (shownLines (line ++ (ending.text.toList ++ rest))).length) := by
  have htail {c : Char} {line : List Char} (h : (c :: line).getLast? ≠ some '\r') :
      line.getLast? ≠ some '\r' := fun hlast => h (by simp [List.getLast?_cons, hlast])
  fun_induction shownLines line with
  | case1 => simp [shownLines_ending]
  | case2 line ih =>
    have hrest := (ih (htail (htail hend))).1
    simp only [List.cons_append, shownLines, List.length_cons]
    omega
  | case3 c line hcrlf hbreak ih =>
    have hrest := (ih (htail hend)).1
    have hnext : c = '\r' → (line ++ (ending.text.toList ++ rest)).head? ≠ some '\n' := by
      rintro rfl
      cases line with
      | nil => simp at hend
      | cons d line =>
        rintro ⟨⟩
        exact hcrlf line rfl rfl
    rw [List.cons_append, shownLines_of_break hbreak hnext, List.length_cons]
    omega
  | case4 c line _ hbreak _ ih | case5 c line _ hbreak _ _ _ ih =>
    obtain ⟨hleast, hmore⟩ := ih (htail hend)
    obtain ⟨first, others, hshown⟩ : ∃ first others,
        shownLines (line ++ (ending.text.toList ++ rest)) = first :: others :=
      List.exists_cons_of_length_pos (by omega)
    have hc : isLineBreak c = false := by simpa using hbreak
    rw [List.cons_append, shownLines_of_not_break hc hshown]
    rw [hshown] at hleast hmore
    exact ⟨hleast, fun hexists => hmore (by simpa [hc] using hexists)⟩

theorem length_shownLines_flatMap {texts : List (List Char)}
    (hend : ∀ line ∈ texts, line.getLast? ≠ some '\r') (ending : LineEnding) :
    texts.length ≤ (shownLines (texts.flatMap (· ++ ending.text.toList))).length ∧
      ((∃ line ∈ texts, ∃ c ∈ line, isLineBreak c = true) →
        texts.length < (shownLines (texts.flatMap (· ++ ending.text.toList))).length) := by
  induction texts with
  | nil => simp
  | cons line texts ih =>
    rw [List.forall_mem_cons] at hend
    obtain ⟨hleast, hmore⟩ := ih hend.2
    obtain ⟨hleast', hmore'⟩ :=
      length_shownLines hend.1 ending (texts.flatMap (· ++ ending.text.toList))
    rw [List.flatMap_cons, List.append_assoc, List.length_cons]
    refine ⟨by omega, ?_⟩
    rw [List.exists_mem_cons_iff]
    rintro (hbreak | hbreak)
    · have := hmore' hbreak
      omega
    · have := hmore hbreak
      omega

/-- Lines that do not end in a carriage return and are printed one after the other are shown as they
are exactly if no line has a break in it. -/
theorem shownLines_flatMap_iff {texts : List (List Char)}
    (hend : ∀ line ∈ texts, line.getLast? ≠ some '\r') (ending : LineEnding) :
    shownLines (texts.flatMap (· ++ ending.text.toList)) = texts ↔
      ∀ line ∈ texts, ∀ c ∈ line, isLineBreak c = false := by
  constructor
  · intro hshown line hline c hc
    by_contra hbreak
    -- a break inside a line would make too many lines
    have hlt := (length_shownLines_flatMap hend ending).2 ⟨line, hline, c, hc, by simpa using hbreak⟩
    rw [hshown] at hlt
    exact absurd hlt (Nat.lt_irrefl _)
  · intro hplain
    clear hend
    induction texts with
    | nil => rfl
    | cons line texts ih =>
      rw [List.forall_mem_cons] at hplain
      rw [List.flatMap_cons, List.append_assoc, shownLines_line hplain.1, ih hplain.2]

end Companion.Text
