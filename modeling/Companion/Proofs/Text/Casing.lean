import Companion.Proofs.Text.Words

/-!
# Letters and numbers in lower camel case

Of letters and numbers only letters have a lower case, and with one exception it is a letter: that
of `İ` is an `i` with a mark, and the mark is neither a letter nor a number. So a name in lower camel
case starts with a letter exactly if the first letter or number of the name is a letter, and it is
made of letters and numbers exactly if no `İ` becomes small and every letter that becomes a capital
has a capital without marks.
-/

namespace Companion.Text

/-! ## Tables -/

/-- The code points of ranges, each as a bit of one number, so that whole tables can be compared. -/
def bits (ranges : List (Nat × Nat)) : Nat :=
  ranges.foldr (fun r bits => (1 <<< (r.2 + 1 - r.1) - 1) <<< r.1 ||| bits) 0

/-- The code points of a run, with those between them. -/
def Shift.source (s : Shift) : Nat × Nat := (s.first, s.last)

/-- The code points to which a run is shifted, with those between them. -/
def Shift.image (s : Shift) : Nat × Nat := ((s.first + s.offset).toNat, (s.last + s.offset).toNat)

/-- Whatever bits the first number has, the second has as well. -/
def Within (a b : Nat) : Prop := a ||| b = b

instance (a b : Nat) : Decidable (Within a b) := inferInstanceAs (Decidable (_ = _))

/-- The digits of the basic alphabet. -/
def basicDigits : List (Nat × Nat) := [('0'.toNat, '9'.toNat)]

/-- How the tables of letters, numbers and cases fit together. -/
structure TablesFit : Prop where
  letters : Within (bits alphabeticRanges) (bits [(0, 0xD7FF), (0xE000, 0x10FFFF)])
  digits : Within (bits basicDigits) (bits numericRanges)
  digits_letters : Within (bits basicDigits &&& bits alphabeticRanges) 0
  basic : Within (bits [(0, 127)] &&& bits numericRanges) (bits basicDigits)
  /-- Whatever has a lower case has a letter for it. -/
  lower_image : Within (bits (lowerShifts.map Shift.image)) (bits alphabeticRanges)
  /-- No number has a lower case, unless it is a letter as well. -/
  lower_source :
    Within (bits (lowerShifts.map Shift.source) &&& bits numericRanges) (bits alphabeticRanges)
  upper_sequences : ∀ entry ∈ upperSequences, 128 ≤ entry.1
  upper_image : ∀ s ∈ upperShifts, s.first < 128 → Within (bits [s.image]) (bits alphabeticRanges)
  /-- The mark in the lower case of `İ`. -/
  mark : isAlphanumeric (Char.ofNat 0x307) = false

theorem tablesFit : TablesFit where
  letters := by decide +kernel
  digits := by decide +kernel
  digits_letters := by decide +kernel
  basic := by decide +kernel
  lower_image := by decide +kernel
  lower_source := by decide +kernel
  upper_sequences := by decide +kernel
  upper_image := by decide +kernel
  mark := by decide +kernel

section

variable {ranges : List (Nat × Nat)} {shifts : List Shift} {s : Shift} {a b n : Nat} {c : Char}

theorem Within.testBit (h : Within a b) (hn : a.testBit n = true) : b.testBit n = true := by
  rw [← h, Nat.testBit_or, hn, Bool.true_or]

theorem testBit_and_of_testBit (ha : a.testBit n = true) (hb : b.testBit n = true) :
    (a &&& b).testBit n = true := by
  rw [Nat.testBit_and, ha, hb, Bool.and_self]

theorem testBit_bits :
    (bits ranges).testBit n = true ↔ ∃ r ∈ ranges, r.1 ≤ n ∧ n ≤ r.2 := by
  induction ranges with
  | nil => simp [bits]
  | cons r ranges ih =>
    have hstep : bits (r :: ranges) = (1 <<< (r.2 + 1 - r.1) - 1) <<< r.1 ||| bits ranges := rfl
    have hrange : (r.1 ≤ n ∧ n - r.1 < r.2 + 1 - r.1) ↔ r.1 ≤ n ∧ n ≤ r.2 := by omega
    rw [hstep, Nat.testBit_or, Bool.or_eq_true, ih, Nat.testBit_shiftLeft, Nat.one_shiftLeft,
      Nat.testBit_two_pow_sub_one, Bool.and_eq_true, decide_eq_true_eq, decide_eq_true_eq, hrange,
      List.exists_mem_cons_iff]

theorem inRanges_iff_testBit : inRanges ranges c = true ↔ (bits ranges).testBit c.toNat = true := by
  rw [testBit_bits]
  simp [inRanges]

theorem isDigit_iff_testBit : c.isDigit = true ↔ (bits basicDigits).testBit c.toNat = true := by
  rw [testBit_bits, Char.isDigit_iff_toNat]
  simp [basicDigits]

theorem testBit_source (hs : s ∈ shifts) (hfirst : s.first ≤ n) (hlast : n ≤ s.last) :
    (bits (shifts.map Shift.source)).testBit n = true :=
  testBit_bits.mpr ⟨s.source, List.mem_map_of_mem hs, hfirst, hlast⟩

theorem testBit_image (hs : s ∈ shifts) (hfirst : s.first ≤ n) (hlast : n ≤ s.last) :
    (bits (shifts.map Shift.image)).testBit (n + s.offset).toNat = true := by
  refine testBit_bits.mpr ⟨s.image, List.mem_map_of_mem hs, ?_, ?_⟩
  · simp only [Shift.image]
    omega
  · simp only [Shift.image]
    omega

/-! ## Letters, numbers and digits -/

theorem isAlphabetic_ofNat (h : (bits alphabeticRanges).testBit n = true) :
    isAlphabetic (Char.ofNat n) = true := by
  have fit := tablesFit
  have hvalid : n.isValidChar := by
    have hrange := testBit_bits.mp (fit.letters.testBit h)
    simp only [List.exists_mem_cons_iff, List.not_mem_nil, false_and, exists_false,
      or_false] at hrange
    unfold Nat.isValidChar
    omega
  refine inRanges_iff_testBit.mpr ?_
  rwa [toNat_ofNat, if_pos hvalid]

theorem isAlphanumeric_of_isAlphabetic (h : isAlphabetic c = true) : isAlphanumeric c = true := by
  rw [isAlphanumeric, h, Bool.true_or]

theorem isAlphanumeric_of_isDigit (h : c.isDigit = true) : isAlphanumeric c = true := by
  have fit := tablesFit
  have hnumeric : isNumeric c = true :=
    inRanges_iff_testBit.mpr (fit.digits.testBit (isDigit_iff_testBit.mp h))
  rw [isAlphanumeric, hnumeric, Bool.or_true]

theorem isDigit_of_isAlphabetic (h : isAlphabetic c = true) : c.isDigit = false := by
  have fit := tablesFit
  rw [← Bool.not_eq_true]
  intro hdigit
  have hboth := fit.digits_letters.testBit
    (testBit_and_of_testBit (isDigit_iff_testBit.mp hdigit) (inRanges_iff_testBit.mp h))
  rw [Nat.zero_testBit] at hboth
  cases hboth

theorem isAlphabetic_of_isNumeric_eq_false (h : isAlphanumeric c = true)
    (hnumeric : isNumeric c = false) : isAlphabetic c = true := by
  rwa [isAlphanumeric, hnumeric, Bool.or_false] at h

end

/-! ## The lower case of a character -/

/-- A character is its own lower case or has one that is a letter, and then the character is no
number unless it is a letter as well. The exception is `İ`. -/
theorem lower_cases (c : Char) :
    c = 'İ' ∨ lower c = [c] ∨
      ∃ d, lower c = [d] ∧ isAlphabetic d = true ∧
        (isNumeric c = true → isAlphabetic c = true) := by
  have fit := tablesFit
  rcases mapCase_cases lowerSequences lowerShifts c with
    ⟨image, hentry, -⟩ | ⟨s, hs, hfirst, hlast, himage⟩ | himage
  · left
    have htoNat : c.toNat = 0x130 := congrArg Prod.fst (List.mem_singleton.mp hentry)
    rw [← Char.ofNat_toNat c, htoNat]
  · refine .inr (.inr ⟨_, himage, ?_, fun hnumeric => ?_⟩)
    · exact isAlphabetic_ofNat (fit.lower_image.testBit (testBit_image hs hfirst hlast))
    · exact inRanges_iff_testBit.mpr (fit.lower_source.testBit
        (testBit_and_of_testBit (testBit_source hs hfirst hlast)
          (inRanges_iff_testBit.mp hnumeric)))
  · exact .inr (.inl himage)

theorem lower_dottedI : lower 'İ' = ['i', Char.ofNat 0x307] := rfl

theorem all_lower_iff {c : Char} (h : isAlphanumeric c = true) :
    (lower c).all isAlphanumeric = true ↔ c ≠ 'İ' := by
  have fit := tablesFit
  rcases lower_cases c with rfl | hsame | ⟨d, hd, hletter, -⟩
  · simp [lower_dottedI, fit.mark]
  · have hne : c ≠ 'İ' := by
      rintro rfl
      rw [lower_dottedI] at hsame
      cases hsame
    simp [hsame, h, hne]
  · have hne : c ≠ 'İ' := by
      rintro rfl
      rw [lower_dottedI] at hd
      cases hd
    simp [hd, isAlphanumeric_of_isAlphabetic hletter, hne]

/-- The lower case of a letter starts with a letter, and that of a number is the number. -/
theorem exists_lower_cons {c : Char} (h : isAlphanumeric c = true) :
    ∃ d rest, lower c = d :: rest ∧ isAlphabetic d = isAlphabetic c ∧ d.isDigit = c.isDigit := by
  rcases lower_cases c with rfl | hsame | ⟨d, hd, hletter, himp⟩
  · exact ⟨'i', _, lower_dottedI, by decide, rfl⟩
  · exact ⟨c, [], hsame, rfl, rfl⟩
  · have hc : isAlphabetic c = true := by
      cases hnumeric : isNumeric c with
      | true => exact himp hnumeric
      | false => exact isAlphabetic_of_isNumeric_eq_false h hnumeric
    exact ⟨d, [], hd, hletter.trans hc.symm,
      (isDigit_of_isAlphabetic hletter).trans (isDigit_of_isAlphabetic hc).symm⟩

/-! ## The basic alphabet -/

section

variable {c : Char} (hc : c.toNat < 128) (h : isAlphanumeric c = true)

include hc h

/-- The only numbers of the basic alphabet are its digits. -/
theorem isAlphabetic_or_isDigit : isAlphabetic c = true ∨ c.isDigit = true := by
  have fit := tablesFit
  rcases Bool.or_eq_true_iff.mp h with hletter | hnumber
  · exact .inl hletter
  · have hbasic : (bits [(0, 127)]).testBit c.toNat = true :=
      testBit_bits.mpr ⟨_, List.mem_cons_self, Nat.zero_le _, Nat.le_of_lt_succ hc⟩
    exact .inr (isDigit_iff_testBit.mpr (fit.basic.testBit
      (testBit_and_of_testBit hbasic (inRanges_iff_testBit.mp hnumber))))

theorem all_upper_of_lt : (upper c).all isAlphanumeric = true := by
  have fit := tablesFit
  rcases mapCase_cases upperSequences upperShifts c with
    ⟨image, hentry, -⟩ | ⟨s, hs, hfirst, hlast, himage⟩ | himage
  · exact absurd (fit.upper_sequences _ hentry) (Nat.not_le_of_lt hc)
  · have hcapital := fit.upper_image s hs (Nat.lt_of_le_of_lt hfirst hc)
    have hletter : isAlphabetic (Char.ofNat (c.toNat + s.offset).toNat) = true :=
      isAlphabetic_ofNat (hcapital.testBit
        (testBit_image (List.mem_singleton_self s) hfirst hlast))
    simp [upper, himage, isAlphanumeric_of_isAlphabetic hletter]
  · simp [upper, himage, h]

end

/-! ## Words -/

theorem words_cons_of_separates {c : Char} (h : isAlphanumeric c = false) (name : List Char) :
    words (c :: name) = words name := by
  simp [words, splitBy, h, wordsFrom]

theorem words_of_find?_eq_none {name : List Char} (h : name.find? isAlphanumeric = none) :
    words name = [] := by
  induction name with
  | nil => rfl
  | cons c name ih =>
    rw [List.find?_eq_none, List.forall_mem_cons] at h
    rw [words_cons_of_separates (by simpa using h.1)]
    exact ih (List.find?_eq_none.mpr h.2)

/-- The first word starts with the first letter or number. -/
theorem exists_words_of_find? {name : List Char} {c : Char}
    (h : name.find? isAlphanumeric = some c) :
    ∃ tail others, words name = (c :: tail) :: others := by
  induction name with
  | nil => cases h
  | cons d name ih =>
    cases hd : isAlphanumeric d with
    | true =>
      rw [List.find?_cons_of_pos hd] at h
      cases h
      exact exists_words_cons hd name
    | false =>
      rw [List.find?_cons_of_neg (by simp [hd])] at h
      rw [words_cons_of_separates hd]
      exact ih h

/-! ## Lower camel case -/

theorem all_lowerWord_iff {w : List Char} (h : ∀ c ∈ w, isAlphanumeric c = true) :
    (lowerWord w).all isAlphanumeric = true ↔ 'İ' ∉ w := by
  fun_induction lowerWord w with
  | case1 => simp
  | case2 => exact iff_of_true (by decide) (by decide)
  | case3 c _ =>
    rw [all_lower_iff (h c List.mem_cons_self), List.mem_singleton]
    exact ne_comm
  | case4 c next rest ih =>
    obtain ⟨hc, hrest⟩ := List.forall_mem_cons.mp h
    rw [List.all_append, Bool.and_eq_true, all_lower_iff hc, ih hrest]
    constructor
    · rintro ⟨hne, hmore⟩
      exact List.not_mem_cons_of_ne_of_not_mem hne.symm hmore
    · intro hnot
      exact ⟨(List.ne_of_not_mem_cons hnot).symm, List.not_mem_of_not_mem_cons hnot⟩

theorem exists_lowerWord_cons {c : Char} (h : isAlphanumeric c = true) (w : List Char) :
    ∃ d rest, lowerWord (c :: w) = d :: rest ∧
      isAlphabetic d = isAlphabetic c ∧ d.isDigit = c.isDigit := by
  obtain ⟨d, rest, hlower, hclass⟩ := exists_lower_cons h
  cases w with
  | nil =>
    by_cases hsigma : c = 'Σ'
    · subst hsigma
      exact ⟨'ς', [], rfl, by decide, rfl⟩
    · exact ⟨d, rest, by rw [lowerWord, if_neg hsigma, hlower], hclass⟩
  | cons next w => exact ⟨d, rest ++ lowerWord (next :: w), by rw [lowerWord, hlower]; rfl, hclass⟩

/-- In lower camel case the name starts as it did, if it does not start with separators. -/
theorem exists_lowerCamel_of_find? {name : List Char} {c : Char}
    (h : name.find? isAlphanumeric = some c) :
    ∃ d rest, lowerCamel name = d :: rest ∧
      isAlphabetic d = isAlphabetic c ∧ d.isDigit = c.isDigit := by
  obtain ⟨tail, others, hwords⟩ := exists_words_of_find? h
  obtain ⟨d, rest, hlower, hclass⟩ := exists_lowerWord_cons (List.find?_some h) tail
  exact ⟨d, rest ++ others.flatMap capitalise, by simp [lowerCamel, hwords, hlower], hclass⟩

theorem lowerCamel_of_find?_eq_none {name : List Char} (h : name.find? isAlphanumeric = none) :
    lowerCamel name = [] := by
  simp [lowerCamel, words_of_find?_eq_none h]

/-- No `İ` becomes small, and what becomes a capital has one without marks. -/
structure CasedWithinLetters (name : List Char) : Prop where
  lowered : ∀ first ∈ (words name).head?, 'İ' ∉ first
  capitalised : ∀ w ∈ (words name).tail,
    (∀ c ∈ w.head?, (upper c).all isAlphanumeric = true) ∧ 'İ' ∉ w.tail

theorem casedWithinLetters_of_forall {name : List Char}
    (h : ∀ c ∈ name, isAlphanumeric c = true → c ≠ 'İ' ∧ (upper c).all isAlphanumeric = true) :
    CasedWithinLetters name := by
  have hwords {w : List Char} (hw : w ∈ words name) {c : Char} (hc : c ∈ w) :=
    h c (mem_of_mem_words hw hc).1 (mem_of_mem_words hw hc).2
  refine ⟨fun first hfirst hmem => ?_, fun w hw => ⟨fun c hc => ?_, fun hmem => ?_⟩⟩
  · exact (hwords (List.mem_of_mem_head? hfirst) hmem).1 rfl
  · exact (hwords (List.mem_of_mem_tail hw) (List.mem_of_mem_head? hc)).2
  · exact (hwords (List.mem_of_mem_tail hw) (List.mem_of_mem_tail hmem)).1 rfl

theorem all_capitalise_iff {w : List Char} (h : ∀ c ∈ w, isAlphanumeric c = true) :
    (capitalise w).all isAlphanumeric = true ↔
      (∀ c ∈ w.head?, (upper c).all isAlphanumeric = true) ∧ 'İ' ∉ w.tail := by
  cases w with
  | nil => simp [capitalise]
  | cons c rest =>
    have hrest := (List.forall_mem_cons.mp h).2
    rw [capitalise, List.all_append, Bool.and_eq_true, all_lowerWord_iff hrest]
    simp

theorem all_lowerCamel_iff (name : List Char) :
    (lowerCamel name).all isAlphanumeric = true ↔ CasedWithinLetters name := by
  have hwords : ∀ w ∈ words name, ∀ c ∈ w, isAlphanumeric c = true :=
    fun w hw c hc => (mem_of_mem_words hw hc).2
  unfold lowerCamel
  split
  · next hnone => exact iff_of_true rfl ⟨by simp [hnone], by simp [hnone]⟩
  · next first others hsome =>
    rw [hsome] at hwords
    obtain ⟨hfirst, hothers⟩ := List.forall_mem_cons.mp hwords
    rw [List.all_append, Bool.and_eq_true, all_lowerWord_iff hfirst, List.all_flatMap,
      List.all_eq_true]
    constructor
    · rintro ⟨hlowered, hcapitalised⟩
      refine ⟨by simpa [hsome] using hlowered, fun w hw => ?_⟩
      rw [hsome] at hw
      exact (all_capitalise_iff (hothers w hw)).mp (hcapitalised w hw)
    · rintro ⟨hlowered, hcapitalised⟩
      refine ⟨hlowered first (by simp [hsome]), fun w hw => ?_⟩
      exact (all_capitalise_iff (hothers w hw)).mpr (hcapitalised w (by simpa [hsome] using hw))

end Companion.Text
