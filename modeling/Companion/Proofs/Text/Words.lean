import Companion.Proofs.Text.Search
import Companion.Text.Words

/-!
# Characters of a name in lower camel case

A name in lower camel case has nothing between its words: of the characters of the name only letters
and numbers are left, and casing does not bring others back. A name that starts with a capital
starts with a small letter afterwards.
-/

namespace Companion.Text

/-! ## The basic alphabet -/

theorem char_isUpper_iff {c : Char} : c.isUpper = true ↔ 65 ≤ c.toNat ∧ c.toNat ≤ 90 :=
  decide_eq_true_iff.trans (and_congr UInt32.le_iff_toNat_le UInt32.le_iff_toNat_le)

theorem char_isLower_iff {c : Char} : c.isLower = true ↔ 97 ≤ c.toNat ∧ c.toNat ≤ 122 :=
  Bool.and_eq_true_iff.trans (and_congr (decide_eq_true_iff.trans UInt32.le_iff_toNat_le)
    (decide_eq_true_iff.trans UInt32.le_iff_toNat_le))

theorem toNat_ofNat (n : Nat) : (Char.ofNat n).toNat = if n.isValidChar then n else 0 := by
  by_cases h : n.isValidChar
  · rw [Char.ofNat, dif_pos h, if_pos h]
    rfl
  · rw [Char.ofNat, dif_neg h, if_neg h]
    rfl

/-! ## Case maps -/

/-- The images of a shifted run lie around a code point. -/
def Shift.spans (s : Shift) (n : Nat) : Bool := s.first + s.offset ≤ n && n ≤ s.last + s.offset

theorem toNat_eq_of_ofNat_eq {n : Nat} {x : Char} (h : Char.ofNat n = x) (hx : x.toNat ≠ 0) :
    n = x.toNat := by
  subst h
  rw [toNat_ofNat] at hx ⊢
  by_cases hvalid : n.isValidChar
  · rw [if_pos hvalid]
  · exact absurd (if_neg hvalid) hx

/-- The image of a character is the sequence for it, or it lies in a run and is shifted with it, or
it is its own image. -/
theorem mapCase_cases (sequences : List (Nat × List Nat)) (shifts : List Shift) (c : Char) :
    (∃ image, (c.toNat, image) ∈ sequences ∧
      mapCase sequences shifts c = image.map Char.ofNat) ∨
    (∃ s ∈ shifts, s.first ≤ c.toNat ∧ c.toNat ≤ s.last ∧
      mapCase sequences shifts c = [Char.ofNat (c.toNat + s.offset).toNat]) ∨
    mapCase sequences shifts c = [c] := by
  unfold mapCase
  split
  · next image himage =>
    obtain ⟨before, after, hentries, -⟩ := List.lookup_eq_some_iff.mp himage
    exact .inl ⟨image, by simp [hentries], rfl⟩
  · split
    · next s hs =>
      have hholds := List.find?_some hs
      simp only [Run.holds, Shift.run, Bool.and_eq_true] at hholds
      exact .inr (.inl ⟨s, List.mem_of_find?_eq_some hs, of_decide_eq_true hholds.1.1,
        of_decide_eq_true hholds.1.2, rfl⟩)
    · exact .inr (.inr rfl)

/-- A character to which no sequence and no shift leads has only itself to come from. -/
theorem eq_of_mem_mapCase {sequences : List (Nat × List Nat)} {shifts : List Shift} {x c : Char}
    (hx : x.toNat ≠ 0) (hsequences : ∀ entry ∈ sequences, x.toNat ∉ entry.2)
    (hshifts : ∀ s ∈ shifts, s.spans x.toNat = false) (h : x ∈ mapCase sequences shifts c) :
    x = c := by
  rcases mapCase_cases sequences shifts c with
    ⟨image, hentry, himage⟩ | ⟨s, hs, hfirst, hlast, himage⟩ | himage
  · rw [himage] at h
    obtain ⟨n, hn, hchar⟩ := List.mem_map.mp h
    exact absurd (toNat_eq_of_ofNat_eq hchar hx ▸ hn) (hsequences _ hentry)
  · rw [himage] at h
    have hreached := toNat_eq_of_ofNat_eq (List.mem_singleton.mp h).symm hx
    have hoff := hshifts s hs
    simp only [Shift.spans, Bool.and_eq_false_iff, decide_eq_false_iff_not] at hoff
    omega
  · rw [himage] at h
    exact List.mem_singleton.mp h

/-- No other character has this one in its lower or in its upper case. -/
def Uncased (x : Char) : Prop := ∀ c, x ∈ lower c ∨ x ∈ upper c → x = c

theorem uncased_of_tables {x : Char} (hx : x.toNat ≠ 0)
    (hsequences : ∀ entry ∈ lowerSequences ++ upperSequences, x.toNat ∉ entry.2)
    (hshifts : ∀ s ∈ lowerShifts ++ upperShifts, s.spans x.toNat = false) : Uncased x := by
  simp only [List.forall_mem_append] at hsequences hshifts
  rintro c (h | h)
  · exact eq_of_mem_mapCase hx hsequences.1 hshifts.1 h
  · exact eq_of_mem_mapCase hx hsequences.2 hshifts.2 h

theorem uncased_at : Uncased '@' :=
  uncased_of_tables (by decide) (by decide +kernel) (by decide +kernel)

theorem uncased_underscore : Uncased '_' :=
  uncased_of_tables (by decide) (by decide +kernel) (by decide +kernel)

/-- A capital of the basic alphabet has a small letter of it as its lower case. -/
theorem exists_lower_of_isUpper {c : Char} (h : c.isUpper = true) :
    ∃ d, lower c = [d] ∧ d.isLower = true := by
  have hbounds := char_isUpper_iff.mp h
  have hsequence : lowerSequences.lookup c.toNat = none := by
    have hne : (c.toNat == 0x130) = false := by
      rw [beq_eq_false_iff_ne]
      omega
    simp [lowerSequences, List.lookup_cons, hne]
  have hshift : lowerShifts.find? (·.run.holds c.toNat) = some ⟨0x41, 0x5A, 1, 32⟩ := by
    apply List.find?_cons_of_pos
    simp [Run.holds, Shift.run, hbounds.1, hbounds.2, Nat.mod_one]
  refine ⟨Char.ofNat (c.toNat + 32), ?_, ?_⟩
  · simp only [lower, mapCase, hsequence, hshift]
    rfl
  · have hvalid : (c.toNat + 32).isValidChar := .inl (by omega)
    rw [char_isLower_iff, toNat_ofNat, if_pos hvalid]
    omega

/-! ## Words -/

/-- Pieces are made of what stands between separators. -/
theorem mem_of_mem_splitBy {separates : Char → Bool} {text piece : List Char} {c : Char}
    (hpiece : piece ∈ splitBy separates text) (hc : c ∈ piece) :
    c ∈ text ∧ separates c = false := by
  induction text generalizing piece with
  | nil =>
    obtain rfl := List.mem_singleton.mp hpiece
    cases hc
  | cons d text ih =>
    obtain ⟨first, others, hpieces⟩ := List.exists_cons_of_ne_nil (splitBy_ne_nil text)
    rw [splitBy, hpieces] at hpiece
    rw [hpieces] at ih
    have hlater {piece : List Char} (hpiece : piece ∈ first :: others) (hc : c ∈ piece) :
        c ∈ d :: text ∧ separates c = false :=
      (ih hpiece hc).imp_left (List.mem_cons_of_mem d)
    split at hpiece
    · rcases List.mem_cons.mp hpiece with rfl | hpiece
      · cases hc
      · exact hlater hpiece hc
    · next hd =>
      rcases List.mem_cons.mp hpiece with rfl | hpiece
      · rcases List.mem_cons.mp hc with rfl | hc
        · exact ⟨List.mem_cons_self, by simpa using hd⟩
        · exact hlater List.mem_cons_self hc
      · exact hlater (List.mem_cons_of_mem first hpiece) hc

/-- Words are made of what is read. -/
theorem mem_of_mem_wordsFrom {mode : WordCase} {word text w : List Char} {c : Char}
    (hw : w ∈ wordsFrom mode word text) (hc : c ∈ w) : c ∈ word ++ text := by
  fun_induction wordsFrom mode word text generalizing w with
  | case1 => cases hw
  | case2 mode word d =>
    obtain rfl := List.mem_singleton.mp hw
    exact hc
  | case3 mode word d next rest =>
    rename_i ih
    rcases List.mem_cons.mp hw with rfl | hw
    · simp only [List.mem_append, List.mem_cons] at hc ⊢
      tauto
    · have hmem := ih hw hc
      simp only [List.nil_append, List.mem_append, List.mem_cons] at hmem ⊢
      tauto
  | case4 mode word d next rest =>
    rename_i ih
    rcases List.mem_cons.mp hw with rfl | hw
    · exact List.mem_append_left _ hc
    · have hmem := ih hw hc
      simp only [List.singleton_append, List.mem_append, List.mem_cons] at hmem ⊢
      tauto
  | case5 mode word d next rest =>
    rename_i ih
    have hmem := ih hw hc
    rwa [List.append_assoc, List.singleton_append] at hmem

/-- Words are made of the letters and numbers of the name. -/
theorem mem_of_mem_words {name w : List Char} {c : Char} (hw : w ∈ words name) (hc : c ∈ w) :
    c ∈ name ∧ isAlphanumeric c = true := by
  obtain ⟨piece, hpiece, hw⟩ := List.mem_flatMap.mp hw
  have hmem : c ∈ piece := mem_of_mem_wordsFrom hw hc
  simpa using mem_of_mem_splitBy hpiece hmem

/-- What has been read of a word stays in front of it. -/
theorem exists_wordsFrom_cons (mode : WordCase) (d : Char) (word : List Char) {text : List Char}
    (h : text ≠ []) : ∃ tail others, wordsFrom mode (d :: word) text = (d :: tail) :: others := by
  generalize hread : d :: word = read
  fun_induction wordsFrom mode read text generalizing word with
  | case1 => exact absurd rfl h
  | case2 | case3 | case4 =>
    subst hread
    exact ⟨_, _, rfl⟩
  | case5 mode read c next rest =>
    rename_i ih
    subst hread
    exact ih (word ++ [c]) (List.cons_ne_nil next rest) rfl

theorem exists_wordsFrom_start (c : Char) (text : List Char) :
    ∃ tail others, wordsFrom .start [] (c :: text) = (c :: tail) :: others := by
  generalize hread : c :: text = read
  fun_cases wordsFrom .start [] read with
  | case1 => cases hread
  | case2 =>
    cases hread
    exact ⟨[], [], rfl⟩
  | case3 =>
    cases hread
    exact ⟨_, _, rfl⟩
  | case4 _ _ _ _ _ hcapitals => simp at hcapitals
  | case5 d next rest =>
    cases hread
    exact exists_wordsFrom_cons _ c [] (List.cons_ne_nil next rest)

/-- The first word of a name that starts with a letter or number starts with it. -/
theorem exists_words_cons {c : Char} (hc : isAlphanumeric c = true) (name : List Char) :
    ∃ tail others, words (c :: name) = (c :: tail) :: others := by
  obtain ⟨piece, pieces, hpieces⟩ : ∃ piece pieces,
      splitBy (!isAlphanumeric ·) name = piece :: pieces :=
    List.exists_cons_of_ne_nil (splitBy_ne_nil name)
  have hsplit : splitBy (!isAlphanumeric ·) (c :: name) = (c :: piece) :: pieces := by
    simp [splitBy, hpieces, hc]
  obtain ⟨tail, others, hwords⟩ := exists_wordsFrom_start c piece
  refine ⟨tail, others ++ pieces.flatMap (wordsFrom .start []), ?_⟩
  rw [words, hsplit, List.flatMap_cons, hwords]
  rfl

/-! ## Lower camel case -/

theorem mem_lowerWord {x : Char} (hx : Uncased x) (hsigma : x ≠ 'ς') {w : List Char}
    (h : x ∈ lowerWord w) : x ∈ w := by
  fun_induction lowerWord w with
  | case1 => cases h
  | case2 =>
    exact absurd (List.mem_singleton.mp h) hsigma
  | case3 c _ => exact List.mem_singleton.mpr (hx c (.inl h))
  | case4 c next rest ih =>
    rcases List.mem_append.mp h with h | h
    · exact hx c (.inl h) ▸ List.mem_cons_self
    · exact List.mem_cons_of_mem _ (ih h)

theorem mem_capitalise {x : Char} (hx : Uncased x) (hsigma : x ≠ 'ς') {w : List Char}
    (h : x ∈ capitalise w) : x ∈ w := by
  cases w with
  | nil => cases h
  | cons c rest =>
    rcases List.mem_append.mp h with h | h
    · exact hx c (.inr h) ▸ List.mem_cons_self
    · exact List.mem_cons_of_mem _ (mem_lowerWord hx hsigma h)

/-- A character between words is gone. -/
theorem not_mem_lowerCamel {x : Char} (hx : Uncased x) (hsigma : x ≠ 'ς')
    (hseparates : isAlphanumeric x = false) (name : List Char) : x ∉ lowerCamel name := by
  intro h
  obtain ⟨w, hw, hmem⟩ : ∃ w ∈ words name, x ∈ w := by
    unfold lowerCamel at h
    split at h
    · cases h
    · next first others hwords =>
      rcases List.mem_append.mp h with h | h
      · exact ⟨first, by simp [hwords], mem_lowerWord hx hsigma h⟩
      · obtain ⟨w, hw, h⟩ := List.mem_flatMap.mp h
        exact ⟨w, by simp [hwords, hw], mem_capitalise hx hsigma h⟩
  rw [(mem_of_mem_words hw hmem).2] at hseparates
  cases hseparates

theorem isAlphanumeric_of_isUpper {c : Char} (h : c.isUpper = true) : isAlphanumeric c = true := by
  have hbounds := char_isUpper_iff.mp h
  have hrange : isAlphabetic c = true :=
    List.any_eq_true.mpr ⟨(0x41, 0x5A), List.mem_cons_self, by simp [hbounds.1, hbounds.2]⟩
  rw [isAlphanumeric, hrange, Bool.true_or]

/-- A name with a capital in front gets a small letter there. -/
theorem exists_lowerCamel_of_isUpper {c : Char} (h : c.isUpper = true) (name : List Char) :
    ∃ d tail, lowerCamel (c :: name) = d :: tail ∧ d.isLower = true := by
  obtain ⟨tail, others, hwords⟩ := exists_words_cons (isAlphanumeric_of_isUpper h) name
  obtain ⟨d, hlower, hd⟩ := exists_lower_of_isUpper h
  have hsigma : c ≠ 'Σ' := by
    rintro rfl
    exact absurd h (by decide)
  have hfirst : ∃ rest, lowerWord (c :: tail) = d :: rest := by
    cases tail with
    | nil => exact ⟨[], by rw [lowerWord, if_neg hsigma, hlower]⟩
    | cons next rest => exact ⟨lowerWord (next :: rest), by rw [lowerWord, hlower]; rfl⟩
  obtain ⟨rest, hrest⟩ := hfirst
  exact ⟨d, rest ++ others.flatMap capitalise, by simp [lowerCamel, hwords, hrest], hd⟩

end Companion.Text
