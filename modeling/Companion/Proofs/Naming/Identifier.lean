import Companion.Naming

/-!
# Words and reserved words

A word goes on with word characters, so it stays one when more of them are added. Reserved words are
made of small letters, which tells other names from them. A name without a mark in front is an
identifier, once reserved words are escaped, exactly if it is a word.
-/

namespace Companion.Naming

variable {name : String} {c : Char} {cs : List Char}

/-! ## Words -/

/-- The characters of an identifier after the first. -/
def isWordChar (c : Char) : Bool := Text.isAlphanumeric c || c = '_'

theorem isIdentifier_of_head? (h : name.toList.head? ≠ some '@') :
    isIdentifier name = (isWord name.toList && !isKeyword name) := by
  unfold isIdentifier
  split
  · next body hname => simp [hname] at h
  · rfl

theorem isWordChar_of_isWord (h : isWord cs = true) : ∀ c ∈ cs, isWordChar c = true := by
  cases cs with
  | nil => simp
  | cons c cs =>
    simp only [isWord, Bool.and_eq_true, List.all_eq_true] at h
    refine List.forall_mem_cons.mpr ⟨?_, h.2⟩
    rw [isWordChar, Text.isAlphanumeric, Bool.or_right_comm, h.1, Bool.true_or]

theorem isIdentifier_of_mark {body : List Char} (h : name.toList = '@' :: body) :
    isIdentifier name = isWord body := by
  simp only [isIdentifier, h]

theorem isWord_append (hne : cs ≠ []) {more : List Char} (hmore : ∀ c ∈ more, isWordChar c = true) :
    isWord (cs ++ more) = isWord cs := by
  obtain ⟨first, rest, rfl⟩ := List.exists_cons_of_ne_nil hne
  have hall : (rest ++ more).all isWordChar = rest.all isWordChar := by
    rw [List.all_append, List.all_eq_true.mpr hmore, Bool.and_true]
  exact congrArg ((Text.isAlphabetic first || first = '_') && ·) hall

/-! ## Reserved words -/

/-- Reserved words are made of small letters of the basic alphabet. -/
theorem isKeyword_of_mem (hc : c ∈ name.toList) (hlower : c.isLower = false) :
    isKeyword name = false := by
  have hkeywords : ∀ keyword ∈ keywords, keyword.toList.all Char.isLower = true := by
    decide +kernel
  rw [← Bool.not_eq_true]
  intro hkeyword
  have hsmall := hkeywords name (List.contains_iff_mem.mp hkeyword)
  rw [List.all_eq_true.mp hsmall c hc] at hlower
  cases hlower

theorem escapeKeyword_of_mem (hc : c ∈ name.toList) (hlower : c.isLower = false) :
    escapeKeyword name = name := by
  simp [escapeKeyword, isKeyword_of_mem hc hlower]

theorem isIdentifier_escapeKeyword (h : name.toList.head? ≠ some '@') :
    isIdentifier (escapeKeyword name) = isWord name.toList := by
  unfold escapeKeyword
  split
  · have hescaped : ("@" ++ name).toList = '@' :: name.toList := by simp
    exact isIdentifier_of_mark hescaped
  · next hkeyword => simp [isIdentifier_of_head? h, hkeyword]

end Companion.Naming
