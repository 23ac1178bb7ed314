import Companion.Text.Ranges

/-!
# Cutting texts

Texts are cut at the first or last place where something occurs. Every function here returns the
pieces themselves, so that what was cut away and what is left can be put together again. The blanks
that are cut off both ends of a text are the twenty-five characters with the Unicode property
`White_Space`.
-/

namespace Companion.Text

/-- What follows `lead`, if the text starts with it. -/
def after? : (lead text : List Char) → Option (List Char)
  | [], text => some text
  | _ :: _, [] => none
  | l :: lead, c :: text => if l = c then after? lead text else none

/-- What precedes `tail`, if the text ends with it. -/
def before? (tail text : List Char) : Option (List Char) :=
  (after? tail.reverse text.reverse).map List.reverse

/-- The pieces before and after the first occurrence of `mark`. -/
def cut? (mark : List Char) : List Char → Option (List Char × List Char)
  | [] => (after? mark []).map fun rest => ([], rest)
  | c :: text =>
    match after? mark (c :: text) with
    | some rest => some ([], rest)
    | none => (cut? mark text).map fun (left, right) => (c :: left, right)

theorem length_after? {lead text rest : List Char} (h : after? lead text = some rest) :
    text.length = lead.length + rest.length := by
  induction lead generalizing text with
  | nil =>
    cases h
    simp
  | cons l lead ih =>
    cases text with
    | nil => simp [after?] at h
    | cons c text =>
      rw [after?] at h
      split at h
      · have := ih h
        simp only [List.length_cons]
        omega
      · cases h

/-- A cut loses nothing but the mark. -/
theorem length_cut? {mark text left right : List Char} (h : cut? mark text = some (left, right)) :
    text.length = left.length + mark.length + right.length := by
  induction text generalizing left with
  | nil =>
    simp only [cut?, Option.map_eq_some_iff, Prod.mk.injEq] at h
    obtain ⟨rest, hrest, rfl, rfl⟩ := h
    have := length_after? hrest
    simpa using this
  | cons c text ih =>
    rw [cut?] at h
    split at h
    · next rest hrest =>
      cases h
      have := length_after? hrest
      simpa using this
    · simp only [Option.map_eq_some_iff, Prod.mk.injEq] at h
      obtain ⟨⟨l, r⟩, hcut, rfl, rfl⟩ := h
      have := ih hcut
      simp only [List.length_cons] at this ⊢
      omega

/-- The pieces before and after the last occurrence of the character `mark`. -/
def cutLast? (mark : Char) : List Char → Option (List Char × List Char)
  | [] => none
  | c :: text =>
    match cutLast? mark text with
    | some (left, right) => some (c :: left, right)
    | none => if c = mark then some ([], text) else none

/-- Whether `mark` occurs in a text. -/
def occurs (mark text : List Char) : Bool := (cut? mark text).isSome

/-- The pieces between the characters of a class; there is one more of them than separators. -/
def splitBy (separates : Char → Bool) : List Char → List (List Char)
  | [] => [[]]
  | c :: text =>
    if separates c then [] :: splitBy separates text
    else
      match splitBy separates text with
      | [] => [[c]]
      | piece :: pieces => (c :: piece) :: pieces

/-- The lines of a text. A line ends at a line feed, together with one carriage return directly
before it. A text that ends in a line feed has no empty last line, and the last line of a text that
does not keeps its carriage return. -/
def lines : List Char → List (List Char)
  | [] => []
  | '\n' :: text => [] :: lines text
  | '\r' :: '\n' :: text => [] :: lines text
  | c :: text =>
    match lines text with
    | [] => [[c]]
    | line :: more => (c :: line) :: more

/-! ## Blanks -/

/-- Code points with the property `White_Space`, in increasing order. -/
def blankRanges : List (Nat × Nat) := [
  (0x9, 0xD), (0x20, 0x20), (0x85, 0x85), (0xA0, 0xA0), (0x1680, 0x1680), (0x2000, 0x200A),
  (0x2028, 0x2029), (0x202F, 0x202F), (0x205F, 0x205F), (0x3000, 0x3000)]

/-- Whether a character is white space; line breaks are. -/
def isBlank (c : Char) : Bool := inRanges blankRanges c

/-- A text without the leading and trailing characters of a class. -/
def trimBy (drop : Char → Bool) (s : List Char) : List Char :=
  ((s.dropWhile drop).reverse.dropWhile drop).reverse

/-- A text without the blanks around it. -/
def trim (s : List Char) : List Char := trimBy isBlank s

end Companion.Text
