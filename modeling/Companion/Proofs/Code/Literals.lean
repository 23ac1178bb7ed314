import Companion.Proofs.Code.Texts

/-!
# Reading string literals

Generated code hands over names of properties as string literals. A reader of such literals
(`readLiteral?`) knows nothing of how they are printed: it goes on to the first quote that is not
escaped, and refuses what cannot stand in a literal. Every value comes back from its literal, and
the text behind the literal is left alone.
-/

namespace Companion.Code

open Text (isLineBreak)

/-- The character that an escape sequence denotes, by the character behind the backslash. -/
def denoted? : Char → Option Char
  | '"' => some '"'
  | '\\' => some '\\'
  | 'n' => some '\n'
  | 'r' => some '\r'
  | 't' => some '\t'
  | _ => none

/-- Reads a literal from behind its opening quote: the value, and the text behind the closing quote.
A line break has to be escaped. -/
def readInside? : List Char → Option (List Char × List Char)
  | [] => none
  | '"' :: rest => some ([], rest)
  | '\\' :: [] => none
  | '\\' :: e :: text => do
    let c ← denoted? e
    let (value, rest) ← readInside? text
    return (c :: value, rest)
  | c :: text =>
    if isLineBreak c then none
    else do
      let (value, rest) ← readInside? text
      return (c :: value, rest)

/-- Reads the string literal with which a text begins: its value, and the text behind it. -/
def readLiteral? (text : String) : Option (String × String) :=
  match text.toList with
  | '"' :: inside => do
    let (value, rest) ← readInside? inside
    return (String.ofList value, String.ofList rest)
  | _ => none

variable {text value rest : List Char}

/-- A character is printed as an escape sequence that denotes it or, if it may, as it is. -/
theorem escapedChar_cases (c : Char) :
    (∃ e, escapedChar c = ['\\', e] ∧ denoted? e = some c) ∨
      escapedChar c = [c] ∧ c ≠ '"' ∧ c ≠ '\\' ∧ isLineBreak c = false := by
  unfold escapedChar
  split_ifs with hquote hbackslash hnewline hreturn htab
  · exact .inl ⟨_, rfl, congrArg some hquote.symm⟩
  · exact .inl ⟨_, rfl, congrArg some hbackslash.symm⟩
  · exact .inl ⟨_, rfl, congrArg some hnewline.symm⟩
  · exact .inl ⟨_, rfl, congrArg some hreturn.symm⟩
  · exact .inl ⟨_, rfl, congrArg some htab.symm⟩
  · exact .inr ⟨rfl, hquote, hbackslash, by simp [isLineBreak, hnewline, hreturn]⟩

theorem readInside?_escapedChar (c : Char) (h : readInside? text = some (value, rest)) :
    readInside? (escapedChar c ++ text) = some (c :: value, rest) := by
  rcases escapedChar_cases c with ⟨e, hescaped, hdenoted⟩ | ⟨hplain, hquote, hbackslash, hbreak⟩
  · rw [hescaped]
    simp [readInside?, hdenoted, h]
  · rw [hplain]
    simp [readInside?, hbackslash, hbreak, h]

theorem readInside?_flatMap_escapedChar (value rest : List Char) :
    readInside? (value.flatMap escapedChar ++ '"' :: rest) = some (value, rest) := by
  induction value with
  | nil => rfl
  | cons c value ih =>
    rw [List.flatMap_cons, List.append_assoc]
    exact readInside?_escapedChar c ih

theorem readLiteral?_stringLiteral (value rest : String) :
    readLiteral? (stringLiteral value ++ rest) = some (value, rest) := by
  have htext : (stringLiteral value ++ rest).toList =
      '"' :: (value.toList.flatMap escapedChar ++ '"' :: rest.toList) := by
    simp [stringLiteral]
  rw [readLiteral?, htext]
  simp [readInside?_flatMap_escapedChar]

/-- A printed string literal is read back to its value, whatever text comes behind it, and that text
is left. There is no line break in it. -/
theorem print_string_reads (value rest : String) :
    readLiteral? ((Expr.string value).print ++ rest) = some (value, rest) ∧
      Lacks '\n' (Expr.string value).print ∧ Lacks '\r' (Expr.string value).print := by
  rw [Expr.print]
  exact ⟨readLiteral?_stringLiteral value rest, lacks_stringLiteral rfl value,
    lacks_stringLiteral rfl value⟩

/-- A backslash in front of a quote, both of them escaped, and a quote behind the literal. -/
example : (Expr.string "a\\\"").print = "\"a\\\\\\\"\"" ∧
    readLiteral? "\"a\\\\\\\"\"\"" = some ("a\\\"", "\"") := by decide +kernel

end Companion.Code
