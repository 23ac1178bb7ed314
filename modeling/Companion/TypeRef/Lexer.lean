import Companion.TypeRef.Error

/-!
# From source to tokens

`lex` turns a source into its tokens with their places, or stops at the first character that can
start none. Each step either drops a blank or takes the token that `Token.read?` finds, so the
tokens and the blanks between them are the whole source.
-/

namespace Companion

/-- The number of bytes of a text in UTF-8. -/
def utf8Length (s : List Char) : Nat := s.foldr (fun c length => c.utf8Size + length) 0

/-- The tokens of the text that starts at byte `offset` of the source. -/
def lexFrom (offset : Nat) (s : List Char) : Except TypeError (List Lexeme) :=
  match s with
  | [] => .ok []
  | c :: rest =>
    let next := offset + c.utf8Size
    if Token.isSpace c then lexFrom next rest
    else
      match h : Token.read? (c :: rest) with
      | none => .error (.badCharacter ⟨offset, next⟩ c)
      | some (token, rest') => do
        let stop := offset + utf8Length token.spelling
        have : rest'.length < rest.length + 1 := Token.length_lt_of_read? h
        let lexemes ← lexFrom stop rest'
        return ⟨token, ⟨offset, stop⟩⟩ :: lexemes
termination_by s.length

/-- The tokens of a source. -/
def lex (source : String) : Except TypeError (List Lexeme) := lexFrom 0 source.toList

end Companion
