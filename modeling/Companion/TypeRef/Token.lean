/-!
# Tokens of type expressions

Only the tokens needed to spell a type are recognised: identifiers, the word `delegate`, and the
punctuation of generic, tuple, array, nullable, pointer and function-pointer types.

A source is read from the left. Blanks separate tokens and are dropped, an identifier is as long as
it can be, and a character that starts no token is an error of its own. Positions count bytes of
the UTF-8 form of the source.
-/

namespace Companion

/-- A token of a type expression. -/
inductive Token where
  | delegate
  | ident (name : String)
  | colons
  | dot
  | comma
  | less
  | greater
  | openParen
  | closeParen
  | openBracket
  | closeBracket
  | question
  | star
  deriving DecidableEq, Repr, Inhabited

/-- A stretch of the source, from the byte `start` up to, but not including, the byte `stop`. -/
structure Span where
  start : Nat
  stop : Nat
  deriving DecidableEq, Repr, Inhabited

/-- How a span appears in messages. -/
def Span.describe (span : Span) : String :=
  "TokenSpan \x7b start: " ++ toString span.start ++ ", end: " ++ toString span.stop ++ " \x7d"

/-- A token and where it stands. -/
structure Lexeme where
  token : Token
  span : Span
  deriving DecidableEq, Repr, Inhabited

namespace Token

/-- The token as it is written. -/
def spelling : Token → List Char
  | delegate => "delegate".toList
  | ident name => name.toList
  | colons => [':', ':']
  | dot => ['.']
  | comma => [',']
  | less => ['<']
  | greater => ['>']
  | openParen => ['(']
  | closeParen => [')']
  | openBracket => ['[']
  | closeBracket => [']']
  | question => ['?']
  | star => ['*']

/-- How a token appears in messages. -/
def describe : Token → String
  | ident name => "identifier '" ++ name ++ "'"
  | token => "'" ++ String.ofList token.spelling ++ "'"

/-- The characters between tokens. -/
def isSpace (c : Char) : Bool := c = ' ' || c = '\t' || c = '\r' || c = '\n' || c = '\x0c'

/-- The characters with which an identifier can start, apart from an `@` in front of it. -/
def startsWord (c : Char) : Bool := c.isAlpha || c = '_'

/-- The characters of an identifier after its first. -/
def continuesWord (c : Char) : Bool := c.isAlphanum || c = '_'

/-- The token of a complete word. -/
def ofWord (word : List Char) : Token :=
  if word = "delegate".toList then delegate else ident (String.ofList word)

/-- The token of a single character. The double colon is read elsewhere. -/
def punctuation? : Char → Option Token
  | '.' => some dot
  | ',' => some comma
  | '<' => some less
  | '>' => some greater
  | '(' => some openParen
  | ')' => some closeParen
  | '[' => some openBracket
  | ']' => some closeBracket
  | '?' => some question
  | '*' => some star
  | _ => none

/-- The longest token at the start of a text, and the text after it. -/
def read? : List Char → Option (Token × List Char)
  | [] => none
  | ':' :: ':' :: rest => some (colons, rest)
  | '@' :: c :: rest =>
    if startsWord c then
      some (ident (String.ofList ('@' :: c :: rest.takeWhile continuesWord)),
        rest.dropWhile continuesWord)
    else none
  | c :: rest =>
    if startsWord c then
      some (ofWord (c :: rest.takeWhile continuesWord), rest.dropWhile continuesWord)
    else (punctuation? c).map (·, rest)

/-- Reading a token uses up at least one character. -/
theorem length_lt_of_read? {s rest : List Char} {token : Token}
    (h : read? s = some (token, rest)) : rest.length < s.length := by
  have dropped (t : List Char) : (t.dropWhile continuesWord).length ≤ t.length :=
    (List.dropWhile_sublist continuesWord).length_le
  unfold read? at h
  split at h
  · cases h
  · obtain ⟨-, rfl⟩ := Prod.mk.inj (Option.some.inj h)
    simp only [List.length_cons]
    omega
  · next c t =>
    split at h
    · obtain ⟨-, rfl⟩ := Prod.mk.inj (Option.some.inj h)
      have := dropped t
      simp only [List.length_cons]
      omega
    · cases h
  · next c t _ _ =>
    split at h
    · obtain ⟨-, rfl⟩ := Prod.mk.inj (Option.some.inj h)
      have := dropped t
      simp only [List.length_cons]
      omega
    · obtain ⟨_, -, hrest⟩ := Option.map_eq_some_iff.mp h
      obtain ⟨-, rfl⟩ := Prod.mk.inj hrest
      simp only [List.length_cons]
      omega

end Token

end Companion
