import Companion.TypeRef.Token

/-!
# Why a text is not a type

Every cause has its own constructor, and `TypeError.message` is the only place with the wording.
-/

namespace Companion

/-- What the reader was looking for. -/
inductive Expectation where
  | token (token : Token)
  | type
  | identifier
  | endOfType
  deriving DecidableEq, Repr

/-- How an expectation appears in messages. -/
def Expectation.describe : Expectation → String
  | token t => t.describe
  | type => "type"
  | identifier => "identifier"
  | endOfType => "end of type"

/-- Types whose tokens are in order but which C# does not have. -/
inductive Misuse where
  | nullableTwice
  | shortTuple
  | memberOfGeneric
  deriving DecidableEq, Repr

/-- What is wrong with a type. -/
def Misuse.message : Misuse → String
  | nullableTwice => "Type is already nullable"
  | shortTuple => "Tuple types need at least two elements"
  | memberOfGeneric => "Members of generic types are not supported"

/-- Why a text is not a type, and where it stops being one. -/
inductive TypeError where
  | unexpectedToken (span : Span) (expected : Expectation) (found : Token)
  | unexpectedEnd (expected : Expectation)
  | misuse (span : Span) (what : Misuse)
  | badCharacter (span : Span) (character : Char)
  /-- The source has no token at all. -/
  | empty
  deriving DecidableEq, Repr

namespace TypeError

/-- What is said about an error. -/
def message : TypeError → String
  | unexpectedToken span expected found =>
    "Unexpected token at " ++ span.describe ++ ": expected " ++ expected.describe ++ ", found " ++
      found.describe
  | unexpectedEnd expected => "Unexpected end of input: expected " ++ expected.describe
  | misuse span what => "Invalid syntax at " ++ span.describe ++ ": " ++ what.message
  | badCharacter span c =>
    "Lexer error at " ++ span.describe ++ ": Unexpected character '" ++ c.toString ++ "'"
  | empty => "Empty type expression"

/-- Where the error is; an end of input has no place. -/
def span? : TypeError → Option Span
  | unexpectedToken span _ _ | misuse span _ | badCharacter span _ => some span
  | unexpectedEnd _ | empty => none

end TypeError

end Companion
