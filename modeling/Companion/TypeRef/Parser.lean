import Companion.TypeRef.Basic
import Companion.TypeRef.Lexer

/-!
# From tokens to types

The grammar, with postfix operators that bind from left to right:

* a type is a primary type followed by any number of `?`, `[,…]` and `*`;
* a primary type is a function pointer, a tuple or a name;
* a function pointer is `delegate * convention? < type, … >`, where a convention is an identifier,
  possibly with a bracketed list of identifiers;
* a tuple is `( type name?, type name?, … )` with at least two elements;
* a name is `global::`? followed by identifiers with dots between them, possibly with type
  arguments.

Each reader takes the tokens that are left and returns what it read with the tokens after it. The
readers that call each other are bounded by a number that `enough` computes from the number of
tokens: every nested type stands behind at least one token of its own, so the bound is never met.
-/

namespace Companion

namespace TypeRef

open Text (commaSeparated)

/-- The tokens after a required token. -/
def expect (token : Token) : List Lexeme → Except TypeError (List Lexeme)
  | [] => .error (.unexpectedEnd (.token token))
  | l :: rest =>
    if l.token = token then .ok rest
    else .error (.unexpectedToken l.span (.token token) l.token)

/-- Identifiers with a separator between them, at least one. -/
def identifiers (separator : Token) : List Lexeme → Except TypeError (List String × List Lexeme)
  | [] => .error (.unexpectedEnd .identifier)
  | ⟨.ident name, _⟩ :: [] => .ok ([name], [])
  | ⟨.ident name, _⟩ :: l :: rest =>
    if l.token = separator then do
      let (names, rest) ← identifiers separator rest
      return (name :: names, rest)
    else .ok ([name], l :: rest)
  | l :: _ => .error (.unexpectedToken l.span .identifier l.token)

/-- An optional calling convention, `unmanaged` or `unmanaged[Cdecl, SuppressGCTransition]`. -/
def convention : List Lexeme → Except TypeError (Option String × List Lexeme)
  | ⟨.ident name, _⟩ :: ⟨.openBracket, _⟩ :: rest => do
    let (names, rest) ← identifiers .comma rest
    let rest ← expect .closeBracket rest
    return (some (name ++ "[" ++ commaSeparated names ++ "]"), rest)
  | ⟨.ident name, _⟩ :: rest => .ok (some name, rest)
  | rest => .ok (none, rest)

mutual

/-- The postfix operators after a type. -/
def postfixes (t : TypeRef) : List Lexeme → Except TypeError (TypeRef × List Lexeme)
  | ⟨.question, span⟩ :: rest =>
    if t.isNullable then .error (.misuse span .nullableTwice) else postfixes (nullable t) rest
  | ⟨.star, _⟩ :: rest => postfixes (pointer t) rest
  | ⟨.openBracket, _⟩ :: rest => brackets t 1 rest
  | rest => .ok (t, rest)

/-- The rest of an array's brackets, where `rank` counts the commas so far. -/
def brackets (element : TypeRef) (rank : Nat) :
    List Lexeme → Except TypeError (TypeRef × List Lexeme)
  | ⟨.comma, _⟩ :: rest => brackets element (rank + 1) rest
  | ⟨.closeBracket, _⟩ :: rest => postfixes (array element rank) rest
  | [] => .error (.unexpectedEnd (.token .closeBracket))
  | l :: _ => .error (.unexpectedToken l.span (.token .closeBracket) l.token)

end

/-- The optional `global::` and whether it was there. -/
def globalQualifier : List Lexeme → Bool × List Lexeme
  | ⟨.ident "global", _⟩ :: ⟨.colons, _⟩ :: rest => (true, rest)
  | rest => (false, rest)

/-- The type of a name. A lone keyword is a built-in type unless it is qualified. -/
def ofName (qualified : Bool) (segments : List String) (args : List TypeRef) : TypeRef :=
  match qualified, segments, args with
  | false, [segment], [] =>
    if predefinedKeywords.contains segment then predefined segment else named segment []
  | _, _, _ => named (".".intercalate segments) args

/-- The optional name of a tuple element. -/
def elementName : List Lexeme → Option String × List Lexeme
  | ⟨.ident name, _⟩ :: rest => (some name, rest)
  | rest => (none, rest)

mutual

/-- A type: a primary type and its postfix operators. -/
def typeExpr : Nat → List Lexeme → Except TypeError (TypeRef × List Lexeme)
  | 0, _ => .error (.unexpectedEnd .type)
  | fuel + 1, lexemes => do
    let (t, rest) ← primary fuel lexemes
    postfixes t rest

/-- A type without postfix operators. -/
def primary : Nat → List Lexeme → Except TypeError (TypeRef × List Lexeme)
  | 0, _ => .error (.unexpectedEnd .type)
  | _, [] => .error (.unexpectedEnd .type)
  | fuel + 1, ⟨.delegate, _⟩ :: rest => do
    let rest ← expect .star rest
    let (style, rest) ← convention rest
    let rest ← expect .less rest
    let (parameters, rest) ← typeList fuel rest
    let rest ← expect .greater rest
    return (functionPointer style parameters, rest)
  | fuel + 1, ⟨.openParen, span⟩ :: rest => do
    let (elements, rest) ← elementList fuel rest
    let rest ← expect .closeParen rest
    match elements with
    | _ :: _ :: _ => return (tuple elements, rest)
    | _ => .error (.misuse span .shortTuple)
  | fuel + 1, ⟨.ident name, span⟩ :: rest => do
    let (qualified, rest) := globalQualifier (⟨.ident name, span⟩ :: rest)
    let (segments, rest) ← identifiers .dot rest
    match rest with
    | ⟨.less, _⟩ :: rest =>
      let (args, rest) ← typeList fuel rest
      let rest ← expect .greater rest
      match rest with
      | ⟨.dot, span⟩ :: _ => .error (.misuse span .memberOfGeneric)
      | _ => return (ofName qualified segments args, rest)
    | _ => return (ofName qualified segments [], rest)
  | _ + 1, l :: _ => .error (.unexpectedToken l.span .type l.token)

/-- Types with commas between them, at least one. -/
def typeList : Nat → List Lexeme → Except TypeError (List TypeRef × List Lexeme)
  | 0, _ => .error (.unexpectedEnd .type)
  | fuel + 1, lexemes => do
    let (t, rest) ← typeExpr fuel lexemes
    match rest with
    | ⟨.comma, _⟩ :: rest =>
      let (ts, rest) ← typeList fuel rest
      return (t :: ts, rest)
    | _ => return ([t], rest)

/-- Tuple elements with commas between them, at least one. -/
def elementList :
    Nat → List Lexeme → Except TypeError (List (TypeRef × Option String) × List Lexeme)
  | 0, _ => .error (.unexpectedEnd .type)
  | fuel + 1, lexemes => do
    let (t, rest) ← typeExpr fuel lexemes
    let (name, rest) := elementName rest
    match rest with
    | ⟨.comma, _⟩ :: rest =>
      let (more, rest) ← elementList fuel rest
      return ((t, name) :: more, rest)
    | _ => return ([(t, name)], rest)

end

/-- A bound that no reader meets on this many tokens: three nested calls use up a token. -/
def enough (lexemes : List Lexeme) : Nat := 3 * lexemes.length + 3

/-- The type that a whole list of tokens spells. -/
def ofLexemes (lexemes : List Lexeme) : Except TypeError TypeRef :=
  if lexemes.isEmpty then .error .empty
  else do
    let (t, rest) ← typeExpr (enough lexemes) lexemes
    match rest with
    | [] => return t
    | l :: _ => .error (.unexpectedToken l.span .endOfType l.token)

/-- The type that a source spells. -/
def parse (source : String) : Except TypeError TypeRef := do
  ofLexemes (← lex source)

end TypeRef

end Companion
