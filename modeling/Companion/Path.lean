import Companion.Text.Search

/-!
# Paths

Paths are texts with slashes between names. They are joined as texts and never normalised; only
when names are taken out of a path do empty names and single dots not count.
-/

namespace Companion.Path

/-- Whether a path starts at the root. -/
def isAbsolute (path : String) : Bool := path.toList.head? = some '/'

/-- A path seen from a base. An absolute path stands for itself, and an empty one leaves the base
with a slash behind it. -/
def join (base path : String) : String :=
  if isAbsolute path || base = "" then path
  else if base.toList.getLast? = some '/' then base ++ path
  else base ++ "/" ++ path

/-- The pieces between the slashes. -/
def pieces (path : String) : List String :=
  (Text.splitBy (· = '/') path.toList).map String.ofList

/-- Whether a piece of a path is a name. -/
def isName (piece : String) : Bool := piece ≠ "" && piece ≠ "."

/-- The names on a path, in order. -/
def names (path : String) : List String := (pieces path).filter isName

/-- The name of the file that a path leads to. A path that ends by going up has none. -/
def fileName? (path : String) : Option String := (names path).getLast?.filter (· ≠ "..")

/-- What stands before the last name among some pieces, without slashes and dots at its end. -/
def beforeLast? (pieces : List String) : Option (List String) :=
  match pieces.reverse.dropWhile (!isName ·) with
  | [] => none
  | _ :: before => some (before.dropWhile (!isName ·)).reverse

/-- The path without its last name, if it has one. Only a relative path may start with a dot, and
then the dot counts as a name. -/
def parent? (path : String) : Option String :=
  match pieces path with
  | "." :: rest => some ((beforeLast? rest).elim "" fun before => "/".intercalate ("." :: before))
  | all =>
    if isAbsolute path then (beforeLast? all.tail).map fun before => "/" ++ "/".intercalate before
    else (beforeLast? all).map "/".intercalate

/-- Whether a path can only lead to a directory, because nothing follows its last slash. -/
def endsInDirectory (path : String) : Bool :=
  match (pieces path).getLast? with
  | some name => name = "" || name = "."
  | none => true

/-- Whether a path ends in a single dot, slashes apart. -/
def endsInDot (path : String) : Bool := ((pieces path).filter (· ≠ "")).getLast? = some "."

end Companion.Path
