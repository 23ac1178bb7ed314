import Companion.Command.Load
import Companion.MarkerSource

/-!
# The source of the marker attributes

`attributes` prints the declarations of the markers, or writes them to a file.
-/

namespace Companion.Command

/-- The arguments of `attributes`. -/
structure AttributesArguments where
  /-- The file to write; without one the source is printed. -/
  out : Option String := none
  deriving DecidableEq, Repr

variable {m : Type → Type} [Monad m] [MonadExcept Failure m] [Workspace m]

open Workspace

/-- Prints the declarations of the markers, or writes them to a file. -/
def attributes (args : AttributesArguments) (cwd : String) : m Unit := do
  let config ← Config.load cwd
  let source := MarkerSource.text config.lineEnding
  match args.out with
  | none => print source
  | some out =>
    let path := Path.join cwd out
    match Path.parent? path with
    | some parent => makeDirs parent
    | none => pure ()
    writeText path source
    printLine ("  ✓ " ++ path)

end Companion.Command
