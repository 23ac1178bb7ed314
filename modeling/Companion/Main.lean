import Companion.Command.Line

/-!
# The program

Commands on the real file system. Everything that can fail there fails with `Failure.io`.
-/

namespace Companion

/-- A command on the real file system. -/
abbrev ProgramM := ExceptT Failure IO

namespace ProgramM

/-- Does something that the file system may refuse. -/
def attempt {α : Type} (action : IO α) : ProgramM α :=
  ExceptT.mk do
    try return .ok (← action)
    catch _ => return .error .io

/-- An entry that stands for a path, through which the system is asked about it. -/
def entryAt (path : String) : IO.FS.DirEntry := ⟨path, ""⟩

/-- The files at or under a path, entries of a directory in the order of their names. -/
partial def walk (path : String) : IO (List String) := do
  let place := (entryAt path).root
  if ← place.isDir then
    let entries ← place.readDir
    let names := (entries.toList.map (·.fileName)).mergeSort fun a b => a = b || a < b
    return (← names.mapM fun name => walk (Path.join path name)).flatten
  else if ← place.pathExists then return [path]
  else return []

instance : Workspace ProgramM where
  fileExists path := attempt (entryAt path).root.pathExists
  isFile path := attempt do
    return (← (entryAt path).root.pathExists) && !(← (entryAt path).root.isDir)
  readText path := attempt (IO.FS.readFile path)
  writeText path text := attempt (IO.FS.writeFile path text)
  makeDirs path := attempt (IO.FS.createDirAll path)
  filesUnder path := attempt (walk path)
  print text := attempt (IO.print text)
  printError text := attempt (IO.eprint text)

end ProgramM

/-- What is printed when a command line makes no request. -/
def usage : String :=
  "Usage: propforge init [-s DIR] [-o DIR] [-f]\n" ++
  "       propforge generate [PATH] [-o DIR] [-m MODE] [--stdout] [--no-nullable]\n" ++
  "       propforge attributes [-o FILE]\n"

end Companion

def main (words : List String) : IO UInt32 := do
  match Companion.Command.Request.ofWords? words with
  | none =>
    IO.eprint Companion.usage
    return 2
  | some request =>
    let cwd := (← IO.currentDir).toString
    let command : Companion.ProgramM Unit := request.run cwd
    match ← command.run with
    | .ok () => return 0
    | .error failure =>
      IO.eprint ("\nError: " ++ failure.text ++ "\n\n")
      return 1
