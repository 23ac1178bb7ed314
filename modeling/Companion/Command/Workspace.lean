import Companion.Disk

/-!
# What commands may do

Commands read and write files and print. They are written once, for any monad that can do so, and
run on the real file system or on a `Disk` that is a value.
-/

namespace Companion

/-- Why a command fails. -/
inductive Failure where
  | invalidManifest (path : String)
  | invalidConfig
  /-- The file system refuses. -/
  | io
  | message (text : String)
  deriving DecidableEq, Repr

/-- What is said about a failure. -/
def Failure.text : Failure → String
  | invalidManifest path => "Invalid manifest " ++ path
  | invalidConfig => "Invalid configuration"
  | io => "The file system refused an operation"
  | message text => text

/-- Files and output. An operation that the file system refuses fails with `Failure.io`. -/
class Workspace (m : Type → Type) where
  fileExists : String → m Bool
  isFile : String → m Bool
  readText : String → m String
  writeText : String → String → m Unit
  makeDirs : String → m Unit
  /-- The files at or under a path, entries of a directory in the order of their names. -/
  filesUnder : String → m (List String)
  /-- Prints to the standard output. -/
  print : String → m Unit
  /-- Prints to the standard error. -/
  printError : String → m Unit

namespace Workspace

variable {m : Type → Type} [Workspace m]

/-- Prints a line to the standard output. -/
def printLine (text : String) : m Unit := print (text ++ "\n")

/-- Prints a line to the standard error. -/
def printErrorLine (text : String) : m Unit := printError (text ++ "\n")

end Workspace

/-! ## Workspaces that are values -/

/-- A disk and what has been printed. -/
structure Session where
  disk : Disk := {}
  stdout : String := ""
  stderr : String := ""

/-- A command on a session. What it did before it failed stays done. -/
abbrev SessionM := ExceptT Failure (StateM Session)

namespace SessionM

/-- Fails if the file system does. -/
def check {α : Type} : Except Fault α → SessionM α
  | .ok a => pure a
  | .error _ => throw .io

instance : Workspace SessionM where
  fileExists path := return (← get).disk.fileExists path
  isFile path := return (← get).disk.isFile path
  readText path := do check ((← get).disk.readText path)
  writeText path text := do
    let disk ← check ((← get).disk.writeText path text)
    modify fun s => { s with disk }
  makeDirs path := do
    let (result, disk) := (← get).disk.makeDirs path
    modify fun s => { s with disk }
    check result
  filesUnder path := return (← get).disk.filesUnder path
  print text := modify fun s => { s with stdout := s.stdout ++ text }
  printError text := modify fun s => { s with stderr := s.stderr ++ text }

/-- Runs a command on a session. -/
def exec (command : SessionM Unit) (session : Session) : Option Failure × Session :=
  match command.run.run session with
  | (.ok (), session) => (none, session)
  | (.error failure, session) => (some failure, session)

end SessionM

end Companion
