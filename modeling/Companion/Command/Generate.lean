import Companion.Batch
import Companion.Command.Load
import Companion.Text.Quoted

/-!
# Generating sources

`generate` has two phases. The first reads the configuration and all manifests and touches nothing;
the second writes, or prints, what the batches made of them.
-/

namespace Companion.Command

/-- The arguments of `generate`. -/
structure GenerateArguments where
  /-- A manifest, or a directory to search; by default the configured one. -/
  path : Option String := none
  /-- The output directory, in place of the configured one. -/
  outDir : Option String := none
  /-- Print the sources and write none. -/
  stdout : Bool := false
  noNullable : Bool := false
  mode : Batch.Mode := .all
  deriving DecidableEq, Repr

namespace GenerateArguments

/-- The configured options, in which an argument can switch the nullable context off. -/
def options (args : GenerateArguments) (config : Config) : Options :=
  let options := config.options
  if args.noNullable then { options with nullableContext := false } else options

/-- Where manifests are looked for. -/
def inputPath (args : GenerateArguments) (config : Config) (cwd : String) : String :=
  match args.path with
  | some path => Path.join cwd path
  | none => config.srcPath cwd

/-- The directory into which sources are written. -/
def outputPath (args : GenerateArguments) (config : Config) (cwd : String) : String :=
  match args.outDir with
  | some path => Path.join cwd path
  | none => config.outPath cwd

end GenerateArguments

/-- The name of the file of a source. -/
def sourceFileName (identifier : String) : String := identifier ++ ".g.cs"

variable {m : Type → Type} [Monad m] [MonadExcept Failure m] [Workspace m]

open Workspace

/-- Prints a warning for each diagnostic, to the standard error. -/
def printDiagnostics (diagnostics : List Diagnostic) : m Unit :=
  diagnostics.forM fun d =>
    printErrorLine ("  warning " ++ d.display ++ " (" ++ d.typeName ++ ")")

/-- Prints the sources, each under the name that its file would have. -/
def printSources (sources : List Source) : m Unit :=
  sources.forM fun source => do
    printLine ("// " ++ sourceFileName source.identifier)
    printLine source.text

/-- Writes every source to a file of its own. -/
def writeSources (outDir : String) (sources : List Source) : m Unit := do
  makeDirs outDir
  sources.forM fun source => do
    let path := Path.join outDir (sourceFileName source.identifier)
    writeText path source.text
    printLine ("  ✓ " ++ path)

/-- The last line: how many sources there are, and what went wrong. -/
def summaryLine (reports : List Report) (output : Output) : String :=
  let skipped := (reports.flatMap (·.skipped)).length
  let aborted := reports.countP (·.aborted)
  if output.diagnostics.isEmpty && aborted = 0 then
    "✅ Generated " ++ toString output.sources.length ++ " files successfully"
  else
    "⚠️ Generated " ++ toString output.sources.length ++ " files, " ++ toString skipped ++
      " skipped types, " ++ toString aborted ++ " aborted batches"

/-- The manifests that an input path stands for: the file itself, or all manifests below. -/
def inputManifests (input : String) : m (List String) := do
  if ← isFile input then return [input] else Manifest.find input

/-- The second phase: reports what the batches made of the units, and writes or prints it. -/
def deliver (args : GenerateArguments) (outDir : String) (reports : List Report)
    (output : Output) : m Unit := do
  printDiagnostics output.diagnostics
  if args.stdout then printSources output.sources else writeSources outDir output.sources
  printLine ""
  printLine (summaryLine reports output)

/-- Reads some manifests and goes on to the second phase, unless there are none. -/
def generateFrom (args : GenerateArguments) (config : Config) (cwd : String)
    (manifests : List String) : m Unit := do
  if manifests.isEmpty then printLine "⚠️  No .decl.json manifests found"
  else
    let units ← Manifest.loadAll manifests
    printLine ("Found " ++ toString manifests.length ++ " manifests, " ++ toString units.length ++
      " compilation units")
    let (reports, output) :=
      Batch.generate args.mode (Model.ofUnits units) (args.options config) units
    deliver args (args.outputPath config cwd) reports output

/-- Reads the configuration and all manifests, and generates what they declare. -/
def generate (args : GenerateArguments) (cwd : String) : m Unit := do
  let config ← Config.load cwd
  let input := args.inputPath config cwd
  unless ← fileExists input do
    throw (.message ("Input path does not exist: " ++ Text.quoted input))
  printLine "🔨 Generating sources..."
  generateFrom args config cwd (← inputManifests input)

end Companion.Command
