import Companion.Command.Load

/-!
# Starting a project

`init` makes the directory for manifests with an example in it, and writes a configuration. An
existing configuration is left alone unless it is to be replaced.
-/

namespace Companion.Command

/-- The arguments of `init`. -/
structure InitArguments where
  srcDir : String := "decls"
  outDir : String := "Generated"
  /-- Replace an existing configuration. -/
  force : Bool := false
  deriving DecidableEq, Repr

/-- The file name of the example. -/
def exampleName : String := "example.decl.json"

/-- The lines of the example, one type with one decorated field. -/
def exampleLines : List String := [
    "\x7b",
    "    \"usings\": [\"System\"],",
    "    \"types\": [",
    "        \x7b",
    "            \"namespace\": \"Example\",",
    "            \"name\": \"PersonViewModel\",",
    "            \"modifiers\": [\"public\", \"partial\"],",
    "            \"fields\": [",
    "                \x7b",
    "                    \"name\": \"_name\",",
    "                    \"type\": \"string\",",
    "                    \"attributes\": [",
    "                        \x7b \"name\": \"MakeProperty\", \"arguments\": [\"\\\"Name\\\"\", \"true\", \"true\"] \x7d",
    "                    ],",
    "                    \"doc\": \"/// <summary>\\n/// Display name\\n/// </summary>\"",
    "                \x7d",
    "            ]",
    "        \x7d",
    "    ]",
    "\x7d"]

/-- The text of the example. -/
def exampleManifest : String := String.join (exampleLines.map (· ++ "\n"))

variable {m : Type → Type} [Monad m] [Workspace m]

open Workspace

/-- The default configuration with the given directories. -/
def InitArguments.config (args : InitArguments) : Config :=
  { srcDir := args.srcDir, outDir := args.outDir }

/-- Makes the directory for manifests if it is missing. -/
def makeSourceDir (args : InitArguments) (srcPath : String) : m Unit := do
  unless ← fileExists srcPath do
    makeDirs srcPath
    printLine ("  ✓ Created " ++ args.srcDir ++ "/")

/-- Writes the example unless there is one already. -/
def writeExample (srcPath : String) : m Unit := do
  let examplePath := Path.join srcPath exampleName
  unless ← fileExists examplePath do
    writeText examplePath exampleManifest
    printLine ("  ✓ Created " ++ exampleName)

/-- What is printed once the configuration has been written. -/
def InitArguments.closingLines (args : InitArguments) : List String := [
    "  ✓ Created " ++ Config.fileName,
    "",
    "✅ Project initialized!",
    "",
    "Next steps:",
    "  1. Export declarations to " ++ args.srcDir ++ "/*.decl.json",
    "  2. Run: propforge generate",
    "  3. Check output in " ++ args.outDir ++ "/"]

/-- Starts a project, unless it has a configuration that is to be kept. -/
def init (args : InitArguments) (cwd : String) : m Unit := do
  let configPath := Path.join cwd Config.fileName
  if (← fileExists configPath) && !args.force then
    printLine ("⚠️ " ++ Config.fileName ++ " already exists")
    printLine "Use --force to overwrite"
  else
    printLine "📝 Initializing Propforge project..."
    let srcPath := Path.join cwd args.srcDir
    makeSourceDir args srcPath
    writeExample srcPath
    writeText configPath args.config.render
    args.closingLines.forM printLine

end Companion.Command
