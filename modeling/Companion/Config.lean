import Companion.Json.Basic
import Companion.Json.Reader
import Companion.Json.Writer
import Companion.Options
import Companion.Path

/-!
# Configuration

The configuration of a project is a JSON record in which everything has a default. Members that it
does not know are read over, so they need only be JSON.
-/

namespace Companion

/-- The configuration of a project. -/
structure Config where
  /-- The directory that is searched for manifests. -/
  srcDir : String := "."
  /-- Where generated files are written. -/
  outDir : String := "Generated"
  nullableContext : Bool := true
  lineEnding : LineEnding := .lf
  /-- The global hook; the empty text disables it. -/
  globalHookName : String := defaultGlobalHook
  emitAttributes : Bool := true
  deriving DecidableEq, Repr, Inhabited

namespace Config

/-- The name of the file that holds the configuration. -/
def fileName : String := "propforge.config.json"

/-- The members that are known, in the order in which an array gives them. -/
def fieldNames : List String :=
  ["srcDir", "outDir", "nullableContext", "lineEnding", "globalHookName", "emitAttributes"]

/-- The configuration that a JSON value spells. A member of the wrong type spoils it. -/
def ofJson? (json : Json) : Option Config := do
  let f ← Json.fields? fieldNames json
  return {
    srcDir := ← f.optional "srcDir" "." Json.text?
    outDir := ← f.optional "outDir" "Generated" Json.text?
    nullableContext := ← f.optional "nullableContext" true Json.flag?
    lineEnding := ← f.optional "lineEnding" .lf fun j => (Json.case? j).bind LineEnding.ofName?
    globalHookName := ← f.optional "globalHookName" defaultGlobalHook Json.text?
    emitAttributes := ← f.optional "emitAttributes" true Json.flag? }

/-- A configuration with all of its members. -/
def toJson (c : Config) : Json :=
  .object [("srcDir", .string c.srcDir), ("outDir", .string c.outDir),
    ("nullableContext", .bool c.nullableContext), ("lineEnding", .string c.lineEnding.name),
    ("globalHookName", .string c.globalHookName), ("emitAttributes", .bool c.emitAttributes)]

/-- The configuration that a text spells. -/
def parse? (text : String) : Option Config := (Json.read? text).bind ofJson?

/-- The text of a configuration. -/
def render (c : Config) : String := c.toJson.render

/-- The directory that is searched for manifests, seen from a working directory. -/
def srcPath (c : Config) (cwd : String) : String := Path.join cwd c.srcDir

/-- The directory for generated files, seen from a working directory. -/
def outPath (c : Config) (cwd : String) : String := Path.join cwd c.outDir

/-- The options that a configuration sets. -/
def options (c : Config) : Options where
  nullableContext := c.nullableContext
  lineEnding := c.lineEnding
  globalHookName := c.globalHookName
  emitAttributes := c.emitAttributes

end Config

end Companion
