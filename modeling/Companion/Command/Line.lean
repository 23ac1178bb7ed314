import Companion.Command.Attributes
import Companion.Command.Generate
import Companion.Command.Init

/-!
# The command line

The first word is a command and the rest are its options. An option takes its value from the word
after it.
-/

namespace Companion.Command

/-- What a command line asks for. -/
inductive Request where
  | init (args : InitArguments)
  | generate (args : GenerateArguments)
  | attributes (args : AttributesArguments)
  deriving DecidableEq, Repr

namespace Request

/-- Reads the options of `init`. -/
def readInit (args : InitArguments) : List String → Option InitArguments
  | [] => some args
  | "-s" :: dir :: rest | "--src-dir" :: dir :: rest => readInit { args with srcDir := dir } rest
  | "-o" :: dir :: rest | "--out-dir" :: dir :: rest => readInit { args with outDir := dir } rest
  | "-f" :: rest | "--force" :: rest => readInit { args with force := true } rest
  | _ => none

/-- The batches that a word asks for. -/
def readMode? : String → Option Batch.Mode
  | "observable" => some .observable
  | "concrete" => some .concrete
  | "all" => some .all
  | _ => none

/-- Reads the options of `generate`, and the path, which may stand between them but once only. -/
def readGenerate (args : GenerateArguments) : List String → Option GenerateArguments
  | [] => some args
  | "-o" :: dir :: rest | "--out-dir" :: dir :: rest =>
    readGenerate { args with outDir := some dir } rest
  | "-m" :: mode :: rest | "--mode" :: mode :: rest =>
    match readMode? mode with
    | some mode => readGenerate { args with mode } rest
    | none => none
  | "--stdout" :: rest => readGenerate { args with stdout := true } rest
  | "--no-nullable" :: rest => readGenerate { args with noNullable := true } rest
  | word :: rest =>
    if word.startsWith "-" || args.path.isSome then none
    else readGenerate { args with path := some word } rest

/-- Reads the options of `attributes`. -/
def readAttributes (args : AttributesArguments) : List String → Option AttributesArguments
  | [] => some args
  | "-o" :: path :: rest | "--out" :: path :: rest =>
    readAttributes { args with out := some path } rest
  | _ => none

/-- The request that the words of a command line make. -/
def ofWords? : List String → Option Request
  | "init" :: rest => (readInit {} rest).map init
  | "generate" :: rest => (readGenerate {} rest).map generate
  | "attributes" :: rest => (readAttributes {} rest).map attributes
  | _ => none

variable {m : Type → Type} [Monad m] [MonadExcept Failure m] [Workspace m]

/-- Does what is asked for, in a working directory. -/
def run (cwd : String) : Request → m Unit
  | init args => Command.init args cwd
  | generate args => Command.generate args cwd
  | attributes args => Command.attributes args cwd

end Request

end Companion.Command
