/-!
# Options of the generator
-/

namespace Companion

/-- What stands at the end of a line. -/
inductive LineEnding where
  | lf
  | crlf
  deriving DecidableEq, Repr, Inhabited

namespace LineEnding

/-- The characters of a line ending. -/
def text : LineEnding → String
  | lf => "\n"
  | crlf => "\r\n"

/-- The name of a line ending in configurations. -/
def name : LineEnding → String
  | lf => "lf"
  | crlf => "crlf"

/-- The line ending with a name. -/
def ofName? : String → Option LineEnding
  | "lf" => some lf
  | "crlf" => some crlf
  | _ => none

end LineEnding

/-- The hook that is called after every property with extra notification, unless renamed. -/
def defaultGlobalHook : String := "OnOnePropertyHasChanged"

/-- What a caller of the generator can choose. -/
structure Options where
  /-- Enclose each unit in a nullable context and mark generated types accordingly. -/
  nullableContext : Bool := true
  lineEnding : LineEnding := .lf
  /-- The global hook; without a name there is none. -/
  globalHookName : String := defaultGlobalHook
  /-- Emit the declarations of the marker attributes too. -/
  emitAttributes : Bool := true
  deriving DecidableEq, Repr, Inhabited

namespace Options

/-- For projects without nullable reference types. -/
def legacy : Options := { nullableContext := false }

/-- With the line endings of Windows. -/
def windows : Options := { lineEnding := .crlf }

/-- Only the generated types: no global hook and no attributes. -/
def minimal : Options := { globalHookName := "", emitAttributes := false }

end Options

end Companion
