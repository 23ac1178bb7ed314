import Companion.TypeRef.Error

/-!
# Errors and diagnostics

An error says why there is no code for a type. It stops either that type or the whole batch; which
of the two follows from the code under which it is reported. All diagnostics are warnings: the
sources of other types are not affected.
-/

namespace Companion

/-- The causes under which diagnostics are filed. -/
inductive DiagnosticCode where
  | generationFailed
  | malformedInput
  | missingTypeName
  deriving DecidableEq, Repr

namespace DiagnosticCode

/-- The code as it appears in messages. -/
def text : DiagnosticCode → String
  | generationFailed => "PF001"
  | malformedInput => "PF002"
  | missingTypeName => "PF003"

/-- What a code stands for. -/
def title : DiagnosticCode → String
  | generationFailed => "Exception during code generation"
  | malformedInput => "Malformed input prevents code generation"
  | missingTypeName => "Type name is missing or empty"

end DiagnosticCode

/-- A warning about one type. -/
structure Diagnostic where
  code : DiagnosticCode
  message : String
  /-- The full name of the type. -/
  typeName : String
  deriving DecidableEq, Repr

/-- A diagnostic on one line. -/
def Diagnostic.display (d : Diagnostic) : String :=
  d.code.text ++ " " ++ d.code.title ++ ": " ++ d.message

/-! ## Errors -/

/-- Why there is no code for a type. -/
inductive GenerateError where
  | baseTypeCycle (typeName : String)
  | invalidPropertyName (typeName name : String)
  | duplicateProperty (typeName name : String)
  | missingInterfaceName (typeName : String)
  | genericInterfaceBase (typeName interfaceName : String)
  | invalidType (source : String) (error : TypeError)
  deriving DecidableEq, Repr

namespace GenerateError

/-- What is said about an error. -/
def message : GenerateError → String
  | baseTypeCycle typeName => "Base type chain of '" ++ typeName ++ "' is cyclic"
  | invalidPropertyName typeName name =>
    "'" ++ name ++ "' is not a valid property name in '" ++ typeName ++ "'"
  | duplicateProperty typeName name =>
    "Property '" ++ name ++ "' is generated more than once in '" ++ typeName ++ "'"
  | missingInterfaceName typeName =>
    "The interface full type name is missing or empty in '" ++ typeName ++ "'"
  | genericInterfaceBase typeName interfaceName =>
    "'" ++ typeName ++ "' cannot implement the open generic interface '" ++ interfaceName ++ "'"
  | invalidType source error =>
    "Invalid type expression '" ++ source ++ "': " ++ error.message

/-- The code under which an error is reported. -/
def code : GenerateError → DiagnosticCode
  | invalidPropertyName _ _ | duplicateProperty _ _ | genericInterfaceBase _ _
  | invalidType _ _ => .malformedInput
  | missingInterfaceName _ => .missingTypeName
  | baseTypeCycle _ => .generationFailed

/-- Malformed input costs only the type it belongs to. -/
def skipsType (error : GenerateError) : Bool := error.code = .malformedInput

end GenerateError

/-- The diagnostic that reports an error. -/
def Diagnostic.ofError (error : GenerateError) (typeName : String) : Diagnostic :=
  ⟨error.code, error.message, typeName⟩

end Companion
