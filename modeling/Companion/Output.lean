import Companion.Diagnostic

/-!
# What batches produce

Sources and diagnostics are collected in the order in which they are emitted, and are never taken
back. A report says what became of one batch.
-/

namespace Companion

/-- The text of a generated file and the identifier under which it is known. -/
structure Source where
  identifier : String
  text : String
  deriving DecidableEq, Repr

/-- Everything that has been emitted, in order. -/
structure Output where
  sources : List Source := []
  diagnostics : List Diagnostic := []
  deriving DecidableEq, Repr

namespace Output

/-- Emits a source. -/
def addSource (output : Output) (source : Source) : Output :=
  { output with sources := output.sources ++ [source] }

/-- Emits a diagnostic. -/
def addDiagnostic (output : Output) (d : Diagnostic) : Output :=
  { output with diagnostics := output.diagnostics ++ [d] }

/-- The identifiers of all sources, in order. -/
def identifiers (output : Output) : List String := output.sources.map (·.identifier)

/-- The text under an identifier, which is the first one emitted. -/
def text? (output : Output) (identifier : String) : Option String :=
  (output.sources.find? (·.identifier = identifier)).map (·.text)

end Output

/-- What became of a batch. -/
structure Report where
  /-- The identifiers of the sources, in order. -/
  generated : List String := []
  /-- The full names of the types without source. -/
  skipped : List String := []
  aborted : Bool := false
  deriving DecidableEq, Repr

/-- Whether every type of the batch has a source. -/
def Report.isClean (report : Report) : Bool := report.skipped.isEmpty && !report.aborted

end Companion
