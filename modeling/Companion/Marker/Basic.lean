import Companion.Declaration.Basic
import Companion.Marker.Arguments

/-!
# Markers

Two attributes ask for generated code. Their names are compared here and nowhere else: they may be
qualified, and may or may not end in `Attribute`.
-/

namespace Companion

/-- The two attributes that ask for code. -/
inductive MarkerKind where
  | makeProperty
  | makeConcrete
  deriving DecidableEq, Repr

/-- The simple name of an attribute, without qualification and without the ending `Attribute`. -/
def MarkerKind.simpleName (name : String) : List Char :=
  let trimmed := Text.trim name.toList
  let unrooted := (Text.after? "global::".toList trimmed).getD trimmed
  let simple := ((Text.cutLast? '.' unrooted).map Prod.snd).getD unrooted
  (Text.before? "Attribute".toList simple).getD simple

/-- The marker that an attribute name denotes. -/
def MarkerKind.ofName? (name : String) : Option MarkerKind :=
  let simple := simpleName name
  if simple = "MakeProperty".toList then some makeProperty
  else if simple = "MakeConcrete".toList then some makeConcrete
  else none

/-- A marker with what its arguments say. -/
inductive Marker where
  | makeProperty (arguments : PropertyArguments)
  | makeConcrete (arguments : ConcreteArguments)
  deriving DecidableEq, Repr

namespace Marker

/-- The marker that an attribute is; without arguments it is none. -/
def ofAttribute? (a : Attribute) : Option Marker :=
  match MarkerKind.ofName? a.name with
  | some .makeProperty => (PropertyArguments.parse? a.arguments).map makeProperty
  | some .makeConcrete => (ConcreteArguments.parse? a.arguments).map makeConcrete
  | none => none

/-- What the marker of an observable property says. -/
def property? : Marker → Option PropertyArguments
  | makeProperty arguments => some arguments
  | makeConcrete _ => none

/-- What the marker of a concrete type says. -/
def concrete? : Marker → Option ConcreteArguments
  | makeProperty _ => none
  | makeConcrete arguments => some arguments

/-- The first property marker among attributes. -/
def findProperty? (attributes : List Attribute) : Option PropertyArguments :=
  attributes.findSome? fun a => (ofAttribute? a).bind property?

/-- The first marker of a concrete type among attributes. -/
def findConcrete? (attributes : List Attribute) : Option ConcreteArguments :=
  attributes.findSome? fun a => (ofAttribute? a).bind concrete?

end Marker

end Companion
