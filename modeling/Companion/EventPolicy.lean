import Companion.Options
import Companion.Symbol.Ancestors
import Companion.Text.Search

/-!
# Event policies

A chain of types needs one change event, one method that raises it, and at most one global hook.
The policy of a type says which of them it declares and which method its setters call, given what
its ancestors declare.
-/

namespace Companion

/-- The event that announces a change of a property. -/
def changeEvent : String := "PropertyChanged"

/-- The method that raises the event, unless an ancestor has another. -/
def defaultTrigger : String := "OnPropertyChanged"

/-- What a type declares of event, method and hook, and what its setters call. By default it has no
ancestor that could have any of them. -/
structure EventPolicy where
  /-- The type declares the event and the method that raises it. -/
  generateEvent : Bool := true
  /-- The method that raises the event. -/
  trigger : String := defaultTrigger
  /-- The global hook that the type declares and calls; the empty text if it does not. -/
  globalHook : String := defaultGlobalHook
  deriving DecidableEq, Repr, Inhabited

namespace EventPolicy

/-- Whether a text spells the string type, nullable or not. -/
def isStringType (typeName : String) : Bool :=
  match TypeRef.parse typeName with
  | .ok (.nullable inner) => inner.isString
  | .ok t => t.isString
  | .error _ => false

/-- Whether a text spells the void type. -/
def isVoid (typeName : String) : Bool :=
  (match TypeRef.parse typeName with
    | .ok (.predefined keyword) => keyword == "void"
    | _ => false) || Text.trim typeName.toList == "System.Void".toList

/-- Whether a member is a method that can raise the event: its name speaks of it, and its only
parameter is a string. -/
def isTrigger : Member → Bool
  | .method name _ [parameter] =>
    Text.occurs changeEvent.toList name.toList && isStringType parameter
  | _ => false

/-- Whether a member is the global hook with a name. -/
def isGlobalHook (hook : String) : Member → Bool
  | .method name returnType [parameter] =>
    name == hook && isVoid returnType && isStringType parameter
  | _ => false

/-- The methods that can raise an inherited event: those of the nearest ancestor that declares the
event and of its ancestors. -/
def triggers (chain : List Symbol) : List String :=
  ((chain.dropWhile (!·.hasMember changeEvent)).flatMap Symbol.methods).filter isTrigger
    |>.map Member.name

/-- The method that raises an inherited event. The one with the default name goes first. -/
def findTrigger? (chain : List Symbol) : Option String :=
  let candidates := triggers chain
  if candidates.contains defaultTrigger then some defaultTrigger else candidates.head?

/-- The policy of a type with these ancestors. -/
def ofChain (chain : List Symbol) (hook : String) : EventPolicy where
  generateEvent := !chain.any (·.hasMember changeEvent)
  trigger := (findTrigger? chain).getD defaultTrigger
  globalHook :=
    if chain.any (·.methods.any (isGlobalHook hook)) then "" else hook

/-- The policy of a type with an ancestor that declares event and hook in the same batch. -/
def ofOwner (owner : EventPolicy) : EventPolicy :=
  { generateEvent := false, trigger := owner.trigger, globalHook := "" }

end EventPolicy

end Companion
