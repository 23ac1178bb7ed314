import Companion.Code.Tree

/-!
# What generated statements do

The bodies of setters and constructors are run on an object. Names are looked up as in C#: the
parameters and locals of a body hide members of the same name, a local does so in the whole body,
and it cannot be used before its declaration has been reached. Methods are not run; that they were
called, and with which arguments, is what a body does besides changing members.

Values are of any type that can hold texts. A statement outside this fragment, or one that C# would
refuse, has no result.
-/

namespace Companion.Code

/-- The name that an identifier stands for: an `@` in front of it is not a part of the name. -/
def plainName (identifier : String) : String :=
  match identifier.toList with
  | '@' :: name => String.ofList name
  | _ => identifier

/-- A call of a method, with the values of its arguments. -/
structure Call (V : Type) where
  method : String
  arguments : List V
  deriving DecidableEq, Repr

/-- Where the execution of a body stands. -/
structure Frame (V : Type) where
  /-- The parameters and the locals that have a value, the latest value first. -/
  bindings : List (String × V)
  members : String → V
  calls : List (Call V)

/-- How a statement ends. -/
inductive Ending where
  | next
  | left
  deriving DecidableEq, Repr

variable {V : Type}

namespace Frame

/-- The value of an identifier, where `scope` has the names of the parameters and locals. -/
def read? (scope : List String) (frame : Frame V) (identifier : String) : Option V :=
  if plainName identifier ∈ scope then frame.bindings.lookup (plainName identifier)
  else some (frame.members (plainName identifier))

def declare (frame : Frame V) (identifier : String) (v : V) : Frame V :=
  { frame with bindings := (plainName identifier, v) :: frame.bindings }

def log (frame : Frame V) (call : Call V) : Frame V :=
  { frame with calls := frame.calls ++ [call] }

/-- Gives a variable, or else a member, a value. -/
def write? (scope : List String) (frame : Frame V) (identifier : String) (v : V) :
    Option (Frame V) :=
  if plainName identifier ∈ scope then
    (frame.bindings.lookup (plainName identifier)).map fun _ => frame.declare identifier v
  else
    some { frame with
      members := fun name => if name = plainName identifier then v else frame.members name }

end Frame

/-- The value of an expression that is a name or a text. -/
def Expr.eval? (text : String → V) (scope : List String) (frame : Frame V) : Expr → Option V
  | ident name => frame.read? scope name
  | string value => some (text value)
  | _ => none

/-- The names of the locals that a statement declares. -/
def Statement.locals : Statement → List String
  | ifThen _ body => body.locals
  | localVar name _ => [plainName name]
  | _ => []

section

variable [DecidableEq V]

def Statement.exec? (text : String → V) (scope : List String) :
    Statement → Frame V → Option (Ending × Frame V)
  | ifThen (.equals left right) body, frame => do
    let a ← left.eval? text scope frame
    let b ← right.eval? text scope frame
    if a = b then body.exec? text scope frame else return (.next, frame)
  | leave, frame => some (.left, frame)
  | localVar name value, frame => do
    let v ← value.eval? text scope frame
    return (.next, frame.declare name v)
  | assign (.ident name) value, frame => do
    let v ← value.eval? text scope frame
    let frame ← frame.write? scope name v
    return (.next, frame)
  | expr (.invoke (.ident method) args), frame => do
    let vs ← args.mapM (Expr.eval? text scope frame)
    return (.next, frame.log ⟨method, vs⟩)
  | _, _ => none

/-- Runs statements one after the other until one leaves the body. -/
def execAll? (text : String → V) (scope : List String) :
    List Statement → Frame V → Option (Frame V)
  | [], frame => some frame
  | statement :: statements, frame =>
    match statement.exec? text scope frame with
    | none => none
    | some (.left, frame) => some frame
    | some (.next, frame) => execAll? text scope statements frame

/-- Runs a body with the values of its parameters on the members of an object. -/
def runBody? (text : String → V) (parameters : List (String × V)) (members : String → V)
    (body : List Statement) : Option (Frame V) :=
  let bindings := parameters.map fun (name, v) => (plainName name, v)
  execAll? text (bindings.map Prod.fst ++ body.flatMap Statement.locals) body
    ⟨bindings, members, []⟩

end

variable {text : String → V} {scope : List String} {frame frame' : Frame V}

theorem Frame.read?_of_mem {identifier : String} (h : plainName identifier ∈ scope) :
    frame.read? scope identifier = frame.bindings.lookup (plainName identifier) := if_pos h

theorem Frame.read?_of_not_mem {identifier : String} (h : plainName identifier ∉ scope) :
    frame.read? scope identifier = some (frame.members (plainName identifier)) := if_neg h

/-! ## Members that a body does not assign

Identifiers that are hidden by a parameter or a local are no members. So a member whose name is
hidden keeps its value, and a body that only assigns hidden identifiers leaves the object alone. -/

/-- The identifiers to which a statement assigns. -/
def Statement.targets : Statement → List String
  | ifThen _ body => body.targets
  | assign (.ident name) _ => [name]
  | _ => []

theorem Frame.write?_member {identifier member : String} {v : V}
    (h : plainName identifier = member → member ∈ scope)
    (hwrite : frame.write? scope identifier v = some frame') :
    frame'.members member = frame.members member := by
  unfold Frame.write? at hwrite
  split at hwrite
  · obtain ⟨_, -, rfl⟩ := Option.map_eq_some_iff.mp hwrite
    rfl
  · next hvisible =>
    cases hwrite
    have hne : member ≠ plainName identifier := fun heq => hvisible (heq ▸ h heq.symm)
    exact if_neg hne

variable [DecidableEq V]

theorem Statement.exec?_member {statement : Statement} {ending : Ending} {member : String}
    (h : ∀ name ∈ statement.targets, plainName name = member → member ∈ scope)
    (hexec : statement.exec? text scope frame = some (ending, frame')) :
    frame'.members member = frame.members member := by
  induction statement with
  | ifThen condition body ih =>
    cases condition with
    | equals left right =>
      obtain ⟨a, -, hexec⟩ := Option.bind_eq_some_iff.mp hexec
      obtain ⟨b, -, hexec⟩ := Option.bind_eq_some_iff.mp hexec
      split at hexec
      · exact ih h hexec
      · cases hexec
        rfl
    | _ => cases hexec
  | leave =>
    cases hexec
    rfl
  | localVar name value =>
    obtain ⟨v, -, hexec⟩ := Option.bind_eq_some_iff.mp hexec
    cases hexec
    rfl
  | assign target value =>
    cases target with
    | ident name =>
      obtain ⟨v, -, hexec⟩ := Option.bind_eq_some_iff.mp hexec
      obtain ⟨frame₁, hwrite, hexec⟩ := Option.bind_eq_some_iff.mp hexec
      cases hexec
      exact Frame.write?_member (h name (by simp [targets])) hwrite
    | _ => cases hexec
  | expr e =>
    cases e with
    | invoke target args =>
      cases target with
      | ident method =>
        obtain ⟨vs, -, hexec⟩ := Option.bind_eq_some_iff.mp hexec
        cases hexec
        rfl
      | _ => cases hexec
    | _ => cases hexec

theorem execAll?_member {statements : List Statement} {member : String}
    (h : ∀ name ∈ statements.flatMap Statement.targets, plainName name = member → member ∈ scope)
    (hexec : execAll? text scope statements frame = some frame') :
    frame'.members member = frame.members member := by
  induction statements generalizing frame with
  | nil =>
    cases hexec
    rfl
  | cons statement statements ih =>
    rw [List.flatMap_cons] at h
    have hfirst : ∀ name ∈ statement.targets, plainName name = member → member ∈ scope :=
      fun name hname => h name (List.mem_append_left _ hname)
    rw [execAll?] at hexec
    split at hexec
    · cases hexec
    · next frame₁ hstep =>
      cases hexec
      exact Statement.exec?_member hfirst hstep
    · next frame₁ hstep =>
      have hrest := ih (fun name hname => h name (List.mem_append_right _ hname)) hexec
      exact hrest.trans (Statement.exec?_member hfirst hstep)

theorem execAll?_members {statements : List Statement}
    (h : ∀ name ∈ statements.flatMap Statement.targets, plainName name ∈ scope)
    (hexec : execAll? text scope statements frame = some frame') :
    frame'.members = frame.members :=
  funext fun _ => execAll?_member (fun name hname heq => heq ▸ h name hname) hexec

/-! ## Statements that are passed -/

/-- Statements are run to their end and lead from one frame to another. -/
def Passes (text : String → V) (scope : List String) (statements : List Statement)
    (frame frame' : Frame V) : Prop :=
  ∀ rest, execAll? text scope (statements ++ rest) frame = execAll? text scope rest frame'

namespace Passes

variable {statements statements' : List Statement} {frame₁ frame₂ : Frame V}

theorem nil : Passes text scope [] frame frame := fun _ => rfl

theorem append (h : Passes text scope statements frame frame₁)
    (h' : Passes text scope statements' frame₁ frame₂) :
    Passes text scope (statements ++ statements') frame frame₂ := by
  intro rest
  rw [List.append_assoc, h, h']

theorem execAll? (h : Passes text scope statements frame frame₁) :
    execAll? text scope statements frame = some frame₁ := by
  have hnil := h []
  rwa [List.append_nil] at hnil

theorem of_exec? {statement : Statement}
    (h : statement.exec? text scope frame = some (.next, frame₁)) :
    Passes text scope [statement] frame frame₁ := by
  intro rest
  rw [List.singleton_append, Code.execAll?, h]

theorem guard {left right : Expr} {body : Statement} {a b : V}
    (ha : left.eval? text scope frame = some a) (hb : right.eval? text scope frame = some b)
    (hne : a ≠ b) : Passes text scope [.ifThen (.equals left right) body] frame frame :=
  of_exec? (by simp [Statement.exec?, ha, hb, hne])

theorem localVar {name : String} {value : Expr} {v : V}
    (hv : value.eval? text scope frame = some v) :
    Passes text scope [.localVar name value] frame (frame.declare name v) :=
  of_exec? (by simp [Statement.exec?, hv])

/-- An assignment to an identifier that stands for a member. -/
theorem set {name : String} {value : Expr} {v : V} (hname : plainName name ∉ scope)
    (hv : value.eval? text scope frame = some v) :
    Passes text scope [.set name value] frame
      { frame with members := fun n => if n = plainName name then v else frame.members n } :=
  of_exec? (by simp [Statement.set, Statement.exec?, hv, Frame.write?, hname])

theorem call {method : String} {args : List Expr} {vs : List V}
    (hvs : args.mapM (Expr.eval? text scope frame) = some vs) :
    Passes text scope [.call method args] frame (frame.log ⟨method, vs⟩) :=
  of_exec? (by simp [Statement.call, Expr.call, Statement.exec?, hvs])

end Passes

/-- A guard whose two sides are equal ends the body. -/
theorem execAll?_guard_leave {left right : Expr} {a : V} {rest : List Statement}
    (ha : left.eval? text scope frame = some a) (hb : right.eval? text scope frame = some a) :
    execAll? text scope (.ifThen (.equals left right) .leave :: rest) frame = some frame := by
  have hexec : (Statement.ifThen (.equals left right) .leave).exec? text scope frame =
      some (.left, frame) := by
    simp [Statement.exec?, ha, hb]
  rw [execAll?, hexec]

end Companion.Code
