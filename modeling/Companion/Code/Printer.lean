import Companion.Code.Layout
import Companion.Code.Tree

/-!
# Printing generated code

Expressions and statements are texts on one line. Everything larger is a sequence of layout steps,
in which blocks are opened and closed in pairs and members are one empty line apart.
-/

namespace Companion.Code

open Text (commaSeparated)

/-- A character inside a string literal. -/
def escapedChar (c : Char) : List Char :=
  if c = '"' then ['\\', '"']
  else if c = '\\' then ['\\', '\\']
  else if c = '\n' then ['\\', 'n']
  else if c = '\r' then ['\\', 'r']
  else if c = '\t' then ['\\', 't']
  else [c]

/-- A text between double quotes. -/
def stringLiteral (value : String) : String :=
  String.ofList ('"' :: value.toList.flatMap escapedChar ++ ['"'])

namespace Expr

mutual

/-- The text of an expression. -/
def print : Expr → String
  | ident name => name
  | string value => stringLiteral value
  | null => "null"
  | this => "this"
  | equals left right => left.print ++ " == " ++ right.print
  | invoke target args => target.print ++ "(" ++ commaSeparated (printAll args) ++ ")"
  | conditionalInvoke target method args =>
    target.print ++ "?." ++ method ++ "(" ++ commaSeparated (printAll args) ++ ")"
  | new type args => "new " ++ type.display ++ "(" ++ commaSeparated (printAll args) ++ ")"

/-- The texts of the arguments of a call. -/
def printAll : List Expr → List String
  | [] => []
  | e :: es => e.print :: printAll es

end

end Expr

/-- The text of a statement, with what stands under it on the same line. -/
def Statement.print : Statement → String
  | ifThen condition body => "if (" ++ condition.print ++ ") " ++ body.print
  | leave => "return;"
  | localVar name value => "var " ++ name ++ " = " ++ value.print ++ ";"
  | assign target value => target.print ++ " = " ++ value.print ++ ";"
  | expr e => e.print ++ ";"

/-- A parameter as it is declared. -/
def Parameter.print (p : Parameter) : String :=
  String.join (p.attributes.map fun a => "[" ++ a ++ "] ") ++ p.type.display ++ " " ++ p.name ++
    match p.default with
    | none => ""
    | some e => " = " ++ e.print

/-- What stands between the parentheses of a method. -/
def printParameters (parameters : List Parameter) : String :=
  commaSeparated (parameters.map Parameter.print)

/-- A header with its modifiers in front. -/
def withModifiers (modifiers : List String) (header : String) : String :=
  if modifiers.isEmpty then header else " ".intercalate modifiers ++ " " ++ header

/-- A documentation comment with a summary, if there is anything to say. -/
def docSteps (docs : List String) : List Layout.Step :=
  if docs.isEmpty then []
  else [.line "/// <summary>"] ++ docs.map (fun doc => .line ("/// " ++ doc)) ++
    [.line "/// </summary>"]

/-- Steps between braces, one level deeper. -/
def inBlock (steps : List Layout.Step) : List Layout.Step := [.openBlock] ++ steps ++ [.closeBlock]

/-- A body: one line for each statement. -/
def bodySteps (statements : List Statement) : List Layout.Step :=
  inBlock (statements.map fun s => .line s.print)

/-- The setter of an automatic property, after its getter. -/
def SetterKind.print : SetterKind → String
  | absent => ""
  | publicSet => " set;"
  | privateSet => " private set;"

/-- A member, with its documentation in front. -/
def Item.steps : Item → List Layout.Step
  | event docs modifiers type name =>
    docSteps docs ++
      [.line (withModifiers modifiers ("event " ++ type.display ++ " " ++ name ++ ";"))]
  | method docs modifiers type name parameters body =>
    let header := withModifiers modifiers
      (type.display ++ " " ++ name ++ "(" ++ printParameters parameters ++ ")")
    docSteps docs ++
      match body with
      | some statements => [.line header] ++ bodySteps statements
      | none => [.line (header ++ ";")]
  | constructor docs modifiers name parameters body =>
    docSteps docs ++
      [.line (withModifiers modifiers (name ++ "(" ++ printParameters parameters ++ ")"))] ++
      bodySteps body
  | property docs modifiers type name accessors =>
    let header := withModifiers modifiers (type.display ++ " " ++ name)
    docSteps docs ++
      match accessors with
      | .auto setter => [.line (header ++ " \x7b get;" ++ setter.print ++ " \x7d")]
      | .backed field setter =>
        [.line header] ++
          inBlock ([.line ("get => " ++ field ++ ";"), .line "set"] ++ bodySteps setter)

/-- Members with an empty line between each two. -/
def itemsSteps : List Item → List Layout.Step
  | [] => []
  | [item] => item.steps
  | item :: items => item.steps ++ [.newline] ++ itemsSteps items

/-- The line of a declaration in front of its members. -/
def TypeDeclaration.header (d : TypeDeclaration) : String :=
  withModifiers d.modifiers (d.kind.keyword ++ " " ++ d.name ++
    (if d.typeParameters.isEmpty then "" else "<" ++ commaSeparated d.typeParameters ++ ">") ++
    (if d.baseList.isEmpty then "" else " : " ++ commaSeparated d.baseList))

/-- A declaration, with its members in a block. -/
def TypeDeclaration.steps (d : TypeDeclaration) : List Layout.Step :=
  docSteps d.docs ++ [.line d.header] ++ inBlock (itemsSteps d.members)

/-- A source file: imports, an empty line, and the declaration in its namespace. A nullable context
encloses all of it. -/
def SourceFile.steps (file : SourceFile) : List Layout.Step :=
  (if file.nullableContext then [.line "#nullable enable"] else []) ++
  file.usings.map (fun name => .line ("using " ++ name ++ ";")) ++
  (if file.usings.isEmpty then [] else [.newline]) ++
  (match file.namespaceName with
    | some name => [.line ("namespace " ++ name)] ++ inBlock file.declaration.steps
    | none => file.declaration.steps) ++
  (if file.nullableContext then [.line "#nullable restore"] else [])

/-- The text of a source file. -/
def SourceFile.print (ending : LineEnding) (file : SourceFile) : String :=
  Layout.render ending file.steps

end Companion.Code
