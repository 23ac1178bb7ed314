import Companion.Options

/-!
# Layout

Text is laid out by a sequence of steps, each of which writes a line or changes the indentation. A
line is indented by four blanks for each open block; an empty line is not indented.
-/

namespace Companion.Code

namespace Layout

/-- One step of laying out a text. -/
inductive Step where
  | line (text : String)
  /-- A line break alone. -/
  | newline
  /-- An opening brace on a line of its own, after which lines are indented. -/
  | openBlock
  | closeBlock
  | indent
  | dedent
  deriving DecidableEq, Repr

end Layout

/-- The text so far and how deep the next line is indented. -/
structure Layout where
  text : String := ""
  depth : Nat := 0
  deriving DecidableEq, Repr

namespace Layout

/-- The blanks in front of a line inside `depth` blocks. -/
def indentation (depth : Nat) : String := String.ofList (List.replicate (4 * depth) ' ')

/-- Writes an indented line. -/
def writeLine (ending : LineEnding) (layout : Layout) (text : String) : Layout :=
  { layout with text := layout.text ++ indentation layout.depth ++ text ++ ending.text }

/-- The layout after a step. The indentation cannot go below none. -/
def step (ending : LineEnding) (layout : Layout) : Step → Layout
  | .line text => layout.writeLine ending text
  | .newline => { layout with text := layout.text ++ ending.text }
  | .openBlock =>
    let layout := layout.writeLine ending "\x7b"
    { layout with depth := layout.depth + 1 }
  | .closeBlock => writeLine ending { layout with depth := layout.depth - 1 } "\x7d"
  | .indent => { layout with depth := layout.depth + 1 }
  | .dedent => { layout with depth := layout.depth - 1 }

/-- The layout after a sequence of steps, from an empty text on. -/
def run (ending : LineEnding) (steps : List Step) : Layout := steps.foldl (step ending) {}

/-- The text that a sequence of steps lays out. -/
def render (ending : LineEnding) (steps : List Step) : String := (run ending steps).text

end Layout

end Companion.Code
