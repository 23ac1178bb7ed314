import Companion.Code.Printer

/-!
# Regular layouts

Steps are laid out regularly if every block has a header, braces as deep as the header, and lines
inside that are one level deeper (`Regular`). The depth of the layout cannot go below zero, so a
block that is closed once too often would go unnoticed in the lines before it; regular steps close
only blocks that are open (`ClosesOpen`), which makes the depth the number of open blocks at any
time.
-/

namespace Companion.Code

open Layout (Step indentation)

/-- Steps that begin and end at a depth, and the lines that they lay out. No line but the ones for
line breaks is empty, and both braces of a block stand below its header. -/
inductive Regular : (depth : Nat) → List Step → List String → Prop
  | nil {depth : Nat} : Regular depth [] []
  | line {depth : Nat} {text : String} {steps : List Step} {lines : List String}
    (htext : text ≠ "") (hrest : Regular depth steps lines) :
    Regular depth (.line text :: steps) ((indentation depth ++ text) :: lines)
  | newline {depth : Nat} {steps : List Step} {lines : List String}
    (hrest : Regular depth steps lines) : Regular depth (.newline :: steps) ("" :: lines)
  | block {depth : Nat} {header : String} {inside steps : List Step} {within lines : List String}
    (hheader : header ≠ "") (hinside : Regular (depth + 1) inside within)
    (hrest : Regular depth steps lines) :
    Regular depth (.line header :: (inBlock inside ++ steps))
      ((indentation depth ++ header) :: (indentation depth ++ "\x7b") ::
        (within ++ (indentation depth ++ "\x7d") :: lines))

/-- Steps that write lines and open and close blocks, but close none that is not open. -/
inductive ClosesOpen : (depth : Nat) → List Step → Prop
  | nil {depth : Nat} : ClosesOpen depth []
  | line {depth : Nat} {text : String} {steps : List Step} (hrest : ClosesOpen depth steps) :
    ClosesOpen depth (.line text :: steps)
  | newline {depth : Nat} {steps : List Step} (hrest : ClosesOpen depth steps) :
    ClosesOpen depth (.newline :: steps)
  | openBlock {depth : Nat} {steps : List Step} (hrest : ClosesOpen (depth + 1) steps) :
    ClosesOpen depth (.openBlock :: steps)
  | closeBlock {depth : Nat} {steps : List Step} (hrest : ClosesOpen depth steps) :
    ClosesOpen (depth + 1) (.closeBlock :: steps)

/-- Lines with a line ending behind each of them. -/
def ended (ending : LineEnding) (lines : List String) : String :=
  String.join (lines.map (· ++ ending.text))

variable {depth : Nat} {steps steps' : List Step} {lines lines' : List String}

/-! ## The depth of a layout -/

theorem ClosesOpen.of_append (h : ClosesOpen depth (steps ++ steps')) :
    ClosesOpen depth steps := by
  induction steps generalizing depth with
  | nil => exact .nil
  | cons step steps ih =>
    cases h with
    | line hrest => exact .line (ih hrest)
    | newline hrest => exact .newline (ih hrest)
    | openBlock hrest => exact .openBlock (ih hrest)
    | closeBlock hrest => exact .closeBlock (ih hrest)

/-- The depth is that of the blocks that have been opened and not closed. -/
theorem ClosesOpen.depth_foldl (h : ClosesOpen depth steps) (ending : LineEnding)
    (layout : Layout) (hdepth : layout.depth = depth) :
    (steps.foldl (Layout.step ending) layout).depth + steps.count .closeBlock =
      depth + steps.count .openBlock := by
  induction h generalizing layout with
  | nil => exact congrArg (· + 0) hdepth
  | line _ ih | newline _ ih =>
    simp only [List.foldl_cons, ne_eq, reduceCtorEq, not_false_eq_true, List.count_cons_of_ne]
    exact ih _ hdepth
  | openBlock _ ih =>
    have hrest := ih (layout.step ending .openBlock) (congrArg (· + 1) hdepth)
    simp only [List.foldl_cons, ne_eq, reduceCtorEq, not_false_eq_true, List.count_cons_of_ne,
      List.count_cons_self]
    omega
  | closeBlock _ ih =>
    have hrest := ih (layout.step ending .closeBlock) (congrArg (· - 1) hdepth)
    simp only [List.foldl_cons, ne_eq, reduceCtorEq, not_false_eq_true, List.count_cons_of_ne,
      List.count_cons_self]
    omega

namespace Regular

theorem append (h : Regular depth steps lines) (h' : Regular depth steps' lines') :
    Regular depth (steps ++ steps') (lines ++ lines') := by
  induction h with
  | nil => exact h'
  | line htext _ ih => exact .line htext (ih h')
  | newline _ ih => exact .newline (ih h')
  | block hheader hinside _ _ ih => simpa using Regular.block hheader hinside (ih h')

theorem closesOpen_append (h : Regular depth steps lines) (h' : ClosesOpen depth steps') :
    ClosesOpen depth (steps ++ steps') := by
  induction h generalizing steps' with
  | nil => exact h'
  | line _ _ ih => exact .line (ih h')
  | newline _ ih => exact .newline (ih h')
  | block _ _ _ ihinside ihrest =>
    simp only [inBlock, List.cons_append, List.nil_append, List.append_assoc]
    exact .line (.openBlock (ihinside (.closeBlock (ihrest h'))))

/-- After any part of regular steps the depth is the number of open blocks. -/
theorem depth_run (h : Regular 0 steps lines) (ending : LineEnding) {front : List Step}
    (hfront : front <+: steps) :
    (Layout.run ending front).depth + front.count .closeBlock = front.count .openBlock := by
  obtain ⟨back, rfl⟩ := hfront
  have hcloses := h.closesOpen_append .nil
  rw [List.append_nil] at hcloses
  have hdepth := hcloses.of_append.depth_foldl ending {} rfl
  rwa [Nat.zero_add] at hdepth

/-- What regular steps write, each line with a line ending behind it. -/
theorem foldl_eq (h : Regular depth steps lines) (ending : LineEnding) (text : String) :
    steps.foldl (Layout.step ending) ⟨text, depth⟩ = ⟨text ++ ended ending lines, depth⟩ := by
  unfold ended
  induction h generalizing text with
  | nil => simp
  | line _ _ ih => simp [Layout.step, Layout.writeLine, ih, String.append_assoc]
  | newline _ ih => simp [Layout.step, ih, String.append_assoc]
  | block _ _ _ ihinside ihrest =>
    simp [inBlock, Layout.step, Layout.writeLine, ihinside, ihrest, String.append_assoc]

theorem run_eq (h : Regular 0 steps lines) (ending : LineEnding) :
    Layout.run ending steps = ⟨ended ending lines, 0⟩ := by
  rw [Layout.run, h.foldl_eq, String.empty_append]

theorem render_eq (h : Regular 0 steps lines) (ending : LineEnding) :
    Layout.render ending steps = ended ending lines := congrArg Layout.text (h.run_eq ending)

/-! ## Lines -/

theorem lines_map {texts : List String} (h : "" ∉ texts) (depth : Nat) :
    Regular depth (texts.map .line) (texts.map (indentation depth ++ ·)) := by
  induction texts with
  | nil => exact .nil
  | cons text texts ih =>
    rw [List.mem_cons, not_or] at h
    exact .line (Ne.symm h.1) (ih h.2)

/-- Only a line break alone makes an empty line. -/
theorem empty_not_mem (h : Regular depth steps lines) (hnewline : .newline ∉ steps) :
    "" ∉ lines := by
  induction h with
  | nil => exact List.not_mem_nil
  | newline => simp at hnewline
  | line htext _ ih =>
    have hrest := ih fun hmem => hnewline (List.mem_cons_of_mem _ hmem)
    simp [hrest, htext]
  | block hheader _ _ ihinside ihrest =>
    have hinside := ihinside fun hmem => hnewline (by simp [inBlock, hmem])
    have hrest := ihrest fun hmem => hnewline (by simp [inBlock, hmem])
    simp [hinside, hrest, hheader]

/-- What is in a line is in its text, if it is neither indentation nor a brace. -/
theorem not_mem_line {c : Char} (h : Regular depth steps lines)
    (hc : c ∉ [' ', '\x7b', '\x7d']) (htexts : ∀ text, .line text ∈ steps → c ∉ text.toList) :
    ∀ line ∈ lines, c ∉ line.toList := by
  have hblank (depth : Nat) : c ∉ (indentation depth).toList := by
    intro hmem
    rw [indentation, String.toList_ofList] at hmem
    exact hc (by simp [List.eq_of_mem_replicate hmem])
  simp only [List.mem_cons, List.not_mem_nil, or_false, not_or] at hc
  induction h with
  | nil => exact fun line hline => (List.not_mem_nil hline).elim
  | newline _ ih =>
    have hrest := ih fun text hmem => htexts text (List.mem_cons_of_mem _ hmem)
    exact List.forall_mem_cons.mpr ⟨by simp, hrest⟩
  | line _ _ ih =>
    have hrest := ih fun text hmem => htexts text (List.mem_cons_of_mem _ hmem)
    have htext := htexts _ List.mem_cons_self
    exact List.forall_mem_cons.mpr ⟨by simp [hblank, htext], hrest⟩
  | block _ _ _ ihinside ihrest =>
    have hinside := ihinside fun text hmem => htexts text (by simp [inBlock, hmem])
    have hrest := ihrest fun text hmem => htexts text (by simp [inBlock, hmem])
    have hheader := htexts _ List.mem_cons_self
    rw [List.forall_mem_cons, List.forall_mem_cons, List.forall_mem_append, List.forall_mem_cons]
    simp only [String.toList_append, List.mem_append, not_or]
    exact ⟨⟨hblank _, hheader⟩, ⟨hblank _, by simp [hc]⟩, hinside, ⟨hblank _, by simp [hc]⟩, hrest⟩

end Regular

end Companion.Code
