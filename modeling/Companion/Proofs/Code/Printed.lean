import Companion.Proofs.Code.Texts

/-!
# The lines of a printed file

The steps of every member, declaration and file are regular. So a printed file is made of lines that
are indented by the number of open blocks, all with the line ending behind them. Members are one
empty line apart, and the imports are one empty line away from what follows them (`isLaidOut`).
-/

namespace Companion.Code

open Doc (IsOneLine commentLines)
open Layout (Step indentation)
open Text (isLineBreak shownLines)

/-- The lines of a member: it has some, and none of them is empty. -/
structure Item.HasLines (depth : Nat) (item : Item) (lines : List String) : Prop where
  regular : Regular depth item.steps lines
  ne_nil : lines ≠ []
  empty_not_mem : "" ∉ lines

/-- How deep the members of a file are. -/
def SourceFile.memberDepth (file : SourceFile) : Nat := file.namespaceName.toList.length + 1

/-- The lines in which a printed file is shown. -/
structure SourceFile.IsLaidOut (ending : LineEnding) (file : SourceFile) (lines : List String) :
    Prop where
  /-- Every line ends with the line ending, also the last. -/
  printed : file.print ending = ended ending lines
  /-- Lines that are not empty are as deep as the blocks around them, and braces as the header of
  their block. -/
  regular : Regular 0 file.steps lines
  /-- At any time the depth is the number of open blocks, and only open blocks are closed. -/
  depth : ∀ front, front <+: file.steps →
    (Layout.run ending front).depth + front.count .closeBlock = front.count .openBlock
  closed : (Layout.run ending file.steps).depth = 0
  /-- There is one empty line behind the imports and one between each two members, and no other. -/
  spaced : ∃ opening parts closing,
    lines = (if file.nullableContext then ["#nullable enable"] else []) ++
        file.usings.map (fun name => "using " ++ name ++ ";") ++
        (if file.usings.isEmpty then [] else [""]) ++
        (opening ++ [""].intercalate parts ++ closing) ++
        (if file.nullableContext then ["#nullable restore"] else []) ∧
      List.Forall₂ (Item.HasLines file.memberDepth) file.declaration.members parts ∧
      "" ∉ opening ∧ "" ∉ closing
  enabled : lines.head? = some "#nullable enable" ↔ file.nullableContext = true
  restored : lines.getLast? = some "#nullable restore" ↔ file.nullableContext = true

variable {depth : Nat} {steps : List Step} {lines : List String}

/-! ## Members -/

theorem withModifiers_ne_empty (modifiers : List String) {header : String} (h : header ≠ "") :
    withModifiers modifiers header ≠ "" := by
  unfold withModifiers
  split <;> simp [h]

theorem Statement.print_ne_empty (s : Statement) : s.print ≠ "" := by
  cases s <;> simp [print]

theorem empty_not_mem_commentLines (docs : List String) : "" ∉ commentLines docs := by
  intro hmem
  have hne : ∀ line ∈ commentLines docs, line ≠ "" :=
    (Doc.forall_mem_commentLines (by decide) (by decide)).mpr fun doc _ => by simp
  exact hne "" hmem rfl

theorem regular_docSteps (docs : List String) (depth : Nat) :
    Regular depth (docSteps docs) ((commentLines docs).map (indentation depth ++ ·)) := by
  rw [Doc.docSteps_eq]
  exact Regular.lines_map (empty_not_mem_commentLines docs) depth

/-- A block with its header and nothing behind it. -/
theorem Regular.headed {header : String} {inside : List Step} {within : List String}
    (hheader : header ≠ "") (hinside : Regular (depth + 1) inside within) :
    Regular depth ([.line header] ++ inBlock inside)
      ([header, "\x7b"].map (indentation depth ++ ·) ++ within ++
        [indentation depth ++ "\x7d"]) := by
  simpa using Regular.block hheader hinside .nil

theorem Regular.line_alone {text : String} (h : text ≠ "") :
    Regular depth [.line text] [indentation depth ++ text] := .line h .nil

theorem exists_regular_bodySteps {header : String} (hheader : header ≠ "")
    (statements : List Statement) (depth : Nat) :
    ∃ lines, Regular depth ([.line header] ++ bodySteps statements) lines := by
  have hne : "" ∉ statements.map Statement.print := by
    intro hmem
    obtain ⟨s, -, hs⟩ := List.mem_map.mp hmem
    exact s.print_ne_empty hs
  have hinside := Regular.lines_map hne (depth + 1)
  rw [List.map_map] at hinside
  exact ⟨_, Regular.headed hheader hinside⟩

theorem Item.exists_regular (item : Item) (depth : Nat) :
    ∃ lines, Regular depth item.steps lines := by
  cases item with
  | event docs modifiers type name =>
    have hline : withModifiers modifiers ("event " ++ type.display ++ " " ++ name ++ ";") ≠ "" :=
      withModifiers_ne_empty modifiers (by simp)
    exact ⟨_, (regular_docSteps docs depth).append (Regular.line_alone hline)⟩
  | method docs modifiers type name parameters body =>
    have hheader : withModifiers modifiers
        (type.display ++ " " ++ name ++ "(" ++ printParameters parameters ++ ")") ≠ "" :=
      withModifiers_ne_empty modifiers (by simp)
    cases body with
    | none =>
      exact ⟨_, (regular_docSteps docs depth).append (Regular.line_alone (by simp))⟩
    | some statements =>
      obtain ⟨lines, hlines⟩ := exists_regular_bodySteps hheader statements depth
      exact ⟨_, (regular_docSteps docs depth).append hlines⟩
  | constructor docs modifiers name parameters body =>
    have hheader : withModifiers modifiers
        (name ++ "(" ++ printParameters parameters ++ ")") ≠ "" :=
      withModifiers_ne_empty modifiers (by simp)
    obtain ⟨lines, hlines⟩ := exists_regular_bodySteps hheader body depth
    rw [steps, List.append_assoc]
    exact ⟨_, (regular_docSteps docs depth).append hlines⟩
  | property docs modifiers type name accessors =>
    have hheader : withModifiers modifiers (type.display ++ " " ++ name) ≠ "" :=
      withModifiers_ne_empty modifiers (by simp)
    cases accessors with
    | auto setter =>
      exact ⟨_, (regular_docSteps docs depth).append (Regular.line_alone (by simp))⟩
    | backed field setter =>
      have hget : "get => " ++ field ++ ";" ≠ "" := by simp
      have hset : "set" ≠ "" := by decide
      obtain ⟨body, hbody⟩ := exists_regular_bodySteps hset setter (depth + 1)
      exact ⟨_, (regular_docSteps docs depth).append (Regular.headed hheader (.line hget hbody))⟩

theorem newline_not_mem_docSteps (docs : List String) : .newline ∉ docSteps docs := by
  rw [Doc.docSteps_eq]
  simp

theorem newline_not_mem_bodySteps (statements : List Statement) :
    .newline ∉ bodySteps statements := by
  simp [bodySteps, inBlock]

theorem Item.newline_not_mem_steps (item : Item) : .newline ∉ item.steps := by
  have hdocs := newline_not_mem_docSteps
  have hbody := newline_not_mem_bodySteps
  cases item with
  | event | constructor => simp [steps, hdocs, hbody]
  | method _ _ _ _ _ body => cases body <;> simp [steps, hdocs, hbody]
  | property _ _ _ _ accessors => cases accessors <;> simp [steps, inBlock, hdocs, hbody]

theorem Item.steps_ne_nil (item : Item) : item.steps ≠ [] := by
  cases item with
  | event | constructor => simp [steps]
  | method _ _ _ _ _ body => cases body <;> simp [steps]
  | property _ _ _ _ accessors => cases accessors <;> simp [steps]

theorem Item.exists_hasLines (item : Item) (depth : Nat) : ∃ lines, item.HasLines depth lines := by
  obtain ⟨lines, hlines⟩ := item.exists_regular depth
  refine ⟨lines, hlines, ?_, hlines.empty_not_mem item.newline_not_mem_steps⟩
  rintro rfl
  have hsteps := item.steps_ne_nil
  generalize item.steps = steps at hlines hsteps
  cases hlines
  exact hsteps rfl

/-- Members lay out their lines one after the other, with an empty line between each two. -/
theorem exists_regular_itemsSteps (items : List Item) (depth : Nat) :
    ∃ parts, List.Forall₂ (Item.HasLines depth) items parts ∧
      Regular depth (itemsSteps items) ([""].intercalate parts) := by
  fun_induction itemsSteps items with
  | case1 => exact ⟨[], .nil, .nil⟩
  | case2 item =>
    obtain ⟨part, hpart⟩ := item.exists_hasLines depth
    refine ⟨[part], .cons hpart .nil, ?_⟩
    rw [List.intercalate_singleton]
    exact hpart.regular
  | case3 item items hitems ih =>
    obtain ⟨part, hpart⟩ := item.exists_hasLines depth
    obtain ⟨parts, hparts, hregular⟩ := ih
    cases hparts with
    | nil => exact (hitems rfl).elim
    | cons hnext hparts =>
      refine ⟨_, .cons hpart (.cons hnext hparts), ?_⟩
      rw [List.intercalate_cons_cons]
      exact (hpart.regular.append (.newline .nil)).append hregular

/-! ## Declarations and files -/

theorem TypeDeclaration.header_ne_empty (d : TypeDeclaration) : d.header ≠ "" :=
  withModifiers_ne_empty d.modifiers (by simp)

/-- The lines of a declaration before its members. -/
def TypeDeclaration.opening (d : TypeDeclaration) (depth : Nat) : List String :=
  (commentLines d.docs ++ [d.header, "\x7b"]).map (indentation depth ++ ·)

theorem TypeDeclaration.empty_not_mem_opening (d : TypeDeclaration) (depth : Nat) :
    "" ∉ d.opening depth := by
  have hcomment := empty_not_mem_commentLines d.docs
  simp [opening, hcomment, d.header_ne_empty]

theorem TypeDeclaration.exists_regular (d : TypeDeclaration) (depth : Nat) :
    ∃ parts, List.Forall₂ (Item.HasLines (depth + 1)) d.members parts ∧
      Regular depth d.steps
        (d.opening depth ++ [""].intercalate parts ++ [indentation depth ++ "\x7d"]) := by
  obtain ⟨parts, hparts, hmembers⟩ := exists_regular_itemsSteps d.members (depth + 1)
  have hregular := (regular_docSteps d.docs depth).append (.headed d.header_ne_empty hmembers)
  refine ⟨parts, hparts, ?_⟩
  simpa only [TypeDeclaration.steps, opening, List.map_append, List.append_assoc] using hregular

/-- The lines of a file between its imports and its members. -/
def SourceFile.opening (file : SourceFile) : List String :=
  match file.namespaceName with
  | none => file.declaration.opening 0
  | some name => ("namespace " ++ name) :: "\x7b" :: file.declaration.opening 1

/-- The lines of a file that close its blocks. -/
def SourceFile.closing (file : SourceFile) : List String :=
  match file.namespaceName with
  | none => ["\x7d"]
  | some _ => [indentation 1 ++ "\x7d", "\x7d"]

theorem indentation_zero : indentation 0 = "" := rfl

/-- The steps of a file that are neither imports nor directives. -/
theorem SourceFile.exists_regular_declaration (file : SourceFile) :
    ∃ parts, List.Forall₂ (Item.HasLines file.memberDepth) file.declaration.members parts ∧
      Regular 0
        (match file.namespaceName with
          | some name => [.line ("namespace " ++ name)] ++ inBlock file.declaration.steps
          | none => file.declaration.steps)
        (file.opening ++ [""].intercalate parts ++ file.closing) := by
  unfold memberDepth opening closing
  cases file.namespaceName with
  | none => exact file.declaration.exists_regular 0
  | some name =>
    obtain ⟨parts, hparts, hregular⟩ := file.declaration.exists_regular 1
    have hname : "namespace " ++ name ≠ "" := by simp
    refine ⟨parts, hparts, ?_⟩
    simpa [indentation_zero] using Regular.headed hname hregular

theorem Regular.ite {b : Bool} (h : Regular depth steps lines) :
    Regular depth (if b then steps else []) (if b then lines else []) := by
  cases b
  · exact .nil
  · exact h

theorem SourceFile.exists_regular (file : SourceFile) :
    ∃ parts, List.Forall₂ (Item.HasLines file.memberDepth) file.declaration.members parts ∧
      Regular 0 file.steps
        ((if file.nullableContext then ["#nullable enable"] else []) ++
          file.usings.map (fun name => "using " ++ name ++ ";") ++
          (if file.usings.isEmpty then [] else [""]) ++
          (file.opening ++ [""].intercalate parts ++ file.closing) ++
          (if file.nullableContext then ["#nullable restore"] else [])) := by
  have husings : Regular 0 (file.usings.map fun name => .line ("using " ++ name ++ ";"))
      (file.usings.map fun name => "using " ++ name ++ ";") := by
    have hne : "" ∉ file.usings.map fun name => "using " ++ name ++ ";" := by simp
    simpa [indentation_zero, Function.comp_def] using Regular.lines_map hne 0
  have hgap : Regular 0 (if file.usings.isEmpty then [] else [.newline])
      (if file.usings.isEmpty then [] else [""]) := by
    split
    · exact .nil
    · exact .newline .nil
  obtain ⟨parts, hparts, hdeclaration⟩ := file.exists_regular_declaration
  have henable : Regular 0 [.line "#nullable enable"] ["#nullable enable"] :=
    .line_alone (by decide)
  have hrestore : Regular 0 [.line "#nullable restore"] ["#nullable restore"] :=
    .line_alone (by decide)
  exact ⟨parts, hparts,
    (((henable.ite.append husings).append hgap).append hdeclaration).append hrestore.ite⟩

/-! ## First and last lines -/

theorem using_ne_enable (name : String) : "using " ++ name ++ ";" ≠ "#nullable enable" := by
  intro heq
  simpa using congrArg (·.toList.head?) heq

/-- A header has its keyword in it, so it is no directive. -/
theorem TypeDeclaration.header_ne_enable (d : TypeDeclaration) : d.header ≠ "#nullable enable" := by
  have hkeyword : ∃ c ∈ d.kind.keyword.toList, c ∉ "#nullable enable".toList := by
    cases d.kind with
    | plainClass | struct => exact ⟨'s', by decide, by decide⟩
    | record | recordStruct | interface => exact ⟨'r', by decide, by decide⟩
    | enum => exact ⟨'m', by decide, by decide⟩
  obtain ⟨c, hc, hmissing⟩ := hkeyword
  intro hheader
  apply hmissing
  rw [← hheader, header, withModifiers]
  split <;> simp [hc]

theorem TypeDeclaration.head?_opening (d : TypeDeclaration) :
    ∃ first, (d.opening 0).head? = some first ∧ first ≠ "#nullable enable" := by
  unfold opening commentLines
  split
  · exact ⟨_, rfl, d.header_ne_enable⟩
  · exact ⟨_, rfl, by decide⟩

theorem SourceFile.head?_opening (file : SourceFile) :
    ∃ first, file.opening.head? = some first ∧ first ≠ "#nullable enable" := by
  unfold opening
  cases file.namespaceName with
  | none => exact file.declaration.head?_opening
  | some name =>
    refine ⟨_, rfl, fun heq => ?_⟩
    simpa using congrArg (·.toList.head?) heq

theorem SourceFile.getLast?_closing (file : SourceFile) : file.closing.getLast? = some "\x7d" := by
  unfold closing
  cases file.namespaceName <;> rfl

theorem SourceFile.empty_not_mem_opening (file : SourceFile) : "" ∉ file.opening := by
  unfold opening
  cases file.namespaceName with
  | none => exact file.declaration.empty_not_mem_opening 0
  | some name =>
    have hopening := file.declaration.empty_not_mem_opening 1
    simp [hopening]

theorem SourceFile.empty_not_mem_closing (file : SourceFile) : "" ∉ file.closing := by
  unfold closing
  cases file.namespaceName <;> simp

/-! ## Shown lines -/

/-- Regular steps whose lines have no line breaks are shown in their lines. -/
theorem Regular.shownLines_render (h : Regular 0 steps lines)
    (hlack : ∀ c, isLineBreak c = true → LinesLack c steps) (ending : LineEnding) :
    (shownLines (Layout.render ending steps).toList).map String.ofList = lines := by
  have hplain : ∀ line ∈ lines, ∀ c ∈ line.toList, isLineBreak c = false := by
    intro line hline c hc
    by_contra hbreak
    rw [Bool.not_eq_false] at hbreak
    have hlack := hlack c hbreak
    have hother : c ∉ [' ', '\x7b', '\x7d'] := by
      simp only [isLineBreak, Bool.or_eq_true, decide_eq_true_eq] at hbreak
      rcases hbreak with rfl | rfl <;> decide
    exact h.not_mem_line hother hlack line hline hc
  have hend : ∀ line ∈ lines.map String.toList, line.getLast? ≠ some '\r' := by
    refine List.forall_mem_map.mpr fun line hline hlast => ?_
    exact absurd (hplain line hline '\r' (List.mem_of_getLast? hlast)) (by decide)
  have htext : (Layout.render ending steps).toList =
      (lines.map String.toList).flatMap (· ++ ending.text.toList) := by
    rw [h.render_eq, ended]
    simp [String.toList_join, List.flatMap_map]
  rw [htext, (Text.shownLines_flatMap_iff hend ending).mpr (List.forall_mem_map.mpr hplain)]
  simp

/-- A file whose texts have no line breaks is printed in regular lines. -/
theorem SourceFile.isLaidOut (file : SourceFile) (h : ∀ text ∈ file.texts, IsOneLine text)
    (ending : LineEnding) :
    file.IsLaidOut ending ((shownLines (file.print ending).toList).map String.ofList) := by
  have hlack (c : Char) (hc : isLineBreak c = true) : LinesLack c file.steps :=
    file.linesLack hc fun text htext => lacks_of_isOneLine hc (h text htext)
  obtain ⟨parts, hparts, hregular⟩ := file.exists_regular
  obtain ⟨first, hfirst, hne⟩ := file.head?_opening
  rw [SourceFile.print, hregular.shownLines_render hlack]
  exact
  { printed := hregular.render_eq ending
    regular := hregular
    depth := fun front => hregular.depth_run ending
    closed := congrArg Layout.depth (hregular.run_eq ending)
    spaced := ⟨_, parts, _, rfl, hparts, file.empty_not_mem_opening, file.empty_not_mem_closing⟩
    enabled := by
      cases file.nullableContext with
      | true => simp
      | false =>
        cases file.usings with
        | nil => simp [hfirst, hne]
        | cons name names => simp [using_ne_enable]
    restored := by
      cases file.nullableContext with
      | true => simp only [if_true, List.getLast?_concat]
      | false => simp [file.getLast?_closing] }

/-- A file with an import and two members. -/
def pointFile : SourceFile where
  nullableContext := true
  usings := ["System"]
  declaration :=
    { kind := .struct
      name := "Point"
      members :=
        [.property [] [] (.predefined "int") "X" (.auto .absent),
          .property [] [] (.predefined "int") "Y" (.auto .absent)] }

theorem SourceFile.isLaidOut_pointFile :
    (∀ text ∈ pointFile.texts, IsOneLine text) ∧
      pointFile.IsLaidOut .crlf
        ["#nullable enable", "using System;", "", "struct Point", "\x7b",
          "    int X \x7b get; \x7d", "", "    int Y \x7b get; \x7d", "\x7d",
          "#nullable restore"] := by
  have htexts : ∀ text ∈ pointFile.texts, IsOneLine text := by decide
  have hlaidOut := pointFile.isLaidOut htexts .crlf
  refine ⟨htexts, ?_⟩
  convert hlaidOut using 1
  decide +kernel

end Companion.Code
