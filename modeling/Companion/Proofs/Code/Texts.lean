import Companion.Proofs.Code.Layout
import Companion.Proofs.Doc.Entries

/-!
# Line breaks in printed code

The printer puts texts of a tree and words of its own together, and escapes string literals. Its own
words have no line breaks, so a line has one only if a text of the tree has.
-/

namespace Companion

open Doc (IsOneLine)
open Text (isLineBreak commaSeparated)

/-- A character does not occur in a text. -/
def Lacks (c : Char) (text : String) : Prop := c ∉ text.toList

variable {c : Char}

theorem lacks_append {first second : String} :
    Lacks c (first ++ second) ↔ Lacks c first ∧ Lacks c second := by
  rw [Lacks, String.toList_append, List.mem_append, not_or]
  rfl

theorem lacks_intercalate {separator : String} {texts : List String}
    (hseparator : Lacks c separator) (h : ∀ text ∈ texts, Lacks c text) :
    Lacks c (separator.intercalate texts) := by
  induction texts with
  | nil => exact List.not_mem_nil
  | cons text texts ih =>
    rw [List.forall_mem_cons] at h
    cases texts with
    | nil => simpa using h.1
    | cons next texts =>
      rw [String.intercalate_cons_cons, lacks_append, lacks_append]
      exact ⟨⟨h.1, hseparator⟩, ih h.2⟩

theorem lacks_join {texts : List String} (h : ∀ text ∈ texts, Lacks c text) :
    Lacks c (String.join texts) := by
  rw [Lacks, String.toList_join, List.mem_flatMap]
  rintro ⟨text, htext, hmem⟩
  exact h text htext hmem

/-! ## Texts of a tree -/

namespace TypeRef

mutual

/-- The names and keywords in a type. -/
def texts : TypeRef → List String
  | predefined keyword => [keyword]
  | named name args => name :: textsAll args
  | array element _ => element.texts
  | tuple elements => textsElements elements
  | nullable inner => inner.texts
  | pointer inner => inner.texts
  | functionPointer convention parameters => convention.toList ++ textsAll parameters

def textsAll : List TypeRef → List String
  | [] => []
  | t :: ts => t.texts ++ textsAll ts

def textsElements : List (TypeRef × Option String) → List String
  | [] => []
  | (t, name) :: rest => t.texts ++ name.toList ++ textsElements rest

end

end TypeRef

namespace Code

namespace Expr

mutual

/-- The texts in an expression that are printed as they are. The value of a string literal is not
among them: it is escaped. -/
def texts : Expr → List String
  | ident name => [name]
  | string _ => []
  | null => []
  | this => []
  | equals left right => left.texts ++ right.texts
  | invoke target args => target.texts ++ textsAll args
  | conditionalInvoke target method args => target.texts ++ [method] ++ textsAll args
  | new type args => type.texts ++ textsAll args

def textsAll : List Expr → List String
  | [] => []
  | e :: es => e.texts ++ textsAll es

end

end Expr

def Statement.texts : Statement → List String
  | ifThen condition body => condition.texts ++ body.texts
  | leave => []
  | localVar name value => [name] ++ value.texts
  | assign target value => target.texts ++ value.texts
  | expr e => e.texts

def Parameter.texts (p : Parameter) : List String :=
  p.type.texts ++ [p.name] ++ p.attributes ++ p.default.toList.flatMap Expr.texts

def Accessors.texts : Accessors → List String
  | auto _ => []
  | backed field setter => [field] ++ setter.flatMap Statement.texts

def Item.texts : Item → List String
  | event docs modifiers type name => docs ++ modifiers ++ type.texts ++ [name]
  | method docs modifiers type name parameters body =>
    docs ++ modifiers ++ type.texts ++ [name] ++ parameters.flatMap Parameter.texts ++
      (body.getD []).flatMap Statement.texts
  | constructor docs modifiers name parameters body =>
    docs ++ modifiers ++ [name] ++ parameters.flatMap Parameter.texts ++
      body.flatMap Statement.texts
  | property docs modifiers type name accessors =>
    docs ++ modifiers ++ type.texts ++ [name] ++ accessors.texts

def TypeDeclaration.texts (d : TypeDeclaration) : List String :=
  d.docs ++ d.modifiers ++ [d.name] ++ d.typeParameters ++ d.baseList ++
    d.members.flatMap Item.texts

/-- All texts in a file that are printed as they are. -/
def SourceFile.texts (file : SourceFile) : List String :=
  file.usings ++ file.namespaceName.toList ++ file.declaration.texts

end Code

/-! ## Line breaks

A line break that the texts of a tree lack is not in what is printed of the tree. -/

theorem lacks_of_isOneLine (hc : isLineBreak c = true) {text : String} (h : IsOneLine text) :
    Lacks c text := by
  intro hmem
  rw [h c hmem] at hc
  cases hc

theorem lacks_commaSeparated (hc : isLineBreak c = true) {texts : List String}
    (h : ∀ text ∈ texts, Lacks c text) : Lacks c (commaSeparated texts) :=
  lacks_intercalate (lacks_of_isOneLine hc (by decide)) h

namespace TypeRef

mutual

theorem lacks_display (hc : isLineBreak c = true) :
    (t : TypeRef) → (∀ text ∈ t.texts, Lacks c text) → Lacks c t.display
  | predefined _, h => h _ List.mem_cons_self
  | named _ [], h => h _ List.mem_cons_self
  | named _ (arg :: args), h => by
    rw [texts, List.forall_mem_cons] at h
    have hargs := lacks_commaSeparated hc (lacks_displayAll hc (arg :: args) h.2)
    simp (disch := decide) only [display, lacks_append, lacks_of_isOneLine hc, h.1, hargs, and_self]
  | array element rank, h => by
    have helement := lacks_display hc element h
    have hcommas : Lacks c (String.ofList (List.replicate (rank - 1) ',')) := by
      intro hmem
      rw [String.toList_ofList] at hmem
      rw [List.eq_of_mem_replicate hmem] at hc
      cases hc
    simp (disch := decide) only [display, lacks_append, lacks_of_isOneLine hc, helement, hcommas,
      and_self]
  | tuple elements, h => by
    have helements := lacks_commaSeparated hc (lacks_displayElements hc elements h)
    simp (disch := decide) only [display, lacks_append, lacks_of_isOneLine hc, helements, and_self]
  | nullable inner, h | pointer inner, h => by
    have hinner := lacks_display hc inner h
    simp (disch := decide) only [display, lacks_append, lacks_of_isOneLine hc, hinner, and_self]
  | functionPointer none parameters, h => by
    have hparameters := lacks_commaSeparated hc (lacks_displayAll hc parameters h)
    simp (disch := decide) only [display, lacks_append, lacks_of_isOneLine hc, hparameters,
      and_self]
  | functionPointer (some convention) parameters, h => by
    rw [texts, List.forall_mem_append] at h
    have hconvention := h.1 convention (by simp)
    have hparameters := lacks_commaSeparated hc (lacks_displayAll hc parameters h.2)
    simp (disch := decide) only [display, lacks_append, lacks_of_isOneLine hc, hconvention,
      hparameters, and_self]

theorem lacks_displayAll (hc : isLineBreak c = true) :
    (ts : List TypeRef) → (∀ text ∈ textsAll ts, Lacks c text) →
      ∀ text ∈ displayAll ts, Lacks c text
  | [], _ => fun _ htext => (List.not_mem_nil htext).elim
  | t :: ts, h => by
    rw [textsAll, List.forall_mem_append] at h
    exact List.forall_mem_cons.mpr ⟨lacks_display hc t h.1, lacks_displayAll hc ts h.2⟩

theorem lacks_displayElements (hc : isLineBreak c = true) :
    (elements : List (TypeRef × Option String)) →
      (∀ text ∈ textsElements elements, Lacks c text) →
      ∀ text ∈ displayElements elements, Lacks c text
  | [], _ => fun _ htext => (List.not_mem_nil htext).elim
  | (t, none) :: elements, h => by
    rw [textsElements, List.forall_mem_append, List.forall_mem_append] at h
    have hrest := lacks_displayElements hc elements h.2
    exact List.forall_mem_cons.mpr ⟨lacks_display hc t h.1.1, hrest⟩
  | (t, some name) :: elements, h => by
    rw [textsElements, List.forall_mem_append, List.forall_mem_append] at h
    have ht := lacks_display hc t h.1.1
    have hname := h.1.2 name (by simp)
    refine List.forall_mem_cons.mpr ⟨?_, lacks_displayElements hc elements h.2⟩
    simp (disch := decide) only [lacks_append, lacks_of_isOneLine hc, ht, hname, and_self]

end

end TypeRef

namespace Code

/-- A string literal is on one line, whatever its value. -/
theorem lacks_stringLiteral (hc : isLineBreak c = true) (value : String) :
    Lacks c (stringLiteral value) := by
  have hescaped (x : Char) : c ∉ escapedChar x := by
    simp only [isLineBreak, Bool.or_eq_true, decide_eq_true_eq] at hc
    unfold escapedChar
    split_ifs <;> rcases hc with rfl | rfl <;> simp_all [Ne.symm]
  have hquote : c ≠ '"' := by
    rintro rfl
    cases hc
  rw [Lacks, stringLiteral, String.toList_ofList]
  simp [hescaped, hquote]

namespace Expr

mutual

theorem lacks_print (hc : isLineBreak c = true) :
    (e : Expr) → (∀ text ∈ e.texts, Lacks c text) → Lacks c e.print
  | ident _, h => h _ List.mem_cons_self
  | string value, _ => lacks_stringLiteral hc value
  | null, _ | this, _ => lacks_of_isOneLine hc (by decide)
  | equals left right, h => by
    rw [texts, List.forall_mem_append] at h
    have hleft := lacks_print hc left h.1
    have hright := lacks_print hc right h.2
    simp (disch := decide) only [print, lacks_append, lacks_of_isOneLine hc, hleft, hright,
      and_self]
  | invoke target args, h => by
    rw [texts, List.forall_mem_append] at h
    have htarget := lacks_print hc target h.1
    have hargs := lacks_commaSeparated hc (lacks_printAll hc args h.2)
    simp (disch := decide) only [print, lacks_append, lacks_of_isOneLine hc, htarget, hargs,
      and_self]
  | conditionalInvoke target method args, h => by
    rw [texts, List.forall_mem_append, List.forall_mem_append, List.forall_mem_singleton] at h
    have htarget := lacks_print hc target h.1.1
    have hargs := lacks_commaSeparated hc (lacks_printAll hc args h.2)
    simp (disch := decide) only [print, lacks_append, lacks_of_isOneLine hc, htarget, h.1.2, hargs,
      and_self]
  | new type args, h => by
    rw [texts, List.forall_mem_append] at h
    have htype := type.lacks_display hc h.1
    have hargs := lacks_commaSeparated hc (lacks_printAll hc args h.2)
    simp (disch := decide) only [print, lacks_append, lacks_of_isOneLine hc, htype, hargs, and_self]

theorem lacks_printAll (hc : isLineBreak c = true) :
    (es : List Expr) → (∀ text ∈ textsAll es, Lacks c text) → ∀ text ∈ printAll es, Lacks c text
  | [], _ => fun _ htext => (List.not_mem_nil htext).elim
  | e :: es, h => by
    rw [textsAll, List.forall_mem_append] at h
    exact List.forall_mem_cons.mpr ⟨lacks_print hc e h.1, lacks_printAll hc es h.2⟩

end

end Expr

theorem Statement.lacks_print (hc : isLineBreak c = true) (s : Statement)
    (h : ∀ text ∈ s.texts, Lacks c text) : Lacks c s.print := by
  induction s with
  | ifThen condition body ih =>
    rw [texts, List.forall_mem_append] at h
    have hcondition := condition.lacks_print hc h.1
    have hbody := ih h.2
    simp (disch := decide) only [print, lacks_append, lacks_of_isOneLine hc, hcondition, hbody,
      and_self]
  | leave => exact lacks_of_isOneLine hc (by decide)
  | localVar name value =>
    rw [texts, List.forall_mem_append, List.forall_mem_singleton] at h
    have hvalue := value.lacks_print hc h.2
    simp (disch := decide) only [print, lacks_append, lacks_of_isOneLine hc, h.1, hvalue, and_self]
  | assign target value =>
    rw [texts, List.forall_mem_append] at h
    have htarget := target.lacks_print hc h.1
    have hvalue := value.lacks_print hc h.2
    simp (disch := decide) only [print, lacks_append, lacks_of_isOneLine hc, htarget, hvalue,
      and_self]
  | expr e =>
    have he := e.lacks_print hc h
    simp (disch := decide) only [print, lacks_append, lacks_of_isOneLine hc, he, and_self]

theorem Parameter.lacks_print (hc : isLineBreak c = true) (p : Parameter)
    (h : ∀ text ∈ p.texts, Lacks c text) : Lacks c p.print := by
  simp only [texts, List.forall_mem_append, List.forall_mem_singleton] at h
  obtain ⟨⟨⟨htype, hname⟩, hattributes⟩, hdefault⟩ := h
  have htype := p.type.lacks_display hc htype
  have hattributes : Lacks c (String.join (p.attributes.map fun a => "[" ++ a ++ "] ")) := by
    refine lacks_join (List.forall_mem_map.mpr fun a ha => ?_)
    simp (disch := decide) only [lacks_append, lacks_of_isOneLine hc, hattributes a ha, and_self]
  unfold print
  cases hp : p.default with
  | none =>
    simp (disch := decide) only [lacks_append, lacks_of_isOneLine hc, htype, hname, hattributes,
      and_self]
  | some e =>
    have he := e.lacks_print hc (by simpa [hp] using hdefault)
    simp (disch := decide) only [lacks_append, lacks_of_isOneLine hc, htype, hname, hattributes, he,
      and_self]

theorem lacks_printParameters (hc : isLineBreak c = true) {parameters : List Parameter}
    (h : ∀ text ∈ parameters.flatMap Parameter.texts, Lacks c text) :
    Lacks c (printParameters parameters) := by
  refine lacks_commaSeparated hc (List.forall_mem_map.mpr fun p hp => p.lacks_print hc ?_)
  exact fun text htext => h text (List.mem_flatMap.mpr ⟨p, hp, htext⟩)

theorem lacks_withModifiers (hc : isLineBreak c = true) {modifiers : List String} {header : String}
    (hmodifiers : ∀ modifier ∈ modifiers, Lacks c modifier) (hheader : Lacks c header) :
    Lacks c (withModifiers modifiers header) := by
  have hblank : Lacks c " " := lacks_of_isOneLine hc (by decide)
  unfold withModifiers
  split
  · exact hheader
  · rw [lacks_append, lacks_append]
    exact ⟨⟨lacks_intercalate hblank hmodifiers, hblank⟩, hheader⟩

/-! ## Lines of a file -/

/-- A character does not occur in the lines that steps write. -/
def LinesLack (c : Char) (steps : List Layout.Step) : Prop :=
  ∀ text, .line text ∈ steps → Lacks c text

theorem linesLack_nil : LinesLack c [] := fun _ hmem => (List.not_mem_nil hmem).elim

theorem linesLack_append {steps steps' : List Layout.Step} :
    LinesLack c (steps ++ steps') ↔ LinesLack c steps ∧ LinesLack c steps' := by
  simp only [LinesLack, List.mem_append, or_imp, forall_and]

theorem linesLack_inBlock {steps : List Layout.Step} :
    LinesLack c (inBlock steps) ↔ LinesLack c steps := by
  simp [LinesLack, inBlock]

theorem linesLack_newline : LinesLack c [.newline] := by
  simp [LinesLack]

theorem linesLack_map {texts : List String} :
    LinesLack c (texts.map .line) ↔ ∀ text ∈ texts, Lacks c text := by
  simp [LinesLack]

theorem linesLack_line {text : String} : LinesLack c [.line text] ↔ Lacks c text := by
  simp [LinesLack]

theorem linesLack_docSteps (hc : isLineBreak c = true) {docs : List String}
    (h : ∀ doc ∈ docs, Lacks c doc) : LinesLack c (docSteps docs) := by
  have hfirst : Lacks c "/// <summary>" := lacks_of_isOneLine hc (by decide)
  have hlast : Lacks c "/// </summary>" := lacks_of_isOneLine hc (by decide)
  rw [Doc.docSteps_eq, linesLack_map, Doc.forall_mem_commentLines hfirst hlast]
  exact fun doc hdoc => lacks_append.mpr ⟨lacks_of_isOneLine hc (by decide), h doc hdoc⟩

theorem linesLack_bodySteps (hc : isLineBreak c = true) {statements : List Statement}
    (h : ∀ text ∈ statements.flatMap Statement.texts, Lacks c text) :
    LinesLack c (bodySteps statements) := by
  rw [bodySteps, linesLack_inBlock, ← Function.comp_def, ← List.map_map, linesLack_map]
  refine List.forall_mem_map.mpr fun s hs => s.lacks_print hc ?_
  exact fun text htext => h text (List.mem_flatMap.mpr ⟨s, hs, htext⟩)

theorem Item.linesLack (hc : isLineBreak c = true) (item : Item)
    (h : ∀ text ∈ item.texts, Lacks c text) : LinesLack c item.steps := by
  cases item with
  | event docs modifiers type name =>
    simp only [texts, List.forall_mem_append, List.forall_mem_singleton] at h
    obtain ⟨⟨⟨hdocs, hmodifiers⟩, htype⟩, hname⟩ := h
    have htype := type.lacks_display hc htype
    rw [steps, linesLack_append, linesLack_line]
    refine ⟨linesLack_docSteps hc hdocs, lacks_withModifiers hc hmodifiers ?_⟩
    simp (disch := decide) only [lacks_append, lacks_of_isOneLine hc, htype, hname, and_self]
  | method docs modifiers type name parameters body =>
    simp only [texts, List.forall_mem_append, List.forall_mem_singleton] at h
    obtain ⟨⟨⟨⟨⟨hdocs, hmodifiers⟩, htype⟩, hname⟩, hparameters⟩, hbody⟩ := h
    have htype := type.lacks_display hc htype
    have hparameters := lacks_printParameters hc hparameters
    have hheader : Lacks c (withModifiers modifiers
        (type.display ++ " " ++ name ++ "(" ++ printParameters parameters ++ ")")) := by
      refine lacks_withModifiers hc hmodifiers ?_
      simp (disch := decide) only [lacks_append, lacks_of_isOneLine hc, htype, hname, hparameters,
        and_self]
    refine linesLack_append.mpr ⟨linesLack_docSteps hc hdocs, ?_⟩
    cases body with
    | none =>
      exact linesLack_line.mpr (lacks_append.mpr ⟨hheader, lacks_of_isOneLine hc (by decide)⟩)
    | some statements =>
      exact linesLack_append.mpr ⟨linesLack_line.mpr hheader, linesLack_bodySteps hc hbody⟩
  | constructor docs modifiers name parameters body =>
    simp only [texts, List.forall_mem_append, List.forall_mem_singleton] at h
    obtain ⟨⟨⟨⟨hdocs, hmodifiers⟩, hname⟩, hparameters⟩, hbody⟩ := h
    have hparameters := lacks_printParameters hc hparameters
    rw [steps, linesLack_append, linesLack_append, linesLack_line]
    refine ⟨⟨linesLack_docSteps hc hdocs, lacks_withModifiers hc hmodifiers ?_⟩,
      linesLack_bodySteps hc hbody⟩
    simp (disch := decide) only [lacks_append, lacks_of_isOneLine hc, hname, hparameters, and_self]
  | property docs modifiers type name accessors =>
    simp only [texts, List.forall_mem_append, List.forall_mem_singleton] at h
    obtain ⟨⟨⟨⟨hdocs, hmodifiers⟩, htype⟩, hname⟩, haccessors⟩ := h
    have htype := type.lacks_display hc htype
    have hheader : Lacks c (withModifiers modifiers (type.display ++ " " ++ name)) := by
      refine lacks_withModifiers hc hmodifiers ?_
      simp (disch := decide) only [lacks_append, lacks_of_isOneLine hc, htype, hname, and_self]
    refine linesLack_append.mpr ⟨linesLack_docSteps hc hdocs, ?_⟩
    cases accessors with
    | auto setter =>
      have hsetter : Lacks c setter.print := by
        cases setter <;> exact lacks_of_isOneLine hc (by decide)
      refine linesLack_line.mpr ?_
      simp (disch := decide) only [lacks_append, lacks_of_isOneLine hc, hheader, hsetter, and_self]
    | backed field setter =>
      rw [Accessors.texts, List.forall_mem_append, List.forall_mem_singleton] at haccessors
      have hget : Lacks c ("get => " ++ field ++ ";") := by
        simp (disch := decide) only [lacks_append, lacks_of_isOneLine hc, haccessors.1, and_self]
      have hset : Lacks c "set" := lacks_of_isOneLine hc (by decide)
      have hsetter := linesLack_bodySteps hc haccessors.2
      have hlines : LinesLack c ([.line ("get => " ++ field ++ ";")] ++ [.line "set"]) :=
        linesLack_append.mpr ⟨linesLack_line.mpr hget, linesLack_line.mpr hset⟩
      rw [linesLack_append, linesLack_line, linesLack_inBlock, linesLack_append]
      exact ⟨hheader, hlines, hsetter⟩

theorem linesLack_itemsSteps (hc : isLineBreak c = true) {items : List Item}
    (h : ∀ text ∈ items.flatMap Item.texts, Lacks c text) : LinesLack c (itemsSteps items) := by
  fun_induction itemsSteps items with
  | case1 => exact linesLack_nil
  | case2 item => exact item.linesLack hc (by simpa using h)
  | case3 item items _ ih =>
    rw [List.flatMap_cons, List.forall_mem_append] at h
    rw [linesLack_append, linesLack_append]
    exact ⟨⟨item.linesLack hc h.1, linesLack_newline⟩, ih h.2⟩

theorem TypeDeclaration.lacks_header (hc : isLineBreak c = true) (d : TypeDeclaration)
    (h : ∀ text ∈ d.texts, Lacks c text) : Lacks c d.header := by
  simp only [texts, List.forall_mem_append, List.forall_mem_singleton] at h
  obtain ⟨⟨⟨⟨⟨-, hmodifiers⟩, hname⟩, htypeParameters⟩, hbaseList⟩, -⟩ := h
  have hkeyword : Lacks c d.kind.keyword := by
    cases d.kind <;> exact lacks_of_isOneLine hc (by decide)
  have hempty : Lacks c "" := lacks_of_isOneLine hc (by decide)
  have htypeParameters := lacks_commaSeparated hc htypeParameters
  have hbaseList := lacks_commaSeparated hc hbaseList
  refine lacks_withModifiers hc hmodifiers ?_
  simp (disch := decide) only [lacks_append, lacks_of_isOneLine hc, hkeyword, hname, true_and]
  constructor
  · split
    · exact hempty
    · simp (disch := decide) only [lacks_append, lacks_of_isOneLine hc, htypeParameters, and_self]
  · split
    · exact hempty
    · simp (disch := decide) only [lacks_append, lacks_of_isOneLine hc, hbaseList, and_self]

theorem TypeDeclaration.linesLack (hc : isLineBreak c = true) (d : TypeDeclaration)
    (h : ∀ text ∈ d.texts, Lacks c text) : LinesLack c d.steps := by
  have hheader := d.lacks_header hc h
  rw [texts, List.forall_mem_append] at h
  have hdocs : ∀ doc ∈ d.docs, Lacks c doc := fun doc hdoc => h.1 doc (by simp [hdoc])
  rw [steps, linesLack_append, linesLack_append, linesLack_line, linesLack_inBlock]
  exact ⟨⟨linesLack_docSteps hc hdocs, hheader⟩, linesLack_itemsSteps hc h.2⟩

/-- The lines of a file have no line break that its texts do not have. -/
theorem SourceFile.linesLack (hc : isLineBreak c = true) (file : SourceFile)
    (h : ∀ text ∈ file.texts, Lacks c text) : LinesLack c file.steps := by
  have hoption {b : Bool} {steps : List Layout.Step} (h : LinesLack c steps) :
      LinesLack c (if b then steps else []) := by
    cases b
    · exact linesLack_nil
    · exact h
  simp only [texts, List.forall_mem_append] at h
  obtain ⟨⟨husings, hname⟩, hdeclaration⟩ := h
  have hdeclaration := file.declaration.linesLack hc hdeclaration
  simp only [steps, linesLack_append]
  refine ⟨⟨⟨⟨hoption ?_, ?_⟩, ?_⟩, ?_⟩, hoption ?_⟩
  · exact linesLack_line.mpr (lacks_of_isOneLine hc (by decide))
  · rw [← Function.comp_def, ← List.map_map, linesLack_map]
    refine List.forall_mem_map.mpr fun name hname => ?_
    simp (disch := decide) only [lacks_append, lacks_of_isOneLine hc, husings name hname, and_self]
  · split
    · exact linesLack_nil
    · exact linesLack_newline
  · cases hn : file.namespaceName with
    | none => exact hdeclaration
    | some name =>
      have hname : Lacks c name := hname name (by simp [hn])
      rw [linesLack_append, linesLack_line, linesLack_inBlock]
      exact ⟨lacks_append.mpr ⟨lacks_of_isOneLine hc (by decide), hname⟩, hdeclaration⟩
  · exact linesLack_line.mpr (lacks_of_isOneLine hc (by decide))

end Code

end Companion
