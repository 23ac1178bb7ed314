import Mathlib.Data.List.Forall2
import Companion.Doc
import Companion.Proofs.Text.Lines
import Companion.Proofs.Text.Search

/-!
# What is kept of a comment

A comment is read in three steps: its lines lose the slashes in front of them (`Strips`), the
summaries are found from left to right (`Summarised`), and each summary is cut into entries. The
first two steps are stated here without the functions that take them. The third loses and repeats
nothing but blanks and slashes, so the entries have the text of the summaries
(`summary_keeps_content`).
-/

namespace Companion.Doc

open Text (isBlank after? before? cut? lines trimBy CutsAt)

/-- A line loses the blanks in front of it, and then the slashes of a comment. -/
inductive StripsLine : List Char → List Char → Prop
  | marked {blanks rest : List Char} (hblanks : ∀ c ∈ blanks, isBlank c = true) :
    StripsLine (blanks ++ ("///".toList ++ rest)) rest
  | bare {blanks rest : List Char} (hblanks : ∀ c ∈ blanks, isBlank c = true)
    (hfirst : ∀ c ∈ rest.head?, isBlank c = false) (hmark : ¬"///".toList <+: rest) :
    StripsLine (blanks ++ rest) rest

/-- The text of a comment, without what its lines lose. -/
def Strips (doc text : List Char) : Prop :=
  ∃ stripped, List.Forall₂ StripsLine (lines doc) stripped ∧ text = ['\n'].intercalate stripped

/-- The summaries of a text, from left to right. Each starts behind the next `<summary>` and goes on
to the next `</summary>`, or to the end of the text. -/
inductive Summarised : List Char → List (List Char) → Prop
  | none {text : List Char} (hstart : ¬summaryStart <:+: text) : Summarised text []
  | unclosed {text before content : List Char} (hstart : CutsAt summaryStart text before content)
    (hend : ¬summaryEnd <:+: content) : Summarised text [content]
  | closed {text before content summary rest : List Char} {more : List (List Char)}
    (hstart : CutsAt summaryStart text before content)
    (hend : CutsAt summaryEnd content summary rest) (hmore : Summarised rest more) :
    Summarised text (summary :: more)

/-- Neither a blank nor a slash. -/
def isSolid (c : Char) : Bool := !(isBlank c || c = '/')

/-! ## Finding the summaries -/

theorem stripsLine_iff {line stripped : List Char} :
    StripsLine line stripped ↔
      (after? "///".toList (line.dropWhile isBlank)).getD (line.dropWhile isBlank) = stripped := by
  constructor
  · intro h
    cases h with
    | marked hblanks =>
      have hslash : isBlank '/' = false := by decide
      have hdrop : ("///".toList ++ stripped).dropWhile isBlank = "///".toList ++ stripped := by
        simp [hslash]
      rw [List.dropWhile_append_of_pos hblanks, hdrop, Text.after?_eq_some_iff.mpr rfl,
        Option.getD_some]
    | bare hblanks hfirst hmark =>
      have hdrop : stripped.dropWhile isBlank = stripped := by
        cases stripped with
        | nil => rfl
        | cons c cs => rw [List.dropWhile_cons_of_neg (by simp [hfirst c rfl])]
      rw [List.dropWhile_append_of_pos hblanks, hdrop, Text.after?_eq_none_iff.mpr hmark,
        Option.getD_none]
  · rintro rfl
    have hblanks : ∀ c ∈ line.takeWhile isBlank, isBlank c = true :=
      fun c hc => List.mem_takeWhile_imp hc
    conv => lhs; rw [← List.takeWhile_append_dropWhile (p := isBlank) (l := line)]
    cases hmark : after? "///".toList (line.dropWhile isBlank) with
    | some rest =>
      rw [Text.after?_eq_some_iff.mp hmark]
      exact .marked hblanks
    | none =>
      refine .bare hblanks (fun c hc => ?_) (Text.after?_eq_none_iff.mp hmark)
      have hfirst := List.head?_dropWhile_not isBlank line
      rw [hc] at hfirst
      simpa using hfirst

/-- The lines of a comment can be stripped in one way. -/
theorem strips_iff {doc text : List Char} : Strips doc text ↔ text = unmarked doc := by
  let strip (line : List Char) : List Char :=
    (after? "///".toList (line.dropWhile isBlank)).getD (line.dropWhile isBlank)
  have hlines (stripped : List (List Char)) :
      List.Forall₂ StripsLine (lines doc) stripped ↔ (lines doc).map strip = stripped := by
    have hline : StripsLine = fun line stripped => strip line = stripped :=
      funext fun _ => funext fun _ => propext stripsLine_iff
    rw [hline, ← List.forall₂_map_left_iff, List.forall₂_eq_eq_eq]
  simp only [Strips, hlines, exists_eq_left']
  rfl

/-- One step of the scan for summaries. -/
theorem summaries_eq (text : List Char) : summaries text =
    match cut? summaryStart text with
    | none => []
    | some (_, content) =>
      match cut? summaryEnd content with
      | none => [content]
      | some (summary, rest) => summary :: summaries rest := by
  rw [summaries]
  split
  · next hstart => rw [hstart]
  · next content hstart =>
    split
    · next hend => simp only [hstart, hend]
    · next summary rest hend => simp only [hstart, hend]

/-- The scan for summaries ends, and finds the same summaries however it is made. -/
theorem summarised_iff {text : List Char} {contents : List (List Char)} :
    Summarised text contents ↔ contents = summaries text := by
  constructor
  · intro h
    induction h with
    | none hstart => rw [summaries_eq, Text.cut?_eq_none_iff.mpr hstart]
    | unclosed hstart hend =>
      rw [summaries_eq, Text.cut?_eq_some_iff.mpr hstart]
      dsimp only
      rw [Text.cut?_eq_none_iff.mpr hend]
    | closed hstart hend _ ih =>
      rw [summaries_eq, Text.cut?_eq_some_iff.mpr hstart]
      dsimp only
      rw [Text.cut?_eq_some_iff.mpr hend, ih]
  · rintro rfl
    fun_induction summaries text with
    | case1 text hstart => exact .none (Text.cut?_eq_none_iff.mp hstart)
    | case2 text before content hstart hend =>
      exact .unclosed (Text.cut?_eq_some_iff.mp hstart) (Text.cut?_eq_none_iff.mp hend)
    | case3 text before content hstart summary rest hend _ ih =>
      exact .closed (Text.cut?_eq_some_iff.mp hstart) (Text.cut?_eq_some_iff.mp hend) ih

/-! ## Entries of a summary -/

theorem append_splitElement (text : List Char) :
    (splitElement text).1 ++ (splitElement text).2 = text := by
  unfold splitElement
  split
  · simp
  · next inside rest hcut =>
    have htext := (Text.cut?_eq_some_iff.mp hcut).eq
    dsimp only
    split
    · exact htext.symm
    · split
      · next content rest' hclose =>
        have hrest := (Text.cut?_eq_some_iff.mp hclose).eq
        rw [htext, hrest]
        simp
      · exact htext.symm

theorem filter_flatten_entry (line : List Char) :
    (entry line).flatten.filter isSolid = line.filter isSolid := by
  have htrim : (trimBy (fun c => isBlank c || c = '/') line).filter isSolid = line.filter isSolid :=
    Text.filter_trimBy _ line
  unfold entry
  dsimp only
  split
  · next hempty =>
    rw [List.isEmpty_iff.mp hempty] at htrim
    exact htrim
  · simpa using htrim

/-- What each piece loses, all of them lose together. -/
theorem filter_flatten_flatMap {cut : List Char → List (List Char)}
    (hcut : ∀ piece, (cut piece).flatten.filter isSolid = piece.filter isSolid)
    (pieces : List (List Char)) :
    (pieces.flatMap cut).flatten.filter isSolid = pieces.flatten.filter isSolid := by
  induction pieces with
  | nil => rfl
  | cons piece pieces ih =>
    rw [List.flatMap_cons, List.flatten_append, List.filter_append, hcut, ih, List.flatten_cons,
      List.filter_append]

/-- Cutting a summary into entries loses only blanks and slashes. -/
theorem filter_flatten_entries (content : List Char) :
    (entries content).flatten.filter isSolid = content.filter isSolid := by
  fun_induction entries content with
  | case1 => rfl
  | case2 rest _ ih =>
    rw [List.flatten_append, List.filter_append, filter_flatten_entry, ih, ← List.filter_append,
      append_splitElement]
  | case3 c rest hc _ ih =>
    have hlf : isSolid '\n' = false := by decide
    have hcr : isSolid '\r' = false := by decide
    rw [List.flatten_append, List.filter_append, filter_flatten_flatMap filter_flatten_entry,
      Text.filter_flatten_lines hlf hcr, ih, ← List.filter_append, List.cons_append,
      List.takeWhile_append_dropWhile]

/-- The entries of a comment have the text of its summaries, up to blanks and slashes. Both the lines
of the comment and the summaries in them are found in one way, also where a summary has no end or a
tag is not closed. -/
theorem summary_keeps_content (doc : String) :
    ∃ text contents, Strips doc.toList text ∧ Summarised text contents ∧
      (∀ text' contents', Strips doc.toList text' → Summarised text' contents' →
        text' = text ∧ contents' = contents) ∧
      ((summary (some doc)).flatMap String.toList).filter isSolid =
        contents.flatten.filter isSolid := by
  refine ⟨_, _, strips_iff.mpr rfl, summarised_iff.mpr rfl, ?_, ?_⟩
  · intro text' contents' htext hcontents
    obtain rfl := strips_iff.mp htext
    exact ⟨rfl, summarised_iff.mp hcontents⟩
  · rw [summary, List.flatMap_map]
    simp only [String.toList_ofList, List.flatMap_id']
    exact filter_flatten_flatMap filter_flatten_entries (summaries (unmarked doc.toList))

end Companion.Doc
