import Mathlib.Data.List.Infix
import Companion.Code.Printer
import Companion.Proofs.Doc.Summary

/-!
# Entries as lines of a comment

An entry is printed as one line of a comment, so it must not have a line break in it. The text
between elements is cut into lines before it is trimmed, but an element is taken whole, and a line
may still have a carriage return in it. `oneLine_iff` says for which comments all entries are lines:
those in which no element and no line of text (`PiecesOf`) has a line break with anything but blanks
and slashes on both sides of it.
-/

namespace Companion.Doc

open Code (Layout docSteps)
open Text (isBlank after? before? cut? lines trimBy CutsAt StandsBetween isLineBreak shownLines)

/-- The tag that closes another. -/
def closeTag (tag : List Char) : List Char :=
  "</".toList ++ (tag.drop 1).takeWhile isTagName ++ ['>']

/-- The tag is an element alone: it closes itself, or another. -/
def IsSingle (tag : List Char) : Prop := "/>".toList <:+ tag ∨ "</".toList <+: tag

/-- The element at the start of a text, and what follows it. An element is a single tag, or goes
from a tag to the next one that closes it. Without an end a tag goes on to the end of the text, and
a tag that is never closed is an element alone. -/
inductive StartsWith : (text element rest : List Char) → Prop
  | unended {text : List Char} (hend : '>' ∉ text) : StartsWith text text []
  | single {text inside rest : List Char} (htag : CutsAt ['>'] text inside rest)
    (hsingle : IsSingle (inside ++ ['>'])) : StartsWith text (inside ++ ['>']) rest
  | unclosed {text inside rest : List Char} (htag : CutsAt ['>'] text inside rest)
    (hopen : ¬IsSingle (inside ++ ['>'])) (hclose : ¬closeTag (inside ++ ['>']) <:+: rest) :
    StartsWith text (inside ++ ['>']) rest
  | closed {text inside rest content rest' : List Char} (htag : CutsAt ['>'] text inside rest)
    (hopen : ¬IsSingle (inside ++ ['>']))
    (hclose : CutsAt (closeTag (inside ++ ['>'])) rest content rest') :
    StartsWith text (inside ++ ['>'] ++ content ++ closeTag (inside ++ ['>'])) rest'

/-- The pieces of a summary: its elements, and the lines of the texts between them. -/
inductive Pieces : List Char → List (List Char) → Prop
  | nil : Pieces [] []
  | element {text element rest : List Char} {pieces : List (List Char)}
    (hfirst : text.head? = some '<') (helement : StartsWith text element rest)
    (hmore : Pieces rest pieces) : Pieces text (element :: pieces)
  | text {text rest : List Char} {pieces : List (List Char)} (hne : text ≠ []) (htext : '<' ∉ text)
    (hrest : ∀ c ∈ rest.head?, c = '<') (hmore : Pieces rest pieces) :
    Pieces (text ++ rest) (lines text ++ pieces)

/-- The pieces of all summaries of a comment. -/
def PiecesOf (doc : List Char) (pieces : List (List Char)) : Prop :=
  ∃ text contents parts, Strips doc text ∧ Summarised text contents ∧
    List.Forall₂ Pieces contents parts ∧ pieces = parts.flatten

/-- A line break inside a piece, with more than blanks and slashes on both sides. -/
def Breaks (piece : List Char) : Prop :=
  ∃ c, isLineBreak c = true ∧ StandsBetween isSolid c piece

/-- An entry is not empty and has no blanks around it. -/
structure IsTrimmed (e : String) : Prop where
  ne_empty : e ≠ ""
  head : ∀ c ∈ e.toList.head?, isBlank c = false
  last : ∀ c ∈ e.toList.getLast?, isBlank c = false

/-- An entry has no line break. -/
def IsOneLine (e : String) : Prop := ∀ c ∈ e.toList, isLineBreak c = false

instance (e : String) : Decidable (IsOneLine e) :=
  decidable_of_iff (e.toList.all (!isLineBreak ·) = true) (by simp [IsOneLine])

/-- The lines of a comment, one for each entry and all with three slashes in front. -/
def commentLines (docs : List String) : List String :=
  if docs.isEmpty then []
  else ["/// <summary>"] ++ docs.map ("/// " ++ ·) ++ ["/// </summary>"]

/-- What printing a comment adds to a text is shown in the lines of the comment, as deep as the
layout has it, and in no other lines. -/
def IsShownByLine (ending : LineEnding) (layout : Layout) (docs : List String) : Prop :=
  ∃ printed, ((docSteps docs).foldl (Layout.step ending) layout).text.toList =
      layout.text.toList ++ printed ∧
    shownLines printed =
      (commentLines docs).map fun line => (Layout.indentation layout.depth ++ line).toList

/-! ## Pieces and entries -/

theorem isSingle_iff {tag : List Char} :
    ((before? "/>".toList tag).isSome || (after? "</".toList tag).isSome) = true ↔
      IsSingle tag := by
  rw [Bool.or_eq_true, Text.after?_isSome_iff, before?, Option.isSome_map, Text.after?_isSome_iff,
    List.reverse_prefix]
  rfl

/-- Behind a tag that ends, the element ends at once, or with the tag that closes it. -/
theorem splitElement_of_cut? {text inside rest : List Char}
    (htag : cut? ['>'] text = some (inside, rest)) :
    (IsSingle (inside ++ ['>']) → splitElement text = (inside ++ ['>'], rest)) ∧
      (¬IsSingle (inside ++ ['>']) → splitElement text =
        match cut? (closeTag (inside ++ ['>'])) rest with
        | some (content, rest') =>
          (inside ++ ['>'] ++ content ++ closeTag (inside ++ ['>']), rest')
        | none => (inside ++ ['>'], rest)) := by
  unfold splitElement
  rw [htag]
  dsimp only
  exact ⟨fun h => if_pos (isSingle_iff.mpr h), fun h => if_neg fun hs => h (isSingle_iff.mp hs)⟩

theorem startsWith_splitElement (text : List Char) :
    StartsWith text (splitElement text).1 (splitElement text).2 := by
  cases htag : cut? ['>'] text with
  | none =>
    have hsplit : splitElement text = (text, []) := by simp only [splitElement, htag]
    rw [hsplit]
    exact .unended fun hmem => Text.cut?_eq_none_iff.mp htag ((List.singleton_infix_iff _ _).mpr hmem)
  | some cut =>
    obtain ⟨inside, rest⟩ := cut
    have hcuts := Text.cut?_eq_some_iff.mp htag
    obtain ⟨hsingle, hopen⟩ := splitElement_of_cut? htag
    by_cases htest : IsSingle (inside ++ ['>'])
    · rw [hsingle htest]
      exact .single hcuts htest
    · rw [hopen htest]
      cases hclose : cut? (closeTag (inside ++ ['>'])) rest with
      | none => exact .unclosed hcuts htest (Text.cut?_eq_none_iff.mp hclose)
      | some cut => exact .closed hcuts htest (Text.cut?_eq_some_iff.mp hclose)

theorem StartsWith.splitElement_eq {text element rest : List Char}
    (h : StartsWith text element rest) : splitElement text = (element, rest) := by
  cases h with
  | unended hend =>
    have htag : cut? ['>'] text = none :=
      Text.cut?_eq_none_iff.mpr fun hinfix => hend ((List.singleton_infix_iff _ _).mp hinfix)
    simp only [splitElement, htag]
  | single htag hsingle =>
    exact (splitElement_of_cut? (Text.cut?_eq_some_iff.mpr htag)).1 hsingle
  | unclosed htag hopen hclose =>
    rw [(splitElement_of_cut? (Text.cut?_eq_some_iff.mpr htag)).2 hopen,
      Text.cut?_eq_none_iff.mpr hclose]
  | closed htag hopen hclose =>
    rw [(splitElement_of_cut? (Text.cut?_eq_some_iff.mpr htag)).2 hopen,
      Text.cut?_eq_some_iff.mpr hclose]

/-- Every summary has pieces. -/
theorem exists_pieces (content : List Char) : ∃ pieces, Pieces content pieces := by
  fun_induction entries content with
  | case1 => exact ⟨[], .nil⟩
  | case2 rest _ ih =>
    obtain ⟨pieces, hpieces⟩ := ih
    exact ⟨_, .element rfl (startsWith_splitElement _) hpieces⟩
  | case3 c rest hc _ ih =>
    obtain ⟨pieces, hpieces⟩ := ih
    have hcontent : c :: rest =
        c :: rest.takeWhile (· != '<') ++ rest.dropWhile (· != '<') := by
      rw [List.cons_append, List.takeWhile_append_dropWhile]
    rw [hcontent]
    refine ⟨_, .text (List.cons_ne_nil _ _) ?_ (fun d hd => ?_) hpieces⟩
    · rw [List.mem_cons, not_or]
      refine ⟨Ne.symm hc, fun hmem => ?_⟩
      simpa using List.mem_takeWhile_imp hmem
    · have hfirst := List.head?_dropWhile_not (· != '<') rest
      rw [hd] at hfirst
      simpa using hfirst

/-- The entries of a summary are its pieces without what is around them. -/
theorem Pieces.entries_eq {content : List Char} {pieces : List (List Char)}
    (h : Pieces content pieces) : entries content = pieces.flatMap entry := by
  induction h with
  | nil => rw [entries]; rfl
  | @element text element rest pieces hfirst helement hmore ih =>
    obtain ⟨text, rfl⟩ := List.head?_eq_some_iff.mp hfirst
    rw [entries, if_pos rfl, helement.splitElement_eq, List.flatMap_cons, ih]
  | @text text rest pieces hne htext hrest hmore ih =>
    obtain ⟨c, text, rfl⟩ := List.exists_cons_of_ne_nil hne
    rw [List.mem_cons, not_or] at htext
    have hall : ∀ d ∈ text, (d != '<') = true := fun d hd => by
      simpa using fun heq : d = '<' => htext.2 (heq ▸ hd)
    have hstop : rest.takeWhile (· != '<') = [] ∧ rest.dropWhile (· != '<') = rest := by
      cases rest with
      | nil => exact ⟨rfl, rfl⟩
      | cons d rest => simp [hrest d rfl]
    rw [List.cons_append, entries, if_neg (Ne.symm htext.1), List.takeWhile_append_of_pos hall,
      List.dropWhile_append_of_pos hall, hstop.1, hstop.2, ih, List.append_nil, List.flatMap_append]

theorem exists_piecesOf (doc : List Char) : ∃ pieces, PiecesOf doc pieces := by
  have hparts (contents : List (List Char)) : ∃ parts, List.Forall₂ Pieces contents parts := by
    induction contents with
    | nil => exact ⟨[], .nil⟩
    | cons content contents ih =>
      obtain ⟨part, hpart⟩ := exists_pieces content
      obtain ⟨parts, hparts⟩ := ih
      exact ⟨part :: parts, .cons hpart hparts⟩
  obtain ⟨parts, hparts⟩ := hparts (summaries (unmarked doc))
  exact ⟨_, _, _, parts, strips_iff.mpr rfl, summarised_iff.mpr rfl, hparts, rfl⟩

theorem summary_eq_of_piecesOf {doc : String} {pieces : List (List Char)}
    (h : PiecesOf doc.toList pieces) :
    summary (some doc) = (pieces.flatMap entry).map String.ofList := by
  obtain ⟨text, contents, parts, htext, hcontents, hparts, rfl⟩ := h
  have hentries : contents.flatMap entries = parts.flatten.flatMap entry := by
    clear hcontents
    induction hparts with
    | nil => rfl
    | cons hpart _ ih =>
      rw [List.flatMap_cons, List.flatten_cons, List.flatMap_append, ih, hpart.entries_eq]
  rw [summary, ← strips_iff.mp htext, ← summarised_iff.mp hcontents, hentries]

/-! ## Entries -/

theorem mem_entry_iff {piece e : List Char} :
    e ∈ entry piece ↔ e = trimBy (fun c => isBlank c || c = '/') piece ∧ e ≠ [] := by
  unfold entry
  dsimp only
  split
  · next hempty =>
    rw [List.isEmpty_iff] at hempty
    simp_all
  · next hne =>
    rw [List.isEmpty_iff] at hne
    rw [List.mem_singleton]
    exact ⟨fun h => ⟨h, h ▸ hne⟩, And.left⟩

theorem isTrimmed_of_mem_entry {piece e : List Char} (h : e ∈ entry piece) :
    IsTrimmed (String.ofList e) := by
  obtain ⟨rfl, hne⟩ := mem_entry_iff.mp h
  refine ⟨fun hempty => hne ?_, fun c hc => ?_, fun c hc => ?_⟩
  · simpa using congrArg String.toList hempty
  · rw [String.toList_ofList] at hc
    simpa using (Bool.or_eq_false_iff.mp (Text.drop_of_head?_trimBy hc)).1
  · rw [String.toList_ofList] at hc
    simpa using (Bool.or_eq_false_iff.mp (Text.drop_of_getLast?_trimBy hc)).1

theorem isBlank_of_isLineBreak {c : Char} (h : isLineBreak c = true) : isBlank c = true := by
  simp only [isLineBreak, Bool.or_eq_true, decide_eq_true_eq] at h
  rcases h with rfl | rfl <;> decide

/-- The entry of a piece is a line exactly if the piece does not break. -/
theorem entry_isOneLine_iff (piece : List Char) :
    (∀ e ∈ entry piece, IsOneLine (String.ofList e)) ↔ ¬Breaks piece := by
  have hinside (c : Char) (hc : isLineBreak c = true) :
      c ∈ trimBy (fun c => isBlank c || c = '/') piece ↔ StandsBetween isSolid c piece :=
    Text.mem_trimBy_iff (by simp [isBlank_of_isLineBreak hc])
  constructor
  · rintro hlines ⟨c, hc, hstands⟩
    have hmem := (hinside c hc).mpr hstands
    have hentry := mem_entry_iff.mpr ⟨rfl, List.ne_nil_of_mem hmem⟩
    have hplain := hlines _ hentry c (by simpa using hmem)
    simp [hc] at hplain
  · intro hpiece e he c hc
    obtain ⟨rfl, -⟩ := mem_entry_iff.mp he
    rw [String.toList_ofList] at hc
    by_contra hbreak
    rw [Bool.not_eq_false] at hbreak
    exact hpiece ⟨c, hbreak, (hinside c hbreak).mp hc⟩

theorem isTrimmed_of_mem_summary {doc e : String} (h : e ∈ summary (some doc)) : IsTrimmed e := by
  obtain ⟨pieces, hpieces⟩ := exists_piecesOf doc.toList
  rw [summary_eq_of_piecesOf hpieces] at h
  obtain ⟨e, he, rfl⟩ := List.mem_map.mp h
  obtain ⟨piece, -, hentry⟩ := List.mem_flatMap.mp he
  exact isTrimmed_of_mem_entry hentry

theorem summary_isOneLine_iff {doc : String} {pieces : List (List Char)}
    (h : PiecesOf doc.toList pieces) :
    (∀ e ∈ summary (some doc), IsOneLine e) ↔ ∀ piece ∈ pieces, ¬Breaks piece := by
  simp only [summary_eq_of_piecesOf h, List.forall_mem_map, List.mem_flatMap, ← entry_isOneLine_iff]
  exact ⟨fun hall piece hpiece e he => hall e ⟨piece, hpiece, he⟩,
    fun hall e ⟨piece, hpiece, he⟩ => hall piece hpiece e he⟩

/-! ## Printed comments -/

theorem toList_foldl_line (ending : LineEnding) (texts : List String) (layout : Layout) :
    ((texts.map Layout.Step.line).foldl (Layout.step ending) layout).text.toList =
      layout.text.toList ++ (texts.map fun text =>
        (Layout.indentation layout.depth ++ text).toList).flatMap (· ++ ending.text.toList) := by
  induction texts generalizing layout with
  | nil => simp
  | cons text texts ih =>
    rw [List.map_cons, List.foldl_cons, ih]
    simp [Layout.step, Layout.writeLine]

theorem docSteps_eq (docs : List String) :
    docSteps docs = (commentLines docs).map Layout.Step.line := by
  unfold docSteps commentLines
  split <;> simp

theorem forall_mem_commentLines {docs : List String} {p : String → Prop} (hfirst : p "/// <summary>")
    (hlast : p "/// </summary>") :
    (∀ line ∈ commentLines docs, p line) ↔ ∀ e ∈ docs, p ("/// " ++ e) := by
  unfold commentLines
  cases docs with
  | nil => simp
  | cons e docs =>
    rw [List.isEmpty_cons, if_neg (by decide), List.forall_mem_append, List.forall_mem_append,
      List.forall_mem_singleton, List.forall_mem_singleton, List.forall_mem_map]
    exact ⟨fun h => h.1.2, fun h => ⟨⟨hfirst, h⟩, hlast⟩⟩

theorem isOneLine_append_iff {a b : String} :
    IsOneLine (a ++ b) ↔ IsOneLine a ∧ IsOneLine b := by
  rw [IsOneLine, String.toList_append, List.forall_mem_append]
  rfl

theorem isOneLine_indentation (depth : Nat) : IsOneLine (Layout.indentation depth) := by
  intro c hc
  rw [Layout.indentation, String.toList_ofList] at hc
  rw [List.eq_of_mem_replicate hc]
  decide

/-- The lines of a comment have no breaks exactly if the entries have none. -/
theorem isOneLine_commentLines_iff (docs : List String) (depth : Nat) :
    (∀ line ∈ commentLines docs, IsOneLine (Layout.indentation depth ++ line)) ↔
      ∀ e ∈ docs, IsOneLine e := by
  simp only [isOneLine_append_iff, isOneLine_indentation, true_and]
  rw [forall_mem_commentLines (by decide) (by decide)]
  refine forall₂_congr fun e _ => ?_
  rw [isOneLine_append_iff]
  exact and_iff_right (by decide)

/-- The lines of a comment do not end in a carriage return, which would be taken together with the
line ending. -/
theorem getLast?_commentLines {docs : List String} (hdocs : ∀ e ∈ docs, IsTrimmed e) (depth : Nat) :
    ∀ line ∈ commentLines docs, (Layout.indentation depth ++ line).toList.getLast? ≠ some '\r' := by
  refine (forall_mem_commentLines (by simp) (by simp)).mpr fun e he hlast => ?_
  obtain ⟨hne, -, htrimmed⟩ := hdocs e he
  have hnil : e.toList ≠ [] := fun hnil => hne (String.toList_inj.mp hnil)
  rw [String.toList_append, String.toList_append, ← List.append_assoc,
    List.getLast?_append_of_ne_nil _ hnil] at hlast
  exact absurd (htrimmed '\r' hlast) (by decide)

/-- A comment of trimmed entries is shown by line exactly if none of them has a line break. -/
theorem isShownByLine_iff {docs : List String} (hdocs : ∀ e ∈ docs, IsTrimmed e)
    (ending : LineEnding) (layout : Layout) :
    IsShownByLine ending layout docs ↔ ∀ e ∈ docs, IsOneLine e := by
  let line (text : String) : List Char := (Layout.indentation layout.depth ++ text).toList
  have hend : ∀ text ∈ (commentLines docs).map line, text.getLast? ≠ some '\r' :=
    List.forall_mem_map.mpr (getLast?_commentLines hdocs layout.depth)
  rw [IsShownByLine, docSteps_eq, toList_foldl_line]
  simp only [List.append_cancel_left_eq, exists_eq_left']
  rw [Text.shownLines_flatMap_iff hend ending, List.forall_mem_map]
  exact isOneLine_commentLines_iff docs layout.depth

/-- Entries are not empty and have no blanks around them. All entries of a comment are lines exactly
if none of its pieces breaks, and exactly then the comment that is made of them is shown by line,
wherever and however it is printed. -/
theorem oneLine_iff (doc : String) :
    (∀ e ∈ summary (some doc), IsTrimmed e) ∧
    (∃ pieces, PiecesOf doc.toList pieces) ∧
    (∀ pieces, PiecesOf doc.toList pieces →
      ((∀ e ∈ summary (some doc), IsOneLine e) ↔ ∀ piece ∈ pieces, ¬Breaks piece)) ∧
    ((∀ e ∈ summary (some doc), IsOneLine e) ↔
      ∀ ending layout, IsShownByLine ending layout (summary (some doc))) := by
  have htrimmed : ∀ e ∈ summary (some doc), IsTrimmed e := fun e => isTrimmed_of_mem_summary
  refine ⟨htrimmed, exists_piecesOf doc.toList, fun pieces => summary_isOneLine_iff, ?_⟩
  simp only [isShownByLine_iff htrimmed]
  exact ⟨fun h _ _ => h, fun h => h .lf {}⟩

/-- An element over two lines is one entry, whose second line is printed outside of the comment. -/
theorem element_over_two_lines :
    let docs := summary (some "/// <summary>\n/// Uses <c>a\n/// b</c>\n/// </summary>")
    (∃ e ∈ docs, ¬IsOneLine e) ∧ ¬IsShownByLine .lf {} docs ∧
      " b</c>".toList ∈ shownLines ((docSteps docs).foldl (Layout.step .lf) {}).text.toList := by
  intro docs
  have hdocs : docs = ["Uses", "<c>a\n b</c>"] := by decide +kernel
  have hbreak : ∃ e ∈ docs, ¬IsOneLine e :=
    ⟨"<c>a\n b</c>", by simp [hdocs], by decide⟩
  refine ⟨hbreak, fun hshown => ?_, ?_⟩
  · obtain ⟨e, he, hline⟩ := hbreak
    exact hline ((isShownByLine_iff (fun e => isTrimmed_of_mem_summary) .lf {}).mp hshown e he)
  · rw [hdocs]
    decide +kernel

end Companion.Doc
