import Companion.Text.Letter
import Companion.Text.Search

/-!
# Documentation comments

Of a documentation comment only what stands between `<summary>` and `</summary>` is kept. It is cut
into lines, and every element in it (`<para/>`, `<c>null</c>`) is an entry of its own.
-/

namespace Companion.Doc

open Text (isBlank cut? after? lines trimBy)

/-- The comment without the slashes at the start of each line. -/
def unmarked (doc : List Char) : List Char :=
  ['\n'].intercalate ((lines doc).map fun line =>
    let line := line.dropWhile isBlank
    (after? "///".toList line).getD line)

/-- The tag in front of a summary. -/
def summaryStart : List Char := "<summary>".toList

/-- The tag behind a summary. -/
def summaryEnd : List Char := "</summary>".toList

/-- The contents of all summaries; one without an end goes on to the end of the text. -/
def summaries (text : List Char) : List (List Char) :=
  match hs : cut? summaryStart text with
  | none => []
  | some (_, content) =>
    match he : cut? summaryEnd content with
    | none => [content]
    | some (summary, rest) =>
      have : rest.length < text.length := by
        have h₁ := Text.length_cut? hs
        have h₂ := Text.length_cut? he
        have h₃ : summaryStart.length = 9 := by decide
        omega
      summary :: summaries rest
termination_by text.length

/-- The characters of an element's name. -/
def isTagName (c : Char) : Bool := Text.isAlphanumeric c || c = '_' || c = ':'

/-- Splits off the element at the start of a text. A tag that closes itself, or closes another, is
an element alone; any other tag goes on to the next tag that closes it, if there is one. -/
def splitElement (text : List Char) : List Char × List Char :=
  match cut? ['>'] text with
  | none => (text, [])
  | some (inside, rest) =>
    let tag := inside ++ ['>']
    if (Text.before? "/>".toList tag).isSome || (after? "</".toList tag).isSome then (tag, rest)
    else
      let close := "</".toList ++ (tag.drop 1).takeWhile isTagName ++ ['>']
      match cut? close rest with
      | some (content, rest) => (tag ++ content ++ close, rest)
      | none => (tag, rest)

/-- Splitting off an element uses up a character of a text that has one. -/
theorem length_splitElement_lt {text : List Char} (h : text ≠ []) :
    (splitElement text).2.length < text.length := by
  have hpos : 0 < text.length := List.length_pos_iff.mpr h
  unfold splitElement
  split
  · simpa using hpos
  · next inside rest hcut =>
    have h₁ := Text.length_cut? hcut
    simp only [List.length_cons, List.length_nil] at h₁
    dsimp only
    split
    · simp only
      omega
    · split
      · next content rest' hclose =>
        have h₂ := Text.length_cut? hclose
        simp only
        omega
      · simp only
        omega

/-- An entry without the blanks and slashes around it, if anything is left. -/
def entry (line : List Char) : List (List Char) :=
  let trimmed := trimBy (fun c => isBlank c || c = '/') line
  if trimmed.isEmpty then [] else [trimmed]

/-- The entries of a summary: its elements, and the lines of the text between them. -/
def entries (content : List Char) : List (List Char) :=
  match content with
  | [] => []
  | c :: rest =>
    if c = '<' then
      have : (splitElement (c :: rest)).2.length < rest.length + 1 :=
        length_splitElement_lt (List.cons_ne_nil c rest)
      entry (splitElement (c :: rest)).1 ++ entries (splitElement (c :: rest)).2
    else
      have : (rest.dropWhile (· != '<')).length < rest.length + 1 :=
        Nat.lt_succ_of_le (List.dropWhile_sublist _).length_le
      (lines (c :: rest.takeWhile (· != '<'))).flatMap entry ++ entries (rest.dropWhile (· != '<'))
termination_by content.length

/-- The entries of all summaries of a comment. -/
def summary (doc : Option String) : List String :=
  match doc with
  | none => []
  | some doc => ((summaries (unmarked doc.toList)).flatMap entries).map String.ofList

end Companion.Doc
