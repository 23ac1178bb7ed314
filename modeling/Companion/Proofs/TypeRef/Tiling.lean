import Companion.Proofs.Basic
import Companion.Proofs.TypeRef.Lexing

/-!
# The tokens of a source tile it

One step of the lexer takes a token of the language, and a word only up to its end
(`Token.read?_eq_some_iff`). `Tiles` lays such steps and blanks next to each other from the left,
and the lexer succeeds exactly with the tokens of such a row (`lexFrom_eq_ok_iff`). What the spans
of the tokens are, that they do not overlap and that they leave out nothing but blanks is read off
the row.

If the lexer fails, the text before the bad character has a row of its own (`lexFrom_eq_error`). The
main result is `lex_tiles`.
-/

namespace Companion

namespace Token

/-! ## One token -/

/-- Whether a token is a word: an identifier or `delegate`. -/
def isWordToken : Token → Bool
  | delegate | ident _ => true
  | _ => false

/-- Whether a token is one of the language, where only an identifier has a text of its own. -/
def IsProper : Token → Prop
  | ident name => isIdentifier name = true
  | _ => True

theorem spelling_ident (name : String) : (ident name).spelling = name.toList := rfl

theorem spelling_ne_nil {token : Token} (h : token.IsProper) : token.spelling ≠ [] := by
  intro hnil
  cases token with
  | ident name =>
    have hname : name.toList = [] := hnil
    simp [IsProper, isIdentifier, hname, isWord] at h
  | delegate => exact absurd hnil (by decide)
  | _ => exact absurd hnil (List.cons_ne_nil _ _)

theorem spelling_of_punctuation? {c : Char} {token : Token} (h : punctuation? c = some token) :
    token.spelling = [c] ∧ token.IsProper ∧ token.isWordToken = false := by
  unfold punctuation? at h
  split at h
  case h_11 => cases h
  all_goals
    cases h
    exact ⟨rfl, trivial, rfl⟩

theorem endsWord_dropWhile (s : List Char) : EndsWord (s.dropWhile continuesWord) := by
  intro c hc
  have hnot := List.head?_dropWhile_not continuesWord s
  rw [Option.mem_def.mp hc] at hnot
  exact hnot

theorem isIdentifier_verbatim {c : Char} {cs : List Char} (hc : startsWord c = true)
    (hcs : cs.all continuesWord = true) :
    isIdentifier (String.ofList ('@' :: c :: cs)) = true := by
  simp only [isIdentifier, String.toList_ofList, isWord, hc, hcs, Bool.and_self]

theorem ofWord_isProper {c : Char} {cs : List Char} (hc : startsWord c = true)
    (hcs : cs.all continuesWord = true) :
    (ofWord (c :: cs)).IsProper ∧ (ofWord (c :: cs)).spelling = c :: cs := by
  unfold ofWord
  split
  · next hword => exact ⟨trivial, hword.symm⟩
  · next hword =>
    have hne : String.ofList (c :: cs) ≠ "delegate" := fun heq =>
      hword (by rw [← heq, String.toList_ofList])
    refine ⟨?_, String.toList_ofList⟩
    simp only [IsProper, isIdentifier, String.toList_ofList]
    split
    · next heq =>
      -- no word starts with an `@`
      cases heq
      exact absurd hc (by decide)
    · simp only [isWord, hc, hcs, hne, ne_eq, not_false_eq_true, decide_true, Bool.and_self]

theorem read?_of_isProper {token : Token} {rest : List Char} (h : token.IsProper)
    (hends : token.isWordToken = true → EndsWord rest) :
    read? (token.spelling ++ rest) = some (token, rest) := by
  cases token with
  | ident name => exact read?_identifier h (hends rfl)
  | delegate =>
    show read? ('d' :: "elegate".toList ++ rest) = some (ofWord ('d' :: "elegate".toList), rest)
    exact read?_word (by decide) (by decide) (hends rfl)
  | colons => rfl
  | _ => exact read?_punctuation rfl

/-- One step of the lexer takes a token of the language, and a word as far as it goes. -/
theorem read?_eq_some_iff {s rest : List Char} {token : Token} :
    read? s = some (token, rest) ↔
      token.IsProper ∧ (token.isWordToken = true → EndsWord rest) ∧ s = token.spelling ++ rest := by
  constructor
  · intro h
    unfold read? at h
    split at h
    · cases h
    · obtain ⟨rfl, rfl⟩ := Prod.mk.inj (Option.some.inj h)
      exact ⟨trivial, fun h => Bool.noConfusion h, rfl⟩
    · next c t =>
      split at h
      · next hc =>
        obtain ⟨rfl, rfl⟩ := Prod.mk.inj (Option.some.inj h)
        refine ⟨isIdentifier_verbatim hc List.all_takeWhile, fun _ => endsWord_dropWhile t, ?_⟩
        rw [spelling_ident, String.toList_ofList, List.cons_append, List.cons_append,
          List.takeWhile_append_dropWhile]
      · cases h
    · next c t _ _ =>
      split at h
      · next hc =>
        obtain ⟨rfl, rfl⟩ := Prod.mk.inj (Option.some.inj h)
        have htake : (t.takeWhile continuesWord).all continuesWord = true := List.all_takeWhile
        obtain ⟨hproper, hspelling⟩ := ofWord_isProper hc htake
        refine ⟨hproper, fun _ => endsWord_dropWhile t, ?_⟩
        rw [hspelling, List.cons_append, List.takeWhile_append_dropWhile]
      · obtain ⟨token', htoken, hrest⟩ := Option.map_eq_some_iff.mp h
        obtain ⟨rfl, rfl⟩ := Prod.mk.inj hrest
        obtain ⟨hspelling, hproper, hword⟩ := spelling_of_punctuation? htoken
        refine ⟨hproper, fun h => ?_, by rw [hspelling, List.singleton_append]⟩
        rw [hword] at h
        cases h
  · rintro ⟨hproper, hends, rfl⟩
    exact read?_of_isProper hproper hends

theorem exists_read?_of_startsWord {c : Char} (hc : startsWord c = true) (s : List Char) :
    (∃ found, read? (c :: s) = some found) ∧ ∃ found, read? ('@' :: c :: s) = some found := by
  have htake : (s.takeWhile continuesWord).all continuesWord = true := List.all_takeWhile
  have hword := read?_word hc htake (endsWord_dropWhile s)
  have hverbatim := read?_verbatim hc htake (endsWord_dropWhile s)
  rw [List.cons_append, List.takeWhile_append_dropWhile] at hword
  rw [List.cons_append, List.cons_append, List.takeWhile_append_dropWhile] at hverbatim
  exact ⟨⟨_, hword⟩, _, hverbatim⟩

/-- Where the lexer reads no token, none is spelled, not even a shorter one. -/
theorem not_spelled_of_read?_eq_none {s : List Char} (h : read? s = none) {token : Token}
    (hproper : token.IsProper) : ¬token.spelling <+: s := by
  rintro ⟨rest, rfl⟩
  suffices hread : ∃ found, read? (token.spelling ++ rest) = some found by
    obtain ⟨found, hfound⟩ := hread
    rw [h] at hfound
    cases hfound
  cases token with
  | ident name =>
    have hname : isIdentifier name = true := hproper
    unfold isIdentifier at hname
    split at hname
    · next body hbody =>
      cases body with
      | nil => cases hname
      | cons c cs =>
        simp only [isWord, Bool.and_eq_true] at hname
        rw [spelling_ident, hbody]
        exact (exists_read?_of_startsWord hname.1 (cs ++ rest)).2
    · simp only [Bool.and_eq_true] at hname
      cases hbody : name.toList with
      | nil => simp [hbody, isWord] at hname
      | cons c cs =>
        simp only [hbody, isWord, Bool.and_eq_true] at hname
        rw [spelling_ident, hbody]
        exact (exists_read?_of_startsWord hname.1.1 (cs ++ rest)).1
  | delegate =>
    exact (exists_read?_of_startsWord (c := 'd') (by decide) ("elegate".toList ++ rest)).1
  | _ => exact ⟨_, read?_of_isProper trivial fun h => Bool.noConfusion h⟩

end Token

/-! ## Rows of tokens -/

/-- The text from byte `offset` on consists of these tokens, one next to the other, with nothing but
blanks between them, and no word goes on behind its token. -/
inductive Tiles : Nat → List Char → List Lexeme → Prop where
  | nil {offset : Nat} : Tiles offset [] []
  | blank {offset : Nat} {c : Char} {s : List Char} {ls : List Lexeme} :
    Token.isSpace c = true → Tiles (offset + c.utf8Size) s ls → Tiles offset (c :: s) ls
  | token {offset : Nat} {token : Token} {s : List Char} {ls : List Lexeme} :
    token.IsProper → (token.isWordToken = true → EndsWord s) →
    Tiles (offset + utf8Length token.spelling) s ls →
    Tiles offset (token.spelling ++ s)
      (⟨token, ⟨offset, offset + utf8Length token.spelling⟩⟩ :: ls)

@[simp] theorem utf8Length_nil : utf8Length [] = 0 := rfl

@[simp] theorem utf8Length_cons (c : Char) (s : List Char) :
    utf8Length (c :: s) = c.utf8Size + utf8Length s := rfl

@[simp] theorem utf8Length_append (s t : List Char) :
    utf8Length (s ++ t) = utf8Length s + utf8Length t := by
  induction s with
  | nil => simp
  | cons c s ih => simp only [List.cons_append, utf8Length_cons, ih, Nat.add_assoc]

theorem utf8Length_pos {s : List Char} (h : s ≠ []) : 0 < utf8Length s := by
  cases s with
  | nil => exact absurd rfl h
  | cons c s =>
    have hc := c.utf8Size_pos
    rw [utf8Length_cons]
    omega

theorem EndsWord.of_append {s rest : List Char} (h : EndsWord (s ++ rest)) : EndsWord s := by
  cases s with
  | nil => exact endsWord_nil
  | cons c s => exact h

theorem lexFrom_blank {offset : Nat} {c : Char} {s : List Char} (h : Token.isSpace c = true) :
    lexFrom offset (c :: s) = lexFrom (offset + c.utf8Size) s := by
  rw [lexFrom, if_pos h]

theorem lexFrom_token {offset : Nat} {s rest : List Char} {token : Token}
    (h : Token.read? s = some (token, rest)) :
    lexFrom offset s = (lexFrom (offset + utf8Length token.spelling) rest).map
      (⟨token, ⟨offset, offset + utf8Length token.spelling⟩⟩ :: ·) := by
  cases s with
  | nil => cases h
  | cons c s =>
    rw [lexFrom, if_neg (by rw [Token.not_isSpace_of_read? h]; exact Bool.false_ne_true)]
    split
    · next hnone => rw [h] at hnone; cases hnone
    · next token' rest' hsome =>
      rw [h] at hsome
      obtain ⟨rfl, rfl⟩ := Prod.mk.inj (Option.some.inj hsome)
      rfl

theorem Tiles.lexFrom_eq {offset : Nat} {s : List Char} {ls : List Lexeme}
    (h : Tiles offset s ls) : lexFrom offset s = .ok ls := by
  induction h with
  | nil => rw [lexFrom]
  | blank hc _ ih => rw [lexFrom_blank hc, ih]
  | token hproper hends _ ih =>
    rw [lexFrom_token (Token.read?_of_isProper hproper hends), ih]
    rfl

theorem tiles_of_lexFrom {offset : Nat} {s : List Char} {ls : List Lexeme}
    (h : lexFrom offset s = .ok ls) : Tiles offset s ls := by
  fun_induction lexFrom offset s generalizing ls
  case case1 offset =>
    cases h
    exact .nil
  case case2 offset c rest next hc ih => exact .blank hc (ih h)
  case case3 => cases h
  case case4 offset c rest hc token rest' hread stop hlength ih =>
    obtain ⟨lexemes, hlexemes, hret⟩ := except_bind_eq_ok.mp h
    cases hret
    obtain ⟨hproper, hends, hspelling⟩ := Token.read?_eq_some_iff.mp hread
    rw [hspelling]
    exact .token hproper hends (ih hlexemes)

theorem lexFrom_eq_ok_iff {offset : Nat} {s : List Char} {ls : List Lexeme} :
    lexFrom offset s = .ok ls ↔ Tiles offset s ls :=
  ⟨tiles_of_lexFrom, Tiles.lexFrom_eq⟩

/-- The lexer fails at one character, at which no token can be read, and before which the text
consists of tokens and blanks. -/
theorem lexFrom_eq_error {offset : Nat} {s : List Char} {e : TypeError}
    (h : lexFrom offset s = .error e) :
    ∃ front c rest ls, s = front ++ c :: rest ∧ Tiles offset front ls ∧
      Token.isSpace c = false ∧ Token.read? (c :: rest) = none ∧
      e = .badCharacter ⟨offset + utf8Length front, offset + utf8Length (front ++ [c])⟩ c := by
  fun_induction lexFrom offset s with
  | case1 => cases h
  | case2 offset c rest next hc ih =>
    obtain ⟨front, bad, rest', ls, rfl, hfront, hbad, hnone, rfl⟩ := ih h
    refine ⟨c :: front, bad, rest', ls, rfl, .blank hc hfront, hbad, hnone, ?_⟩
    simp only [next, List.cons_append, utf8Length_cons, Nat.add_assoc]
  | case3 offset c rest next hc hnone =>
    cases h
    exact ⟨[], c, rest, [], rfl, .nil, Bool.eq_false_iff.mpr hc, hnone, by simp [next]⟩
  | case4 offset c rest hc token rest' hread stop hlength ih =>
    rcases except_bind_eq_error.mp h with hfail | ⟨_, _, hret⟩
    · obtain ⟨front, bad, rest'', ls, rfl, hfront, hbad, hnone, rfl⟩ := ih hfail
      obtain ⟨hproper, hends, hspelling⟩ := Token.read?_eq_some_iff.mp hread
      refine ⟨token.spelling ++ front, bad, rest'', _, by rw [hspelling, List.append_assoc],
        .token hproper (fun hword => (hends hword).of_append) hfront, hbad, hnone, ?_⟩
      simp only [stop, List.append_assoc, utf8Length_append, Nat.add_assoc]
    · cases hret

/-! ## What a row says about spans -/

namespace Tiles

variable {offset : Nat} {s : List Char} {ls : List Lexeme}

/-- Every token of a row stands in the text as it is spelled, at the place that its span gives. -/
theorem exists_of_mem (h : Tiles offset s ls) {l : Lexeme} (hl : l ∈ ls) :
    l.token.IsProper ∧ ∃ front rest, s = front ++ l.token.spelling ++ rest ∧
      l.span = ⟨offset + utf8Length front, offset + utf8Length (front ++ l.token.spelling)⟩ ∧
      (l.token.isWordToken = true → EndsWord rest) := by
  induction h with
  | nil => cases hl
  | @blank offset c s ls _ _ ih =>
    obtain ⟨hproper, front, rest, rfl, hspan, hends⟩ := ih hl
    refine ⟨hproper, c :: front, rest, rfl, ?_, hends⟩
    rw [hspan]
    simp only [List.cons_append, utf8Length_cons, Nat.add_assoc]
  | @token offset token s ls hproper hends _ ih =>
    rcases List.mem_cons.mp hl with rfl | hl
    · exact ⟨hproper, [], s, rfl, rfl, hends⟩
    · obtain ⟨hproper, front, rest, rfl, hspan, hends⟩ := ih hl
      refine ⟨hproper, token.spelling ++ front, rest, by simp only [List.append_assoc], ?_, hends⟩
      rw [hspan]
      simp only [List.append_assoc, utf8Length_append, Nat.add_assoc]

theorem start_lt_stop (h : Tiles offset s ls) {l : Lexeme} (hl : l ∈ ls) :
    l.span.start < l.span.stop := by
  obtain ⟨hproper, front, rest, -, hspan, -⟩ := h.exists_of_mem hl
  have hpos := utf8Length_pos (Token.spelling_ne_nil hproper)
  rw [hspan, utf8Length_append]
  show offset + utf8Length front < offset + (utf8Length front + utf8Length l.token.spelling)
  omega

theorem ordered (h : Tiles offset s ls) :
    ls.Pairwise fun l l' => l.span.stop ≤ l'.span.start := by
  induction h with
  | nil => exact .nil
  | blank _ _ ih => exact ih
  | token _ _ hrest ih =>
    refine .cons (fun l hl => ?_) ih
    obtain ⟨-, front, rest, -, hspan, -⟩ := hrest.exists_of_mem hl
    rw [hspan]
    exact Nat.le_add_right _ _

/-- A character of the text is a blank or lies in the span of a token. -/
theorem isSpace_or_covered (h : Tiles offset s ls) {front rest : List Char} {c : Char}
    (hs : s = front ++ c :: rest) :
    Token.isSpace c = true ∨
      ∃ l ∈ ls, l.span.start ≤ offset + utf8Length front ∧
        offset + utf8Length front < l.span.stop := by
  induction h generalizing front with
  | nil => simp at hs
  | @blank offset c' s ls hc' _ ih =>
    cases front with
    | nil =>
      cases hs
      exact .inl hc'
    | cons c₀ front =>
      cases hs
      rw [utf8Length_cons, ← Nat.add_assoc]
      exact ih rfl
  | @token offset token s ls hproper hends _ ih =>
    have behind (tail : List Char) (hfront : front = token.spelling ++ tail)
        (hs : s = tail ++ c :: rest) (first : Lexeme) :
        Token.isSpace c = true ∨ ∃ l ∈ first :: ls,
          l.span.start ≤ offset + utf8Length front ∧ offset + utf8Length front < l.span.stop := by
      rw [hfront, utf8Length_append, ← Nat.add_assoc]
      rcases ih hs with hc | ⟨l, hl, hcovered⟩
      · exact .inl hc
      · exact .inr ⟨l, List.mem_cons_of_mem _ hl, hcovered⟩
    rcases List.append_eq_append_iff.mp hs with ⟨tail, hfront, hrest⟩ | ⟨tail, hspelling, hrest⟩
    · exact behind tail hfront hrest _
    · cases tail with
      | nil => exact behind [] (by simpa using hspelling.symm) hrest.symm _
      | cons c' tail =>
        refine .inr ⟨_, List.mem_cons_self, Nat.le_add_right _ _, ?_⟩
        have hpos := c'.utf8Size_pos
        simp only [hspelling, utf8Length_append, utf8Length_cons]
        omega

end Tiles

/-! ## Sources -/

theorem utf8ByteSize_ofList (s : List Char) : (String.ofList s).utf8ByteSize = utf8Length s := by
  induction s with
  | nil => rfl
  | cons c s ih =>
    rw [String.ofList_cons, String.utf8ByteSize_append, String.utf8ByteSize_singleton, ih,
      utf8Length_cons]

/-- A text stands in a source on the bytes of a span, with `front` before it and `rest` behind. -/
structure Span.Holds (span : Span) (source front text rest : String) : Prop where
  source_eq : source = front ++ text ++ rest
  start_eq : span.start = front.utf8ByteSize
  stop_eq : span.stop = (front ++ text).utf8ByteSize

theorem Span.holds_of_toList {source : String} {front text rest : List Char}
    (h : source.toList = front ++ text ++ rest) :
    Span.Holds ⟨utf8Length front, utf8Length (front ++ text)⟩ source (String.ofList front)
      (String.ofList text) (String.ofList rest) := by
  refine ⟨?_, (utf8ByteSize_ofList front).symm, ?_⟩
  · rw [← String.ofList_append, ← String.ofList_append, ← h, String.ofList_toList]
  · rw [← String.ofList_append, utf8ByteSize_ofList]

/-- The tokens of a source and the blanks between them are the source. -/
structure IsTiling (source : String) (ls : List Lexeme) : Prop where
  /-- No span is empty. -/
  start_lt_stop : ∀ l ∈ ls, l.span.start < l.span.stop
  /-- The spans follow each other without overlap. -/
  ordered : ls.Pairwise fun l l' => l.span.stop ≤ l'.span.start
  /-- A span starts and ends between two characters and holds the token as it is spelled. Behind a
  word stands nothing that goes on with it. -/
  spelled : ∀ l ∈ ls, l.token.IsProper ∧ ∃ front rest,
    l.span.Holds source front (String.ofList l.token.spelling) rest ∧
    (l.token.isWordToken = true → EndsWord rest.toList)
  /-- A character outside all spans is a blank. -/
  blank : ∀ (span : Span) (front rest : String) (c : Char),
    span.Holds source front (String.singleton c) rest →
    (∀ l ∈ ls, span.stop ≤ l.span.start ∨ l.span.stop ≤ span.start) → Token.isSpace c = true

/-- An error covers one character of the source. The text before it is free of errors, and neither a
blank nor a token of the language starts at it. -/
def IsBadCharacter (source : String) (e : TypeError) : Prop :=
  ∃ span front c rest, e = .badCharacter span c ∧
    span.Holds source front (String.singleton c) rest ∧
    (∃ ls, lex front = .ok ls) ∧ Token.isSpace c = false ∧
    ∀ token : Token, token.IsProper → ¬token.spelling <+: c :: rest.toList

theorem isTiling_of_tiles {source : String} {ls : List Lexeme} (h : Tiles 0 source.toList ls) :
    IsTiling source ls where
  start_lt_stop _ hl := h.start_lt_stop hl
  ordered := h.ordered
  spelled l hl := by
    obtain ⟨hproper, front, rest, hsource, hspan, hends⟩ := h.exists_of_mem hl
    refine ⟨hproper, String.ofList front, String.ofList rest, ?_, ?_⟩
    · rw [hspan, Nat.zero_add, Nat.zero_add]
      exact Span.holds_of_toList hsource
    · rwa [String.toList_ofList]
  blank span front rest c hheld houtside := by
    have hsource : source.toList = front.toList ++ c :: rest.toList := by
      rw [hheld.source_eq]
      simp
    have hstart : 0 + utf8Length front.toList = span.start := by
      rw [hheld.start_eq, ← utf8ByteSize_ofList, String.ofList_toList, Nat.zero_add]
    have hstop : span.start < span.stop := by
      rw [hheld.stop_eq, String.utf8ByteSize_append, String.utf8ByteSize_singleton, hheld.start_eq]
      have hpos := c.utf8Size_pos
      omega
    rcases h.isSpace_or_covered hsource with hc | ⟨l, hl, hcovered⟩
    · exact hc
    · rw [hstart] at hcovered
      have hl := houtside l hl
      omega

theorem isBadCharacter_of_lex {source : String} {e : TypeError} (h : lex source = .error e) :
    IsBadCharacter source e := by
  obtain ⟨front, c, rest, ls, hsource, hfront, hc, hnone, rfl⟩ := lexFrom_eq_error h
  rw [Nat.zero_add, Nat.zero_add]
  have hheld : source.toList = front ++ [c] ++ rest := by
    rw [hsource, List.append_assoc, List.singleton_append]
  refine ⟨_, _, c, _, rfl, Span.holds_of_toList hheld, ⟨ls, ?_⟩, hc, fun token hproper => ?_⟩
  · rw [lex, String.toList_ofList]
    exact lexFrom_eq_ok_iff.mpr hfront
  · rw [String.toList_ofList]
    exact Token.not_spelled_of_read?_eq_none hnone hproper

/-- The lexer takes a source apart into tokens and blanks without losing or moving anything, or
names the first character at which that is impossible. -/
theorem lex_tiles (source : String) :
    match lex source with
    | .ok ls => IsTiling source ls
    | .error e => IsBadCharacter source e := by
  cases h : lex source with
  | ok ls => exact isTiling_of_tiles (lexFrom_eq_ok_iff.mp h)
  | error e => exact isBadCharacter_of_lex h

end Companion
