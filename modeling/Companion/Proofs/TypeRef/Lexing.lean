import Companion.TypeRef.Lexer

/-!
# Texts and their tokens

`HasTokens s tokens` says that a text has these tokens wherever it stands, and `Spells s tokens`
that it contributes them whatever stands behind it, as long as no word at its end is made longer.
Texts are then put together from words, punctuation and blanks with their tokens, and the only
condition is that what comes behind a word does not go on with it (`EndsWord`).
-/

namespace Companion

/-- The tokens of lexemes, without their places. -/
def tokensOf (lexemes : List Lexeme) : List Token := lexemes.map Lexeme.token

@[simp] theorem tokensOf_nil : tokensOf [] = [] := rfl

@[simp] theorem tokensOf_cons (l : Lexeme) (ls : List Lexeme) :
    tokensOf (l :: ls) = l.token :: tokensOf ls := rfl

@[simp] theorem length_tokensOf (ls : List Lexeme) : (tokensOf ls).length = ls.length :=
  List.length_map ..

theorem exists_of_tokensOf_eq_cons {ls : List Lexeme} {token : Token} {tokens : List Token}
    (h : tokensOf ls = token :: tokens) :
    ∃ span rest, ls = ⟨token, span⟩ :: rest ∧ tokensOf rest = tokens := by
  obtain ⟨⟨_, span⟩, rest, rfl, rfl, hrest⟩ := List.map_eq_cons_iff.mp h
  exact ⟨span, rest, rfl, hrest⟩

/-! ## Words -/

namespace Token

/-- Whether the characters are those of a word. -/
def isWord : List Char → Bool
  | [] => false
  | c :: cs => startsWord c && cs.all continuesWord

/-- Whether a text is read as one identifier: a word, possibly behind an `@`, but not the word
`delegate`. -/
def isIdentifier (name : String) : Bool :=
  match name.toList with
  | '@' :: body => isWord body
  | body => isWord body && name ≠ "delegate"

/-- No token starts with a blank. -/
theorem not_isSpace_of_read? {c : Char} {s rest : List Char} {token : Token}
    (h : read? (c :: s) = some (token, rest)) : isSpace c = false := by
  rw [Bool.eq_false_iff]
  intro hc
  simp only [isSpace, Bool.or_eq_true, decide_eq_true_eq] at hc
  rcases hc with (((rfl | rfl) | rfl) | rfl) | rfl <;> cases h

/-- A punctuation character starts nothing else. -/
theorem only_of_punctuation? {c : Char} {token : Token} (h : punctuation? c = some token) :
    startsWord c = false ∧ c ≠ ':' ∧ c ≠ '@' := by
  unfold punctuation? at h
  split at h
  case h_11 => cases h
  all_goals decide

end Token

/-- What follows does not go on with a word. -/
def EndsWord (s : List Char) : Prop := ∀ c ∈ s.head?, Token.continuesWord c = false

theorem EndsWord.append {s rest : List Char} (hs : EndsWord s) (hrest : EndsWord rest) :
    EndsWord (s ++ rest) := by
  cases s with
  | nil => exact hrest
  | cons c s => exact hs

theorem endsWord_nil : EndsWord [] := by simp [EndsWord]

theorem endsWord_cons {c : Char} {s : List Char} (h : Token.continuesWord c = false) :
    EndsWord (c :: s) := by
  simpa [EndsWord] using h

namespace Token

theorem takeWhile_word {cs rest : List Char} (hcs : cs.all continuesWord = true)
    (hrest : EndsWord rest) :
    (cs ++ rest).takeWhile continuesWord = cs ∧ (cs ++ rest).dropWhile continuesWord = rest := by
  have hall : ∀ c ∈ cs, continuesWord c = true := by simpa using hcs
  rw [List.takeWhile_append_of_pos hall, List.dropWhile_append_of_pos hall]
  cases rest with
  | nil => simp
  | cons c rest =>
    have hc : continuesWord c = false := hrest c rfl
    simp [hc]

theorem read?_word {c : Char} {cs rest : List Char} (hc : startsWord c = true)
    (hcs : cs.all continuesWord = true) (hrest : EndsWord rest) :
    read? (c :: cs ++ rest) = some (ofWord (c :: cs), rest) := by
  obtain ⟨htake, hdrop⟩ := takeWhile_word hcs hrest
  rw [List.cons_append, read?, if_pos hc, htake, hdrop]
  · rintro _ rfl
    exact absurd hc (by decide)
  · rintro _ _ rfl
    exact absurd hc (by decide)

theorem read?_verbatim {c : Char} {cs rest : List Char} (hc : startsWord c = true)
    (hcs : cs.all continuesWord = true) (hrest : EndsWord rest) :
    read? ('@' :: c :: cs ++ rest) = some (ident (String.ofList ('@' :: c :: cs)), rest) := by
  obtain ⟨htake, hdrop⟩ := takeWhile_word hcs hrest
  rw [List.cons_append, List.cons_append, read?, if_pos hc, htake, hdrop]

theorem read?_identifier {name : String} {rest : List Char} (h : isIdentifier name = true)
    (hrest : EndsWord rest) : read? (name.toList ++ rest) = some (ident name, rest) := by
  unfold isIdentifier at h
  split at h
  · next body hname =>
    cases body with
    | nil => cases h
    | cons c cs =>
      simp only [isWord, Bool.and_eq_true] at h
      rw [hname, read?_verbatim h.1 h.2 hrest, ← hname, String.ofList_toList]
  · next body hverbatim =>
    simp only [Bool.and_eq_true, decide_eq_true_eq] at h
    obtain ⟨hword, hdelegate⟩ := h
    cases hname : name.toList with
    | nil => simp [hname, isWord] at hword
    | cons c cs =>
      rw [hname] at hword
      simp only [isWord, Bool.and_eq_true] at hword
      have hne : c :: cs ≠ "delegate".toList := by
        rw [← hname]
        exact fun heq => hdelegate (String.toList_inj.mp heq)
      rw [read?_word hword.1 hword.2 hrest, ofWord, if_neg hne, ← hname, String.ofList_toList]

theorem read?_punctuation {c : Char} {token : Token} {rest : List Char}
    (h : punctuation? c = some token) : read? (c :: rest) = some (token, rest) := by
  obtain ⟨hword, hcolon, hat⟩ := only_of_punctuation? h
  rw [read?, hword, h]
  · rfl
  · rintro _ rfl
    exact absurd rfl hcolon
  · rintro _ _ rfl
    exact absurd rfl hat

end Token

/-! ## Texts with tokens -/

/-- A text has these tokens, wherever it stands. -/
def HasTokens (s : List Char) (tokens : List Token) : Prop :=
  ∀ offset, ∃ ls, lexFrom offset s = .ok ls ∧ tokensOf ls = tokens

theorem hasTokens_nil : HasTokens [] [] := fun offset => ⟨[], by rw [lexFrom], rfl⟩

theorem HasTokens.space {s : List Char} {tokens : List Token} (h : HasTokens s tokens) :
    HasTokens (' ' :: s) tokens := by
  intro offset
  obtain ⟨ls, hlex, htokens⟩ := h (offset + ' '.utf8Size)
  refine ⟨ls, ?_, htokens⟩
  rw [lexFrom]
  exact hlex

/-- A token in front of a text. -/
theorem HasTokens.cons {c : Char} {s rest : List Char} {token : Token} {tokens : List Token}
    (hread : Token.read? (c :: s) = some (token, rest)) (h : HasTokens rest tokens) :
    HasTokens (c :: s) (token :: tokens) := by
  intro offset
  obtain ⟨ls, hlex, htokens⟩ := h (offset + utf8Length token.spelling)
  refine ⟨⟨token, ⟨offset, offset + utf8Length token.spelling⟩⟩ :: ls, ?_, by simp [htokens]⟩
  rw [lexFrom, Token.not_isSpace_of_read? hread]
  simp only [Bool.false_eq_true, if_false]
  split
  · next hnone => rw [hread] at hnone; cases hnone
  · next token' rest' hsome =>
    rw [hread] at hsome
    cases hsome
    rw [hlex]
    rfl

/-- A text contributes these tokens to every text that starts with it and does not go on with a
word at its end. -/
def Spells (s : List Char) (tokens : List Token) : Prop :=
  ∀ rest more, EndsWord rest → HasTokens rest more → HasTokens (s ++ rest) (tokens ++ more)

namespace Spells

theorem hasTokens {s : List Char} {tokens : List Token} (h : Spells s tokens) :
    HasTokens s tokens := by
  have hnil := h [] [] endsWord_nil hasTokens_nil
  rwa [List.append_nil, List.append_nil] at hnil

theorem nil : Spells [] [] := fun _ _ _ h => h

theorem space {s : List Char} {tokens : List Token} (h : Spells s tokens) :
    Spells (' ' :: s) tokens :=
  fun rest more hrest hmore => (h rest more hrest hmore).space

theorem punctuation {c : Char} {token : Token} {s : List Char} {tokens : List Token}
    (h : Spells s tokens) (hc : Token.punctuation? c = some token) :
    Spells (c :: s) (token :: tokens) :=
  fun rest more hrest hmore =>
    (h rest more hrest hmore).cons (Token.read?_punctuation hc)

theorem append {s s' : List Char} {tokens tokens' : List Token} (h : Spells s tokens)
    (h' : Spells s' tokens') (hends : EndsWord s') : Spells (s ++ s') (tokens ++ tokens') := by
  intro rest more hrest hmore
  rw [List.append_assoc, List.append_assoc]
  exact h _ _ (hends.append hrest) (h' rest more hrest hmore)

/-- A punctuation character behind a text. -/
theorem close {s : List Char} {tokens : List Token} (h : Spells s tokens) {c : Char}
    {token : Token} (hc : Token.punctuation? c = some token)
    (hends : Token.continuesWord c = false) : Spells (s ++ [c]) (tokens ++ [token]) :=
  h.append (nil.punctuation hc) (endsWord_cons hends)

theorem identifier {name : String} (h : Token.isIdentifier name = true) :
    Spells name.toList [.ident name] := by
  intro rest more hrest hmore
  have hread := Token.read?_identifier h hrest
  cases hname : name.toList with
  | nil => simp [Token.isIdentifier, hname, Token.isWord] at h
  | cons c cs =>
    rw [hname] at hread
    exact hmore.cons hread

theorem delegate : Spells "delegate".toList [.delegate] := by
  intro rest more hrest hmore
  have hread : Token.read? ('d' :: "elegate".toList ++ rest) = some (.delegate, rest) :=
    Token.read?_word (by decide) (by decide) hrest
  exact hmore.cons hread

end Spells

end Companion
