import Companion.Proofs.TypeRef.Parsing

/-!
# Reading what was written

A type is canonical if it has the form in which the reader returns types. Writing a canonical type
and reading the text gives the type back (`parse_display_of_canonical`): for every canonical type
there is a derivation that builds it, and the text of the type spells the tokens of the derivation.
-/

namespace Companion.TypeRef

open Grammar
open Text (commaSeparated)

/-! ## Canonical types -/

/-- Identifiers with dots between them. -/
def IsQualifiedName (name : String) : Prop :=
  ∃ first rest, name = ".".intercalate (first :: rest) ∧
    ∀ segment ∈ first :: rest, Token.isIdentifier segment = true

/-- An identifier, or an identifier with a list of identifiers in brackets. -/
def IsConvention (text : String) : Prop :=
  Token.isIdentifier text = true ∨
    ∃ name first rest, text = name ++ "[" ++ commaSeparated (first :: rest) ++ "]" ∧
      Token.isIdentifier name = true ∧ ∀ option ∈ first :: rest, Token.isIdentifier option = true

mutual

/-- A type in the form in which it is read. -/
def Canonical : TypeRef → Prop
  | predefined keyword => keyword ∈ predefinedKeywords
  | named name args =>
    IsQualifiedName name ∧ (args = [] → name ∉ predefinedKeywords) ∧ AllCanonical args
  | array element rank => 1 ≤ rank ∧ element.Canonical
  | tuple elements => 2 ≤ elements.length ∧ ElementsCanonical elements
  | nullable inner => inner.isNullable = false ∧ inner.Canonical
  | pointer inner => inner.Canonical
  | functionPointer convention parameters =>
    (∀ text ∈ convention, IsConvention text) ∧ parameters ≠ [] ∧ AllCanonical parameters

def AllCanonical : List TypeRef → Prop
  | [] => True
  | t :: ts => t.Canonical ∧ AllCanonical ts

def ElementsCanonical : List (TypeRef × Option String) → Prop
  | [] => True
  | (t, label) :: rest =>
    t.Canonical ∧ (∀ name ∈ label, Token.isIdentifier name = true) ∧ ElementsCanonical rest

end

/-! ## Names and calling conventions -/

theorem spells_intercalate {text : String} {token : Token}
    (hsep : ∀ {s tokens}, Spells s tokens → Spells (text.toList ++ s) (token :: tokens))
    (hends : ∀ s, EndsWord (text.toList ++ s)) {first : String} {rest : List String}
    (h : ∀ name ∈ first :: rest, Token.isIdentifier name = true) :
    Spells (text.intercalate (first :: rest)).toList (separated token first rest) := by
  induction rest generalizing first with
  | nil =>
    rw [String.intercalate_singleton]
    exact .identifier (h first (by simp))
  | cons name names ih =>
    have hfirst : Spells first.toList [.ident first] := .identifier (h first (by simp))
    have hrest := ih fun name hname => h name (List.mem_cons_of_mem _ hname)
    rw [String.intercalate_cons_cons, String.toList_append, String.toList_append,
      List.append_assoc]
    exact hfirst.append (hsep hrest) (hends _)

theorem spells_qualified {first : String} {rest : List String}
    (h : ∀ name ∈ first :: rest, Token.isIdentifier name = true) :
    Spells (".".intercalate (first :: rest)).toList (separated .dot first rest) := by
  refine spells_intercalate ?_ ?_ h
  · intro s tokens hs
    exact hs.punctuation (c := '.') rfl
  · intro s
    exact endsWord_cons (c := '.') (by decide)

theorem spells_commaSeparated {first : String} {rest : List String}
    (h : ∀ name ∈ first :: rest, Token.isIdentifier name = true) :
    Spells (commaSeparated (first :: rest)).toList (separated .comma first rest) := by
  refine spells_intercalate ?_ ?_ h
  · intro s tokens hs
    exact hs.space.punctuation (c := ',') rfl
  · intro s
    exact endsWord_cons (c := ',') (by decide)

theorem exists_style {text : String} (h : IsConvention text) :
    ∃ style : Style, style.text = text ∧ Spells text.toList style.tokens := by
  obtain h | ⟨name, first, rest, rfl, hname, hrest⟩ := h
  · exact ⟨.word text, rfl, .identifier h⟩
  · refine ⟨.listed name first rest, rfl, ?_⟩
    have hlist := (spells_commaSeparated hrest).append (Spells.nil.punctuation (c := ']') rfl)
      (endsWord_cons (by decide))
    have htext := (Spells.identifier hname).append (hlist.punctuation (c := '[') rfl)
      (endsWord_cons (by decide))
    simpa [Style.tokens] using htext

theorem isIdentifier_of_predefined :
    ∀ keyword ∈ predefinedKeywords, Token.isIdentifier keyword = true := by
  decide

/-! ## Derivations of canonical types -/

namespace Grammar

/-- A derivation with one more postfix operator. -/
def Tree.add : Tree → Suffix → Tree
  | .mk primary suffixes, s => .mk primary (suffixes ++ [s])

theorem Suffix.allApply_append {t : TypeRef} {ss : List Suffix} {s : Suffix}
    (h : AllApply t ss) (hs : s.Applies (ss.foldl Suffix.apply t)) : AllApply t (ss ++ [s]) := by
  induction ss generalizing t with
  | nil => exact ⟨hs, trivial⟩
  | cons s' ss ih => exact ⟨h.1, ih h.2 hs⟩

theorem Tree.add_admissible {d : Tree} {s : Suffix} (hd : d.Admissible) (hs : s.Applies d.type) :
    (d.add s).Admissible := by
  cases d with
  | mk p ss => exact ⟨hd.1, Suffix.allApply_append hd.2 hs⟩

theorem Tree.add_type (d : Tree) (s : Suffix) : (d.add s).type = s.apply d.type := by
  cases d with
  | mk p ss => simp only [Tree.add, Tree.type, List.foldl_append, List.foldl_cons, List.foldl_nil]

theorem Tree.add_tokens (d : Tree) (s : Suffix) : (d.add s).tokens = d.tokens ++ s.tokens := by
  cases d with
  | mk p ss => simp [Tree.add, Tree.tokens]

end Grammar

theorem spells_brackets (commas : Nat) :
    Spells ('[' :: (List.replicate commas ',' ++ [']'])) (Suffix.brackets commas).tokens := by
  have hclose (n : Nat) : Spells (List.replicate n ',' ++ [']'])
      (List.replicate n .comma ++ [.closeBracket]) := by
    induction n with
    | zero => exact Spells.nil.punctuation rfl
    | succ n ih => exact ih.punctuation rfl
  exact (hclose commas).punctuation rfl

/-- A derivation builds a type, and the type is written with its tokens. -/
def Writes (d : Tree) (t : TypeRef) : Prop :=
  d.Admissible ∧ d.type = t ∧ Spells t.display.toList d.tokens

theorem Writes.add {d : Tree} {t t' : TypeRef} {s : Suffix} {text : List Char} (h : Writes d t)
    (hs : s.Applies t) (htype : s.apply t = t') (htext : Spells text s.tokens)
    (hends : EndsWord text) (hdisplay : t'.display.toList = t.display.toList ++ text) :
    Writes (d.add s) t' := by
  obtain ⟨hd, rfl, hspells⟩ := h
  refine ⟨Tree.add_admissible hd hs, by rw [Tree.add_type, htype], ?_⟩
  rw [Tree.add_tokens, hdisplay]
  exact hspells.append htext hends

theorem Writes.predefined {keyword : String} (h : keyword ∈ predefinedKeywords) :
    Writes (.mk (.simple false keyword []) []) (predefined keyword) := by
  refine ⟨⟨trivial, trivial⟩, by simp [Tree.type, Primary.type, h], ?_⟩
  exact .identifier (isIdentifier_of_predefined keyword h)

theorem Writes.simple {first : String} {rest : List String}
    (h : ∀ segment ∈ first :: rest, Token.isIdentifier segment = true)
    (hkeyword : ".".intercalate (first :: rest) ∉ predefinedKeywords) :
    Writes (.mk (.simple false first rest) []) (named (".".intercalate (first :: rest)) []) := by
  refine ⟨⟨trivial, trivial⟩, ?_, ?_⟩
  · have hnot : ¬(rest = [] ∧ first ∈ predefinedKeywords) := by
      rintro ⟨rfl, hfirst⟩
      rw [String.intercalate_singleton] at hkeyword
      exact hkeyword hfirst
    simp [Tree.type, Primary.type, hnot]
  · simpa [Tree.tokens, Primary.tokens, nameTokens, display] using spells_qualified h

/-- Derivations build types, and these are written with their tokens. -/
def WritesAll (ts : Trees) (types : List TypeRef) : Prop :=
  ts.Admissible ∧ ts.types = types ∧ Spells (commaSeparated (displayAll types)).toList ts.tokens

theorem Writes.generic {first : String} {rest : List String} {ts : Trees} {arg : TypeRef}
    {args : List TypeRef} (h : ∀ segment ∈ first :: rest, Token.isIdentifier segment = true)
    (hargs : WritesAll ts (arg :: args)) :
    Writes (.mk (.generic false first rest ts) [])
      (named (".".intercalate (first :: rest)) (arg :: args)) := by
  obtain ⟨hts, htypes, hspells⟩ := hargs
  refine ⟨⟨hts, trivial⟩, by simp [Tree.type, Primary.type, htypes], ?_⟩
  have hlist := (hspells.close (c := '>') rfl (by decide)).punctuation (c := '<') rfl
  have htext := (spells_qualified h).append hlist (endsWord_cons (by decide))
  simpa [Tree.tokens, Primary.tokens, nameTokens, display] using htext

theorem Writes.functionPointer {convention : Option String} {ts : Trees}
    {parameters : List TypeRef} (h : ∀ text ∈ convention, IsConvention text)
    (hparameters : WritesAll ts parameters) :
    ∃ style, Writes (.mk (.functionPointer style ts) [])
      (functionPointer convention parameters) := by
  obtain ⟨hts, rfl, hspells⟩ := hparameters
  have hlist := (hspells.close (c := '>') rfl (by decide)).punctuation (c := '<') rfl
  cases convention with
  | none =>
    refine ⟨none, ⟨hts, trivial⟩, rfl, ?_⟩
    have htext := Spells.delegate.append (hlist.punctuation (c := '*') rfl)
      (endsWord_cons (by decide))
    simpa [Tree.tokens, Primary.tokens, styleTokens, display] using htext
  | some text =>
    obtain ⟨style, rfl, hstyle⟩ := exists_style (h text rfl)
    refine ⟨some style, ⟨hts, trivial⟩, rfl, ?_⟩
    have htail := (hstyle.append hlist (endsWord_cons (by decide))).space
    have htext := Spells.delegate.append (htail.punctuation (c := '*') rfl)
      (endsWord_cons (by decide))
    simpa [Tree.tokens, Primary.tokens, styleTokens, display] using htext

/-- Derivations build tuple elements, and these are written with their tokens. -/
def WritesElements (es : Elements) (elements : List (TypeRef × Option String)) : Prop :=
  es.Admissible ∧ es.types = elements ∧
    Spells (commaSeparated (displayElements elements)).toList es.tokens

theorem Writes.tuple {es : Elements} {elements : List (TypeRef × Option String)}
    (hlength : 2 ≤ elements.length) (h : WritesElements es elements) :
    ∃ d, Writes d (tuple elements) := by
  obtain ⟨hes, rfl, hspells⟩ := h
  cases es with
  | last t label => simp [Elements.types] at hlength
  | cons t label es =>
    refine ⟨.mk (.tuple t label es) [], ⟨hes, trivial⟩, rfl, ?_⟩
    have htext := (hspells.close (c := ')') rfl (by decide)).punctuation (c := '(') rfl
    simpa [Tree.tokens, Primary.tokens, Elements.tokens, display] using htext

theorem WritesAll.cons {d : Tree} {ts : Trees} {t t' : TypeRef} {rest : List TypeRef}
    (h : Writes d t) (hrest : WritesAll ts (t' :: rest)) :
    WritesAll (.cons d ts) (t :: t' :: rest) := by
  obtain ⟨hd, rfl, hspells⟩ := h
  obtain ⟨hts, htypes, hmore⟩ := hrest
  refine ⟨⟨hd, hts⟩, by simp [Trees.types, htypes], ?_⟩
  have htext := hspells.append (hmore.space.punctuation (c := ',') rfl)
    (endsWord_cons (by decide))
  simpa [Trees.tokens, displayAll, commaSeparated, String.intercalate_cons_cons] using htext

/-- A tuple element as it is written. -/
def elementText (t : TypeRef) : Option String → String
  | none => t.display
  | some name => t.display ++ " " ++ name

theorem displayElements_cons (t : TypeRef) (label : Option String)
    (rest : List (TypeRef × Option String)) :
    displayElements ((t, label) :: rest) = elementText t label :: displayElements rest := by
  cases label <;> rfl

theorem spells_elementText {d : Tree} {t : TypeRef} {label : Option String} (h : Writes d t)
    (hlabel : ∀ name ∈ label, Token.isIdentifier name = true) :
    Spells (elementText t label).toList (d.tokens ++ labelTokens label) := by
  obtain ⟨-, rfl, hspells⟩ := h
  cases label with
  | none => simpa [elementText, labelTokens] using hspells
  | some name =>
    have hname := (Spells.identifier (hlabel name rfl)).space
    have htext := hspells.append hname (endsWord_cons (by decide))
    simpa [elementText, labelTokens] using htext

theorem WritesElements.last {d : Tree} {t : TypeRef} {label : Option String} (h : Writes d t)
    (hlabel : ∀ name ∈ label, Token.isIdentifier name = true) :
    WritesElements (.last d label) [(t, label)] := by
  refine ⟨h.1, by simp [Elements.types, h.2.1], ?_⟩
  simpa [Elements.tokens, displayElements_cons, displayElements, commaSeparated] using
    spells_elementText h hlabel

theorem WritesElements.cons {d : Tree} {es : Elements} {t : TypeRef} {label : Option String}
    {e : TypeRef × Option String} {rest : List (TypeRef × Option String)} (h : Writes d t)
    (hlabel : ∀ name ∈ label, Token.isIdentifier name = true)
    (hrest : WritesElements es (e :: rest)) :
    WritesElements (.cons d label es) ((t, label) :: e :: rest) := by
  obtain ⟨hes, htypes, hmore⟩ := hrest
  refine ⟨⟨h.1, hes⟩, by simp [Elements.types, htypes, h.2.1], ?_⟩
  have htext := (spells_elementText h hlabel).append (hmore.space.punctuation (c := ',') rfl)
    (endsWord_cons (by decide))
  obtain ⟨t', label'⟩ := e
  simpa [Elements.tokens, displayElements_cons, commaSeparated, String.intercalate_cons_cons]
    using htext

mutual

theorem exists_writes : ∀ t : TypeRef, t.Canonical → ∃ d, Writes d t
  | predefined keyword, h => ⟨_, .predefined h⟩
  | named name [], ⟨⟨first, rest, hname, hnames⟩, hkeyword, _⟩ => by
    subst hname
    exact ⟨_, .simple hnames (hkeyword rfl)⟩
  | named name (arg :: args), ⟨⟨first, rest, hname, hnames⟩, _, hargs⟩ => by
    subst hname
    obtain ⟨ts, hts⟩ := exists_writesAll (arg :: args) (by simp) hargs
    exact ⟨_, .generic hnames hts⟩
  | array element rank, ⟨hrank, h⟩ => by
    obtain ⟨d, hd⟩ := exists_writes element h
    have hends : EndsWord ('[' :: (List.replicate (rank - 1) ',' ++ [']'])) :=
      endsWord_cons (by decide)
    refine ⟨d.add (.brackets (rank - 1)), hd.add trivial ?_ (spells_brackets _) hends ?_⟩
    · rw [Suffix.apply, Nat.add_sub_of_le hrank]
    · simp [display]
  | tuple elements, ⟨hlength, h⟩ => by
    have hne : elements ≠ [] := List.ne_nil_of_length_pos (by omega)
    obtain ⟨es, hes⟩ := exists_writesElements elements hne h
    exact Writes.tuple hlength hes
  | nullable inner, ⟨hinner, h⟩ => by
    obtain ⟨d, hd⟩ := exists_writes inner h
    have htext : Spells ['?'] [.question] := Spells.nil.punctuation rfl
    exact ⟨d.add .question, hd.add hinner rfl htext (endsWord_cons (by decide)) (by simp [display])⟩
  | pointer inner, h => by
    obtain ⟨d, hd⟩ := exists_writes inner h
    have htext : Spells ['*'] [.star] := Spells.nil.punctuation rfl
    exact ⟨d.add .star, hd.add trivial rfl htext (endsWord_cons (by decide)) (by simp [display])⟩
  | functionPointer convention parameters, ⟨hconvention, hne, h⟩ => by
    obtain ⟨ts, hts⟩ := exists_writesAll parameters hne h
    obtain ⟨style, hstyle⟩ := Writes.functionPointer hconvention hts
    exact ⟨_, hstyle⟩

theorem exists_writesAll : ∀ types : List TypeRef, types ≠ [] → AllCanonical types →
    ∃ ts, WritesAll ts types
  | [], hne, _ => absurd rfl hne
  | [t], _, ⟨ht, _⟩ => by
    obtain ⟨d, hd, rfl, hspells⟩ := exists_writes t ht
    exact ⟨.last d, hd, rfl, by simpa [displayAll, commaSeparated, Trees.tokens] using hspells⟩
  | t :: t' :: types, _, ⟨ht, htypes⟩ => by
    obtain ⟨d, hd⟩ := exists_writes t ht
    obtain ⟨ts, hts⟩ := exists_writesAll (t' :: types) (by simp) htypes
    exact ⟨.cons d ts, .cons hd hts⟩

theorem exists_writesElements : ∀ elements : List (TypeRef × Option String), elements ≠ [] →
    ElementsCanonical elements → ∃ es, WritesElements es elements
  | [], hne, _ => absurd rfl hne
  | [(t, label)], _, ⟨ht, hlabel, _⟩ => by
    obtain ⟨d, hd⟩ := exists_writes t ht
    exact ⟨.last d label, .last hd hlabel⟩
  | (t, label) :: e :: rest, _, ⟨ht, hlabel, hrest⟩ => by
    obtain ⟨d, hd⟩ := exists_writes t ht
    obtain ⟨es, hes⟩ := exists_writesElements (e :: rest) (by simp) hrest
    exact ⟨.cons d label es, .cons hd hlabel hes⟩

end

/-! ## Writing, then reading -/

/-- Reading the text of a canonical type gives the type. -/
theorem parse_display_of_canonical (t : TypeRef) (h : t.Canonical) : parse t.display = .ok t := by
  obtain ⟨d, hd, htype, hspells⟩ := exists_writes t h
  obtain ⟨ls, hlex, htokens⟩ := hspells.hasTokens 0
  exact parse_eq_ok_iff.mpr ⟨ls, hlex, d, hd, htokens.symm, htype⟩

theorem parse_display_of_canonical_nested : ∃ t : TypeRef,
    t.display = "(Map<string, a.List<int?>>[,] Items, delegate* x[Cdecl, Fast]<@class*, void>)" ∧
    t.Canonical ∧ parse t.display = .ok t := by
  have hstring : "string" ∈ predefinedKeywords := by decide
  have hint : "int" ∈ predefinedKeywords := by decide
  have hvoid : "void" ∈ predefinedKeywords := by decide
  have hmap : Canonical (array (named "Map" [predefined "string",
      named "a.List" [nullable (predefined "int")]]) 2) :=
    ⟨by decide, ⟨"Map", [], by decide +kernel, by decide⟩, by simp, hstring,
      ⟨⟨"a", ["List"], by decide +kernel, by decide⟩, by simp, ⟨rfl, hint⟩, trivial⟩, trivial⟩
  have hpointer : Canonical (functionPointer (some "x[Cdecl, Fast]")
      [pointer (named "@class" []), predefined "void"]) := by
    refine ⟨fun text htext => .inr ⟨"x", "Cdecl", ["Fast"], ?_, by decide, by decide⟩, by simp,
      ⟨⟨"@class", [], by decide +kernel, by decide⟩, by decide, trivial⟩, hvoid, trivial⟩
    rw [← Option.some.inj htext]
    decide +kernel
  have h : Canonical (tuple [(_, some "Items"), (_, none)]) :=
    ⟨by simp, hmap, fun name hname => Option.some.inj hname ▸ by decide, hpointer, by simp, trivial⟩
  exact ⟨_, by decide +kernel, h, parse_display_of_canonical _ h⟩

end Companion.TypeRef
