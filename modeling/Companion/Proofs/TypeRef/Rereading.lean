import Companion.Proofs.TypeRef.RoundTrip
import Companion.Proofs.TypeRef.Tiling

/-!
# Reading the text of a type that was read

Only `global::` lets a type come out of the reader in a form that its text does not have: behind it
a keyword alone is a name, but the text of the type leaves `global::` out. `reread` is the type that
the text stands for, and it is canonical for every type that the reader returns, since the names in
a derivation from a source are identifiers (`Tree.type_reread_canonical`). Without `::` in the
source there is nothing to put right (`Tree.type_reread_eq`). The main result is
`parse_display_of_parse`.
-/

namespace Companion.TypeRef

open Grammar

/-! ## The type that a text stands for -/

mutual

/-- The type with every name that is one keyword, without type arguments, as that keyword's type. -/
def reread : TypeRef → TypeRef
  | predefined keyword => predefined keyword
  | named name [] => if name ∈ predefinedKeywords then predefined name else named name []
  | named name (arg :: args) => named name (rereadAll (arg :: args))
  | array element rank => array element.reread rank
  | tuple elements => tuple (rereadElements elements)
  | nullable inner => nullable inner.reread
  | pointer inner => pointer inner.reread
  | functionPointer convention parameters => functionPointer convention (rereadAll parameters)

def rereadAll : List TypeRef → List TypeRef
  | [] => []
  | t :: ts => t.reread :: rereadAll ts

def rereadElements : List (TypeRef × Option String) → List (TypeRef × Option String)
  | [] => []
  | (t, label) :: rest => (t.reread, label) :: rereadElements rest

end

mutual

theorem display_reread : ∀ t : TypeRef, t.reread.display = t.display
  | predefined _ => rfl
  | named name [] => by
    rw [reread]
    split <;> simp [display]
  | named name (arg :: args) => by
    have hargs := displayAll_rereadAll (arg :: args)
    rw [rereadAll] at hargs
    rw [reread, rereadAll, display, hargs, display]
  | array element rank => by rw [reread, display, display_reread element, display]
  | tuple elements => by rw [reread, display, displayElements_rereadElements elements, display]
  | nullable inner => by rw [reread, display, display_reread inner, display]
  | pointer inner => by rw [reread, display, display_reread inner, display]
  | functionPointer none parameters => by
    rw [reread, display, displayAll_rereadAll parameters, display]
  | functionPointer (some convention) parameters => by
    rw [reread, display, displayAll_rereadAll parameters, display]

theorem displayAll_rereadAll : ∀ ts : List TypeRef, displayAll (rereadAll ts) = displayAll ts
  | [] => rfl
  | t :: ts => by rw [rereadAll, displayAll, display_reread t, displayAll_rereadAll ts, displayAll]

theorem displayElements_rereadElements : ∀ elements : List (TypeRef × Option String),
    displayElements (rereadElements elements) = displayElements elements
  | [] => rfl
  | (t, none) :: rest => by
    rw [rereadElements, displayElements, display_reread t, displayElements_rereadElements rest,
      displayElements]
  | (t, some name) :: rest => by
    rw [rereadElements, displayElements, display_reread t, displayElements_rereadElements rest,
      displayElements]

end

theorem isNullable_reread (t : TypeRef) : t.reread.isNullable = t.isNullable := by
  cases t with
  | named name args =>
    cases args with
    | nil =>
      rw [reread]
      split <;> rfl
    | cons arg args => rfl
  | _ => rfl

theorem reread_generic {name : String} {args : List TypeRef} (h : rereadAll args ≠ []) :
    (named name args).reread = named name (rereadAll args) := by
  cases args with
  | nil => exact absurd rfl h
  | cons arg args => rfl

theorem reread_apply (s : Suffix) (t : TypeRef) : (s.apply t).reread = s.apply t.reread := by
  cases s <;> rfl

/-! ## Types of derivations from sources -/

/-- The tokens of a source: those whose identifiers the lexer makes. -/
def AllProper (tokens : List Token) : Prop := ∀ token ∈ tokens, token.IsProper

theorem AllProper.of_append {s s' : List Token} (h : AllProper (s ++ s')) :
    AllProper s ∧ AllProper s' :=
  List.forall_mem_append.mp h

theorem AllProper.of_cons {token : Token} {s : List Token} (h : AllProper (token :: s)) :
    token.IsProper ∧ AllProper s :=
  List.forall_mem_cons.mp h

theorem isIdentifier_of_separated {separator : Token} {first : String} {rest : List String}
    (h : AllProper (separated separator first rest)) :
    ∀ name ∈ first :: rest, Token.isIdentifier name = true := by
  obtain ⟨hfirst, hrest⟩ := h.of_cons
  refine List.forall_mem_cons.mpr ⟨hfirst, fun name hname => ?_⟩
  exact hrest (.ident name) (List.mem_flatMap.mpr ⟨name, hname, by simp⟩)

theorem isQualifiedName_of_nameTokens {qualified : Bool} {first : String} {rest : List String}
    (h : AllProper (nameTokens qualified first rest)) :
    IsQualifiedName (".".intercalate (first :: rest)) :=
  ⟨first, rest, rfl, isIdentifier_of_separated h.of_append.2⟩

theorem isConvention_of_styleTokens {style : Option Style} (h : AllProper (styleTokens style)) :
    ∀ text ∈ style.map Style.text, IsConvention text := by
  rintro text htext
  rcases style with _ | ⟨name⟩ | ⟨name, first, rest⟩
  · cases htext
  · cases htext
    exact .inl h.of_cons.1
  · cases htext
    obtain ⟨hname, hlist⟩ := h.of_cons
    exact .inr ⟨name, first, rest, rfl, hname,
      isIdentifier_of_separated hlist.of_cons.2.of_append.1⟩

theorem isIdentifier_of_labelTokens {label : Option String} (h : AllProper (labelTokens label)) :
    ∀ name ∈ label, Token.isIdentifier name = true := by
  rintro name hname
  cases hname
  exact h.of_cons.1

theorem canonical_apply {s : Suffix} {t : TypeRef} (h : t.reread.Canonical) (hs : s.Applies t) :
    (s.apply t).reread.Canonical := by
  rw [reread_apply]
  cases s with
  | question => exact ⟨(isNullable_reread t).trans hs, h⟩
  | brackets commas => exact ⟨Nat.le_add_right 1 commas, h⟩
  | star => exact h

theorem canonical_suffixes {ss : List Suffix} {t : TypeRef} (h : t.reread.Canonical)
    (happly : Suffix.AllApply t ss) : (ss.foldl Suffix.apply t).reread.Canonical := by
  induction ss generalizing t with
  | nil => exact h
  | cons s ss ih => exact ih (canonical_apply h happly.1) happly.2

theorem canonical_name {name : String} (h : IsQualifiedName name) :
    (named name []).reread.Canonical := by
  rw [reread]
  split
  · next hkeyword => exact hkeyword
  · next hkeyword => exact ⟨h, fun _ => hkeyword, trivial⟩

namespace Grammar

theorem Trees.rereadAll_types_ne_nil (ts : Trees) : rereadAll ts.types ≠ [] := by
  cases ts <;> exact List.cons_ne_nil _ _

mutual

/-- The text of a type that was read from a source stands for a canonical type. -/
theorem Tree.type_reread_canonical : ∀ d : Tree, d.Admissible → AllProper d.tokens →
    d.type.reread.Canonical
  | .mk p ss, ⟨hp, happly⟩, h => by
    obtain ⟨hprimary, -⟩ := AllProper.of_append h
    exact canonical_suffixes (p.type_reread_canonical hp hprimary) happly

theorem Primary.type_reread_canonical : ∀ p : Primary, p.Admissible → AllProper p.tokens →
    p.type.reread.Canonical
  | .functionPointer style ts, hts, h => by
    obtain ⟨hstyle, hlist⟩ := h.of_cons.2.of_cons.2.of_append
    exact ⟨isConvention_of_styleTokens hstyle, ts.rereadAll_types_ne_nil,
      ts.types_reread_canonical hts hlist.of_cons.2.of_append.1⟩
  | .tuple t label es, ⟨ht, hes⟩, h => by
    obtain ⟨hfirst, hrest⟩ := h.of_cons.2.of_append
    obtain ⟨hlabel, hmore⟩ := hrest.of_append
    refine ⟨?_, t.type_reread_canonical ht hfirst, isIdentifier_of_labelTokens hlabel,
      es.types_reread_canonical hes hmore.of_cons.2.of_append.1⟩
    cases es <;> simp [rereadElements, Elements.types]
  | .simple qualified first rest, _, h => by
    rw [Primary.type]
    split
    · next hkeyword => exact hkeyword.2.2
    · exact canonical_name (isQualifiedName_of_nameTokens h)
  | .generic qualified first rest ts, hts, h => by
    obtain ⟨hname, hlist⟩ := AllProper.of_append h
    have hne := ts.rereadAll_types_ne_nil
    rw [Primary.type, reread_generic hne]
    exact ⟨isQualifiedName_of_nameTokens hname, fun hnil => absurd hnil hne,
      ts.types_reread_canonical hts hlist.of_cons.2.of_append.1⟩

theorem Trees.types_reread_canonical : ∀ ts : Trees, ts.Admissible → AllProper ts.tokens →
    AllCanonical (rereadAll ts.types)
  | .last t, ht, h => ⟨t.type_reread_canonical ht h, trivial⟩
  | .cons t ts, ⟨ht, hts⟩, h => by
    obtain ⟨hfirst, hrest⟩ := AllProper.of_append h
    exact ⟨t.type_reread_canonical ht hfirst, ts.types_reread_canonical hts hrest.of_cons.2⟩

theorem Elements.types_reread_canonical : ∀ es : Elements, es.Admissible → AllProper es.tokens →
    ElementsCanonical (rereadElements es.types)
  | .last t label, ht, h => by
    obtain ⟨hfirst, hlabel⟩ := AllProper.of_append h
    exact ⟨t.type_reread_canonical ht hfirst, isIdentifier_of_labelTokens hlabel, trivial⟩
  | .cons t label es, ⟨ht, hes⟩, h => by
    obtain ⟨hfirst, hrest⟩ := AllProper.of_append h
    obtain ⟨hlabel, hmore⟩ := hrest.of_append
    exact ⟨t.type_reread_canonical ht hfirst, isIdentifier_of_labelTokens hlabel,
      es.types_reread_canonical hes hmore.of_cons.2⟩

end

end Grammar

/-! ## Sources without `::` -/

theorem not_mem_dot_of_predefined : ∀ keyword ∈ predefinedKeywords, '.' ∉ keyword.toList := by
  decide

theorem intercalate_not_predefined (first second : String) (rest : List String) :
    ".".intercalate (first :: second :: rest) ∉ predefinedKeywords := by
  intro hkeyword
  refine not_mem_dot_of_predefined _ hkeyword ?_
  rw [String.intercalate_cons_cons]
  simp

theorem reread_suffixes (ss : List Suffix) (t : TypeRef) :
    (ss.foldl Suffix.apply t).reread = ss.foldl Suffix.apply t.reread := by
  induction ss generalizing t with
  | nil => rfl
  | cons s ss ih => rw [List.foldl_cons, ih, reread_apply, List.foldl_cons]

namespace Grammar

mutual

/-- A type that was read without `::` is what its text stands for. -/
theorem Tree.type_reread_eq : ∀ d : Tree, .colons ∉ d.tokens → d.type.reread = d.type
  | .mk p ss, h => by
    have hprimary : .colons ∉ p.tokens := fun hmem => h (List.mem_append_left _ hmem)
    rw [Tree.type, reread_suffixes, p.type_reread_eq hprimary]

theorem Primary.type_reread_eq : ∀ p : Primary, .colons ∉ p.tokens → p.type.reread = p.type
  | .functionPointer style ts, h => by
    simp only [Primary.tokens, List.mem_cons, List.mem_append, not_or] at h
    rw [Primary.type, reread, ts.types_reread_eq h.2.2.2.2.1]
  | .tuple t label es, h => by
    simp only [Primary.tokens, List.mem_cons, List.mem_append, not_or] at h
    rw [Primary.type, reread, rereadElements, t.type_reread_eq h.2.1,
      es.types_reread_eq h.2.2.2.2.1]
  | .simple true first rest, h => absurd (by simp [Primary.tokens, nameTokens]) h
  | .simple false first rest, h => by
    rw [Primary.type]
    split
    · rfl
    · next hname =>
      have hkeyword : ".".intercalate (first :: rest) ∉ predefinedKeywords := by
        cases rest with
        | nil =>
          rw [String.intercalate_singleton]
          exact fun hfirst => hname ⟨rfl, rfl, hfirst⟩
        | cons second rest => exact intercalate_not_predefined first second rest
      rw [reread, if_neg hkeyword]
  | .generic qualified first rest ts, h => by
    simp only [Primary.tokens, List.mem_cons, List.mem_append, not_or] at h
    rw [Primary.type, reread_generic ts.rereadAll_types_ne_nil, ts.types_reread_eq h.2.2.1]

theorem Trees.types_reread_eq : ∀ ts : Trees, .colons ∉ ts.tokens →
    rereadAll ts.types = ts.types
  | .last t, h => by rw [Trees.types, rereadAll, t.type_reread_eq h, rereadAll]
  | .cons t ts, h => by
    simp only [Trees.tokens, List.mem_cons, List.mem_append, not_or] at h
    rw [Trees.types, rereadAll, t.type_reread_eq h.1, ts.types_reread_eq h.2.2]

theorem Elements.types_reread_eq : ∀ es : Elements, .colons ∉ es.tokens →
    rereadElements es.types = es.types
  | .last t label, h => by
    simp only [Elements.tokens, List.mem_append, not_or] at h
    rw [Elements.types, rereadElements, t.type_reread_eq h.1, rereadElements]
  | .cons t label es, h => by
    simp only [Elements.tokens, List.mem_cons, List.mem_append, not_or] at h
    rw [Elements.types, rereadElements, t.type_reread_eq h.1, es.types_reread_eq h.2.2.2]

end

end Grammar

/-! ## Reading, writing and reading again -/

theorem allProper_of_lex {source : String} {ls : List Lexeme} (h : lex source = .ok ls) :
    AllProper (tokensOf ls) := by
  intro token htoken
  obtain ⟨l, hl, rfl⟩ := List.mem_map.mp htoken
  exact ((lexFrom_eq_ok_iff.mp h).exists_of_mem hl).1

/-- The text of a type that was read can be read. What is read is the same type but for names behind
`global::` that are single keywords, and it has the same text. -/
theorem parse_display_of_parse {source : String} {t : TypeRef} (h : parse source = .ok t) :
    parse t.display = .ok t.reread ∧ t.reread.display = t.display ∧
      ((∀ ls, lex source = .ok ls → .colons ∉ tokensOf ls) → t.reread = t) := by
  obtain ⟨ls, hlex, d, hd, htokens, rfl⟩ := parse_eq_ok_iff.mp h
  have hproper : AllProper d.tokens := htokens ▸ allProper_of_lex hlex
  refine ⟨?_, display_reread d.type, fun hcolons => d.type_reread_eq ?_⟩
  · obtain ⟨d', hd', htype, hspells⟩ := exists_writes _ (d.type_reread_canonical hd hproper)
    obtain ⟨ls', hlex', htokens'⟩ := hspells.hasTokens 0
    rw [display_reread] at hlex'
    exact parse_eq_ok_iff.mpr ⟨ls', hlex', d', hd', htokens'.symm, htype⟩
  · rw [htokens]
    exact hcolons ls hlex

theorem parse_display_of_parse_global : ∃ t : TypeRef,
    parse "(global::int, Map<global :: string?, a.@b>[,] Items)" = .ok t ∧
    t.display = "(int, Map<string?, a.@b>[,] Items)" ∧
    parse t.display = .ok t.reread ∧ t.reread.display = t.display := by
  have hdisplay : (parse "(global::int, Map<global :: string?, a.@b>[,] Items)").map display =
      .ok "(int, Map<string?, a.@b>[,] Items)" := by
    decide +kernel
  cases hparse : parse "(global::int, Map<global :: string?, a.@b>[,] Items)" with
  | error e =>
    rw [hparse] at hdisplay
    cases hdisplay
  | ok t =>
    rw [hparse] at hdisplay
    obtain ⟨hread, htext, -⟩ := parse_display_of_parse hparse
    exact ⟨t, rfl, Except.ok.inj hdisplay, hread, htext⟩

end Companion.TypeRef
