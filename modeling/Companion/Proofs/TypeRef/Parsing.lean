import Companion.Proofs.Basic
import Companion.Proofs.TypeRef.Grammar
import Companion.Proofs.TypeRef.Lexing
import Companion.TypeRef.Parser

/-!
# The type reader accepts the grammar

Every reader is compared with the derivations of its part of the grammar, in two directions. If it
succeeds, what it took is the tokens of a derivation and what it returns is the type of that
derivation (`_sound`). If the tokens in front are those of a derivation and what follows cannot go
on with it, it succeeds, takes just these tokens and returns that type (`_complete`). The bound on
nested calls only matters in the second direction, where three times the number of tokens is enough.

The main result is `parse_eq_ok_iff_derives`.
-/

namespace Companion.TypeRef

open Grammar

/-! ## Single tokens and identifiers -/

theorem expect_eq_ok_iff {token : Token} {ls rest : List Lexeme} :
    expect token ls = .ok rest ↔ ∃ span, ls = ⟨token, span⟩ :: rest := by
  cases ls with
  | nil => simp [expect]
  | cons l ls =>
    obtain ⟨token', span⟩ := l
    simp only [expect, List.cons.injEq, Lexeme.mk.injEq]
    split
    · next h => simp [h]
    · next h => simp [h]

theorem expect_sound {token : Token} {ls rest : List Lexeme} (h : expect token ls = .ok rest) :
    tokensOf ls = token :: tokensOf rest := by
  obtain ⟨span, rfl⟩ := expect_eq_ok_iff.mp h
  rfl

theorem expect_complete {token : Token} {ls : List Lexeme} {more : List Token}
    (h : tokensOf ls = token :: more) :
    ∃ rest, expect token ls = .ok rest ∧ tokensOf rest = more := by
  obtain ⟨span, rest, rfl, hrest⟩ := exists_of_tokensOf_eq_cons h
  exact ⟨rest, expect_eq_ok_iff.mpr ⟨span, rfl⟩, hrest⟩

theorem identifiers_sound {separator : Token} {ls rest : List Lexeme} {names : List String}
    (h : identifiers separator ls = .ok (names, rest)) :
    ∃ first more, names = first :: more ∧
      tokensOf ls = separated separator first more ++ tokensOf rest := by
  fun_induction identifiers separator ls generalizing names rest with
  | case1 => cases h
  | case2 name span =>
    cases h
    exact ⟨name, [], rfl, rfl⟩
  | case3 name span l ls hl ih =>
    obtain ⟨⟨names', rest'⟩, hread, hret⟩ := except_bind_eq_ok.mp h
    cases hret
    obtain ⟨first, more, rfl, htokens⟩ := ih hread
    refine ⟨name, first :: more, rfl, ?_⟩
    simp [htokens, hl, separated]
  | case4 name span l ls hl =>
    cases h
    exact ⟨name, [], rfl, rfl⟩
  | case5 l ls => cases h

theorem identifiers_complete {separator : Token} {ls : List Lexeme} {first : String}
    {names : List String} {more : List Token} (hmore : more.head? ≠ some separator)
    (h : tokensOf ls = separated separator first names ++ more) :
    ∃ rest, identifiers separator ls = .ok (first :: names, rest) ∧ tokensOf rest = more := by
  induction names generalizing first ls with
  | nil =>
    obtain ⟨span, rest, rfl, rfl⟩ := exists_of_tokensOf_eq_cons h
    cases rest with
    | nil => exact ⟨[], by simp [identifiers], rfl⟩
    | cons l rest =>
      have hl : l.token ≠ separator := fun hl => hmore (congrArg some hl)
      exact ⟨l :: rest, by simp [identifiers, hl], rfl⟩
  | cons name names ih =>
    obtain ⟨span, rest, rfl, hrest⟩ := exists_of_tokensOf_eq_cons h
    obtain ⟨span', rest', rfl, hrest'⟩ := exists_of_tokensOf_eq_cons hrest
    obtain ⟨last, hread, hlast⟩ := ih hrest'
    refine ⟨last, ?_, hlast⟩
    simp [identifiers, hread, bind, Except.bind, pure, Except.pure]

/-! ## Calling conventions and element names -/

theorem convention_sound {ls rest : List Lexeme} {text : Option String}
    (h : convention ls = .ok (text, rest)) :
    ∃ style : Option Style, text = style.map Style.text ∧
      tokensOf ls = styleTokens style ++ tokensOf rest := by
  unfold convention at h
  split at h
  · next name _ _ _ =>
    obtain ⟨⟨names, rest₁⟩, hnames, h⟩ := except_bind_eq_ok.mp h
    obtain ⟨rest₂, hclose, h⟩ := except_bind_eq_ok.mp h
    cases h
    obtain ⟨first, more, rfl, htokens⟩ := identifiers_sound hnames
    refine ⟨some (.listed name first more), rfl, ?_⟩
    simp [htokens, expect_sound hclose, styleTokens, Style.tokens]
  · next name _ _ _ =>
    cases h
    exact ⟨some (.word name), rfl, rfl⟩
  · cases h
    exact ⟨none, rfl, rfl⟩

theorem convention_complete {ls : List Lexeme} {style : Option Style} {more : List Token}
    (h : tokensOf ls = styleTokens style ++ .less :: more) :
    ∃ rest, convention ls = .ok (style.map Style.text, rest) ∧ tokensOf rest = .less :: more := by
  rcases style with _ | ⟨name⟩ | ⟨name, first, names⟩
  · obtain ⟨span, rest, rfl, hrest⟩ := exists_of_tokensOf_eq_cons h
    exact ⟨_, rfl, by simp [hrest]⟩
  · obtain ⟨span, rest, rfl, hrest⟩ := exists_of_tokensOf_eq_cons h
    obtain ⟨span', rest', rfl, hrest'⟩ := exists_of_tokensOf_eq_cons hrest
    exact ⟨_, rfl, by simp [hrest']⟩
  · simp only [styleTokens, Style.tokens, List.cons_append, List.append_assoc,
      List.nil_append] at h
    obtain ⟨span, rest, rfl, hrest⟩ := exists_of_tokensOf_eq_cons h
    obtain ⟨span', rest', rfl, hrest'⟩ := exists_of_tokensOf_eq_cons hrest
    obtain ⟨rest₁, hnames, hrest₁⟩ := identifiers_complete (by simp) hrest'
    obtain ⟨rest₂, hclose, hrest₂⟩ := expect_complete hrest₁
    refine ⟨rest₂, ?_, hrest₂⟩
    simp [convention, hnames, hclose, bind, Except.bind, pure, Except.pure, Style.text]

theorem elementName_sound (ls : List Lexeme) :
    tokensOf ls = labelTokens (elementName ls).1 ++ tokensOf (elementName ls).2 := by
  unfold elementName
  split <;> rfl

theorem elementName_complete {ls : List Lexeme} {label : Option String} {token : Token}
    {more : List Token} (htoken : ∀ name, token ≠ .ident name)
    (h : tokensOf ls = labelTokens label ++ token :: more) :
    ∃ rest, elementName ls = (label, rest) ∧ tokensOf rest = token :: more := by
  cases label with
  | none =>
    obtain ⟨span, rest, rfl, hrest⟩ := exists_of_tokensOf_eq_cons h
    refine ⟨⟨token, span⟩ :: rest, ?_, by simp [hrest]⟩
    unfold elementName
    split
    · next heq => exact absurd (congrArg Lexeme.token (List.cons.inj heq).1) (htoken _)
    · rfl
  | some name =>
    obtain ⟨span, rest, rfl, hrest⟩ := exists_of_tokensOf_eq_cons h
    exact ⟨rest, rfl, hrest⟩

/-! ## Postfix operators -/

mutual

theorem postfixes_sound : ∀ {t t' : TypeRef} {ls rest : List Lexeme},
    postfixes t ls = .ok (t', rest) → ∃ ss, Suffix.AllApply t ss ∧ ss.foldl Suffix.apply t = t' ∧
      tokensOf ls = ss.flatMap Suffix.tokens ++ tokensOf rest := by
  intro t t' ls rest h
  unfold postfixes at h
  split at h
  · next span ls =>
    split at h
    · cases h
    · next hnull =>
      obtain ⟨ss, happly, htype, htokens⟩ := postfixes_sound h
      exact ⟨.question :: ss, ⟨by simpa [Suffix.Applies] using hnull, happly⟩, htype, by
        simp [htokens, Suffix.tokens]⟩
  · next span ls =>
    obtain ⟨ss, happly, htype, htokens⟩ := postfixes_sound h
    exact ⟨.star :: ss, ⟨trivial, happly⟩, htype, by simp [htokens, Suffix.tokens]⟩
  · next span ls =>
    obtain ⟨commas, ss, happly, htype, htokens⟩ := brackets_sound h
    exact ⟨.brackets commas :: ss, ⟨trivial, happly⟩, htype, by
      simp [htokens, Suffix.tokens]⟩
  · cases h
    exact ⟨[], trivial, rfl, rfl⟩

theorem brackets_sound : ∀ {element t' : TypeRef} {rank : Nat} {ls rest : List Lexeme},
    brackets element rank ls = .ok (t', rest) → ∃ commas ss,
      Suffix.AllApply (array element (rank + commas)) ss ∧
      ss.foldl Suffix.apply (array element (rank + commas)) = t' ∧
      tokensOf ls = List.replicate commas .comma ++
        .closeBracket :: (ss.flatMap Suffix.tokens ++ tokensOf rest) := by
  intro element t' rank ls rest h
  unfold brackets at h
  split at h
  · next span ls =>
    obtain ⟨commas, ss, happly, htype, htokens⟩ := brackets_sound h
    rw [Nat.add_assoc, Nat.add_comm 1] at happly htype
    exact ⟨commas + 1, ss, happly, htype, by simp [htokens, List.replicate_succ]⟩
  · next span ls =>
    obtain ⟨ss, happly, htype, htokens⟩ := postfixes_sound h
    exact ⟨0, ss, happly, htype, by simp [htokens]⟩
  · cases h
  · cases h

end

theorem brackets_complete (element : TypeRef) (rank : Nat) {commas : Nat} {ls : List Lexeme}
    {more : List Token}
    (h : tokensOf ls = List.replicate commas .comma ++ .closeBracket :: more) :
    ∃ rest, brackets element rank ls = postfixes (array element (rank + commas)) rest ∧
      tokensOf rest = more := by
  induction commas generalizing rank ls with
  | zero =>
    obtain ⟨span, rest, rfl, hrest⟩ := exists_of_tokensOf_eq_cons h
    exact ⟨rest, by rw [brackets, Nat.add_zero], hrest⟩
  | succ commas ih =>
    obtain ⟨span, rest, rfl, hrest⟩ := exists_of_tokensOf_eq_cons h
    obtain ⟨last, hread, hlast⟩ := ih (rank + 1) hrest
    refine ⟨last, ?_, hlast⟩
    rw [brackets, hread, Nat.add_assoc, Nat.add_comm 1]

theorem postfixes_of_endsType {t : TypeRef} {ls : List Lexeme} (h : EndsType (tokensOf ls)) :
    postfixes t ls = .ok (t, ls) := by
  unfold postfixes
  split
  · exact h.elim
  · exact h.elim
  · exact h.elim
  · rfl

theorem postfixes_complete {t : TypeRef} {ss : List Suffix} {ls : List Lexeme} {more : List Token}
    (happly : Suffix.AllApply t ss) (hmore : EndsType more)
    (h : tokensOf ls = ss.flatMap Suffix.tokens ++ more) :
    ∃ rest, postfixes t ls = .ok (ss.foldl Suffix.apply t, rest) ∧ tokensOf rest = more := by
  induction ss generalizing t ls with
  | nil =>
    have hls : tokensOf ls = more := h
    exact ⟨ls, postfixes_of_endsType (hls ▸ hmore), hls⟩
  | cons s ss ih =>
    obtain ⟨happlies, happly⟩ := happly
    cases s with
    | question =>
      obtain ⟨span, rest, rfl, hrest⟩ := exists_of_tokensOf_eq_cons h
      obtain ⟨last, hread, hlast⟩ := ih happly hrest
      have hnull : t.isNullable = false := happlies
      exact ⟨last, by rw [postfixes, hnull]; exact hread, hlast⟩
    | star =>
      obtain ⟨span, rest, rfl, hrest⟩ := exists_of_tokensOf_eq_cons h
      obtain ⟨last, hread, hlast⟩ := ih happly hrest
      exact ⟨last, by rw [postfixes]; exact hread, hlast⟩
    | brackets commas =>
      simp only [List.flatMap_cons, Suffix.tokens, List.cons_append, List.append_assoc,
        List.nil_append] at h
      obtain ⟨span, rest, rfl, hrest⟩ := exists_of_tokensOf_eq_cons h
      obtain ⟨rest', hbrackets, hrest'⟩ := brackets_complete t 1 hrest
      obtain ⟨last, hread, hlast⟩ := ih happly hrest'
      exact ⟨last, by rw [postfixes, hbrackets]; exact hread, hlast⟩

/-! ## Names -/

theorem globalQualifier_sound (ls : List Lexeme) :
    tokensOf ls = (if (globalQualifier ls).1 then [.ident "global", .colons] else []) ++
      tokensOf (globalQualifier ls).2 := by
  unfold globalQualifier
  split <;> rfl

theorem globalQualifier_complete {ls : List Lexeme} {qualified : Bool} {first : String}
    {names : List String} {more : List Token} (hmore : more.head? ≠ some .colons)
    (h : tokensOf ls = nameTokens qualified first names ++ more) :
    ∃ rest, globalQualifier ls = (qualified, rest) ∧
      tokensOf rest = separated .dot first names ++ more := by
  cases qualified with
  | true =>
    obtain ⟨span, rest, rfl, hrest⟩ := exists_of_tokensOf_eq_cons h
    obtain ⟨span', rest', rfl, hrest'⟩ := exists_of_tokensOf_eq_cons hrest
    exact ⟨rest', rfl, hrest'⟩
  | false =>
    refine ⟨ls, ?_, h⟩
    unfold globalQualifier
    split
    · cases names with
      | nil =>
        simp only [nameTokens, separated, tokensOf_cons, List.flatMap_nil, Bool.false_eq_true,
          if_false, List.nil_append, List.cons_append, List.cons.injEq] at h
        exact absurd (congrArg List.head? h.2.symm) hmore
      | cons name names => simp [nameTokens, separated] at h
    · rfl

theorem ofName_nil (qualified : Bool) (first : String) (names : List String) :
    ofName qualified (first :: names) [] = (Primary.simple qualified first names).type := by
  cases qualified <;> cases names <;> simp [ofName, Primary.type]

theorem ofName_types (qualified : Bool) (first : String) (names : List String) (args : Trees) :
    ofName qualified (first :: names) args.types =
      (Primary.generic qualified first names args).type := by
  cases qualified <;> cases names <;> cases args <;> rfl

/-! ## What the readers accept is derived -/

mutual

theorem typeExpr_sound : ∀ {fuel : Nat} {ls rest : List Lexeme} {t : TypeRef},
    typeExpr fuel ls = .ok (t, rest) →
      ∃ d : Tree, d.Admissible ∧ d.type = t ∧ tokensOf ls = d.tokens ++ tokensOf rest
  | 0, _, _, _, h => by cases h
  | fuel + 1, ls, rest, t, h => by
    obtain ⟨⟨t₁, rest₁⟩, hprimary, hpostfixes⟩ := except_bind_eq_ok.mp h
    obtain ⟨p, hp, rfl, htokens⟩ := primary_sound hprimary
    obtain ⟨ss, happly, rfl, htokens₁⟩ := postfixes_sound hpostfixes
    exact ⟨.mk p ss, ⟨hp, happly⟩, rfl, by simp [htokens, htokens₁, Tree.tokens]⟩

theorem primary_sound : ∀ {fuel : Nat} {ls rest : List Lexeme} {t : TypeRef},
    primary fuel ls = .ok (t, rest) →
      ∃ p : Primary, p.Admissible ∧ p.type = t ∧ tokensOf ls = p.tokens ++ tokensOf rest
  | 0, ls, _, _, h => by cases ls <;> cases h
  | fuel + 1, ls, rest, t, h => by
    unfold primary at h
    split at h
    · contradiction
    · cases h
    · next fuel' _ _ hfuel =>
      cases hfuel
      obtain ⟨rest₁, hstar, h⟩ := except_bind_eq_ok.mp h
      obtain ⟨⟨text, rest₂⟩, hstyle, h⟩ := except_bind_eq_ok.mp h
      obtain ⟨rest₃, hless, h⟩ := except_bind_eq_ok.mp h
      obtain ⟨⟨parameters, rest₄⟩, hlist, h⟩ := except_bind_eq_ok.mp h
      obtain ⟨rest₅, hgreater, h⟩ := except_bind_eq_ok.mp h
      cases h
      obtain ⟨style, rfl, hstyleTokens⟩ := convention_sound hstyle
      obtain ⟨ts, hts, rfl, htypeTokens⟩ := typeList_sound hlist
      refine ⟨.functionPointer style ts, hts, rfl, ?_⟩
      simp [expect_sound hstar, hstyleTokens, expect_sound hless, htypeTokens,
        expect_sound hgreater, Primary.tokens]
    · next fuel' span _ hfuel =>
      cases hfuel
      obtain ⟨⟨elements, rest₁⟩, hlist, h⟩ := except_bind_eq_ok.mp h
      obtain ⟨rest₂, hclose, h⟩ := except_bind_eq_ok.mp h
      obtain ⟨es, hes, rfl, htokens⟩ := elementList_sound hlist
      cases es with
      | last t label => cases h
      | cons t label es =>
        cases es <;> cases h <;> exact ⟨.tuple t label _, hes, rfl, by
          simp [htokens, expect_sound hclose, Elements.tokens, Primary.tokens]⟩
    · next fuel' name span ls' hfuel =>
      cases hfuel
      have hglobal := globalQualifier_sound (⟨.ident name, span⟩ :: ls')
      dsimp only at h
      generalize hq : globalQualifier (⟨.ident name, span⟩ :: ls') = q at h hglobal
      obtain ⟨qualified, rest₀⟩ := q
      obtain ⟨⟨segments, rest₁⟩, hsegments, h⟩ := except_bind_eq_ok.mp h
      obtain ⟨first, names, rfl, hnames⟩ := identifiers_sound hsegments
      dsimp only at h hglobal
      split at h
      · next span' rest₂ =>
        obtain ⟨⟨args, rest₃⟩, hargs, h⟩ := except_bind_eq_ok.mp h
        obtain ⟨rest₄, hgreater, h⟩ := except_bind_eq_ok.mp h
        obtain ⟨ts, hts, rfl, htypeTokens⟩ := typeList_sound hargs
        dsimp only at h
        split at h
        · cases h
        · cases h
          refine ⟨.generic qualified first names ts, hts, (ofName_types ..).symm, ?_⟩
          simp [hglobal, hnames, htypeTokens, expect_sound hgreater, Primary.tokens, nameTokens]
      · cases h
        refine ⟨.simple qualified first names, trivial, (ofName_nil ..).symm, ?_⟩
        simp [hglobal, hnames, Primary.tokens, nameTokens]
    · cases h

theorem typeList_sound : ∀ {fuel : Nat} {ls rest : List Lexeme} {types : List TypeRef},
    typeList fuel ls = .ok (types, rest) →
      ∃ ts : Trees, ts.Admissible ∧ ts.types = types ∧ tokensOf ls = ts.tokens ++ tokensOf rest
  | 0, _, _, _, h => by cases h
  | fuel + 1, ls, rest, types, h => by
    obtain ⟨⟨t, rest₁⟩, hfirst, h⟩ := except_bind_eq_ok.mp h
    obtain ⟨d, hd, rfl, htokens⟩ := typeExpr_sound hfirst
    dsimp only at h
    split at h
    · next span rest₂ =>
      obtain ⟨⟨types', rest₃⟩, hmore, h⟩ := except_bind_eq_ok.mp h
      cases h
      obtain ⟨ts, hts, rfl, hmoreTokens⟩ := typeList_sound hmore
      exact ⟨.cons d ts, ⟨hd, hts⟩, rfl, by simp [htokens, hmoreTokens, Trees.tokens]⟩
    · cases h
      exact ⟨.last d, hd, rfl, htokens⟩

theorem elementList_sound : ∀ {fuel : Nat} {ls rest : List Lexeme}
    {elements : List (TypeRef × Option String)}, elementList fuel ls = .ok (elements, rest) →
      ∃ es : Elements, es.Admissible ∧ es.types = elements ∧
        tokensOf ls = es.tokens ++ tokensOf rest
  | 0, _, _, _, h => by cases h
  | fuel + 1, ls, rest, elements, h => by
    obtain ⟨⟨t, rest₁⟩, hfirst, h⟩ := except_bind_eq_ok.mp h
    obtain ⟨d, hd, rfl, htokens⟩ := typeExpr_sound hfirst
    rw [elementName_sound rest₁] at htokens
    dsimp only at h
    split at h
    · next span rest₂ hrest =>
      obtain ⟨⟨elements', rest₃⟩, hmore, h⟩ := except_bind_eq_ok.mp h
      cases h
      obtain ⟨es, hes, rfl, hmoreTokens⟩ := elementList_sound hmore
      exact ⟨.cons d _ es, ⟨hd, hes⟩, rfl, by
        simp [htokens, hmoreTokens, Elements.tokens, hrest]⟩
    · cases h
      exact ⟨.last d _, hd, rfl, by simp [htokens, Elements.tokens]⟩

end

/-! ## What is derived the readers accept -/

theorem length_lt_of_tokensOf {ls rest : List Lexeme} (front : List Token) {token : Token}
    {more : List Token} (h : tokensOf ls = front ++ token :: more) (hrest : tokensOf rest = more) :
    rest.length < ls.length := by
  have hlong := congrArg List.length h
  have hshort := congrArg List.length hrest
  simp only [length_tokensOf, List.length_cons, List.length_append] at hlong hshort
  omega

theorem nameTokens_eq_cons (qualified : Bool) (first : String) (names : List String) :
    ∃ name tail, nameTokens qualified first names = .ident name :: tail := by
  cases qualified
  · exact ⟨first, _, rfl⟩
  · exact ⟨"global", _, rfl⟩

mutual

theorem typeExpr_complete : ∀ (d : Tree) {fuel : Nat} {ls : List Lexeme} {more : List Token},
    d.Admissible → tokensOf ls = d.tokens ++ more → EndsType more → 3 * ls.length + 2 ≤ fuel →
      ∃ rest, typeExpr fuel ls = .ok (d.type, rest) ∧ tokensOf rest = more
  | _, 0, _, _, _, _, _, hfuel => by omega
  | .mk p ss, fuel + 1, ls, more, ⟨hp, happly⟩, h, hmore, hfuel => by
    simp only [Tree.tokens, List.append_assoc] at h
    have hbound : 3 * ls.length + 1 ≤ fuel := by omega
    obtain ⟨rest₁, hprimary, hrest₁⟩ := primary_complete p hp h (hmore.suffixes ss) hbound
    obtain ⟨rest₂, hpostfixes, hrest₂⟩ := postfixes_complete happly hmore hrest₁
    refine ⟨rest₂, ?_, hrest₂⟩
    rw [typeExpr, hprimary]
    exact hpostfixes

theorem primary_complete : ∀ (p : Primary) {fuel : Nat} {ls : List Lexeme} {more : List Token},
    p.Admissible → tokensOf ls = p.tokens ++ more → EndsName more → 3 * ls.length + 1 ≤ fuel →
      ∃ rest, primary fuel ls = .ok (p.type, rest) ∧ tokensOf rest = more
  | _, 0, _, _, _, _, _, hfuel => by omega
  | .functionPointer style ts, fuel + 1, ls, more, hts, h, _, hfuel => by
    simp only [Primary.tokens, List.cons_append, List.append_assoc, List.nil_append] at h
    obtain ⟨span, rest₁, rfl, hrest₁⟩ := exists_of_tokensOf_eq_cons h
    obtain ⟨rest₂, hstar, hrest₂⟩ := expect_complete hrest₁
    obtain ⟨rest₃, hstyle, hrest₃⟩ := convention_complete hrest₂
    obtain ⟨rest₄, hless, hrest₄⟩ := expect_complete hrest₃
    have hlength := length_lt_of_tokensOf (.star :: styleTokens style) hrest₁ hrest₄
    have hbound : 3 * rest₄.length + 3 ≤ fuel := by
      simp only [List.length_cons] at hfuel
      omega
    obtain ⟨rest₅, hlist, hrest₅⟩ := typeList_complete ts hts hrest₄ hbound
    obtain ⟨rest₆, hgreater, hrest₆⟩ := expect_complete hrest₅
    refine ⟨rest₆, ?_, hrest₆⟩
    simp only [primary, hstar, hstyle, hless, hlist, hgreater, bind, Except.bind]
    rfl
  | .tuple t label es, fuel + 1, ls, more, ⟨ht, hes⟩, h, _, hfuel => by
    simp only [Primary.tokens, List.cons_append, List.append_assoc, List.nil_append] at h
    obtain ⟨span, rest₁, rfl, hrest₁⟩ := exists_of_tokensOf_eq_cons h
    have hbound : 3 * rest₁.length + 3 ≤ fuel := by
      simp only [List.length_cons] at hfuel
      omega
    have helements : tokensOf rest₁ = (Elements.cons t label es).tokens ++ .closeParen :: more := by
      simpa [Elements.tokens] using hrest₁
    obtain ⟨rest₂, hlist, hrest₂⟩ :=
      elementList_complete (.cons t label es) ⟨ht, hes⟩ helements hbound
    obtain ⟨rest₃, hclose, hrest₃⟩ := expect_complete hrest₂
    refine ⟨rest₃, ?_, hrest₃⟩
    simp only [primary, hlist, hclose, bind, Except.bind]
    cases es <;> rfl
  | .simple qualified first names, fuel + 1, ls, more, _, h, hmore, hfuel => by
    obtain ⟨hdot, hless, hcolons⟩ := hmore.head?_ne
    obtain ⟨rest₁, hglobal, hrest₁⟩ := globalQualifier_complete hcolons h
    obtain ⟨rest₂, hnames, hrest₂⟩ := identifiers_complete hdot hrest₁
    obtain ⟨name, tail, hhead⟩ := nameTokens_eq_cons qualified first names
    rw [Primary.tokens, hhead] at h
    obtain ⟨span, ls', rfl, -⟩ := exists_of_tokensOf_eq_cons h
    refine ⟨rest₂, ?_, hrest₂⟩
    simp only [primary, hglobal, hnames, bind, Except.bind]
    split
    · exact absurd (congrArg List.head? hrest₂.symm) hless
    · rw [ofName_nil]
      rfl
  | .generic qualified first names ts, fuel + 1, ls, more, hts, h, hmore, hfuel => by
    simp only [Primary.tokens, List.cons_append, List.append_assoc, List.nil_append] at h
    obtain ⟨rest₁, hglobal, hrest₁⟩ := globalQualifier_complete (by simp) h
    obtain ⟨rest₂, hnames, hrest₂⟩ := identifiers_complete (by simp) hrest₁
    obtain ⟨span, rest₃, rfl, hrest₃⟩ := exists_of_tokensOf_eq_cons hrest₂
    have hlength := length_lt_of_tokensOf (nameTokens qualified first names) h hrest₃
    have hbound : 3 * rest₃.length + 3 ≤ fuel := by omega
    obtain ⟨rest₄, hlist, hrest₄⟩ := typeList_complete ts hts hrest₃ hbound
    obtain ⟨rest₅, hgreater, hrest₅⟩ := expect_complete hrest₄
    obtain ⟨name, tail, hhead⟩ := nameTokens_eq_cons qualified first names
    rw [hhead] at h
    obtain ⟨span', ls', rfl, -⟩ := exists_of_tokensOf_eq_cons h
    refine ⟨rest₅, ?_, hrest₅⟩
    simp only [primary, hglobal, hnames, hlist, hgreater, bind, Except.bind]
    split
    · exact absurd (congrArg List.head? hrest₅.symm) hmore.head?_ne.1
    · rw [ofName_types]
      rfl

theorem typeList_complete : ∀ (ts : Trees) {fuel : Nat} {ls : List Lexeme} {more : List Token},
    ts.Admissible → tokensOf ls = ts.tokens ++ .greater :: more → 3 * ls.length + 3 ≤ fuel →
      ∃ rest, typeList fuel ls = .ok (ts.types, rest) ∧ tokensOf rest = .greater :: more
  | _, 0, _, _, _, _, hfuel => by omega
  | .last t, fuel + 1, ls, more, ht, h, hfuel => by
    have hbound : 3 * ls.length + 2 ≤ fuel := by omega
    obtain ⟨rest₁, hfirst, hrest₁⟩ := typeExpr_complete t ht h trivial hbound
    obtain ⟨span, rest₂, rfl, hrest₂⟩ := exists_of_tokensOf_eq_cons hrest₁
    refine ⟨_, ?_, hrest₁⟩
    simp only [typeList, hfirst, bind, Except.bind]
    rfl
  | .cons t ts, fuel + 1, ls, more, ⟨ht, hts⟩, h, hfuel => by
    simp only [Trees.tokens, List.append_assoc, List.cons_append] at h
    have hbound : 3 * ls.length + 2 ≤ fuel := by omega
    obtain ⟨rest₁, hfirst, hrest₁⟩ := typeExpr_complete t ht h trivial hbound
    obtain ⟨span, rest₂, rfl, hrest₂⟩ := exists_of_tokensOf_eq_cons hrest₁
    have hlength := length_lt_of_tokensOf t.tokens h hrest₂
    have hbound' : 3 * rest₂.length + 3 ≤ fuel := by omega
    obtain ⟨rest₃, hmore, hrest₃⟩ := typeList_complete ts hts hrest₂ hbound'
    refine ⟨rest₃, ?_, hrest₃⟩
    simp only [typeList, hfirst, hmore, bind, Except.bind]
    rfl

theorem elementList_complete : ∀ (es : Elements) {fuel : Nat} {ls : List Lexeme}
    {more : List Token}, es.Admissible → tokensOf ls = es.tokens ++ .closeParen :: more →
      3 * ls.length + 3 ≤ fuel →
      ∃ rest, elementList fuel ls = .ok (es.types, rest) ∧ tokensOf rest = .closeParen :: more
  | _, 0, _, _, _, _, hfuel => by omega
  | .last t label, fuel + 1, ls, more, ht, h, hfuel => by
    simp only [Elements.tokens, List.append_assoc] at h
    have hbound : 3 * ls.length + 2 ≤ fuel := by omega
    obtain ⟨rest₁, hfirst, hrest₁⟩ :=
      typeExpr_complete t ht h (endsType_label trivial) hbound
    obtain ⟨rest₂, hlabel, hrest₂⟩ := elementName_complete (by simp) hrest₁
    obtain ⟨span, rest₃, rfl, hrest₃⟩ := exists_of_tokensOf_eq_cons hrest₂
    refine ⟨_, ?_, hrest₂⟩
    simp only [elementList, hfirst, hlabel, bind, Except.bind]
    rfl
  | .cons t label es, fuel + 1, ls, more, ⟨ht, hes⟩, h, hfuel => by
    simp only [Elements.tokens, List.append_assoc, List.cons_append] at h
    have hbound : 3 * ls.length + 2 ≤ fuel := by omega
    obtain ⟨rest₁, hfirst, hrest₁⟩ :=
      typeExpr_complete t ht h (endsType_label trivial) hbound
    obtain ⟨rest₂, hlabel, hrest₂⟩ := elementName_complete (by simp) hrest₁
    obtain ⟨span, rest₃, rfl, hrest₃⟩ := exists_of_tokensOf_eq_cons hrest₂
    rw [← List.append_assoc] at h
    have hlength := length_lt_of_tokensOf (t.tokens ++ labelTokens label) h hrest₃
    have hbound' : 3 * rest₃.length + 3 ≤ fuel := by omega
    obtain ⟨rest₄, hmore, hrest₄⟩ := elementList_complete es hes hrest₃ hbound'
    refine ⟨rest₄, ?_, hrest₄⟩
    simp only [elementList, hfirst, hlabel, hmore, bind, Except.bind]
    rfl

end

/-! ## Whole sources -/

theorem ofLexemes_eq_ok_iff {ls : List Lexeme} {t : TypeRef} :
    ofLexemes ls = .ok t ↔ Derives (tokensOf ls) t := by
  constructor
  · intro h
    unfold ofLexemes at h
    split at h
    · cases h
    · obtain ⟨⟨t', rest⟩, hread, hend⟩ := except_bind_eq_ok.mp h
      obtain ⟨d, hd, rfl, htokens⟩ := typeExpr_sound hread
      cases rest with
      | nil =>
        cases hend
        exact ⟨d, hd, by simpa using htokens.symm, rfl⟩
      | cons l rest => cases hend
  · rintro ⟨d, hd, htokens, rfl⟩
    have hls : tokensOf ls = d.tokens ++ [] := by rw [htokens, List.append_nil]
    have hbound : 3 * ls.length + 2 ≤ enough ls := by
      unfold enough
      omega
    obtain ⟨rest, hread, hrest⟩ := typeExpr_complete d hd hls trivial hbound
    cases ls with
    | nil => cases hread
    | cons l ls =>
      obtain rfl : rest = [] := List.map_eq_nil_iff.mp hrest
      simp [ofLexemes, hread, bind, Except.bind, pure, Except.pure]

theorem parse_eq_ok_iff {source : String} {t : TypeRef} :
    parse source = .ok t ↔ ∃ ls, lex source = .ok ls ∧ Derives (tokensOf ls) t := by
  simp only [parse, except_bind_eq_ok, ofLexemes_eq_ok_iff]

/-- A source spells a type exactly if its tokens have a derivation, which then builds that type. No
list of tokens has two derivations, and the type depends on nothing but the tokens. -/
theorem parse_eq_ok_iff_derives :
    (∀ source t, parse source = .ok t ↔
      ∃ ls, lex source = .ok ls ∧ Derives (tokensOf ls) t) ∧
    Function.Injective Tree.tokens ∧
    ∀ source source' t, (lex source).map tokensOf = (lex source').map tokensOf →
      (parse source = .ok t ↔ parse source' = .ok t) := by
  refine ⟨fun _ _ => parse_eq_ok_iff, Tree.tokens_injective, ?_⟩
  intro source source' t h
  rw [parse_eq_ok_iff, parse_eq_ok_iff]
  cases hlex : lex source <;> cases hlex' : lex source' <;>
    simp only [hlex, hlex', Except.map, Except.ok.injEq, reduceCtorEq] at h
  · simp
  · simp [h]

end Companion.TypeRef
