import Companion.Proofs.TypeRef.Lookahead
import Companion.Proofs.TypeRef.Parsing

/-!
# Where errors are

A list of tokens is viable if a type can start with it. A reader that comes to the end of the tokens
has taken the start of a derivation of its part of the grammar (`_viable`), which the bound on
nested calls does not cut short. Everything else about errors follows from what the readers look at:
an error at a token turns into a missing token where the list ends in front of it, so that what
comes before is viable, and it stays an error whatever follows, so that nothing with the token is.

The main result is `parse_errors_located`.
-/

namespace Companion.TypeRef

open Grammar

/-- A list of tokens spells a type. -/
def Accepted (tokens : List Token) : Prop := ∃ t, Derives tokens t

/-- A list of tokens with which a type can start. -/
def Viable (tokens : List Token) : Prop := ∃ word, tokens <+: word ∧ Accepted word

/-! ## Tokens that end too early -/

theorem expect_eq_unexpectedEnd {token : Token} {ls : List Lexeme} {expected : Expectation}
    (h : expect token ls = .error (.unexpectedEnd expected)) : ls = [] := by
  cases ls with
  | nil => rfl
  | cons l ls =>
    rw [expect] at h
    split at h <;> cases h

theorem identifiers_viable {separator : Token} {ls : List Lexeme} {expected : Expectation}
    (h : identifiers separator ls = .error (.unexpectedEnd expected)) :
    ∃ first names, tokensOf ls <+: separated separator first names := by
  fun_induction identifiers separator ls with
  | case1 => exact ⟨"T", [], List.nil_prefix⟩
  | case2 => cases h
  | case3 name span l ls hl ih =>
    rcases except_bind_eq_error.mp h with hfail | ⟨_, _, hret⟩
    · obtain ⟨first, names, hstart⟩ := ih hfail
      refine ⟨name, first :: names, ?_⟩
      rw [tokensOf_cons, tokensOf_cons, hl]
      exact List.cons_prefix_cons.mpr ⟨rfl, List.cons_prefix_cons.mpr ⟨rfl, hstart⟩⟩
    · cases hret
  | case4 => cases h
  | case5 => cases h

theorem convention_viable {ls : List Lexeme} {expected : Expectation}
    (h : convention ls = .error (.unexpectedEnd expected)) :
    ∃ style, tokensOf ls <+: styleTokens style := by
  unfold convention at h
  split at h
  · next name _ _ rest =>
    rcases except_bind_eq_error.mp h with hnames | ⟨⟨names, rest₁⟩, hnames, h⟩
    · obtain ⟨first, more, hstart⟩ := identifiers_viable hnames
      refine ⟨some (.listed name first more), ?_⟩
      simp only [tokensOf_cons, styleTokens, Style.tokens, List.cons_prefix_cons, true_and]
      exact hstart.trans (List.prefix_append _ _)
    · obtain ⟨first, more, rfl, htokens⟩ := identifiers_sound hnames
      rcases except_bind_eq_error.mp h with hclose | ⟨_, _, hret⟩
      · rw [expect_eq_unexpectedEnd hclose] at htokens
        refine ⟨some (.listed name first more), ?_⟩
        simp only [tokensOf_cons, styleTokens, Style.tokens, List.cons_prefix_cons, true_and,
          htokens, tokensOf_nil, List.append_nil]
        exact List.prefix_append _ _
      · cases hret
  · cases h
  · cases h

mutual

theorem postfixes_viable : ∀ {t : TypeRef} {ls : List Lexeme} {expected : Expectation},
    postfixes t ls = .error (.unexpectedEnd expected) →
      ∃ ss, Suffix.AllApply t ss ∧ tokensOf ls <+: ss.flatMap Suffix.tokens := by
  intro t ls expected h
  unfold postfixes at h
  split at h
  · split at h
    · cases h
    · next hnull =>
      obtain ⟨ss, happly, hstart⟩ := postfixes_viable h
      refine ⟨.question :: ss, ⟨by simpa [Suffix.Applies] using hnull, happly⟩, ?_⟩
      exact List.cons_prefix_cons.mpr ⟨rfl, hstart⟩
  · obtain ⟨ss, happly, hstart⟩ := postfixes_viable h
    exact ⟨.star :: ss, ⟨trivial, happly⟩, List.cons_prefix_cons.mpr ⟨rfl, hstart⟩⟩
  · obtain ⟨commas, ss, happly, hstart⟩ := brackets_viable h
    refine ⟨.brackets commas :: ss, ⟨trivial, happly⟩, ?_⟩
    simpa only [tokensOf_cons, List.flatMap_cons, Suffix.tokens, List.cons_append,
      List.append_assoc, List.nil_append, List.cons_prefix_cons, true_and] using hstart
  · cases h

theorem brackets_viable : ∀ {t : TypeRef} {rank : Nat} {ls : List Lexeme}
    {expected : Expectation}, brackets t rank ls = .error (.unexpectedEnd expected) →
      ∃ commas ss, Suffix.AllApply (array t (rank + commas)) ss ∧
        tokensOf ls <+:
          List.replicate commas .comma ++ .closeBracket :: ss.flatMap Suffix.tokens := by
  intro t rank ls expected h
  unfold brackets at h
  split at h
  · obtain ⟨commas, ss, happly, hstart⟩ := brackets_viable h
    rw [Nat.add_assoc, Nat.add_comm 1] at happly
    refine ⟨commas + 1, ss, happly, ?_⟩
    rw [List.replicate_succ, List.cons_append, tokensOf_cons]
    exact List.cons_prefix_cons.mpr ⟨rfl, hstart⟩
  · obtain ⟨ss, happly, hstart⟩ := postfixes_viable h
    exact ⟨0, ss, happly, List.cons_prefix_cons.mpr ⟨rfl, hstart⟩⟩
  · exact ⟨0, [], trivial, List.nil_prefix⟩
  · cases h

end

/-- The segments of a name as far as the tokens go, or all of them and what is left. -/
theorem nameSegments_sound {ls rest : List Lexeme} {name : Bool × List String}
    (h : nameSegments ls = .ok (name, rest)) :
    ∃ first names, name.2 = first :: names ∧
      tokensOf ls = nameTokens name.1 first names ++ tokensOf rest := by
  obtain ⟨⟨segments, rest₁⟩, hsegments, hret⟩ := except_bind_eq_ok.mp h
  cases hret
  obtain ⟨first, names, rfl, htokens⟩ := identifiers_sound hsegments
  refine ⟨first, names, rfl, ?_⟩
  rw [globalQualifier_sound ls, htokens, nameTokens, List.append_assoc]

theorem nameSegments_viable {ls : List Lexeme} {expected : Expectation}
    (h : nameSegments ls = .error (.unexpectedEnd expected)) :
    ∃ qualified first names, tokensOf ls <+: nameTokens qualified first names := by
  rcases except_bind_eq_error.mp h with hsegments | ⟨_, _, hret⟩
  · obtain ⟨first, names, hstart⟩ := identifiers_viable hsegments
    refine ⟨(globalQualifier ls).1, first, names, ?_⟩
    rw [globalQualifier_sound ls, nameTokens]
    exact (List.prefix_append_right_inj _).mpr hstart
  · cases hret

/-! ## Types that end too early -/

/-- A type to put where one is missing. -/
def placeholder : Tree := .mk (.simple false "T" []) []

theorem placeholder_admissible : placeholder.Admissible := ⟨trivial, trivial⟩

/-- Elements of a tuple, with a second one if there is none. -/
theorem exists_tuple {es : Elements} (h : es.Admissible) : ∃ p : Primary, p.Admissible ∧
    .openParen :: es.tokens <+: p.tokens := by
  cases es with
  | last t label =>
    refine ⟨.tuple t label (.last placeholder none), ⟨h, placeholder_admissible⟩, ?_⟩
    simp only [Elements.tokens, Primary.tokens, List.cons_prefix_cons, true_and]
    rw [← List.append_assoc]
    exact List.prefix_append _ _
  | cons t label es =>
    refine ⟨.tuple t label es, h, [.closeParen], ?_⟩
    simp only [Elements.tokens, Primary.tokens, List.cons_append, List.append_assoc]

theorem closeTuple_eq_unexpectedEnd {span : Span} {elements : List (TypeRef × Option String)}
    {ls : List Lexeme} {expected : Expectation}
    (h : closeTuple span elements ls = .error (.unexpectedEnd expected)) : ls = [] := by
  rcases except_bind_eq_error.mp h with hclose | ⟨_, _, hret⟩
  · exact expect_eq_unexpectedEnd hclose
  · split at hret <;> cases hret

theorem length_le_of_tokensOf {ls rest : List Lexeme} {front : List Token}
    (h : tokensOf ls = front ++ tokensOf rest) : rest.length ≤ ls.length := by
  have hlength := congrArg List.length h
  simp only [length_tokensOf, List.length_append] at hlength
  omega

/-- Lists of types that end too early, on fewer tokens than `size`, are starts of lists of types. -/
def TypesViable (fuel size : Nat) : Prop :=
  ∀ {ls : List Lexeme} {expected : Expectation}, ls.length < size →
    typeList fuel ls = .error (.unexpectedEnd expected) →
    ∃ ts : Trees, ts.Admissible ∧ tokensOf ls <+: ts.tokens

/-- A list of types up to its `>`, where what comes behind it does not end too early. -/
theorem angled_viable {α : Type} {fuel size : Nat} {ls : List Lexeme} {expected : Expectation}
    {k : List TypeRef → Reader α} (hlist : TypesViable fuel size) (hlength : ls.length < size)
    (hk : ∀ types rest expected, k types rest ≠ .error (.unexpectedEnd expected))
    (h : (typeList fuel ls >>= fun p => expect .greater p.2 >>= k p.1) =
      .error (.unexpectedEnd expected)) :
    ∃ ts : Trees, ts.Admissible ∧ tokensOf ls <+: ts.tokens ++ [.greater] := by
  rcases except_bind_eq_error.mp h with htypes | ⟨⟨types, rest⟩, htypes, h⟩
  · obtain ⟨ts, hts, hstart⟩ := hlist hlength htypes
    exact ⟨ts, hts, hstart.trans (List.prefix_append _ _)⟩
  · obtain ⟨ts, hts, rfl, htokens⟩ := typeList_sound htypes
    rcases except_bind_eq_error.mp h with hgreater | ⟨rest', -, hrest⟩
    · obtain rfl : rest = [] := expect_eq_unexpectedEnd hgreater
      rw [htokens, tokensOf_nil, List.append_nil]
      exact ⟨ts, hts, List.prefix_append _ _⟩
    · exact absurd hrest (hk _ _ _)

theorem pointerParts_viable {fuel : Nat} {ls : List Lexeme} {expected : Expectation}
    (hlist : TypesViable fuel ls.length)
    (h : pointerParts fuel ls = .error (.unexpectedEnd expected)) :
    ∃ p : Primary, p.Admissible ∧ .delegate :: tokensOf ls <+: p.tokens := by
  suffices hparts : ∃ style, ∃ ts : Trees, ts.Admissible ∧
      tokensOf ls <+: .star :: (styleTokens style ++ .less :: (ts.tokens ++ [.greater])) by
    obtain ⟨style, ts, hts, hstart⟩ := hparts
    exact ⟨.functionPointer style ts, hts, List.cons_prefix_cons.mpr ⟨rfl, hstart⟩⟩
  rcases except_bind_eq_error.mp h with hstar | ⟨rest₁, hstar, h⟩
  · rw [expect_eq_unexpectedEnd hstar]
    exact ⟨none, .last placeholder, placeholder_admissible, List.nil_prefix⟩
  have hstarTokens := expect_sound hstar
  rcases except_bind_eq_error.mp h with hstyle | ⟨⟨text, rest₂⟩, hstyle, h⟩
  · obtain ⟨style, hstart⟩ := convention_viable hstyle
    refine ⟨style, .last placeholder, placeholder_admissible, ?_⟩
    rw [hstarTokens]
    exact List.cons_prefix_cons.mpr ⟨rfl, hstart.trans (List.prefix_append _ _)⟩
  obtain ⟨style, rfl, hstyleTokens⟩ := convention_sound hstyle
  rw [hstyleTokens] at hstarTokens
  rcases except_bind_eq_error.mp h with hless | ⟨rest₃, hless, h⟩
  · obtain rfl : rest₂ = [] := expect_eq_unexpectedEnd hless
    refine ⟨style, .last placeholder, placeholder_admissible, ?_⟩
    rw [hstarTokens, tokensOf_nil, List.append_nil]
    exact List.cons_prefix_cons.mpr ⟨rfl, List.prefix_append _ _⟩
  rw [expect_sound hless] at hstarTokens
  have hlength := length_lt_of_tokensOf (.star :: styleTokens style) hstarTokens rfl
  have hreturn (types : List TypeRef) (rest : List Lexeme) (expected : Expectation) :
      (Except.ok (functionPointer (style.map Style.text) types, rest) :
        Except TypeError (TypeRef × List Lexeme)) ≠ .error (.unexpectedEnd expected) := by simp
  obtain ⟨ts, hts, hstart⟩ := angled_viable hlist hlength hreturn h
  refine ⟨style, ts, hts, ?_⟩
  rw [hstarTokens]
  refine List.cons_prefix_cons.mpr ⟨rfl, (List.prefix_append_right_inj _).mpr ?_⟩
  exact List.cons_prefix_cons.mpr ⟨rfl, hstart⟩

theorem typeArguments_viable {fuel : Nat} {name : Bool × List String} {ls : List Lexeme}
    {expected : Expectation} (hlist : TypesViable fuel ls.length)
    (h : typeArguments fuel name ls = .error (.unexpectedEnd expected)) :
    ∃ ts : Trees, ts.Admissible ∧ tokensOf ls <+: .less :: (ts.tokens ++ [.greater]) := by
  unfold typeArguments at h
  split at h
  · next span rest =>
    have hclose (args : List TypeRef) (rest : List Lexeme) (expected : Expectation) :
        closeGeneric name args rest ≠ .error (.unexpectedEnd expected) := by
      unfold closeGeneric
      split <;> simp
    obtain ⟨ts, hts, hstart⟩ := angled_viable hlist (Nat.lt_succ_self _) hclose h
    exact ⟨ts, hts, List.cons_prefix_cons.mpr ⟨rfl, hstart⟩⟩
  · cases h

mutual

/-- Where a type ends too early, the tokens are the start of a type. -/
theorem typeExpr_viable : ∀ {fuel : Nat} {ls : List Lexeme} {expected : Expectation},
    3 * ls.length + 2 ≤ fuel → typeExpr fuel ls = .error (.unexpectedEnd expected) →
      ∃ d : Tree, d.Admissible ∧ tokensOf ls <+: d.tokens
  | 0, _, _, hfuel, _ => by omega
  | fuel + 1, ls, expected, hfuel, h => by
    have hbound : 3 * ls.length + 1 ≤ fuel := by omega
    rcases except_bind_eq_error.mp h with hprimary | ⟨⟨t, rest⟩, hprimary, hpostfixes⟩
    · obtain ⟨p, hp, hstart⟩ := primary_viable hbound hprimary
      exact ⟨.mk p [], ⟨hp, trivial⟩, hstart.trans (List.prefix_append _ _)⟩
    · obtain ⟨p, hp, rfl, htokens⟩ := primary_sound hprimary
      obtain ⟨ss, happly, hstart⟩ := postfixes_viable hpostfixes
      refine ⟨.mk p ss, ⟨hp, happly⟩, ?_⟩
      rw [htokens, Tree.tokens]
      exact (List.prefix_append_right_inj _).mpr hstart

theorem primary_viable : ∀ {fuel : Nat} {ls : List Lexeme} {expected : Expectation},
    3 * ls.length + 1 ≤ fuel → primary fuel ls = .error (.unexpectedEnd expected) →
      ∃ p : Primary, p.Admissible ∧ tokensOf ls <+: p.tokens
  | 0, _, _, hfuel, _ => by omega
  | fuel + 1, [], _, _, _ => ⟨.simple false "T" [], trivial, List.nil_prefix⟩
  | fuel + 1, ⟨token, span⟩ :: rest, expected, hfuel, h => by
    have hbound : 3 * rest.length + 3 ≤ fuel := by
      simp only [List.length_cons] at hfuel
      omega
    have hlist (size : Nat) (hsize : size ≤ rest.length + 1) : TypesViable fuel size :=
      fun hlength htypes => typeList_viable (by omega) htypes
    cases token with
    | delegate =>
      rw [primary_delegate] at h
      exact pointerParts_viable (hlist _ (Nat.le_succ _)) h
    | openParen =>
      rw [primary_openParen] at h
      rcases except_bind_eq_error.mp h with hlist | ⟨⟨elements, rest₁⟩, hlist, h⟩
      · obtain ⟨es, hes, hstart⟩ := elementList_viable hbound hlist
        obtain ⟨p, hp, htuple⟩ := exists_tuple hes
        exact ⟨p, hp, (List.cons_prefix_cons.mpr ⟨rfl, hstart⟩).trans htuple⟩
      · obtain ⟨es, hes, rfl, htokens⟩ := elementList_sound hlist
        obtain ⟨p, hp, htuple⟩ := exists_tuple hes
        obtain rfl : rest₁ = [] := closeTuple_eq_unexpectedEnd h
        rw [tokensOf_nil, List.append_nil] at htokens
        rw [tokensOf_cons, htokens]
        exact ⟨p, hp, htuple⟩
    | ident name =>
      rw [primary_ident] at h
      rcases except_bind_eq_error.mp h with hname | ⟨⟨⟨qualified, segments⟩, rest₁⟩, hname, h⟩
      · obtain ⟨qualified, first, names, hstart⟩ := nameSegments_viable hname
        exact ⟨.simple qualified first names, trivial, hstart⟩
      · obtain ⟨first, names, rfl, htokens⟩ := nameSegments_sound hname
        have hlength := length_le_of_tokensOf htokens
        obtain ⟨ts, hts, hstart⟩ := typeArguments_viable (hlist _ hlength) h
        refine ⟨.generic qualified first names ts, hts, ?_⟩
        rw [htokens, Primary.tokens]
        exact (List.prefix_append_right_inj _).mpr hstart
    | _ => cases h

theorem typeList_viable : ∀ {fuel : Nat} {ls : List Lexeme} {expected : Expectation},
    3 * ls.length + 3 ≤ fuel → typeList fuel ls = .error (.unexpectedEnd expected) →
      ∃ ts : Trees, ts.Admissible ∧ tokensOf ls <+: ts.tokens
  | 0, _, _, hfuel, _ => by omega
  | fuel + 1, ls, expected, hfuel, h => by
    have hbound : 3 * ls.length + 2 ≤ fuel := by omega
    rw [typeList_succ] at h
    rcases except_bind_eq_error.mp h with hfirst | ⟨⟨t, rest⟩, hfirst, h⟩
    · obtain ⟨d, hd, hstart⟩ := typeExpr_viable hbound hfirst
      exact ⟨.last d, hd, hstart⟩
    · obtain ⟨d, hd, rfl, htokens⟩ := typeExpr_sound hfirst
      unfold moreTypes at h
      split at h
      · next span rest' heq =>
        obtain rfl : rest = ⟨.comma, span⟩ :: rest' := heq
        rw [tokensOf_cons] at htokens
        have hlength := length_lt_of_tokensOf d.tokens htokens rfl
        rcases except_bind_eq_error.mp h with hmore | ⟨_, _, hret⟩
        · obtain ⟨ts, hts, hstart⟩ := typeList_viable (by omega) hmore
          refine ⟨.cons d ts, ⟨hd, hts⟩, ?_⟩
          rw [htokens, Trees.tokens, List.prefix_append_right_inj]
          exact List.cons_prefix_cons.mpr ⟨rfl, hstart⟩
        · cases hret
      · cases h

theorem elementList_viable : ∀ {fuel : Nat} {ls : List Lexeme} {expected : Expectation},
    3 * ls.length + 3 ≤ fuel → elementList fuel ls = .error (.unexpectedEnd expected) →
      ∃ es : Elements, es.Admissible ∧ tokensOf ls <+: es.tokens
  | 0, _, _, hfuel, _ => by omega
  | fuel + 1, ls, expected, hfuel, h => by
    have hbound : 3 * ls.length + 2 ≤ fuel := by omega
    rw [elementList_succ] at h
    rcases except_bind_eq_error.mp h with hfirst | ⟨⟨t, rest⟩, hfirst, h⟩
    · obtain ⟨d, hd, hstart⟩ := typeExpr_viable hbound hfirst
      refine ⟨.last d none, hd, ?_⟩
      rw [Elements.tokens]
      exact hstart.trans (List.prefix_append _ _)
    · obtain ⟨d, hd, rfl, htokens⟩ := typeExpr_sound hfirst
      rw [elementName_sound rest, ← List.append_assoc] at htokens
      replace h : moreElements fuel d.type (elementName rest).1 (elementName rest).2 =
        .error (.unexpectedEnd expected) := h
      unfold moreElements at h
      split at h
      · next span rest' heq =>
        rw [heq, tokensOf_cons] at htokens
        have hlength := length_lt_of_tokensOf _ htokens rfl
        rcases except_bind_eq_error.mp h with hmore | ⟨_, _, hret⟩
        · obtain ⟨es, hes, hstart⟩ := elementList_viable (by omega) hmore
          refine ⟨.cons d (elementName rest).1 es, ⟨hd, hes⟩, ?_⟩
          rw [htokens, Elements.tokens, List.append_assoc, List.prefix_append_right_inj,
            List.prefix_append_right_inj]
          exact List.cons_prefix_cons.mpr ⟨rfl, hstart⟩
        · cases hret
      · cases h

end

/-! ## Errors of whole sources -/

theorem tokensOf_append (ls more : List Lexeme) :
    tokensOf (ls ++ more) = tokensOf ls ++ tokensOf more := List.map_append

theorem viable_of_typeExpr {fuel : Nat} {ls : List Lexeme} {expected : Expectation}
    (hfuel : 3 * ls.length + 2 ≤ fuel) (h : typeExpr fuel ls = .error (.unexpectedEnd expected)) :
    Viable (tokensOf ls) := by
  obtain ⟨d, hd, hstart⟩ := typeExpr_viable hfuel h
  exact ⟨d.tokens, hstart, d.type, d, hd, rfl, rfl⟩

theorem Accepted.viable {tokens : List Token} (h : Accepted tokens) : Viable tokens :=
  ⟨tokens, List.prefix_refl tokens, h⟩

theorem Viable.of_append {tokens more : List Token} (h : Viable (tokens ++ more)) :
    Viable tokens := by
  obtain ⟨word, hstart, hword⟩ := h
  exact ⟨word, (List.prefix_append tokens more).trans hstart, hword⟩

/-- Tokens are not viable if every list that starts with them is refused before its end. -/
theorem not_viable {fuel : Nat} {ls : List Lexeme}
    {result : List Lexeme → Except TypeError (TypeRef × List Lexeme)}
    (h : ∀ more, typeExpr fuel (ls ++ more) = result more)
    (htype : ∀ more t, result more ≠ .ok (t, []))
    (hend : ∀ more expected, result more ≠ .error (.unexpectedEnd expected)) :
    ¬Viable (tokensOf ls) := by
  rintro ⟨word, ⟨more, rfl⟩, t, d, hd, htokens, rfl⟩
  -- any spans will do for the tokens that are still missing
  let missing : List Lexeme := more.map fun token => ⟨token, default⟩
  have hls : tokensOf (ls ++ missing) = d.tokens ++ [] := by
    simp [tokensOf, missing, htokens, Function.comp_def]
  have hbound := Nat.le_max_right fuel (3 * (ls ++ missing).length + 2)
  obtain ⟨rest, hread, hrest⟩ := typeExpr_complete d hd hls trivial hbound
  obtain rfl : rest = [] := List.map_eq_nil_iff.mp hrest
  have hlooks := typeExpr_looksAt (Nat.le_max_left fuel (3 * (ls ++ missing).length + 2)) []
    (ls ++ missing)
  rw [hlooks.eq_of_ne (by simpa only [h] using hend missing), h] at hread
  exact htype missing d.type hread

theorem not_viable_token {fuel : Nat} {front : List Lexeme} {l : Lexeme}
    {result : List Lexeme → Except TypeError (TypeRef × List Lexeme)}
    (h : ∀ more, typeExpr fuel (front ++ l :: more) = result more)
    (htype : ∀ more t, result more ≠ .ok (t, []))
    (hend : ∀ more expected, result more ≠ .error (.unexpectedEnd expected)) :
    ¬Viable (tokensOf (front ++ [l])) := by
  have hread (more : List Lexeme) : typeExpr fuel (front ++ [l] ++ more) = result more := by
    rw [← List.append_cons, h]
  exact not_viable hread htype hend

theorem ofLexemes_eq_error {ls : List Lexeme} {e : TypeError} (hne : ls ≠ [])
    (h : ofLexemes ls = .error e) : typeExpr (enough ls) ls = .error e ∨
      ∃ t l rest, typeExpr (enough ls) ls = .ok (t, l :: rest) ∧
        e = .unexpectedToken l.span .endOfType l.token := by
  unfold ofLexemes at h
  rw [if_neg (by simpa using hne)] at h
  rcases except_bind_eq_error.mp h with hread | ⟨⟨t, rest⟩, hread, hend⟩
  · exact .inl hread
  · cases rest with
    | nil => cases hend
    | cons l rest =>
      cases hend
      exact .inr ⟨t, l, rest, hread, rfl⟩

theorem ofLexemes_eq_unexpectedEnd {ls : List Lexeme} {expected : Expectation} (hne : ls ≠ [])
    (h : ofLexemes ls = .error (.unexpectedEnd expected)) : Viable (tokensOf ls) := by
  rcases ofLexemes_eq_error hne h with hread | ⟨_, _, _, _, hend⟩
  · exact viable_of_typeExpr (Nat.le_succ _) hread
  · cases hend

theorem ofLexemes_eq_misuse {ls : List Lexeme} {span : Span} {what : Misuse} (hne : ls ≠ [])
    (h : ofLexemes ls = .error (.misuse span what)) :
    (∃ l ∈ ls, l.span = span) ∧ ¬Viable (tokensOf ls) := by
  rcases ofLexemes_eq_error hne h with hread | ⟨_, _, _, _, hend⟩
  · obtain ⟨-, hspan, hmore⟩ := (typeExpr_looksAt (Nat.le_refl _) [] ls).error hread
    exact ⟨by simpa using hspan, not_viable hmore (by simp) (by simp)⟩
  · cases hend

/-- An error at a token: a type can start with what is in front of it, but not with it as well. -/
theorem ofLexemes_eq_unexpectedToken {ls : List Lexeme} {span : Span} {expected : Expectation}
    {found : Token} (hne : ls ≠ [])
    (h : ofLexemes ls = .error (.unexpectedToken span expected found)) :
    ∃ front rest, ls = front ++ ⟨found, span⟩ :: rest ∧ Viable (tokensOf front) ∧
      ¬Viable (tokensOf (front ++ [⟨found, span⟩])) := by
  rcases ofLexemes_eq_error hne h with hread | ⟨t, l, rest, hread, hend⟩
  · obtain ⟨front, rest, hls, htoken, hfront⟩ :=
      (typeExpr_looksAt (Nat.le_refl _) [] ls).error hread
    have hbound : 3 * front.length + 2 ≤ enough ls := by
      simp only [enough, hls, List.length_append]
      omega
    exact ⟨front, rest, hls, viable_of_typeExpr hbound hfront,
      not_viable_token htoken (by simp) (by simp)⟩
  · obtain ⟨front, hls, hfront⟩ := (typeExpr_looksAt (Nat.le_refl _) [] ls).ok hread
    cases hend
    refine ⟨front, rest, hls, ?_, ?_⟩
    · have hall := hfront [] (startsAs_nil _)
      rw [List.append_nil] at hall
      obtain ⟨d, hd, rfl, htokens⟩ := typeExpr_sound hall
      rw [htokens, tokensOf_nil, List.append_nil]
      exact Accepted.viable ⟨d.type, d, hd, rfl, rfl⟩
    · have hstops (more : List Lexeme) := hfront (l :: more) (startsAs_cons l more rest)
      exact not_viable_token hstops (by simp) (by simp)

/-- Tokens are missing at the end exactly if there is no type and the tokens can start one. -/
theorem ofLexemes_eq_unexpectedEnd_iff {ls : List Lexeme} (hne : ls ≠ []) :
    (∃ expected, ofLexemes ls = .error (.unexpectedEnd expected)) ↔
      ¬Accepted (tokensOf ls) ∧ Viable (tokensOf ls) := by
  constructor
  · rintro ⟨expected, h⟩
    refine ⟨?_, ofLexemes_eq_unexpectedEnd hne h⟩
    rintro ⟨t, ht⟩
    rw [ofLexemes_eq_ok_iff.mpr ht] at h
    cases h
  · rintro ⟨hnot, hviable⟩
    cases h : ofLexemes ls with
    | ok t => exact absurd ⟨t, ofLexemes_eq_ok_iff.mp h⟩ hnot
    | error e =>
      cases e with
      | unexpectedEnd expected => exact ⟨expected, rfl⟩
      | unexpectedToken span expected found =>
        obtain ⟨front, rest, rfl, -, hstop⟩ := ofLexemes_eq_unexpectedToken hne h
        rw [List.append_cons, tokensOf_append] at hviable
        exact absurd hviable.of_append hstop
      | misuse span what => exact absurd hviable (ofLexemes_eq_misuse hne h).2
      | badCharacter | empty =>
        rcases ofLexemes_eq_error hne h with hread | ⟨_, _, _, _, hend⟩
        · exact ((typeExpr_looksAt (Nat.le_refl _) [] ls).error hread).elim
        · cases hend

/-- Of a source with at least one token: it spells a type exactly if its tokens derive one; it ends
too early exactly if its tokens do not, but are the start of longer ones that do; an error at a
token is at the first one with which no type can go on; and a refused type is refused at one of the
tokens. -/
theorem parse_errors_located {source : String} {ls : List Lexeme} (hlex : lex source = .ok ls)
    (hne : ls ≠ []) :
    ((∃ t, parse source = .ok t) ↔ Accepted (tokensOf ls)) ∧
    ((∃ expected, parse source = .error (.unexpectedEnd expected)) ↔
      ¬Accepted (tokensOf ls) ∧ ∃ word, Accepted word ∧ tokensOf ls <+: word ∧ tokensOf ls ≠ word) ∧
    (∀ span expected found, parse source = .error (.unexpectedToken span expected found) →
      ∃ i, ls[i]? = some ⟨found, span⟩ ∧ Viable ((tokensOf ls).take i) ∧
        ¬Viable ((tokensOf ls).take (i + 1))) ∧
    ∀ span what, parse source = .error (.misuse span what) → ∃ l ∈ ls, l.span = span := by
  have hparse : parse source = ofLexemes ls := by
    rw [parse, hlex]
    rfl
  rw [hparse]
  refine ⟨exists_congr fun t => ofLexemes_eq_ok_iff, ?_, fun span expected found h => ?_,
    fun span what h => (ofLexemes_eq_misuse hne h).1⟩
  · rw [ofLexemes_eq_unexpectedEnd_iff hne]
    refine and_congr_right fun hnot => exists_congr fun word => ?_
    constructor
    · rintro ⟨hstart, hword⟩
      exact ⟨hword, hstart, fun heq => hnot (heq ▸ hword)⟩
    · rintro ⟨hword, hstart, -⟩
      exact ⟨hstart, hword⟩
  · obtain ⟨front, rest, rfl, hviable, hstop⟩ := ofLexemes_eq_unexpectedToken hne h
    refine ⟨front.length, by simp, ?_, ?_⟩
    · rw [tokensOf_append, List.take_left' (length_tokensOf front)]
      exact hviable
    · rw [List.append_cons, tokensOf_append, List.take_left' (by simp)]
      exact hstop

theorem parse_errors_located_bracket : ∃ ls : List Lexeme,
    lex "Map<int, ]" = .ok ls ∧ ls ≠ [] ∧
    parse "Map<int, ]" = .error (.unexpectedToken ⟨9, 10⟩ .type .closeBracket) ∧
    (∃ i, ls[i]? = some ⟨.closeBracket, ⟨9, 10⟩⟩ ∧ Viable ((tokensOf ls).take i) ∧
      ¬Viable ((tokensOf ls).take (i + 1))) ∧ ¬Accepted (tokensOf ls) := by
  have hlex : lex "Map<int, ]" = .ok [⟨.ident "Map", ⟨0, 3⟩⟩, ⟨.less, ⟨3, 4⟩⟩,
      ⟨.ident "int", ⟨4, 7⟩⟩, ⟨.comma, ⟨7, 8⟩⟩, ⟨.closeBracket, ⟨9, 10⟩⟩] := by
    decide +kernel
  have hparse : parse "Map<int, ]" = .error (.unexpectedToken ⟨9, 10⟩ .type .closeBracket) := by
    rw [parse, hlex]
    rfl
  obtain ⟨hok, -, htoken, -⟩ := parse_errors_located hlex (by simp)
  refine ⟨_, hlex, by simp, hparse, htoken _ _ _ hparse, fun haccepted => ?_⟩
  obtain ⟨t, ht⟩ := hok.mpr haccepted
  rw [hparse] at ht
  cases ht

end Companion.TypeRef
