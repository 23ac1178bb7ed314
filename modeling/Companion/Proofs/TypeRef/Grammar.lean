import Companion.TypeRef.Basic
import Companion.TypeRef.Token

/-!
# The grammar of type expressions

A derivation is a tree, and the tokens of its leaves from left to right are what it derives:

* `type := primary suffix*`, where a suffix is `?`, `[` commas `]` or `*`;
* `primary := delegate * style? < types > | ( element , elements ) | name | name < types >`;
* `name := (global ::)? ident (. ident)*`;
* `style := ident | ident [ ident (, ident)* ]`;
* `types := type (, type)*` and `elements := element (, element)*` with `element := type ident?`.

`Tree.type` is the type that a derivation builds, and `Tree.Admissible` the one condition that is
not about tokens: `?` is never applied to a nullable type. The main result is that the grammar is
unambiguous (`Tree.tokens_injective`). Every part of the proof compares two derivations followed by
arbitrary tokens and says which tokens must not follow.
-/

namespace Companion.TypeRef.Grammar

open Text (commaSeparated)

/-! ## Derivations -/

/-- A postfix operator. -/
inductive Suffix where
  | question
  /-- Brackets with a number of commas between them. -/
  | brackets (commas : Nat)
  | star

/-- A calling convention: an identifier, possibly with identifiers in brackets behind it. -/
inductive Style where
  | word (name : String)
  | listed (name first : String) (rest : List String)

mutual

/-- A primary type with its postfix operators. -/
inductive Tree where
  | mk (primary : Primary) (suffixes : List Suffix)

/-- A function pointer, a tuple, a name, or a name with type arguments. -/
inductive Primary where
  | functionPointer (style : Option Style) (parameters : Trees)
  | tuple (first : Tree) (name : Option String) (rest : Elements)
  | simple (qualified : Bool) (first : String) (rest : List String)
  | generic (qualified : Bool) (first : String) (rest : List String) (args : Trees)

/-- Types with commas between them. -/
inductive Trees where
  | last (t : Tree)
  | cons (t : Tree) (ts : Trees)

/-- Tuple elements with commas between them. -/
inductive Elements where
  | last (t : Tree) (name : Option String)
  | cons (t : Tree) (name : Option String) (es : Elements)

end

/-! ## The tokens of a derivation -/

/-- Identifiers with a separator between them. -/
def separated (separator : Token) (first : String) (rest : List String) : List Token :=
  .ident first :: rest.flatMap fun name => [separator, .ident name]

/-- The identifiers of a name, possibly behind `global::`. -/
def nameTokens (qualified : Bool) (first : String) (rest : List String) : List Token :=
  (if qualified then [.ident "global", .colons] else []) ++ separated .dot first rest

def Suffix.tokens : Suffix → List Token
  | question => [.question]
  | brackets commas => .openBracket :: (List.replicate commas .comma ++ [.closeBracket])
  | star => [.star]

def Style.tokens : Style → List Token
  | word name => [.ident name]
  | listed name first rest =>
    .ident name :: .openBracket :: (separated .comma first rest ++ [.closeBracket])

/-- The tokens of an optional calling convention. -/
def styleTokens : Option Style → List Token
  | none => []
  | some style => style.tokens

/-- The tokens of an optional element name. -/
def labelTokens : Option String → List Token
  | none => []
  | some name => [.ident name]

mutual

def Tree.tokens : Tree → List Token
  | .mk primary suffixes => primary.tokens ++ suffixes.flatMap Suffix.tokens

def Primary.tokens : Primary → List Token
  | .functionPointer style parameters =>
    .delegate :: .star :: (styleTokens style ++ .less :: (parameters.tokens ++ [.greater]))
  | .tuple first name rest =>
    .openParen :: (first.tokens ++ (labelTokens name ++ .comma :: (rest.tokens ++ [.closeParen])))
  | .simple qualified first rest => nameTokens qualified first rest
  | .generic qualified first rest args =>
    nameTokens qualified first rest ++ .less :: (args.tokens ++ [.greater])

def Trees.tokens : Trees → List Token
  | .last t => t.tokens
  | .cons t ts => t.tokens ++ .comma :: ts.tokens

def Elements.tokens : Elements → List Token
  | .last t name => t.tokens ++ labelTokens name
  | .cons t name es => t.tokens ++ (labelTokens name ++ .comma :: es.tokens)

end

/-! ## The type of a derivation -/

def Suffix.apply (t : TypeRef) : Suffix → TypeRef
  | question => nullable t
  | brackets commas => array t (1 + commas)
  | star => pointer t

/-- The text of a calling convention, with one blank behind each comma. -/
def Style.text : Style → String
  | word name => name
  | listed name first rest => name ++ "[" ++ commaSeparated (first :: rest) ++ "]"

mutual

/-- The type that a derivation builds. -/
def Tree.type : Tree → TypeRef
  | .mk primary suffixes => suffixes.foldl Suffix.apply primary.type

/-- A keyword alone is a built-in type; behind `global::` it is a name like any other. -/
def Primary.type : Primary → TypeRef
  | .functionPointer style parameters => .functionPointer (style.map Style.text) parameters.types
  | .tuple first name rest => .tuple ((first.type, name) :: rest.types)
  | .simple qualified first rest =>
    if qualified = false ∧ rest = [] ∧ first ∈ predefinedKeywords then predefined first
    else named (".".intercalate (first :: rest)) []
  | .generic _ first rest args => named (".".intercalate (first :: rest)) args.types

def Trees.types : Trees → List TypeRef
  | .last t => [t.type]
  | .cons t ts => t.type :: ts.types

def Elements.types : Elements → List (TypeRef × Option String)
  | .last t name => [(t.type, name)]
  | .cons t name es => (t.type, name) :: es.types

end

/-! ## Admissible derivations -/

/-- Whether an operator may be applied to a type. -/
def Suffix.Applies (t : TypeRef) : Suffix → Prop
  | question => t.isNullable = false
  | brackets _ | star => True

/-- Whether operators may be applied to a type one after the other. -/
def Suffix.AllApply (t : TypeRef) : List Suffix → Prop
  | [] => True
  | s :: ss => s.Applies t ∧ AllApply (s.apply t) ss

mutual

/-- No `?` in the derivation is applied to a nullable type. -/
def Tree.Admissible : Tree → Prop
  | .mk primary suffixes => primary.Admissible ∧ Suffix.AllApply primary.type suffixes

def Primary.Admissible : Primary → Prop
  | .functionPointer _ parameters => parameters.Admissible
  | .tuple first _ rest => first.Admissible ∧ rest.Admissible
  | .simple .. => True
  | .generic _ _ _ args => args.Admissible

def Trees.Admissible : Trees → Prop
  | .last t => t.Admissible
  | .cons t ts => t.Admissible ∧ ts.Admissible

def Elements.Admissible : Elements → Prop
  | .last t _ => t.Admissible
  | .cons t _ es => t.Admissible ∧ es.Admissible

end

/-- A list of tokens spells a type. -/
def Derives (tokens : List Token) (t : TypeRef) : Prop :=
  ∃ d : Tree, d.Admissible ∧ d.tokens = tokens ∧ d.type = t

/-! ## What may follow -/

/-- Tokens that do not go on with a name. -/
def EndsName : List Token → Prop
  | .dot :: _ | .less :: _ | .colons :: _ => False
  | _ => True

/-- Tokens that go on neither with a name nor with postfix operators. -/
def EndsType : List Token → Prop
  | .dot :: _ | .less :: _ | .colons :: _ => False
  | .question :: _ | .openBracket :: _ | .star :: _ => False
  | _ => True

theorem EndsType.endsName {more : List Token} (h : EndsType more) : EndsName more := by
  unfold EndsType at h
  split at h <;> simp_all [EndsName]

/-! ## Parts without types in them -/

/-- The names between separators are determined by the tokens, if no separator follows them. -/
theorem separated_inj {separator : Token} {first first' : String} {rest rest' : List String}
    {more more' : List Token} (hmore : more.head? ≠ some separator)
    (hmore' : more'.head? ≠ some separator)
    (h : separated separator first rest ++ more = separated separator first' rest' ++ more') :
    first = first' ∧ rest = rest' ∧ more = more' := by
  induction rest generalizing first first' rest' with
  | nil =>
    cases rest' with
    | nil => simpa [separated] using h
    | cons name' names' =>
      simp only [separated, List.flatMap_nil, List.flatMap_cons, List.cons_append, List.nil_append,
        List.cons.injEq] at h
      rw [h.2] at hmore
      exact absurd rfl hmore
  | cons name names ih =>
    cases rest' with
    | nil =>
      simp only [separated, List.flatMap_nil, List.flatMap_cons, List.cons_append, List.nil_append,
        List.cons.injEq] at h
      rw [← h.2] at hmore'
      exact absurd rfl hmore'
    | cons name' names' =>
      simp only [separated, List.flatMap_cons, List.cons_append, List.nil_append, List.cons.injEq,
        Token.ident.injEq, true_and] at h
      obtain ⟨rfl, hname, htail⟩ := h
      have hnames : separated separator name names ++ more =
          separated separator name' names' ++ more' := by
        simp only [separated, hname, htail, List.cons_append]
      obtain ⟨rfl, rfl, hrest⟩ := ih hnames
      exact ⟨rfl, rfl, hrest⟩

/-- A name is determined by its tokens, if neither a dot nor colons follow it. -/
theorem nameTokens_inj {qualified qualified' : Bool} {first first' : String}
    {rest rest' : List String} {more more' : List Token}
    (hdot : more.head? ≠ some .dot) (hdot' : more'.head? ≠ some .dot)
    (hcolons : more.head? ≠ some .colons) (hcolons' : more'.head? ≠ some .colons)
    (h : nameTokens qualified first rest ++ more = nameTokens qualified' first' rest' ++ more') :
    qualified = qualified' ∧ first = first' ∧ rest = rest' ∧ more = more' := by
  -- behind the first identifier of an unqualified name stands a dot or the rest, never colons
  have behind (first : String) (rest : List String) (more : List Token) (tail : List Token)
      (hcolons : more.head? ≠ some .colons) :
      separated .dot first rest ++ more ≠ .ident "global" :: .colons :: tail := by
    intro heq
    cases rest with
    | nil =>
      simp only [separated, List.flatMap_nil, List.cons_append, List.nil_append,
        List.cons.injEq] at heq
      rw [heq.2] at hcolons
      exact hcolons rfl
    | cons name names => simp [separated] at heq
  cases qualified <;> cases qualified' <;> simp only [nameTokens, if_true, List.nil_append,
    Bool.false_eq_true, if_false, List.cons_append, List.cons.injEq, true_and] at h
  · exact ⟨rfl, separated_inj hdot hdot' h⟩
  · exact absurd h (behind first rest more _ hcolons)
  · exact absurd h.symm (behind first' rest' more' _ hcolons')
  · exact ⟨rfl, separated_inj hdot hdot' h⟩

theorem replicate_comma_inj {m n : Nat} {more more' : List Token}
    (h : List.replicate m .comma ++ .closeBracket :: more =
      List.replicate n .comma ++ .closeBracket :: more') : m = n ∧ more = more' := by
  induction m generalizing n with
  | zero => cases n <;> simp_all [List.replicate_succ]
  | succ m ih =>
    cases n with
    | zero => simp [List.replicate_succ] at h
    | succ n =>
      simp only [List.replicate_succ, List.cons_append, List.cons.injEq, true_and] at h
      obtain ⟨rfl, hmore⟩ := ih h
      exact ⟨rfl, hmore⟩

/-- Postfix operators are determined by their tokens, if no other follows them. -/
theorem suffixes_inj {ss ss' : List Suffix} {more more' : List Token} (hmore : EndsType more)
    (hmore' : EndsType more')
    (h : ss.flatMap Suffix.tokens ++ more = ss'.flatMap Suffix.tokens ++ more') :
    ss = ss' ∧ more = more' := by
  induction ss generalizing ss' with
  | nil =>
    cases ss' with
    | nil => exact ⟨rfl, h⟩
    | cons s ss' =>
      simp only [List.flatMap_nil, List.nil_append] at h
      rw [h] at hmore
      cases s <;> simp [EndsType, Suffix.tokens] at hmore
  | cons s ss ih =>
    cases ss' with
    | nil =>
      simp only [List.flatMap_nil, List.nil_append] at h
      rw [← h] at hmore'
      cases s <;> simp [EndsType, Suffix.tokens] at hmore'
    | cons s' ss' =>
      cases s <;> cases s' <;>
        simp only [List.flatMap_cons, Suffix.tokens, List.cons_append, List.nil_append,
          List.append_assoc, List.cons.injEq, true_and, reduceCtorEq, false_and] at h
      · obtain ⟨rfl, hrest⟩ := ih h
        exact ⟨rfl, hrest⟩
      · obtain ⟨rfl, htail⟩ := replicate_comma_inj h
        obtain ⟨rfl, hrest⟩ := ih htail
        exact ⟨rfl, hrest⟩
      · obtain ⟨rfl, hrest⟩ := ih h
        exact ⟨rfl, hrest⟩

/-- An optional calling convention is determined by the tokens up to the `<` behind it. -/
theorem styleTokens_inj {style style' : Option Style} {more more' : List Token}
    (h : styleTokens style ++ .less :: more = styleTokens style' ++ .less :: more') :
    style = style' ∧ more = more' := by
  rcases style with _ | ⟨name⟩ | ⟨name, first, rest⟩ <;>
    rcases style' with _ | ⟨name'⟩ | ⟨name', first', rest'⟩ <;>
    simp only [styleTokens, Style.tokens, List.nil_append, List.cons_append, List.append_assoc,
      List.cons.injEq, true_and, reduceCtorEq, false_and, and_false, Token.ident.injEq] at h
  · exact ⟨rfl, h⟩
  · obtain ⟨rfl, rfl⟩ := h
    exact ⟨rfl, rfl⟩
  · obtain ⟨rfl, htail⟩ := h
    obtain ⟨rfl, rfl, hrest⟩ := separated_inj (by simp) (by simp) htail
    simp only [List.cons.injEq, true_and] at hrest
    exact ⟨rfl, hrest⟩

/-- An optional name is determined by the tokens up to the token behind it. -/
theorem labelTokens_inj {label label' : Option String} {last last' : Token}
    {more more' : List Token} (hlast : ∀ name, last ≠ .ident name)
    (hlast' : ∀ name, last' ≠ .ident name)
    (h : labelTokens label ++ last :: more = labelTokens label' ++ last' :: more') :
    label = label' ∧ last = last' ∧ more = more' := by
  cases label <;> cases label' <;>
    simp only [labelTokens, List.nil_append, List.cons_append, List.cons.injEq,
      Token.ident.injEq] at h
  · exact ⟨rfl, h⟩
  · exact absurd h.1 (hlast _)
  · exact absurd h.1.symm (hlast' _)
  · exact ⟨by rw [h.1], h.2⟩

/-! ## The grammar is unambiguous -/

theorem EndsName.head?_ne {more : List Token} (h : EndsName more) :
    more.head? ≠ some .dot ∧ more.head? ≠ some .less ∧ more.head? ≠ some .colons := by
  unfold EndsName at h
  split at h
  · exact h.elim
  · exact h.elim
  · exact h.elim
  · next hdot hless hcolons =>
    cases more with
    | nil => simp
    | cons token more => cases token <;> simp_all

theorem EndsType.suffixes {more : List Token} (h : EndsType more) (ss : List Suffix) :
    EndsName (ss.flatMap Suffix.tokens ++ more) := by
  cases ss with
  | nil => exact h.endsName
  | cons s ss => cases s <;> trivial

theorem endsType_label {label : Option String} {token : Token} {more : List Token}
    (h : EndsType (token :: more)) : EndsType (labelTokens label ++ token :: more) := by
  cases label with
  | none => exact h
  | some name => trivial

mutual

/-- A derivation is determined by its tokens, if what follows does not go on with the type. -/
theorem Tree.tokens_append_inj : ∀ (d d' : Tree) {more more' : List Token},
    d.tokens ++ more = d'.tokens ++ more' → EndsType more → EndsType more' →
      d = d' ∧ more = more'
  | .mk p ss, .mk p' ss', more, more', h, hmore, hmore' => by
    simp only [Tree.tokens, List.append_assoc] at h
    obtain ⟨rfl, hss⟩ := p.tokens_append_inj p' h (hmore.suffixes ss) (hmore'.suffixes ss')
    obtain ⟨rfl, hrest⟩ := suffixes_inj hmore hmore' hss
    exact ⟨rfl, hrest⟩

theorem Primary.tokens_append_inj : ∀ (p p' : Primary) {more more' : List Token},
    p.tokens ++ more = p'.tokens ++ more' → EndsName more → EndsName more' →
      p = p' ∧ more = more'
  | .functionPointer style ts, .functionPointer style' ts', more, more', h, _, _ => by
    simp only [Primary.tokens, List.cons_append, List.append_assoc, List.nil_append,
      List.cons.injEq, true_and] at h
    obtain ⟨rfl, hts⟩ := styleTokens_inj h
    obtain ⟨rfl, hrest⟩ := ts.tokens_append_inj ts' hts
    exact ⟨rfl, hrest⟩
  | .tuple t label es, .tuple t' label' es', more, more', h, _, _ => by
    simp only [Primary.tokens, List.cons_append, List.append_assoc, List.nil_append,
      List.cons.injEq, true_and] at h
    obtain ⟨rfl, hlabel⟩ :=
      t.tokens_append_inj t' h (endsType_label trivial) (endsType_label trivial)
    obtain ⟨rfl, -, hes⟩ := labelTokens_inj (by simp) (by simp) hlabel
    obtain ⟨rfl, hrest⟩ := es.tokens_append_inj es' hes
    exact ⟨rfl, hrest⟩
  | .simple q first rest, .simple q' first' rest', more, more', h, hmore, hmore' => by
    obtain ⟨hdot, -, hcolons⟩ := hmore.head?_ne
    obtain ⟨hdot', -, hcolons'⟩ := hmore'.head?_ne
    obtain ⟨rfl, rfl, rfl, hrest⟩ := nameTokens_inj hdot hdot' hcolons hcolons' h
    exact ⟨rfl, hrest⟩
  | .generic q first rest ts, .generic q' first' rest' ts', more, more', h, _, _ => by
    simp only [Primary.tokens, List.cons_append, List.append_assoc, List.nil_append] at h
    obtain ⟨rfl, rfl, rfl, hts⟩ :=
      nameTokens_inj (by simp) (by simp) (by simp) (by simp) h
    simp only [List.cons.injEq, true_and] at hts
    obtain ⟨rfl, hrest⟩ := ts.tokens_append_inj ts' hts
    exact ⟨rfl, hrest⟩
  | .simple q first rest, .generic q' first' rest' ts', more, more', h, hmore, _ => by
    obtain ⟨hdot, hless, hcolons⟩ := hmore.head?_ne
    simp only [Primary.tokens, List.cons_append, List.append_assoc] at h
    obtain ⟨-, -, -, hrest⟩ := nameTokens_inj hdot (by simp) hcolons (by simp) h
    rw [hrest] at hless
    exact absurd rfl hless
  | .generic q first rest ts, .simple q' first' rest', more, more', h, _, hmore' => by
    obtain ⟨hdot, hless, hcolons⟩ := hmore'.head?_ne
    simp only [Primary.tokens, List.cons_append, List.append_assoc] at h
    obtain ⟨-, -, -, hrest⟩ := nameTokens_inj (by simp) hdot (by simp) hcolons h
    rw [← hrest] at hless
    exact absurd rfl hless
  | .functionPointer .., .tuple .., _, _, h, _, _
  | .tuple .., .functionPointer .., _, _, h, _, _ => by simp [Primary.tokens] at h
  | .functionPointer .., .simple .., _, _, h, _, _
  | .functionPointer .., .generic .., _, _, h, _, _
  | .tuple .., .simple .., _, _, h, _, _
  | .tuple .., .generic .., _, _, h, _, _ => by
    simp only [Primary.tokens, nameTokens, separated] at h
    split at h <;> simp at h
  | .simple .., .functionPointer .., _, _, h, _, _
  | .generic .., .functionPointer .., _, _, h, _, _
  | .simple .., .tuple .., _, _, h, _, _
  | .generic .., .tuple .., _, _, h, _, _ => by
    simp only [Primary.tokens, nameTokens, separated] at h
    split at h <;> simp at h

theorem Trees.tokens_append_inj : ∀ (ts ts' : Trees) {more more' : List Token},
    ts.tokens ++ .greater :: more = ts'.tokens ++ .greater :: more' → ts = ts' ∧ more = more'
  | .last t, .last t', more, more', h => by
    obtain ⟨rfl, hrest⟩ := t.tokens_append_inj t' h trivial trivial
    exact ⟨rfl, (List.cons.inj hrest).2⟩
  | .cons t ts, .cons t' ts', more, more', h => by
    simp only [Trees.tokens, List.append_assoc, List.cons_append] at h
    obtain ⟨rfl, htail⟩ := t.tokens_append_inj t' h trivial trivial
    obtain ⟨rfl, hrest⟩ := ts.tokens_append_inj ts' (List.cons.inj htail).2
    exact ⟨rfl, hrest⟩
  | .last t, .cons t' ts', more, more', h | .cons t ts', .last t', more, more', h => by
    simp only [Trees.tokens, List.append_assoc, List.cons_append] at h
    obtain ⟨-, htail⟩ := t.tokens_append_inj t' h trivial trivial
    simp at htail

theorem Elements.tokens_append_inj : ∀ (es es' : Elements) {more more' : List Token},
    es.tokens ++ .closeParen :: more = es'.tokens ++ .closeParen :: more' →
      es = es' ∧ more = more'
  | .last t label, .last t' label', more, more', h => by
    simp only [Elements.tokens, List.append_assoc] at h
    obtain ⟨rfl, hlabel⟩ :=
      t.tokens_append_inj t' h (endsType_label trivial) (endsType_label trivial)
    obtain ⟨rfl, -, hrest⟩ := labelTokens_inj (by simp) (by simp) hlabel
    exact ⟨rfl, hrest⟩
  | .cons t label es, .cons t' label' es', more, more', h => by
    simp only [Elements.tokens, List.append_assoc, List.cons_append] at h
    obtain ⟨rfl, hlabel⟩ :=
      t.tokens_append_inj t' h (endsType_label trivial) (endsType_label trivial)
    obtain ⟨rfl, -, hes⟩ := labelTokens_inj (by simp) (by simp) hlabel
    obtain ⟨rfl, hrest⟩ := es.tokens_append_inj es' hes
    exact ⟨rfl, hrest⟩
  | .last t label, .cons t' label' es', more, more', h
  | .cons t label es, .last t' label', more, more', h => by
    simp only [Elements.tokens, List.append_assoc, List.cons_append] at h
    obtain ⟨-, hlabel⟩ :=
      t.tokens_append_inj t' h (endsType_label trivial) (endsType_label trivial)
    obtain ⟨-, hlast, -⟩ := labelTokens_inj (by simp) (by simp) hlabel
    simp at hlast

end

/-- A list of tokens has at most one derivation. -/
theorem Tree.tokens_injective : Function.Injective Tree.tokens := fun d d' h =>
  (d.tokens_append_inj d' (congrArg (· ++ []) h) trivial trivial).1

end Companion.TypeRef.Grammar
