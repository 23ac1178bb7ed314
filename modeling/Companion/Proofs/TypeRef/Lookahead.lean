import Companion.Proofs.Basic
import Companion.TypeRef.Parser

/-!
# What the readers look at

No reader looks at a token behind the one at which it stops. If it succeeds, it may have looked at
the first of the tokens that it leaves, and does the same where that token or nothing follows. If it
fails at a token, it fails in the same way whatever follows that token, and where the tokens end in
front of it the same thing is missing. If it refuses a type, more tokens do not help.

`LooksAt` says this of one list of tokens and of two readers, the second of which has at least the
bound of the first: only a failure at the end of the tokens may depend on the bound. It is kept by
the ways in which readers are put together (`LooksAt.bind`, `LooksAt.cons`, `LooksAt.expect`), and
the main result is `typeExpr_looksAt`.
-/

namespace Companion.TypeRef

open Text (commaSeparated)

/-- A list that is empty or starts with the same token as another. -/
def StartsAs (rest' rest : List Lexeme) : Prop := ∀ l ∈ rest'.head?, l ∈ rest.head?

theorem startsAs_nil (rest : List Lexeme) : StartsAs [] rest := by
  intro l hl
  cases hl

theorem startsAs_cons (l : Lexeme) (rest' rest : List Lexeme) :
    StartsAs (l :: rest') (l :: rest) := fun _ hl => hl

theorem StartsAs.eq_nil {rest' : List Lexeme} (h : StartsAs rest' []) : rest' = [] := by
  cases rest' with
  | nil => rfl
  | cons l rest' => cases h l rfl

theorem StartsAs.nil_or_cons {l : Lexeme} {rest' rest : List Lexeme}
    (h : StartsAs rest' (l :: rest)) : rest' = [] ∨ ∃ more, rest' = l :: more := by
  cases rest' with
  | nil => exact .inl rfl
  | cons l' more =>
    obtain rfl : l = l' := Option.some.inj (h l' rfl)
    exact .inr ⟨more, rfl⟩

theorem StartsAs.append_left {rest' rest : List Lexeme} (front : List Lexeme)
    (h : StartsAs rest' rest) : StartsAs (front ++ rest') (front ++ rest) := by
  cases front with
  | nil => exact h
  | cons l front => exact startsAs_cons l _ _

theorem startsAs_append (front rest : List Lexeme) : StartsAs front (front ++ rest) := by
  cases front with
  | nil => exact startsAs_nil rest
  | cons l front => exact startsAs_cons l _ _

theorem append_startsAs {front : List Lexeme} (hne : front ≠ []) (rest : List Lexeme) :
    StartsAs (front ++ rest) front := by
  cases front with
  | nil => exact absurd rfl hne
  | cons l front => exact startsAs_cons l _ _

/-- A reader takes tokens off the front of a list. -/
abbrev Reader (α : Type) : Type := List Lexeme → Except TypeError (α × List Lexeme)

variable {α β : Type}

/-- How a reader fails on all lists that go the same way as `ls` up to the point of an error. -/
def FailsAlike (before : List Span) (r' : Reader α) (ls : List Lexeme) : TypeError → Prop
  | .unexpectedToken span expected found =>
    ∃ front rest, ls = front ++ ⟨found, span⟩ :: rest ∧
      (∀ rest', r' (front ++ ⟨found, span⟩ :: rest') =
        .error (.unexpectedToken span expected found)) ∧
      r' front = .error (.unexpectedEnd expected)
  | .misuse span what =>
    ls ≠ [] ∧ (span ∈ before ∨ ∃ l ∈ ls, l.span = span) ∧
      ∀ more, r' (ls ++ more) = .error (.misuse span what)
  | .unexpectedEnd _ => True
  | .badCharacter .. | .empty => False

/-- What `r` does on `ls`, behind tokens with the spans `before`, `r'` does on all lists that go the
same way up to the last token that `r` looks at. -/
structure LooksAt (before : List Span) (r r' : Reader α) (ls : List Lexeme) : Prop where
  ok : ∀ {x : α} {rest : List Lexeme}, r ls = .ok (x, rest) →
    ∃ front, ls = front ++ rest ∧
      ∀ rest', StartsAs rest' rest → r' (front ++ rest') = .ok (x, rest')
  error : ∀ {e : TypeError}, r ls = .error e → FailsAlike before r' ls e

/-- A failure is carried over to a reader that comes to the same tokens behind others. -/
theorem FailsAlike.append {before before' : List Span} {k' : Reader α} {r' : Reader β}
    {front rest : List Lexeme} {e : TypeError} (h : FailsAlike before' k' rest e)
    (hbefore : ∀ span ∈ before', span ∈ before ∨ ∃ l ∈ front, l.span = span)
    (hr : ∀ rest' e, StartsAs rest' rest → k' rest' = .error e → r' (front ++ rest') = .error e) :
    FailsAlike before r' (front ++ rest) e := by
  cases e with
  | unexpectedToken span expected found =>
    obtain ⟨front₁, rest₁, rfl, htoken, hend⟩ := h
    refine ⟨front ++ front₁, rest₁, (List.append_assoc ..).symm, fun rest' => ?_, ?_⟩
    · rw [List.append_assoc]
      exact hr _ _ (.append_left front₁ (startsAs_cons _ _ _)) (htoken rest')
    · exact hr _ _ (startsAs_append front₁ _) hend
  | misuse span what =>
    obtain ⟨hne, hspan, hmore⟩ := h
    refine ⟨List.append_ne_nil_of_right_ne_nil _ hne, ?_, fun more => ?_⟩
    · rcases hspan with hspan | ⟨l, hl, rfl⟩
      · refine (hbefore span hspan).imp_right ?_
        rintro ⟨l, hl, rfl⟩
        exact ⟨l, List.mem_append_left _ hl, rfl⟩
      · exact .inr ⟨l, List.mem_append_right _ hl, rfl⟩
    · rw [List.append_assoc]
      exact hr _ _ (append_startsAs hne more) (hmore more)
  | unexpectedEnd expected => trivial
  | badCharacter span c => exact h
  | empty => exact h

namespace LooksAt

variable {before : List Span} {r r' : Reader α} {ls : List Lexeme}

/-- A reader that returns without taking a token. -/
theorem stay {x : α} (h : r ls = .ok (x, ls))
    (h' : ∀ rest', StartsAs rest' ls → r' rest' = .ok (x, rest')) : LooksAt before r r' ls where
  ok hok := by
    rw [h] at hok
    cases hok
    exact ⟨[], rfl, h'⟩
  error herror := by
    rw [h] at herror
    cases herror

theorem stay_nil {x : α} (h : r [] = .ok (x, [])) (h' : r' [] = .ok (x, [])) :
    LooksAt before r r' [] := by
  refine stay h fun rest' hrest' => ?_
  rw [hrest'.eq_nil]
  exact h'

theorem stay_cons {x : α} {l : Lexeme} {rest : List Lexeme}
    (h : r (l :: rest) = .ok (x, l :: rest)) (h' : ∀ rest', r' (l :: rest') = .ok (x, l :: rest'))
    (hnil : r' [] = .ok (x, [])) : LooksAt before r r' (l :: rest) := by
  refine stay h fun rest' hrest' => ?_
  obtain rfl | ⟨more, rfl⟩ := hrest'.nil_or_cons
  · exact hnil
  · exact h' more

theorem pure (x : α) (ls : List Lexeme) :
    LooksAt before (fun ls => .ok (x, ls)) (fun ls => .ok (x, ls)) ls :=
  stay rfl fun _ _ => rfl

/-- A reader that finds nothing to read. -/
theorem atEnd {expected : Expectation} (h : r ls = .error (.unexpectedEnd expected)) :
    LooksAt before r r' ls where
  ok hok := by
    rw [h] at hok
    cases hok
  error herror := by
    rw [h] at herror
    cases herror
    trivial

/-- A reader that does not accept the first token. -/
theorem refuse {l : Lexeme} {rest : List Lexeme} (expected : Expectation)
    (h : r (l :: rest) = .error (.unexpectedToken l.span expected l.token))
    (h' : ∀ rest', r' (l :: rest') = .error (.unexpectedToken l.span expected l.token))
    (hnil : r' [] = .error (.unexpectedEnd expected)) : LooksAt before r r' (l :: rest) where
  ok hok := by
    rw [h] at hok
    cases hok
  error herror := by
    rw [h] at herror
    cases herror
    exact ⟨[], rest, rfl, h', hnil⟩

/-- A reader that refuses a type when it sees the first token. -/
theorem reject {l : Lexeme} {rest : List Lexeme} (span : Span) (what : Misuse)
    (h : ∀ rest, r (l :: rest) = .error (.misuse span what))
    (h' : ∀ rest, r' (l :: rest) = .error (.misuse span what))
    (hspan : span ∈ before ∨ l.span = span) : LooksAt before r r' (l :: rest) where
  ok hok := by
    rw [h] at hok
    cases hok
  error herror := by
    rw [h] at herror
    cases herror
    refine ⟨List.cons_ne_nil _ _, ?_, fun more => h' (rest ++ more)⟩
    exact hspan.imp_right fun heq => ⟨l, List.mem_cons_self, heq⟩

/-- A reader that takes the first token and goes on. -/
theorem cons {l : Lexeme} {k k' : Reader α} {rest : List Lexeme}
    (hk : LooksAt (l.span :: before) k k' rest) (h : r (l :: rest) = k rest)
    (h' : ∀ rest', r' (l :: rest') = k' rest') : LooksAt before r r' (l :: rest) where
  ok hok := by
    rw [h] at hok
    obtain ⟨front, rfl, hfront⟩ := hk.ok hok
    refine ⟨l :: front, rfl, fun rest' hrest' => ?_⟩
    rw [List.cons_append, h']
    exact hfront rest' hrest'
  error herror := by
    rw [h] at herror
    show FailsAlike before r' ([l] ++ rest) _
    refine (hk.error herror).append ?_ fun rest' e _ hk' => (h' rest').trans hk'
    intro span hspan
    rcases List.mem_cons.mp hspan with rfl | hspan
    · exact .inr ⟨l, List.mem_cons_self, rfl⟩
    · exact .inl hspan

/-- A reader seen from behind the first token. -/
theorem behind {l : Lexeme} {rest : List Lexeme}
    (h : LooksAt (l.span :: before) (fun rest => r (l :: rest)) (fun rest => r' (l :: rest)) rest) :
    LooksAt before r r' (l :: rest) :=
  cons h rfl fun _ => rfl

/-- A reader that goes on where another has stopped. -/
theorem bind {k k' : α → Reader β} (hr : LooksAt before r r' ls)
    (hk : ∀ x rest, LooksAt before (k x) (k' x) rest) :
    LooksAt before (fun ls => r ls >>= fun p => k p.1 p.2) (fun ls => r' ls >>= fun p => k' p.1 p.2)
      ls where
  ok {y rest} hok := by
    obtain ⟨⟨x, rest₁⟩, hx, hy⟩ := except_bind_eq_ok.mp hok
    obtain ⟨front, rfl, hfront⟩ := hr.ok hx
    obtain ⟨front₁, rfl, hfront₁⟩ := (hk x rest₁).ok hy
    refine ⟨front ++ front₁, (List.append_assoc ..).symm, fun rest' hrest' => ?_⟩
    refine except_bind_eq_ok.mpr ⟨(x, front₁ ++ rest'), ?_, hfront₁ rest' hrest'⟩
    rw [List.append_assoc]
    exact hfront _ (hrest'.append_left front₁)
  error {e} herror := by
    rcases except_bind_eq_error.mp herror with hx | ⟨⟨x, rest₁⟩, hx, hy⟩
    · show FailsAlike before _ ([] ++ ls) e
      refine (hr.error hx).append (fun _ hspan => .inl hspan) ?_
      exact fun rest' e _ hr' => except_bind_eq_error.mpr (.inl hr')
    · obtain ⟨front, rfl, hfront⟩ := hr.ok hx
      refine ((hk x rest₁).error hy).append (fun _ hspan => .inl hspan) ?_
      exact fun rest' e hstarts hk' =>
        except_bind_eq_error.mpr (.inr ⟨(x, rest'), hfront rest' hstarts, hk'⟩)

/-- A reader that requires a token and goes on behind it. -/
theorem expect (token : Token) {k k' : Reader α} (hk : ∀ before rest, LooksAt before k k' rest)
    (ls : List Lexeme) :
    LooksAt before (fun ls => TypeRef.expect token ls >>= k)
      (fun ls => TypeRef.expect token ls >>= k') ls := by
  cases ls with
  | nil => exact atEnd rfl
  | cons l rest =>
    by_cases hl : l.token = token
    · refine cons (hk _ rest) ?_ fun rest' => ?_
      · simp [TypeRef.expect, hl, Bind.bind, Except.bind]
      · simp [TypeRef.expect, hl, Bind.bind, Except.bind]
    · refine refuse (.token token) ?_ (fun rest' => ?_) rfl
      · simp [TypeRef.expect, hl, Bind.bind, Except.bind]
      · simp [TypeRef.expect, hl, Bind.bind, Except.bind]

/-- On the same tokens the second reader does the same, unless the first came to their end. -/
theorem eq_of_ne (h : LooksAt before r r' ls)
    (hend : ∀ expected, r ls ≠ .error (.unexpectedEnd expected)) : r' ls = r ls := by
  cases hr : r ls with
  | ok p =>
    obtain ⟨front, rfl, hfront⟩ := h.ok hr
    exact hfront p.2 fun _ hl => hl
  | error e =>
    have hfails := h.error hr
    cases e with
    | unexpectedToken span expected found =>
      obtain ⟨front, rest, rfl, htoken, -⟩ := hfails
      exact htoken rest
    | misuse span what =>
      obtain ⟨-, -, hmore⟩ := hfails
      simpa using hmore []
    | unexpectedEnd expected => exact absurd hr (hend expected)
    | badCharacter span c => exact hfails.elim
    | empty => exact hfails.elim

end LooksAt

/-! ## Readers of names and operators -/

theorem identifiers_looksAt (separator : Token) : ∀ (before : List Span) (ls : List Lexeme),
    LooksAt before (identifiers separator) (identifiers separator) ls
  | _, [] => .atEnd rfl
  | before, ⟨token, span⟩ :: rest => by
    cases token with
    | ident name =>
      refine .behind ?_
      cases rest with
      | nil =>
        exact .stay_nil rfl rfl
      | cons l rest =>
        by_cases hl : l.token = separator
        · have hmore := (identifiers_looksAt separator (l.span :: span :: before) rest).bind
            fun names rest => .pure (name :: names) rest
          refine .cons hmore ?_ fun rest' => ?_
          · simp only [identifiers, if_pos hl]
            rfl
          · simp only [identifiers, if_pos hl]
            rfl
        · have hstop (rest : List Lexeme) :
              identifiers separator (⟨.ident name, span⟩ :: l :: rest) =
                .ok ([name], l :: rest) := by
            simp only [identifiers, if_neg hl]
          exact .stay_cons (hstop rest) hstop rfl
    | _ => exact .refuse .identifier rfl (fun _ => rfl) rfl

theorem convention_looksAt (before : List Span) (ls : List Lexeme) :
    LooksAt before convention convention ls := by
  cases ls with
  | nil =>
    exact .stay_nil rfl rfl
  | cons l rest =>
    obtain ⟨token, span⟩ := l
    cases token with
    | ident name =>
      refine .behind ?_
      cases rest with
      | nil =>
        exact .stay_nil rfl rfl
      | cons l rest =>
        obtain ⟨token', span'⟩ := l
        cases token' with
        | openBracket =>
          have hlist := (identifiers_looksAt .comma (span' :: span :: before) rest).bind
            fun names rest => .expect .closeBracket (fun _ rest =>
              .pure (some (name ++ "[" ++ commaSeparated names ++ "]")) rest) rest
          exact .cons hlist rfl fun _ => rfl
        | _ =>
          exact .stay_cons rfl (fun _ => rfl) rfl
    | _ =>
      exact .stay_cons rfl (fun _ => rfl) rfl

mutual

theorem postfixes_looksAt : ∀ (t : TypeRef) (before : List Span) (ls : List Lexeme),
    LooksAt before (postfixes t) (postfixes t) ls
  | t, _, [] => by
    exact .stay_nil rfl rfl
  | t, before, ⟨token, span⟩ :: rest => by
    cases token with
    | question =>
      by_cases hnull : t.isNullable = true
      · refine .reject span .nullableTwice (fun rest => ?_) (fun rest => ?_) (.inr rfl)
        · rw [postfixes, if_pos hnull]
        · rw [postfixes, if_pos hnull]
      · refine .cons (postfixes_looksAt (nullable t) _ rest) ?_ fun rest' => ?_
        · rw [postfixes, if_neg hnull]
        · rw [postfixes, if_neg hnull]
    | star =>
      exact .cons (postfixes_looksAt (pointer t) _ rest) (by rw [postfixes])
        fun _ => by rw [postfixes]
    | openBracket =>
      exact .cons (brackets_looksAt t 1 _ rest) (by rw [postfixes]) fun _ => by rw [postfixes]
    | _ =>
      exact .stay_cons rfl (fun _ => rfl) rfl

theorem brackets_looksAt : ∀ (t : TypeRef) (rank : Nat) (before : List Span) (ls : List Lexeme),
    LooksAt before (brackets t rank) (brackets t rank) ls
  | _, _, _, [] => .atEnd (by rw [brackets])
  | t, rank, before, ⟨token, span⟩ :: rest => by
    cases token with
    | comma =>
      exact .cons (brackets_looksAt t (rank + 1) _ rest) (by rw [brackets])
        fun _ => by rw [brackets]
    | closeBracket =>
      exact .cons (postfixes_looksAt (array t rank) _ rest) (by rw [brackets])
        fun _ => by rw [brackets]
    | _ => exact .refuse (.token .closeBracket) rfl (fun _ => rfl) rfl

end

theorem elementName_looksAt (before : List Span) (ls : List Lexeme) :
    LooksAt before (fun ls => .ok (elementName ls)) (fun ls => .ok (elementName ls)) ls := by
  cases ls with
  | nil => exact .stay_nil rfl rfl
  | cons l rest =>
    obtain ⟨token, span⟩ := l
    cases token with
    | ident name => exact .cons (.pure (some name) rest) rfl fun _ => rfl
    | _ => exact .stay_cons rfl (fun _ => rfl) rfl

/-- The segments of a name and whether `global::` stands before them. -/
def nameSegments : Reader (Bool × List String) := fun ls =>
  identifiers .dot (globalQualifier ls).2 >>= fun p => .ok (((globalQualifier ls).1, p.1), p.2)

theorem nameSegments_of_plain {name : String} {rest : List Lexeme}
    (h : name = "global" → ∀ l ∈ rest.head?, l.token ≠ .colons) (span : Span) :
    nameSegments (⟨.ident name, span⟩ :: rest) =
      identifiers .dot (⟨.ident name, span⟩ :: rest) >>= fun p => .ok ((false, p.1), p.2) := by
  have hplain : globalQualifier (⟨.ident name, span⟩ :: rest) =
      (false, ⟨.ident name, span⟩ :: rest) := by
    unfold globalQualifier
    split
    · next heq =>
      cases heq
      exact absurd rfl (h rfl _ rfl)
    · rfl
  rw [nameSegments, hplain]

-- `global` is known for a qualifier only by the token behind it, so the qualifier and the segments
-- are one reader here: the qualifier alone looks too far.
theorem nameSegments_looksAt (name : String) (span : Span) (before : List Span)
    (rest : List Lexeme) :
    LooksAt before (fun rest => nameSegments (⟨.ident name, span⟩ :: rest))
      (fun rest => nameSegments (⟨.ident name, span⟩ :: rest)) rest := by
  have hnil : nameSegments [⟨.ident name, span⟩] = .ok ((false, [name]), []) := by
    rw [nameSegments_of_plain (fun _ _ hl => by cases hl)]
    rfl
  cases rest with
  | nil => exact .stay_nil hnil hnil
  | cons l rest =>
    obtain ⟨token, span'⟩ := l
    have hplain (h : name = "global" → token ≠ .colons) (rest : List Lexeme) :
        nameSegments (⟨.ident name, span⟩ :: ⟨token, span'⟩ :: rest) =
          identifiers .dot (⟨.ident name, span⟩ :: ⟨token, span'⟩ :: rest) >>= fun p =>
            .ok ((false, p.1), p.2) := by
      refine nameSegments_of_plain (fun hname l hl => ?_) span
      obtain rfl : _ = l := Option.some.inj hl
      exact h hname
    have hmore (qualified : Bool) (names : List String) :=
      (identifiers_looksAt .dot (span' :: before) rest).bind fun more rest =>
        .pure (qualified, names ++ more) rest
    cases token with
    | colons =>
      by_cases hname : name = "global"
      · subst hname
        exact .cons (hmore true []) rfl fun _ => rfl
      · have hstop := hplain fun hglobal => absurd hglobal hname
        exact .stay_cons (hstop rest) hstop hnil
    | dot =>
      have hgo (rest : List Lexeme) :
          nameSegments (⟨.ident name, span⟩ :: ⟨.dot, span'⟩ :: rest) =
            identifiers .dot rest >>= fun p => .ok ((false, [name] ++ p.1), p.2) := by
        rw [hplain fun _ => by simp]
        simp only [identifiers, if_true]
        cases identifiers .dot rest <;> rfl
      exact .cons (hmore false [name]) (hgo rest) hgo
    | _ =>
      have hstop := hplain fun _ => by simp
      exact .stay_cons (hstop rest) hstop hnil

/-! ## Readers of types -/

/-- The types behind the first of a list. -/
def moreTypes (fuel : Nat) (t : TypeRef) : Reader (List TypeRef)
  | ⟨.comma, _⟩ :: rest => typeList fuel rest >>= fun p => .ok (t :: p.1, p.2)
  | rest => .ok ([t], rest)

/-- The tuple elements behind the first of a list. -/
def moreElements (fuel : Nat) (t : TypeRef) (label : Option String) :
    Reader (List (TypeRef × Option String))
  | ⟨.comma, _⟩ :: rest => elementList fuel rest >>= fun p => .ok ((t, label) :: p.1, p.2)
  | rest => .ok ([(t, label)], rest)

/-- The optional name of a tuple element and the elements behind it. -/
def elementEnd (fuel : Nat) (t : TypeRef) : Reader (List (TypeRef × Option String)) := fun ls =>
  (Except.ok (elementName ls) : Except TypeError _) >>= fun p => moreElements fuel t p.1 p.2

/-- The end of a tuple, whose parenthesis opened at `span`. -/
def closeTuple (span : Span) (elements : List (TypeRef × Option String)) : Reader TypeRef :=
  fun ls => expect .closeParen ls >>= fun rest =>
    if 2 ≤ elements.length then .ok (tuple elements, rest) else .error (.misuse span .shortTuple)

/-- The end of a name with type arguments. -/
def closeGeneric (name : Bool × List String) (args : List TypeRef) : Reader TypeRef
  | ⟨.dot, span⟩ :: _ => .error (.misuse span .memberOfGeneric)
  | rest => .ok (ofName name.1 name.2 args, rest)

/-- The optional type arguments of a name. -/
def typeArguments (fuel : Nat) (name : Bool × List String) : Reader TypeRef
  | ⟨.less, _⟩ :: rest =>
    typeList fuel rest >>= fun p => expect .greater p.2 >>= closeGeneric name p.1
  | rest => .ok (ofName name.1 name.2 [], rest)

/-- A function pointer behind `delegate`. -/
def pointerParts (fuel : Nat) : Reader TypeRef := fun ls =>
  expect .star ls >>= fun rest => convention rest >>= fun p =>
    expect .less p.2 >>= fun rest => typeList fuel rest >>= fun q =>
      expect .greater q.2 >>= fun rest => .ok (functionPointer p.1 q.1, rest)

theorem typeExpr_succ (fuel : Nat) :
    typeExpr (fuel + 1) = fun ls => primary fuel ls >>= fun p => postfixes p.1 p.2 := rfl

theorem typeList_succ (fuel : Nat) :
    typeList (fuel + 1) = fun ls => typeExpr fuel ls >>= fun p => moreTypes fuel p.1 p.2 := by
  funext ls
  rw [typeList]
  congr
  funext p
  obtain ⟨t, rest⟩ := p
  match rest with
  | [] => rfl
  | ⟨token, _⟩ :: _ => cases token <;> rfl

theorem elementList_succ (fuel : Nat) :
    elementList (fuel + 1) = fun ls => typeExpr fuel ls >>= fun p => elementEnd fuel p.1 p.2 := by
  funext ls
  rw [elementList]
  congr
  funext p
  obtain ⟨t, rest⟩ := p
  show _ = moreElements fuel t (elementName rest).1 (elementName rest).2
  dsimp only
  generalize (elementName rest).2 = rest'
  match rest' with
  | [] => rfl
  | ⟨token, _⟩ :: _ => cases token <;> rfl

theorem primary_delegate (fuel : Nat) (span : Span) (rest : List Lexeme) :
    primary (fuel + 1) (⟨.delegate, span⟩ :: rest) = pointerParts fuel rest := rfl

theorem primary_openParen (fuel : Nat) (span : Span) (rest : List Lexeme) :
    primary (fuel + 1) (⟨.openParen, span⟩ :: rest) =
      elementList fuel rest >>= fun p => closeTuple span p.1 p.2 := by
  rw [primary]
  congr
  funext p
  obtain ⟨elements, rest⟩ := p
  show (expect .closeParen rest >>= _) = expect .closeParen rest >>= _
  congr
  funext rest
  match elements with
  | [] | [_] | _ :: _ :: _ => rfl

theorem primary_ident (fuel : Nat) (name : String) (span : Span) (rest : List Lexeme) :
    primary (fuel + 1) (⟨.ident name, span⟩ :: rest) =
      nameSegments (⟨.ident name, span⟩ :: rest) >>= fun p => typeArguments fuel p.1 p.2 := by
  rw [primary, nameSegments]
  dsimp only
  cases identifiers .dot (globalQualifier (⟨.ident name, span⟩ :: rest)).2 with
  | error e => rfl
  | ok p =>
    obtain ⟨segments, rest⟩ := p
    match rest with
    | [] => rfl
    | ⟨token, _⟩ :: rest =>
      cases token with
      | less =>
        show (typeList fuel rest >>= _) = typeList fuel rest >>= _
        congr
        funext p
        obtain ⟨args, rest⟩ := p
        show (expect .greater rest >>= _) = expect .greater rest >>= _
        congr
        funext rest
        match rest with
        | [] => rfl
        | ⟨token, _⟩ :: _ => cases token <;> rfl
      | _ => rfl

theorem closeTuple_looksAt {before : List Span} {span : Span} (hspan : span ∈ before)
    (elements : List (TypeRef × Option String)) (ls : List Lexeme) :
    LooksAt before (closeTuple span elements) (closeTuple span elements) ls := by
  by_cases hlength : 2 ≤ elements.length
  · have hclose : closeTuple span elements = fun ls =>
        expect .closeParen ls >>= fun rest => .ok (tuple elements, rest) := by
      funext ls
      simp only [closeTuple, if_pos hlength]
    rw [hclose]
    exact .expect .closeParen (fun _ rest => .pure (tuple elements) rest) ls
  · have hclose : closeTuple span elements = fun ls =>
        expect .closeParen ls >>= fun _ => .error (.misuse span .shortTuple) := by
      funext ls
      simp only [closeTuple, if_neg hlength]
    rw [hclose]
    cases ls with
    | nil => exact .atEnd rfl
    | cons l rest =>
      obtain ⟨token, span'⟩ := l
      cases token with
      | closeParen => exact .reject span .shortTuple (fun _ => rfl) (fun _ => rfl) (.inl hspan)
      | _ => exact .refuse (.token .closeParen) rfl (fun _ => rfl) rfl

theorem closeGeneric_looksAt (name : Bool × List String) (args : List TypeRef)
    (before : List Span) (ls : List Lexeme) :
    LooksAt before (closeGeneric name args) (closeGeneric name args) ls := by
  cases ls with
  | nil => exact .stay_nil rfl rfl
  | cons l rest =>
    obtain ⟨token, span⟩ := l
    cases token with
    | dot => exact .reject span .memberOfGeneric (fun _ => rfl) (fun _ => rfl) (.inr rfl)
    | _ => exact .stay_cons rfl (fun _ => rfl) rfl

theorem typeArguments_looksAt {fuel fuel' : Nat}
    (hlist : ∀ before ls, LooksAt before (typeList fuel) (typeList fuel') ls)
    (before : List Span) (name : Bool × List String) (ls : List Lexeme) :
    LooksAt before (typeArguments fuel name) (typeArguments fuel' name) ls := by
  cases ls with
  | nil => exact .stay_nil rfl rfl
  | cons l rest =>
    obtain ⟨token, span⟩ := l
    cases token with
    | less =>
      have hargs := (hlist (span :: before) rest).bind fun args rest =>
        .expect .greater (closeGeneric_looksAt name args) rest
      exact .cons hargs rfl fun _ => rfl
    | _ => exact .stay_cons rfl (fun _ => rfl) rfl

mutual

/-- A type is read without a look behind the token at which it ends or at which the error is, and
with a higher bound it is read in the same way. -/
theorem typeExpr_looksAt : ∀ {fuel fuel' : Nat} (_ : fuel ≤ fuel') (before : List Span)
    (ls : List Lexeme), LooksAt before (typeExpr fuel) (typeExpr fuel') ls
  | 0, _, _, _, _ => .atEnd rfl
  | fuel + 1, 0, hfuel, _, _ => absurd hfuel (Nat.not_succ_le_zero fuel)
  | fuel + 1, fuel' + 1, hfuel, before, ls => by
    have hfuel : fuel ≤ fuel' := Nat.le_of_succ_le_succ hfuel
    rw [typeExpr_succ, typeExpr_succ]
    exact (primary_looksAt hfuel before ls).bind fun t rest => postfixes_looksAt t before rest

theorem primary_looksAt : ∀ {fuel fuel' : Nat} (_ : fuel ≤ fuel') (before : List Span)
    (ls : List Lexeme), LooksAt before (primary fuel) (primary fuel') ls
  | 0, _, _, _, ls => by cases ls <;> exact .atEnd rfl
  | fuel + 1, 0, hfuel, _, _ => absurd hfuel (Nat.not_succ_le_zero fuel)
  | fuel + 1, fuel' + 1, hfuel, before, [] => .atEnd rfl
  | fuel + 1, fuel' + 1, hfuel, before, ⟨token, span⟩ :: rest => by
    have hfuel : fuel ≤ fuel' := Nat.le_of_succ_le_succ hfuel
    cases token with
    | delegate =>
      have hparameters (style : Option String) (before : List Span) (rest : List Lexeme) :=
        (typeList_looksAt hfuel before rest).bind fun ts rest =>
          .expect .greater (fun _ rest => .pure (functionPointer style ts) rest) rest
      have hstyle (before : List Span) (rest : List Lexeme) :=
        (convention_looksAt before rest).bind fun style rest =>
          .expect .less (hparameters style) rest
      exact .cons (.expect .star hstyle rest) rfl fun _ => rfl
    | openParen =>
      have hspan : span ∈ span :: before := List.mem_cons_self
      have htuple :=
        (elementList_looksAt hfuel (span :: before) rest).bind (closeTuple_looksAt hspan)
      exact .cons htuple (primary_openParen ..) fun _ => primary_openParen ..
    | ident name =>
      have hname := (nameSegments_looksAt name span (span :: before) rest).bind
        (typeArguments_looksAt (typeList_looksAt hfuel) (span :: before))
      exact .cons hname (primary_ident ..) fun _ => primary_ident ..
    | _ => exact .refuse .type rfl (fun _ => rfl) rfl

theorem typeList_looksAt : ∀ {fuel fuel' : Nat} (_ : fuel ≤ fuel') (before : List Span)
    (ls : List Lexeme), LooksAt before (typeList fuel) (typeList fuel') ls
  | 0, _, _, _, _ => .atEnd rfl
  | fuel + 1, 0, hfuel, _, _ => absurd hfuel (Nat.not_succ_le_zero fuel)
  | fuel + 1, fuel' + 1, hfuel, before, ls => by
    have hfuel : fuel ≤ fuel' := Nat.le_of_succ_le_succ hfuel
    rw [typeList_succ, typeList_succ]
    refine (typeExpr_looksAt hfuel before ls).bind fun t rest => ?_
    cases rest with
    | nil => exact .stay_nil rfl rfl
    | cons l rest =>
      obtain ⟨token, span⟩ := l
      cases token with
      | comma =>
        have hmore := (typeList_looksAt hfuel (span :: before) rest).bind
          fun ts rest => .pure (t :: ts) rest
        exact .cons hmore rfl fun _ => rfl
      | _ => exact .stay_cons rfl (fun _ => rfl) rfl

theorem elementList_looksAt : ∀ {fuel fuel' : Nat} (_ : fuel ≤ fuel') (before : List Span)
    (ls : List Lexeme), LooksAt before (elementList fuel) (elementList fuel') ls
  | 0, _, _, _, _ => .atEnd rfl
  | fuel + 1, 0, hfuel, _, _ => absurd hfuel (Nat.not_succ_le_zero fuel)
  | fuel + 1, fuel' + 1, hfuel, before, ls => by
    have hfuel : fuel ≤ fuel' := Nat.le_of_succ_le_succ hfuel
    rw [elementList_succ, elementList_succ]
    refine (typeExpr_looksAt hfuel before ls).bind fun t rest => ?_
    refine (elementName_looksAt before rest).bind fun label rest => ?_
    cases rest with
    | nil => exact .stay_nil rfl rfl
    | cons l rest =>
      obtain ⟨token, span⟩ := l
      cases token with
      | comma =>
        have hmore := (elementList_looksAt hfuel (span :: before) rest).bind
          fun es rest => .pure ((t, label) :: es) rest
        exact .cons hmore rfl fun _ => rfl
      | _ => exact .stay_cons rfl (fun _ => rfl) rfl

end

end Companion.TypeRef
