import Mathlib.Data.List.Forall2
import Mathlib.Data.List.Nodup
import Mathlib.Data.List.Perm.Basic
import Companion.Marker.Arguments
import Companion.Proofs.Text.Lines
import Companion.Proofs.Text.Search

/-!
# How arguments bind

An argument list gives values to some of the parameters: to the first of them by position, then to
others by name and in any order. `Spelled` is that relation, with every way to write a literal and
with the blanks that may stand around tokens, names and values.

A token of such a list has a name exactly if it gives its value by name, and then the name belongs
to one parameter only. So the token that fills a parameter is the one that was written for it
(`Spelled.position?_of_given`), and no token fills a parameter without a value
(`Spelled.position?_of_not_given`). The main result is `parse_of_spelled`.
-/

namespace Companion.Argument

open Text (isBlank trim TrimmedBy)

/-! ## Values and how they are written -/

inductive Value where
  | text (s : String)
  | flag (b : Bool)

/-- The characters that are taken off the value of a named token. -/
def isPadding (c : Char) : Bool := c = ' ' || c = '"' || c = '\t'

/-- Letters that are each written in lower or upper case. -/
def AnyCase (cs word : List Char) : Prop :=
  List.Forall₂ (fun c d => d = c ∨ d = c.toUpper) cs word

/-- The letters of a truth value. -/
def letters : Bool → List Char
  | true => ['t', 'r', 'u', 'e']
  | false => ['f', 'a', 'l', 's', 'e']

/-- The literals of a value. -/
inductive Spells : Value → List Char → Prop
  | text {s : String} (h : TrimmedBy isPadding s.toList) :
    Spells (.text s) ('"' :: (s.toList ++ ['"']))
  | flag {b : Bool} {word : List Char} (h : AnyCase (letters b) word) :
    Spells (.flag b) word

/-- A text of white space. -/
def AllBlank (s : List Char) : Prop := ∀ c ∈ s, isBlank c = true

instance (s : List Char) : Decidable (AllBlank s) :=
  decidable_of_iff (s.all isBlank = true) List.all_eq_true

/-- A token that gives a value to the parameter at its position. -/
def GivesAtPosition (value : Value) (token : String) : Prop :=
  ∃ before literal after, token.toList = before ++ literal ++ after ∧
    AllBlank before ∧ Spells value literal ∧ AllBlank after

/-- A token that gives a value to the parameter that it names. Behind the colon, only blanks and
tabs are known for space around the value. -/
def GivesByName (parameter : String) (value : Value) (token : String) : Prop :=
  ∃ before gap indent literal after,
    token.toList = before ++ (parameter.toList ++ gap ++ ':' :: (indent ++ literal)) ++ after ∧
    AllBlank before ∧ AllBlank gap ∧ (∀ c ∈ indent, c = ' ' ∨ c = '\t') ∧ Spells value literal ∧
    AllBlank after

/-- The parameters behind the first `k` that have a value. -/
def givenBehind (k : Nat) (parameters : List String) (values : List (Option Value)) :
    List (String × Value) :=
  ((parameters.zip values).drop k).filterMap fun (parameter, value) => value.map (parameter, ·)

/-- Tokens that give values to some of the parameters: each of the first tokens to the parameter at
its position, the others by name in any order. -/
structure Spelled (parameters : List String) (values : List (Option Value))
    (positional named : List String) : Prop where
  inOrder : List.Forall₂ (fun value token => ∃ v, value = some v ∧ GivesAtPosition v token)
    (values.take positional.length) positional
  byName : ∃ order, order.Perm (givenBehind positional.length parameters values) ∧
    List.Forall₂ (fun p token => GivesByName p.1 p.2 token) order named

/-! ## Words -/

/-- Characters that have no meaning of their own in a token. -/
def isPlain (c : Char) : Bool := !isBlank c && !isPadding c && c != ':'

theorem isPlain_iff {c : Char} :
    isPlain c = true ↔ isBlank c = false ∧ isPadding c = false ∧ c ≠ ':' := by
  simp [isPlain, and_assoc]

/-- A text of plain characters. The names of parameters and the truth values are words. -/
structure IsWord (s : List Char) : Prop where
  ne_nil : s ≠ []
  plain : ∀ c ∈ s, isPlain c = true

instance (s : List Char) : Decidable (IsWord s) :=
  decidable_of_iff (s ≠ [] ∧ s.all isPlain = true)
    ⟨fun h => ⟨h.1, List.all_eq_true.mp h.2⟩, fun h => ⟨h.1, List.all_eq_true.mpr h.2⟩⟩

namespace IsWord

variable {s : List Char} (h : IsWord s)

include h

theorem trimmedBy {drop : Char → Bool} (hdrop : ∀ c, isPlain c = true → drop c = false) :
    TrimmedBy drop s :=
  ⟨fun c hc => hdrop c (h.plain c (List.mem_of_mem_head? hc)),
    fun c hc => hdrop c (h.plain c (List.mem_of_mem_getLast? hc))⟩

theorem trimmedBy_isBlank : TrimmedBy isBlank s :=
  h.trimmedBy fun _ hc => (isPlain_iff.mp hc).1

theorem trimmedBy_isPadding : TrimmedBy isPadding s :=
  h.trimmedBy fun _ hc => (isPlain_iff.mp hc).2.1

theorem colon_not_mem : ':' ∉ s := fun hc => (isPlain_iff.mp (h.plain _ hc)).2.2 rfl

theorem head?_ne_quote : s.head? ≠ some '"' := fun hc =>
  absurd (h.plain _ (List.mem_of_mem_head? hc)) (by decide)

end IsWord

theorem AnyCase.forall_mem {cs word : List Char} {good : Char → Bool} (h : AnyCase cs word)
    (hgood : cs.all (fun c => good c && good c.toUpper) = true) : ∀ d ∈ word, good d = true := by
  induction h with
  | nil => simp
  | cons hcase _ ih =>
    simp only [List.all_cons, Bool.and_eq_true] at hgood
    rw [List.forall_mem_cons]
    refine ⟨?_, ih hgood.2⟩
    rcases hcase with rfl | rfl
    · exact hgood.1.1
    · exact hgood.1.2

theorem AnyCase.map_toLower {cs word : List Char} (h : AnyCase cs word)
    (hlower : cs.all (fun c => c.toLower == c && c.toUpper.toLower == c) = true) :
    word.map Char.toLower = cs := by
  induction h with
  | nil => rfl
  | cons hcase _ ih =>
    simp only [List.all_cons, Bool.and_eq_true, beq_iff_eq] at hlower
    rw [List.map_cons, ih hlower.2]
    rcases hcase with rfl | rfl
    · rw [hlower.1.1]
    · rw [hlower.1.2]

theorem AnyCase.isWord {b : Bool} {word : List Char} (h : AnyCase (letters b) word) :
    IsWord word where
  ne_nil := by
    rintro rfl
    cases b <;> cases h
  plain := h.forall_mem (by cases b <;> decide)

theorem AnyCase.flag? {b : Bool} {word : List Char} (h : AnyCase (letters b) word) :
    flag? word = some b := by
  have hlower := h.map_toLower (by cases b <;> decide)
  cases b <;> simp [Argument.flag?, hlower, letters]

/-! ## Reading one token -/

section Trimmed

variable {token : String} {trimmed : List Char} (htrim : trim token.toList = trimmed)
  (hquote : trimmed.head? ≠ some '"')

include htrim hquote

theorem name?_of_trim : name? token = (split? trimmed).bind fun p =>
    if (trim p.1).isEmpty then none else some (String.ofList (trim p.1)) := by
  rw [name?, htrim]
  split
  · exact absurd rfl hquote
  · cases split? trimmed <;> rfl

theorem text?_of_trim :
    text? token = (split? trimmed).map fun p => String.ofList (bare p.2) := by
  rw [text?, htrim]
  split
  · exact absurd rfl hquote
  · rfl

theorem literal?_of_trim (hne : trimmed ≠ []) :
    literal? token = some (((split? trimmed).map fun p => bare p.2).getD trimmed) := by
  rw [literal?, htrim]
  split
  · exact absurd rfl hne
  · exact absurd rfl hquote
  · cases split? trimmed <;> rfl

end Trimmed

/-- A token has a value. -/
def Reads (token : String) : Value → Prop
  | .text s => text? token = some s
  | .flag b => (literal? token).bind flag? = some b

theorem Spells.trimmedBy_isBlank {value : Value} {literal : List Char} (h : Spells value literal) :
    TrimmedBy isBlank literal := by
  cases h with
  | text h =>
    refine ⟨fun c hc => ?_, fun c hc => ?_⟩
    · obtain rfl : '"' = c := Option.some.inj hc
      decide
    · rw [← List.cons_append, List.getLast?_concat] at hc
      obtain rfl : '"' = c := Option.some.inj hc
      decide
  | flag h => exact h.isWord.trimmedBy_isBlank

theorem Spells.ne_nil {value : Value} {literal : List Char} (h : Spells value literal) :
    literal ≠ [] := by
  cases h with
  | text _ => exact List.cons_ne_nil _ _
  | flag h => exact h.isWord.ne_nil

theorem split?_of_not_mem {s : List Char} (h : ':' ∉ s) : split? s = none :=
  Text.cut?_eq_none_iff.mpr fun hpart => h (hpart.subset List.mem_cons_self)

theorem GivesAtPosition.exists_trim {value : Value} {token : String}
    (h : GivesAtPosition value token) :
    ∃ literal, Spells value literal ∧ trim token.toList = literal := by
  obtain ⟨before, literal, after, htoken, hbefore, hliteral, hafter⟩ := h
  refine ⟨literal, hliteral, ?_⟩
  rw [htoken]
  exact Text.trimBy_append hliteral.trimmedBy_isBlank hbefore hafter

theorem GivesAtPosition.name? {value : Value} {token : String} (h : GivesAtPosition value token) :
    name? token = none := by
  obtain ⟨literal, hliteral, htrim⟩ := h.exists_trim
  cases hliteral with
  | text _ =>
    rw [Argument.name?, htrim]
    rfl
  | flag h =>
    rw [name?_of_trim htrim h.isWord.head?_ne_quote, split?_of_not_mem h.isWord.colon_not_mem]
    rfl

theorem GivesAtPosition.reads {value : Value} {token : String} (h : GivesAtPosition value token) :
    Reads token value := by
  obtain ⟨literal, hliteral, htrim⟩ := h.exists_trim
  cases hliteral with
  | text _ =>
    rw [Reads, text?, htrim]
    simp [Text.before?_eq_some_iff.mpr rfl]
  | flag h =>
    rw [Reads, literal?_of_trim htrim h.isWord.head?_ne_quote h.isWord.ne_nil,
      split?_of_not_mem h.isWord.colon_not_mem]
    exact h.flag?

/-- The value behind the colon, without its quotes and the space in front of it. -/
theorem Spells.bare {value : Value} {indent literal : List Char} (h : Spells value literal)
    (hindent : ∀ c ∈ indent, c = ' ' ∨ c = '\t') :
    match value with
    | .text s => bare (indent ++ literal) = s.toList
    | .flag _ => bare (indent ++ literal) = literal := by
  have hpadding : ∀ c ∈ indent, isPadding c = true := by
    intro c hc
    rcases hindent c hc with rfl | rfl <;> rfl
  cases h with
  | @text s h =>
    have hclose : ∀ c ∈ ['"'], isPadding c = true := by simp [isPadding]
    have hopen : ∀ c ∈ indent ++ ['"'], isPadding c = true := by
      rw [List.forall_mem_append]
      exact ⟨hpadding, hclose⟩
    have htrim := Text.trimBy_append h hopen hclose
    rwa [List.append_assoc, List.append_assoc] at htrim
  | flag h =>
    have hnone : ∀ c ∈ ([] : List Char), isPadding c = true := by simp
    have htrim := Text.trimBy_append h.isWord.trimmedBy_isPadding hpadding hnone
    rwa [List.append_nil] at htrim

section Named

variable {parameter token : String} {value : Value} (hparameter : IsWord parameter.toList)
  (h : GivesByName parameter value token)

include hparameter h

/-- A named token without the blanks around it starts like its name and is split at its colon. -/
theorem GivesByName.exists_split : ∃ trimmed gap indent literal, trim token.toList = trimmed ∧
    trimmed.head? = parameter.toList.head? ∧
    split? trimmed = some (parameter.toList ++ gap, indent ++ literal) ∧ AllBlank gap ∧
    (∀ c ∈ indent, c = ' ' ∨ c = '\t') ∧ Spells value literal := by
  obtain ⟨before, gap, indent, literal, after, htoken, hbefore, hgap, hindent, hliteral, hafter⟩ :=
    h
  have hcolon : ':' ∉ parameter.toList ++ gap := by
    rw [List.mem_append, not_or]
    exact ⟨hparameter.colon_not_mem, fun hc => absurd (hgap _ hc) (by decide)⟩
  have hhead : (parameter.toList ++ gap ++ ':' :: (indent ++ literal)).head? =
      parameter.toList.head? := by
    rw [List.append_assoc, List.head?_append_of_ne_nil _ hparameter.ne_nil]
  have hsplit := Text.cut?_singleton hcolon (indent ++ literal)
  refine ⟨_, gap, indent, literal, ?_, hhead, hsplit, hgap, hindent, hliteral⟩
  rw [htoken]
  refine Text.trimBy_append ⟨fun c hc => ?_, fun c hc => ?_⟩ hbefore hafter
  · rw [hhead] at hc
    exact hparameter.trimmedBy_isBlank.1 c hc
  · rw [← List.cons_append, ← List.append_assoc,
      List.getLast?_append_of_ne_nil _ hliteral.ne_nil] at hc
    exact hliteral.trimmedBy_isBlank.2 c hc

theorem GivesByName.name? : name? token = some parameter := by
  obtain ⟨trimmed, gap, indent, literal, htrim, hhead, hsplit, hgap, -, -⟩ :=
    h.exists_split hparameter
  have hquote : trimmed.head? ≠ some '"' := hhead ▸ hparameter.head?_ne_quote
  have hnone : ∀ c ∈ ([] : List Char), isBlank c = true := by simp
  have hname : trim ([] ++ parameter.toList ++ gap) = parameter.toList :=
    Text.trimBy_append hparameter.trimmedBy_isBlank hnone hgap
  rw [List.nil_append] at hname
  rw [name?_of_trim htrim hquote, hsplit]
  simp [hname, hparameter.ne_nil]

theorem GivesByName.reads : Reads token value := by
  obtain ⟨trimmed, gap, indent, literal, htrim, hhead, hsplit, -, hindent, hliteral⟩ :=
    h.exists_split hparameter
  have hquote : trimmed.head? ≠ some '"' := hhead ▸ hparameter.head?_ne_quote
  have hbare := hliteral.bare hindent
  cases hliteral with
  | text _ =>
    rw [Reads, text?_of_trim htrim hquote, hsplit, Option.map_some, hbare, String.ofList_toList]
  | flag hword =>
    have hne : trimmed ≠ [] := by
      rintro rfl
      cases hsplit
    rw [Reads, literal?_of_trim htrim hquote hne, hsplit, Option.map_some, Option.getD_some, hbare]
    exact hword.flag?

end Named

/-! ## Finding the token of a parameter -/

section Position

variable {parameters args : List String} {slot : Nat} {parameter : String}
  (hparameter : parameters[slot]? = some parameter)

include hparameter

theorem position?_of_findIdx? {index : Nat}
    (hfind : (args.findIdx? fun token => name? token = some parameter) = some index) :
    position? parameters args slot = some index := by
  simp [position?, hparameter, hfind]

theorem position?_of_findIdx?_none
    (hfind : (args.findIdx? fun token => name? token = some parameter) = none) :
    position? parameters args slot = args[slot]?.bind fun token =>
      match name? token with
      | some other => if parameters.contains other then none else some slot
      | none => some slot := by
  simp only [position?, hparameter, hfind, Option.bind_eq_bind, Option.bind_some]
  rfl

end Position

theorem mem_givenBehind {k : Nat} {parameters : List String} {values : List (Option Value)}
    {parameter : String} {value : Value} :
    (parameter, value) ∈ givenBehind k parameters values ↔ ∃ slot, k ≤ slot ∧
      parameters[slot]? = some parameter ∧ values[slot]? = some (some value) := by
  rw [givenBehind, List.mem_filterMap]
  simp only [List.mem_iff_getElem?, List.getElem?_drop,
    List.getElem?_zip_eq_some, Prod.exists, Option.map_eq_some_iff, Prod.mk.injEq]
  constructor
  · rintro ⟨p, v, ⟨i, hp, hv⟩, v', rfl, rfl, rfl⟩
    exact ⟨k + i, Nat.le_add_right k i, hp, hv⟩
  · rintro ⟨slot, hslot, hp, hv⟩
    refine ⟨parameter, some value, ⟨slot - k, ?_⟩, value, rfl, rfl, rfl⟩
    rw [Nat.add_sub_cancel' hslot]
    exact ⟨hp, hv⟩

theorem exists_of_forall₂ {α β : Type} {R : α → β → Prop} {xs : List α} {ys : List β}
    (h : List.Forall₂ R xs ys) {x : α} (hx : x ∈ xs) : ∃ y ∈ ys, R x y := by
  obtain ⟨i, hi, rfl⟩ := List.getElem_of_mem hx
  have hi' : i < ys.length := h.length_eq ▸ hi
  exact ⟨ys[i], List.getElem_mem hi', h.get hi hi'⟩

/-- The names of parameters are distinct words. -/
structure AreParameters (parameters : List String) : Prop where
  nodup : parameters.Nodup
  isWord : ∀ parameter ∈ parameters, IsWord parameter.toList

theorem AreParameters.eq_of_getElem? {parameters : List String} (h : AreParameters parameters)
    {i j : Nat} {parameter : String} (hi : parameters[i]? = some parameter)
    (hj : parameters[j]? = some parameter) : i = j := by
  obtain ⟨hi, hfirst⟩ := List.getElem?_eq_some_iff.mp hi
  obtain ⟨hj, hsecond⟩ := List.getElem?_eq_some_iff.mp hj
  exact (List.Nodup.getElem_inj_iff h.nodup).mp (hfirst.trans hsecond.symm)

namespace Spelled

variable {parameters positional named : List String} {values : List (Option Value)}
  (h : Spelled parameters values positional named)

include h

theorem positional_of_lt {slot : Nat} (hslot : slot < positional.length) : ∃ value token,
    values[slot]? = some (some value) ∧ positional[slot]? = some token ∧
      GivesAtPosition value token := by
  have hslot' : slot < (values.take positional.length).length := by rwa [h.inOrder.length_eq]
  obtain ⟨value, hvalue, hgives⟩ := h.inOrder.get hslot' hslot
  rw [List.get_eq_getElem, List.getElem_take] at hvalue
  exact ⟨value, positional[slot], List.getElem?_eq_some_iff.mpr ⟨_, hvalue⟩,
    List.getElem?_eq_getElem hslot, hgives⟩

theorem exists_of_mem_positional {token : String} (htoken : token ∈ positional) :
    ∃ value, GivesAtPosition value token := by
  obtain ⟨slot, hslot, rfl⟩ := List.getElem_of_mem htoken
  obtain ⟨value, token, -, htoken, hgives⟩ := h.positional_of_lt hslot
  rw [List.getElem?_eq_getElem hslot, Option.some.injEq] at htoken
  exact ⟨value, htoken ▸ hgives⟩

theorem exists_of_mem_named {token : String} (htoken : token ∈ named) : ∃ slot parameter value,
    positional.length ≤ slot ∧ parameters[slot]? = some parameter ∧
      values[slot]? = some (some value) ∧ GivesByName parameter value token := by
  obtain ⟨order, hperm, hnamed⟩ := h.byName
  obtain ⟨⟨parameter, value⟩, hmem, hgives⟩ := exists_of_forall₂ hnamed.flip htoken
  obtain ⟨slot, hslot, hparameter, hvalue⟩ := mem_givenBehind.mp (hperm.mem_iff.mp hmem)
  exact ⟨slot, parameter, value, hslot, hparameter, hvalue, hgives⟩

theorem exists_mem_named {slot : Nat} {parameter : String} {value : Value}
    (hslot : positional.length ≤ slot) (hparameter : parameters[slot]? = some parameter)
    (hvalue : values[slot]? = some (some value)) :
    ∃ token ∈ named, GivesByName parameter value token := by
  obtain ⟨order, hperm, hnamed⟩ := h.byName
  have hmem := mem_givenBehind.mpr ⟨slot, hslot, hparameter, hvalue⟩
  obtain ⟨token, htoken, hgives⟩ := exists_of_forall₂ hnamed (hperm.mem_iff.mpr hmem)
  exact ⟨token, htoken, hgives⟩

theorem perm {named' : List String} (hnamed : named'.Perm named) :
    Spelled parameters values positional named' := by
  obtain ⟨order, hperm, hgives⟩ := h.byName
  obtain ⟨order', hgives', hperm'⟩ := List.perm_comp_forall₂ hnamed hgives.flip
  exact ⟨h.inOrder, order', hperm'.trans hperm, hgives'.flip⟩

variable (hparameters : AreParameters parameters)

include hparameters

/-- Only a token that was written for a parameter has its name. -/
theorem of_name? {token parameter : String} {slot : Nat} (htoken : token ∈ positional ++ named)
    (hname : name? token = some parameter) (hparameter : parameters[slot]? = some parameter) :
    positional.length ≤ slot ∧ ∃ value, values[slot]? = some (some value) ∧ Reads token value := by
  rcases List.mem_append.mp htoken with hpositional | hnamed
  · obtain ⟨value, hgives⟩ := h.exists_of_mem_positional hpositional
    rw [hgives.name?] at hname
    cases hname
  · obtain ⟨slot', parameter', value, hslot', hparameter', hvalue, hgives⟩ :=
      h.exists_of_mem_named hnamed
    have hword := hparameters.isWord parameter' (List.mem_of_getElem? hparameter')
    obtain rfl : parameter' = parameter := Option.some.inj ((hgives.name? hword).symm.trans hname)
    obtain rfl : slot = slot' := hparameters.eq_of_getElem? hparameter hparameter'
    exact ⟨hslot', value, hvalue, hgives.reads hword⟩

/-- The token that fills a parameter is the one that gives it its value. -/
theorem position?_of_given {slot : Nat} {parameter : String} {value : Value}
    (hparameter : parameters[slot]? = some parameter) (hvalue : values[slot]? = some (some value)) :
    ∃ index token, position? parameters (positional ++ named) slot = some index ∧
      (positional ++ named)[index]? = some token ∧ Reads token value := by
  cases hfind : (positional ++ named).findIdx? fun token => name? token = some parameter with
  | some index =>
    obtain ⟨hindex, hname, -⟩ := List.findIdx?_eq_some_iff_getElem.mp hfind
    have hmem := List.getElem_mem hindex
    obtain ⟨-, value', hvalue', hreads⟩ :=
      h.of_name? hparameters hmem (of_decide_eq_true hname) hparameter
    obtain rfl : value = value' := by simpa [hvalue] using hvalue'
    exact ⟨index, _, position?_of_findIdx? hparameter hfind, List.getElem?_eq_getElem hindex,
      hreads⟩
  | none =>
    -- no token has the name, so the value was given by position
    have hslot : slot < positional.length := by
      by_contra hnot
      obtain ⟨token, hmem, hgives⟩ :=
        h.exists_mem_named (Nat.le_of_not_lt hnot) hparameter hvalue
      have hword := hparameters.isWord parameter (List.mem_of_getElem? hparameter)
      have hne := List.findIdx?_eq_none_iff.mp hfind token (List.mem_append_right _ hmem)
      simp [hgives.name? hword] at hne
    obtain ⟨value', token, hvalue', htoken, hgives⟩ := h.positional_of_lt hslot
    obtain rfl : value = value' := by simpa [hvalue] using hvalue'
    have harg : (positional ++ named)[slot]? = some token := by
      rw [List.getElem?_append_left hslot, htoken]
    refine ⟨slot, token, ?_, harg, hgives.reads⟩
    rw [position?_of_findIdx?_none hparameter hfind, harg, Option.bind_some, hgives.name?]

/-- No token fills a parameter that is given no value. -/
theorem position?_of_not_given {slot : Nat} {parameter : String}
    (hparameter : parameters[slot]? = some parameter) (hvalue : values[slot]? = some none) :
    position? parameters (positional ++ named) slot = none := by
  have hslot : positional.length ≤ slot := by
    by_contra hnot
    obtain ⟨value, token, hvalue', -⟩ := h.positional_of_lt (Nat.lt_of_not_le hnot)
    simp [hvalue] at hvalue'
  have hfind :
      ((positional ++ named).findIdx? fun token => name? token = some parameter) = none := by
    refine List.findIdx?_eq_none_iff.mpr fun token hmem => decide_eq_false fun hname => ?_
    obtain ⟨-, value, hvalue', -⟩ := h.of_name? hparameters hmem hname hparameter
    simp [hvalue] at hvalue'
  rw [position?_of_findIdx?_none hparameter hfind]
  cases harg : (positional ++ named)[slot]? with
  | none => rfl
  | some token =>
    -- the token at this position is named, and its name is that of another parameter
    have hmem : token ∈ named := by
      rw [List.getElem?_append_right hslot] at harg
      exact List.mem_of_getElem? harg
    obtain ⟨_, other, _, -, hother, -, hgives⟩ := h.exists_of_mem_named hmem
    have hother := List.mem_of_getElem? hother
    have hname := hgives.name? (hparameters.isWord other hother)
    simp [hname, hother]

theorem textFor_eq {slot : Nat} {parameter : String} {text : Option String}
    (hparameter : parameters[slot]? = some parameter)
    (hvalue : values[slot]? = some (text.map .text)) (default : String) :
    textFor parameters (positional ++ named) slot default = text.getD default := by
  cases text with
  | none => rw [textFor, h.position?_of_not_given hparameters hparameter hvalue, Option.getD_none]
  | some s =>
    obtain ⟨index, token, hposition, htoken, hreads⟩ :=
      h.position?_of_given hparameters hparameter hvalue
    have htext : text? token = some s := hreads
    simp [textFor, hposition, textAt, htoken, htext]

theorem flagFor_eq {slot : Nat} {parameter : String} {flag : Option Bool}
    (hparameter : parameters[slot]? = some parameter)
    (hvalue : values[slot]? = some (flag.map .flag)) (default : Bool) :
    flagFor parameters (positional ++ named) slot default = flag.getD default := by
  cases flag with
  | none => rw [flagFor, h.position?_of_not_given hparameters hparameter hvalue, Option.getD_none]
  | some b =>
    obtain ⟨index, token, hposition, htoken, hreads⟩ :=
      h.position?_of_given hparameters hparameter hvalue
    have hflag : (literal? token).bind flag? = some b := hreads
    simp [flagFor, hposition, flagAt, htoken, hflag]

end Spelled

theorem areParameters_property : AreParameters PropertyArguments.parameters :=
  ⟨by decide, by decide +kernel⟩

theorem areParameters_concrete : AreParameters ConcreteArguments.parameters :=
  ⟨by decide, by decide +kernel⟩

theorem parse?_property {name : Option String} {extraNotify compareValues : Option Bool}
    {positional named : List String}
    (h : Spelled PropertyArguments.parameters
      [name.map .text, extraNotify.map .flag, compareValues.map .flag] positional named)
    (hne : positional ++ named ≠ []) :
    PropertyArguments.parse? (positional ++ named) = some {
      name := name.getD ""
      extraNotify := extraNotify.getD false
      compareValues := compareValues.getD false } := by
  have hread := areParameters_property
  rw [PropertyArguments.parse?, if_neg (by simpa using hne), h.textFor_eq hread rfl rfl,
    h.flagFor_eq hread rfl rfl, h.flagFor_eq hread rfl rfl]

theorem parse?_concrete {interfaceName : Option String}
    {initializingConstructor privateSetters implementInterface nullableReferences
      nullableValues : Option Bool} {positional named : List String}
    (h : Spelled ConcreteArguments.parameters
      [interfaceName.map .text, initializingConstructor.map .flag, privateSetters.map .flag,
        implementInterface.map .flag, nullableReferences.map .flag, nullableValues.map .flag]
      positional named)
    (hne : positional ++ named ≠ []) :
    ConcreteArguments.parse? (positional ++ named) = some {
      interfaceName := interfaceName.getD ""
      initializingConstructor := initializingConstructor.getD true
      privateSetters := privateSetters.getD false
      implementInterface := implementInterface.getD false
      nullableReferences := nullableReferences.getD false
      nullableValues := nullableValues.getD false } := by
  have hread := areParameters_concrete
  rw [ConcreteArguments.parse?, if_neg (by simpa using hne), h.textFor_eq hread rfl rfl,
    h.flagFor_eq hread rfl rfl, h.flagFor_eq hread rfl rfl, h.flagFor_eq hread rfl rfl,
    h.flagFor_eq hread rfl rfl, h.flagFor_eq hread rfl rfl]

/-- Whatever values are given to whatever parameters, and however the tokens that give them are
written and ordered, both markers are read with these values, and with a default for every
parameter that is given none. Named tokens may be exchanged. -/
theorem parse_of_spelled :
    (∀ (name : Option String) (extraNotify compareValues : Option Bool)
      (positional named : List String),
      Spelled PropertyArguments.parameters
        [name.map .text, extraNotify.map .flag, compareValues.map .flag] positional named →
      positional ++ named ≠ [] →
      PropertyArguments.parse? (positional ++ named) = some {
        name := name.getD ""
        extraNotify := extraNotify.getD false
        compareValues := compareValues.getD false } ∧
      ∀ named', named'.Perm named →
        PropertyArguments.parse? (positional ++ named') =
          PropertyArguments.parse? (positional ++ named)) ∧
    ∀ (interfaceName : Option String) (initializingConstructor privateSetters implementInterface
      nullableReferences nullableValues : Option Bool) (positional named : List String),
      Spelled ConcreteArguments.parameters
        [interfaceName.map .text, initializingConstructor.map .flag, privateSetters.map .flag,
          implementInterface.map .flag, nullableReferences.map .flag, nullableValues.map .flag]
        positional named →
      positional ++ named ≠ [] →
      ConcreteArguments.parse? (positional ++ named) = some {
        interfaceName := interfaceName.getD ""
        initializingConstructor := initializingConstructor.getD true
        privateSetters := privateSetters.getD false
        implementInterface := implementInterface.getD false
        nullableReferences := nullableReferences.getD false
        nullableValues := nullableValues.getD false } ∧
      ∀ named', named'.Perm named →
        ConcreteArguments.parse? (positional ++ named') =
          ConcreteArguments.parse? (positional ++ named) := by
  have hne' {positional named named' : List String} (hperm : named'.Perm named)
      (hne : positional ++ named ≠ []) : positional ++ named' ≠ [] := by
    intro hnil
    have hall := hperm.append_left positional
    rw [hnil] at hall
    exact hne hall.symm.eq_nil
  constructor
  · intro name extraNotify compareValues positional named h hne
    refine ⟨parse?_property h hne, fun named' hperm => ?_⟩
    rw [parse?_property (h.perm hperm) (hne' hperm hne), parse?_property h hne]
  · intro interfaceName initializingConstructor privateSetters implementInterface
      nullableReferences nullableValues positional named h hne
    refine ⟨parse?_concrete h hne, fun named' hperm => ?_⟩
    rw [parse?_concrete (h.perm hperm) (hne' hperm hne), parse?_concrete h hne]

theorem parse_of_spelled_swapped :
    Spelled PropertyArguments.parameters [some (.text "Total: net"), none, some (.flag true)]
      [" \"Total: net\""] ["compareValues :\tTRUE "] ∧
    PropertyArguments.parse? [" \"Total: net\"", "compareValues :\tTRUE "] =
      some { name := "Total: net", extraNotify := false, compareValues := true } ∧
    Spelled ConcreteArguments.parameters
      [some (.text "Shop.IOrder"), none, some (.flag true), none, none, none]
      [] ["makeSettersPrivate: true", "interfaceFullTypeName: \"Shop.IOrder\""] ∧
    ConcreteArguments.parse?
        ["interfaceFullTypeName: \"Shop.IOrder\"", "makeSettersPrivate: true"] =
      some { interfaceName := "Shop.IOrder", initializingConstructor := true,
             privateSetters := true } := by
  have htrue : AnyCase (letters true) ['t', 'r', 'u', 'e'] :=
    .cons (.inl rfl) (.cons (.inl rfl) (.cons (.inl rfl) (.cons (.inl rfl) .nil)))
  have hTRUE : AnyCase (letters true) ['T', 'R', 'U', 'E'] :=
    .cons (.inr rfl) (.cons (.inr rfl) (.cons (.inr rfl) (.cons (.inr rfl) .nil)))
  have hname : GivesAtPosition (.text "Total: net") " \"Total: net\"" :=
    ⟨[' '], _, [], by decide +kernel, by decide, .text (by simp [TrimmedBy, isPadding]), by decide⟩
  have hcompare : GivesByName "compareValues" (.flag true) "compareValues :\tTRUE " :=
    ⟨[], [' '], ['\t'], _, [' '], by decide +kernel, by decide, by decide, by simp, .flag hTRUE,
      by decide⟩
  have hsetters : GivesByName "makeSettersPrivate" (.flag true) "makeSettersPrivate: true" :=
    ⟨[], [], [' '], _, [], by decide +kernel, by decide, by decide, by simp, .flag htrue,
      by decide⟩
  have hinterface : GivesByName "interfaceFullTypeName" (.text "Shop.IOrder")
      "interfaceFullTypeName: \"Shop.IOrder\"" :=
    ⟨[], [], [' '], _, [], by decide +kernel, by decide, by decide, by simp,
      .text (by simp [TrimmedBy, isPadding]), by decide⟩
  have hproperty : Spelled PropertyArguments.parameters
      [some (.text "Total: net"), none, some (.flag true)]
      [" \"Total: net\""] ["compareValues :\tTRUE "] :=
    ⟨.cons ⟨_, rfl, hname⟩ .nil, _, .refl _, .cons hcompare .nil⟩
  have hconcrete : Spelled ConcreteArguments.parameters
      [some (.text "Shop.IOrder"), none, some (.flag true), none, none, none]
      [] ["makeSettersPrivate: true", "interfaceFullTypeName: \"Shop.IOrder\""] :=
    ⟨.nil, _, .swap _ _ _, .cons hsetters (.cons hinterface .nil)⟩
  obtain ⟨hreadProperty, hreadConcrete⟩ := parse_of_spelled
  obtain ⟨hparse, -⟩ := hreadProperty (some "Total: net") none (some true) _ _ hproperty (by simp)
  obtain ⟨hparse', hperm⟩ := hreadConcrete (some "Shop.IOrder") none (some true) none none none _ _
    hconcrete (by simp)
  exact ⟨hproperty, hparse, hconcrete, (hperm _ (.swap _ _ _)).trans hparse'⟩

end Companion.Argument
