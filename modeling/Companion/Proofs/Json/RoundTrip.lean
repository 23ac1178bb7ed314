import Mathlib.Data.List.DropRight
import Mathlib.Data.List.Forall2
import Companion.Json.Reader
import Companion.Json.Writer

/-!
# What is written is read back

The text of a value without numbers is read as that value, wherever it stands and whatever follows
it (`PlainTo.readsBack`). Strings come first: the writer escapes a character in one of three ways,
and each of them is one piece of a literal for the reader. Containers follow the nesting of the
value; the reader is given enough calls if it is given one for each character.
-/

namespace Companion.Json

/-! ## Blanks -/

theorem skipBlanks_append {blanks : List Char} (h : ∀ c ∈ blanks, isBlank c = true)
    (s : List Char) : skipBlanks (blanks ++ s) = skipBlanks s :=
  List.dropWhile_append_of_pos h

theorem skipBlanks_lineBreak (depth : Nat) (s : List Char) :
    skipBlanks (lineBreak depth ++ s) = skipBlanks s := by
  apply skipBlanks_append
  intro c hc
  rcases List.mem_cons.mp hc with rfl | hc
  · rfl
  · rw [(List.mem_replicate.mp hc).2]
    rfl

theorem skipBlanks_cons {c : Char} (h : isBlank c = false) (s : List Char) :
    skipBlanks (c :: s) = c :: s :=
  List.dropWhile_cons_of_neg (by simp [h])

theorem skipBlanks_skipBlanks (s : List Char) : skipBlanks (skipBlanks s) = skipBlanks s :=
  List.dropWhile_idempotent _ _

/-! ## Strings -/

theorem hexDigit?_hexDigit (n : Nat) : hexDigit? (hexDigit n) = some (n % 16) := by
  have hall : ∀ m < 16, hexDigit? (hexDigit m) = some m := by decide
  have hmod : hexDigit n = hexDigit (n % 16) := by rw [hexDigit, hexDigit, Nat.mod_mod]
  rw [hmod]
  exact hall (n % 16) (Nat.mod_lt n (by decide))

theorem codeUnit?_hexDigit {n : Nat} (h : n < 0x20) :
    codeUnit? '0' '0' (hexDigit (n / 16)) (hexDigit n) = some n := by
  have hzero : hexDigit? '0' = some 0 := rfl
  have hvalue : (0 * 16 + n / 16 % 16) * 16 + n % 16 = n := by omega
  simp only [codeUnit?, hzero, hexDigit?_hexDigit, Option.bind_eq_bind, Option.bind_some,
    Nat.zero_mul, Nat.add_zero, hvalue, Option.pure_def]

theorem pieces?_letter {mark c : Char} (hmark : mark ≠ 'u') (hescape : escape? mark = some c)
    (s : List Char) :
    pieces? ('\\' :: mark :: s) =
      (pieces? s).map fun (pieces, rest) => (.char c :: pieces, rest) := by
  cases hrest : pieces? s <;> simp [pieces?, hmark, hescape, hrest]

theorem pieces?_plain {c : Char} (hquote : c ≠ '"') (hslash : c ≠ '\\') (hhigh : ¬c.toNat < 0x20)
    (s : List Char) :
    pieces? (c :: s) = (pieces? s).map fun (pieces, rest) => (.char c :: pieces, rest) := by
  cases hrest : pieces? s <;> simp [pieces?, hslash, hhigh, hrest]

/-- A piece of a literal that stands for a character: the character, or its number if that can be
no half of a surrogate pair. -/
inductive IsPieceOf (c : Char) : Piece → Prop
  | char : IsPieceOf c (.char c)
  | unit (h : c.toNat < 0x20) : IsPieceOf c (.unit c.toNat)

/-- The writer makes one piece of every character. -/
theorem exists_isPieceOf (c : Char) :
    ∃ piece, IsPieceOf c piece ∧ ∀ s, pieces? (escaped c ++ s) =
      (pieces? s).map fun (pieces, rest) => (piece :: pieces, rest) := by
  unfold escaped
  split_ifs with hquote hslash hback hfeed hline hreturn htab hcontrol
  · exact ⟨_, .char, pieces?_letter (by decide) (by rw [hquote]; rfl)⟩
  · exact ⟨_, .char, pieces?_letter (by decide) (by rw [hslash]; rfl)⟩
  · exact ⟨_, .char, pieces?_letter (by decide) (by rw [hback]; rfl)⟩
  · exact ⟨_, .char, pieces?_letter (by decide) (by rw [hfeed]; rfl)⟩
  · exact ⟨_, .char, pieces?_letter (by decide) (by rw [hline]; rfl)⟩
  · exact ⟨_, .char, pieces?_letter (by decide) (by rw [hreturn]; rfl)⟩
  · exact ⟨_, .char, pieces?_letter (by decide) (by rw [htab]; rfl)⟩
  · refine ⟨_, .unit hcontrol, fun s => ?_⟩
    cases hrest : pieces? s <;> simp [pieces?, codeUnit?_hexDigit hcontrol, hrest]
  · exact ⟨_, .char, pieces?_plain hquote hslash hcontrol⟩

theorem exists_pieces?_literal (text rest : List Char) :
    ∃ pieces, List.Forall₂ IsPieceOf text pieces ∧
      pieces? (text.flatMap escaped ++ '"' :: rest) = some (pieces, rest) := by
  induction text with
  | nil => exact ⟨[], .nil, rfl⟩
  | cons c text ih =>
    obtain ⟨pieces, hpieces, hrest⟩ := ih
    obtain ⟨piece, hpiece, hescaped⟩ := exists_isPieceOf c
    refine ⟨piece :: pieces, .cons hpiece hpieces, ?_⟩
    rw [List.flatMap_cons, List.append_assoc, hescaped, hrest]
    rfl

theorem textOf?_unit {code : Nat} (h : code < 0x20) (pieces : List Piece) :
    textOf? (.unit code :: pieces) = (textOf? pieces).map (Char.ofNat code :: ·) := by
  have hhigh : ¬(0xD800 ≤ code ∧ code ≤ 0xDBFF) := by omega
  have hlow : ¬(0xDC00 ≤ code ∧ code ≤ 0xDFFF) := by omega
  have hany : ¬(0xD800 ≤ code ∧ code ≤ 0xDFFF) := by omega
  cases pieces with
  | nil => simp only [textOf?, if_neg hany]
  | cons piece pieces =>
    cases piece with
    | char c => simp only [textOf?, if_neg hany]
    | unit next => rw [textOf?, if_neg hhigh, if_neg hlow]

theorem textOf?_of_isPieceOf {text : List Char} {pieces : List Piece}
    (h : List.Forall₂ IsPieceOf text pieces) : textOf? pieces = some text := by
  induction h with
  | nil => rfl
  | @cons c piece text pieces hpiece hpieces ih =>
    cases hpiece with
    | char => rw [textOf?, ih, Option.map_some]
    | unit hlow => rw [textOf?_unit hlow, ih, Option.map_some, Char.ofNat_toNat]

/-- The literal of a text is read as that text. -/
theorem exists_literal (text : String) (rest : List Char) :
    ∃ s pieces, literal text ++ rest = '"' :: s ∧ pieces? s = some (pieces, rest) ∧
      (textOf? pieces).map String.ofList = some text := by
  obtain ⟨pieces, hpieces, hread⟩ := exists_pieces?_literal text.toList rest
  refine ⟨_, pieces, by simp [literal], hread, ?_⟩
  rw [textOf?_of_isPieceOf hpieces, Option.map_some, String.ofList_toList]

/-! ## Values -/

/-- A value without numbers that nests at most `depth` containers. -/
inductive PlainTo : Nat → Json → Prop
  | null {depth : Nat} : PlainTo depth .null
  | bool {depth : Nat} (value : Bool) : PlainTo depth (.bool value)
  | string {depth : Nat} (text : String) : PlainTo depth (.string text)
  | array {depth : Nat} {items : List Json} (h : ∀ item ∈ items, PlainTo depth item) :
    PlainTo (depth + 1) (.array items)
  | object {depth : Nat} {members : List (String × Json)}
    (h : ∀ m ∈ members, PlainTo depth m.2) : PlainTo (depth + 1) (.object members)

/-- The text of a value is read as the value, with blanks before it and anything behind it. -/
def ReadsBack (value : Json) : Prop :=
  ∀ depth fuel s rest, (value.renderAt depth).length ≤ fuel →
    skipBlanks s = skipBlanks (value.renderAt depth ++ rest) →
      value? (fuel + 1) s = some (value, rest)

theorem readsBack_null : ReadsBack .null := by
  intro depth fuel s rest _ hs
  rw [value?, hs]
  rfl

theorem readsBack_bool (value : Bool) : ReadsBack (.bool value) := by
  intro depth fuel s rest _ hs
  cases value <;>
  · rw [value?, hs]
    rfl

theorem readsBack_string (text : String) : ReadsBack (.string text) := by
  intro depth fuel s rest _ hs
  obtain ⟨inner, pieces, hliteral, hread, htext⟩ := exists_literal text rest
  obtain ⟨chars, hchars, rfl⟩ := Option.map_eq_some_iff.mp htext
  rw [value?, hs, renderAt, hliteral, skipBlanks_cons rfl]
  simp [hread, hchars]

/-! ### Arrays -/

theorem items?_render {depth : Nat} {tail rest : List Char} (htail : skipBlanks tail = ']' :: rest)
    {item : Json} (hitem : ReadsBack item) {items : List Json} (hitems : ∀ i ∈ items, ReadsBack i)
    (fuel : Nat) (hfuel : (item.renderAt depth).length + (renderItems depth items).length ≤ fuel)
    {s : List Char}
    (hs : skipBlanks s = skipBlanks (item.renderAt depth ++ (renderItems depth items ++ tail))) :
    items? (fuel + 2) s = some (item :: items, rest) := by
  induction items generalizing item fuel s with
  | nil =>
    have hvalue := hitem depth fuel s tail (by omega) hs
    rw [items?, hvalue]
    simp [htail]
  | cons next items ih =>
    obtain ⟨hnext, hitems⟩ := List.forall_mem_cons.mp hitems
    have hlength : (renderItems depth (next :: items)).length =
        (next.renderAt depth).length + (renderItems depth items).length + 2 * depth + 2 := by
      simp only [renderItems, List.length_append, List.length_cons, lineBreak,
        List.length_replicate]
      omega
    obtain ⟨fuel, rfl⟩ : ∃ k, fuel = k + 1 := ⟨fuel - 1, by omega⟩
    have hvalue := hitem depth (fuel + 1) s _ (by omega) hs
    have hcomma : skipBlanks (renderItems depth (next :: items) ++ tail) =
        ',' :: (lineBreak depth ++ (next.renderAt depth ++ (renderItems depth items ++ tail))) := by
      simp only [renderItems, List.append_assoc, List.cons_append]
      exact skipBlanks_cons rfl _
    have hrest := ih hnext hitems fuel (by omega) (skipBlanks_lineBreak depth _)
    rw [items?, hvalue]
    simp [hcomma, hrest]

/-- The text of a value starts with a character of its own. -/
theorem PlainTo.exists_renderAt_cons {limit : Nat} {value : Json} (h : PlainTo limit value)
    (depth : Nat) :
    ∃ c s, value.renderAt depth = c :: s ∧ isBlank c = false ∧ c ≠ ']' := by
  cases h with
  | null => exact ⟨_, _, rfl, rfl, by decide⟩
  | bool value => cases value <;> exact ⟨_, _, rfl, rfl, by decide⟩
  | string text => exact ⟨_, _, rfl, rfl, by decide⟩
  | @array _ items _ => cases items <;> exact ⟨_, _, rfl, rfl, by decide⟩
  | @object _ members _ => cases members <;> exact ⟨_, _, rfl, rfl, by decide⟩

theorem value?_array {fuel : Nat} {s inner : List Char} (hopen : skipBlanks s = '[' :: inner)
    (hclose : ∀ rest, skipBlanks inner ≠ ']' :: rest) :
    value? (fuel + 1) s =
      (items? fuel (skipBlanks inner)).map fun (items, rest) => (.array items, rest) := by
  rw [value?, hopen]
  cases hitems : items? fuel (skipBlanks inner) <;> simp [hitems]

theorem readsBack_array {limit : Nat} {items : List Json} (hplain : ∀ i ∈ items, PlainTo limit i)
    (h : ∀ i ∈ items, ReadsBack i) : ReadsBack (.array items) := by
  intro depth fuel s rest hfuel hs
  cases items with
  | nil =>
    rw [value?, hs]
    rfl
  | cons item items =>
    obtain ⟨hitem, hitems⟩ := List.forall_mem_cons.mp h
    have htail : skipBlanks (lineBreak depth ++ ']' :: rest) = ']' :: rest :=
      (skipBlanks_lineBreak depth _).trans (skipBlanks_cons rfl rest)
    have hopen : skipBlanks s = '[' :: (lineBreak (depth + 1) ++ (item.renderAt (depth + 1) ++
        (renderItems (depth + 1) items ++ (lineBreak depth ++ ']' :: rest)))) := by
      rw [hs, renderAt]
      simp only [List.append_assoc, List.cons_append, List.nil_append]
      exact skipBlanks_cons rfl _
    obtain ⟨c, first, hfirst, hblank, hbracket⟩ :=
      (hplain item List.mem_cons_self).exists_renderAt_cons (depth + 1)
    have hlength : (renderAt depth (.array (item :: items))).length =
        (item.renderAt (depth + 1)).length + (renderItems (depth + 1) items).length +
          4 * depth + 6 := by
      simp only [renderAt, List.length_append, List.length_cons, lineBreak, List.length_replicate,
        List.length_nil]
      omega
    obtain ⟨fuel, rfl⟩ : ∃ k, fuel = k + 2 := ⟨fuel - 2, by omega⟩
    rw [value?_array hopen, skipBlanks_lineBreak]
    · rw [items?_render htail hitem hitems fuel (by omega) (skipBlanks_skipBlanks _)]
      rfl
    · rw [skipBlanks_lineBreak, hfirst, List.cons_append, skipBlanks_cons hblank]
      simp [hbracket]

/-! ### Objects -/

theorem ofMembers_some (members : List (String × Json)) :
    ofMembers (members.map fun m => (some m.1, m.2)) = .object members := by
  have hkeys {named : Option String × Json → Option (String × Json)}
      (hnamed : ∀ m : String × Json, named (some m.1, m.2) = some m) :
      (members.map fun m => (some m.1, m.2)).mapM named = some members := by
    induction members with
    | nil => rfl
    | cons m members ih => simp [hnamed, ih]
  rw [ofMembers, hkeys]
  intro m
  rfl

theorem skipBlanks_literal (text : String) (s : List Char) :
    skipBlanks (literal text ++ s) = literal text ++ s := skipBlanks_cons rfl _

/-- The first member of an object is its key, a colon and its value; what follows decides whether
there are more. -/
theorem members?_literal {fuel : Nat} {key : String} {s inner rest : List Char} {value : Json}
    (hs : skipBlanks s = literal key ++ (": ".toList ++ inner))
    (hvalue : value? fuel (' ' :: inner) = some (value, rest)) (tail : List Char) :
    (skipBlanks rest = ',' :: tail → members? (fuel + 1) s =
      (members? fuel tail).map fun (members, rest) => ((some key, value) :: members, rest)) ∧
    (skipBlanks rest = '\x7d' :: tail →
      members? (fuel + 1) s = some ([(some key, value)], tail)) := by
  obtain ⟨text, pieces, hliteral, hread, htext⟩ := exists_literal key (": ".toList ++ inner)
  have hcolon : skipBlanks (": ".toList ++ inner) = ':' :: ' ' :: inner := rfl
  rw [members?, hs, hliteral]
  simp only [Option.bind_eq_bind, hread, Option.bind_some, hcolon, hvalue, htext, Option.pure_def]
  constructor
  · intro hcomma
    simp only [hcomma]
    exact Option.map_eq_bind.symm
  · intro hclose
    simp only [hclose]

theorem members?_render {depth : Nat} {tail rest : List Char}
    (htail : skipBlanks tail = '\x7d' :: rest) (key : String) {value : Json}
    (hvalue : ReadsBack value) {members : List (String × Json)}
    (hmembers : ∀ m ∈ members, ReadsBack m.2) (fuel : Nat)
    (hfuel : (value.renderAt depth).length + (renderMembers depth members).length ≤ fuel)
    {s : List Char}
    (hs : skipBlanks s = literal key ++ (": ".toList ++ (value.renderAt depth ++
      (renderMembers depth members ++ tail)))) :
    members? (fuel + 2) s =
      some (((key, value) :: members).map fun m => (some m.1, m.2), rest) := by
  induction members generalizing key value fuel s with
  | nil =>
    have hread := hvalue depth fuel (' ' :: (value.renderAt depth ++ tail)) tail (by omega) rfl
    exact (members?_literal hs hread rest).2 htail
  | cons next members ih =>
    obtain ⟨name, content⟩ := next
    obtain ⟨hnext, hmembers⟩ : ReadsBack content ∧ ∀ m ∈ members, ReadsBack m.2 :=
      List.forall_mem_cons.mp hmembers
    have hlength : (renderMembers depth ((name, content) :: members)).length =
        (content.renderAt depth).length + (renderMembers depth members).length +
          (literal name).length + 2 * depth + 4 := by
      simp only [renderMembers, List.length_append, List.length_cons, lineBreak,
        List.length_replicate]
      have hcolon : ": ".toList.length = 2 := rfl
      omega
    obtain ⟨fuel, rfl⟩ : ∃ k, fuel = k + 1 := ⟨fuel - 1, by omega⟩
    have hcomma : skipBlanks (renderMembers depth ((name, content) :: members) ++ tail) =
        ',' :: (lineBreak depth ++ (literal name ++ (": ".toList ++ (content.renderAt depth ++
          (renderMembers depth members ++ tail))))) := by
      simp only [renderMembers, List.append_assoc, List.cons_append]
      exact skipBlanks_cons rfl _
    have hread := hvalue depth (fuel + 1)
      (' ' :: (value.renderAt depth ++ (renderMembers depth ((name, content) :: members) ++ tail)))
      (renderMembers depth ((name, content) :: members) ++ tail) (by omega) rfl
    have hrest := ih name hnext hmembers fuel (by omega)
      ((skipBlanks_lineBreak depth _).trans (skipBlanks_literal name _))
    rw [(members?_literal hs hread _).1 hcomma, hrest]
    rfl

theorem value?_object {fuel : Nat} {s inner : List Char} (hopen : skipBlanks s = '\x7b' :: inner)
    (hclose : ∀ rest, skipBlanks inner ≠ '\x7d' :: rest) :
    value? (fuel + 1) s =
      (members? fuel (skipBlanks inner)).map fun (members, rest) => (ofMembers members, rest) := by
  rw [value?, hopen]
  cases hmembers : members? fuel (skipBlanks inner) <;> simp [hmembers]

theorem readsBack_object {members : List (String × Json)} (h : ∀ m ∈ members, ReadsBack m.2) :
    ReadsBack (.object members) := by
  intro depth fuel s rest hfuel hs
  cases members with
  | nil =>
    rw [value?, hs]
    rfl
  | cons first members =>
    obtain ⟨key, value⟩ := first
    obtain ⟨hvalue, hmembers⟩ : ReadsBack value ∧ ∀ m ∈ members, ReadsBack m.2 :=
      List.forall_mem_cons.mp h
    have htail : skipBlanks (lineBreak depth ++ '\x7d' :: rest) = '\x7d' :: rest :=
      (skipBlanks_lineBreak depth _).trans (skipBlanks_cons rfl rest)
    have hopen : skipBlanks s = '\x7b' :: (lineBreak (depth + 1) ++ (literal key ++ (": ".toList ++
        (value.renderAt (depth + 1) ++ (renderMembers (depth + 1) members ++
          (lineBreak depth ++ '\x7d' :: rest)))))) := by
      rw [hs, renderAt]
      simp only [List.append_assoc, List.cons_append, List.nil_append]
      exact skipBlanks_cons rfl _
    have hlength : (renderAt depth (.object ((key, value) :: members))).length =
        (value.renderAt (depth + 1)).length + (renderMembers (depth + 1) members).length +
          (literal key).length + 4 * depth + 8 := by
      have hcolon : ": ".toList.length = 2 := rfl
      simp only [renderAt, List.length_append, List.length_cons, lineBreak, List.length_replicate,
        List.length_nil]
      omega
    have hinner (tail : List Char) :
        skipBlanks (lineBreak (depth + 1) ++ (literal key ++ tail)) = literal key ++ tail :=
      (skipBlanks_lineBreak (depth + 1) _).trans (skipBlanks_literal key tail)
    obtain ⟨fuel, rfl⟩ : ∃ k, fuel = k + 2 := ⟨fuel - 2, by omega⟩
    rw [value?_object hopen, hinner]
    · rw [members?_render htail key hvalue hmembers fuel (by omega)
        (skipBlanks_literal key _), Option.map_some]
      simp only [ofMembers_some]
    · intro rest hrest
      rw [hinner] at hrest
      cases hrest

/-! ### All values -/

theorem PlainTo.readsBack {limit : Nat} {value : Json} (h : PlainTo limit value) :
    ReadsBack value := by
  induction h with
  | null => exact readsBack_null
  | bool value => exact readsBack_bool value
  | string text => exact readsBack_string text
  | array hplain ih => exact readsBack_array hplain ih
  | object _ ih => exact readsBack_object ih

/-- The text of a value without numbers is read as that value. -/
theorem PlainTo.read?_render {limit : Nat} {value : Json} (h : PlainTo limit value) :
    read? value.render = some value := by
  have hlist : value.render.toList = value.renderAt 0 := String.toList_ofList
  have hread := h.readsBack 0 (2 * (value.renderAt 0).length) (value.renderAt 0) [] (by omega)
    (by rw [List.append_nil])
  simp only [read?, hlist, hread, Option.bind_eq_bind, Option.bind_some]
  rfl

theorem itemsTractableTo_iff {depth : Nat} {items : List Json} :
    itemsTractableTo depth items = true ↔ ∀ item ∈ items, item.isTractableTo depth = true := by
  induction items with
  | nil => simp [itemsTractableTo]
  | cons item items ih =>
    rw [itemsTractableTo, Bool.and_eq_true, ih, List.forall_mem_cons]

theorem membersTractableTo_iff {depth : Nat} {members : List (String × Json)} :
    membersTractableTo depth members = true ↔ ∀ m ∈ members, m.2.isTractableTo depth = true := by
  induction members with
  | nil => simp [membersTractableTo]
  | cons m members ih =>
    rw [membersTractableTo, Bool.and_eq_true, ih, List.forall_mem_cons]

/-- A value without numbers is within the limits of a reader if it is not too deep. -/
theorem PlainTo.isTractableTo {limit : Nat} {value : Json} (h : PlainTo limit value) :
    value.isTractableTo limit = true := by
  induction h with
  | null => rfl
  | bool value => rfl
  | string text => rfl
  | array _ ih => simpa [Json.isTractableTo, itemsTractableTo_iff] using ih
  | object _ ih => simpa [Json.isTractableTo, membersTractableTo_iff] using ih

end Companion.Json
