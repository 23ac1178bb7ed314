import Mathlib.Data.Set.Finite.List
import Companion.Proofs.Symbol.Ancestors

/-!
# Circles of base classes

Who follows the base classes of a symbol either comes to an end, or comes back to a type sooner or
later: there are only so many types. A type is known by its full name and the number of its type
parameters, but the search for ancestors remembers full names alone. `ancestors_eq_error_iff` says
that it reports a circle exactly if a full name comes back. So it misses no circle
(`tellsCircles_iff`), and it takes a chain for one only if two different types of the chain have the
same full name.
-/

namespace Companion.Model

variable {model : Model} {s a base : Symbol} {chain : List Symbol} {κ : Type} {mark : Symbol → κ}

/-! ## Walks -/

/-- What is reached from a symbol by going on to the base class so many times. -/
def ancestor? (model : Model) : Symbol → Nat → Option Symbol
  | s, 0 => some s
  | s, n + 1 => (model.baseOf? s).bind fun base => model.ancestor? base n

/-- The symbols that are met on the way from a symbol to the last one without a base class. -/
def IsWalk (model : Model) (s : Symbol) (chain : List Symbol) : Prop :=
  ∀ i, chain[i]? = model.ancestor? s (i + 1)

/-- Two symbols with the same mark are met. -/
def Repeats (model : Model) (mark : Symbol → κ) (s : Symbol) : Prop :=
  ∃ i j, i < j ∧ ∃ a b, model.ancestor? s i = some a ∧ model.ancestor? s j = some b ∧
    mark a = mark b

theorem isWalk_nil_iff : model.IsWalk s [] ↔ model.baseOf? s = none := by
  constructor
  · intro h
    simpa [ancestor?] using (h 0).symm
  · intro hbase i
    simp [ancestor?, hbase]

theorem isWalk_cons_iff :
    model.IsWalk s (base :: chain) ↔ model.baseOf? s = some base ∧ model.IsWalk base chain := by
  constructor
  · intro h
    have hbase : model.baseOf? s = some base := by simpa [ancestor?] using (h 0).symm
    refine ⟨hbase, fun i => ?_⟩
    simpa [ancestor?, hbase] using h (i + 1)
  · rintro ⟨hbase, h⟩ i
    cases i with
    | zero => simp [ancestor?, hbase]
    | succ i =>
      have hnext : model.ancestor? s (i + 1 + 1) = model.ancestor? base (i + 1) := by
        rw [ancestor?, hbase]
        rfl
      rw [List.getElem?_cons_succ, h i, hnext]

theorem mem_symbols_of_ancestor? {n : Nat} (h : model.ancestor? s (n + 1) = some a) :
    a ∈ model.symbols := by
  induction n generalizing s with
  | zero =>
    obtain ⟨base, hbase, h⟩ := Option.bind_eq_some_iff.mp h
    cases h
    obtain ⟨key, -, hlookup⟩ := Option.bind_eq_some_iff.mp hbase
    exact mem_of_lookup? hlookup
  | succ n ih =>
    obtain ⟨base, -, h⟩ := Option.bind_eq_some_iff.mp h
    exact ih h

theorem IsWalk.subset_symbols (h : model.IsWalk s chain) : chain ⊆ model.symbols := by
  intro a ha
  obtain ⟨i, hi⟩ := List.mem_iff_getElem?.mp ha
  rw [h i] at hi
  exact mem_symbols_of_ancestor? hi

theorem exists_isWalk_of_ancestor? {n : Nat} (h : model.ancestor? s n = none) :
    ∃ chain, model.IsWalk s chain := by
  induction n generalizing s with
  | zero => cases h
  | succ n ih =>
    cases hbase : model.baseOf? s with
    | none => exact ⟨[], isWalk_nil_iff.mpr hbase⟩
    | some base =>
      rw [ancestor?, hbase] at h
      obtain ⟨chain, hchain⟩ := ih h
      exact ⟨base :: chain, isWalk_cons_iff.mpr ⟨hbase, hchain⟩⟩

/-- A walk on which no mark comes back has an end, since the model has finitely many symbols. -/
theorem exists_isWalk_of_not_repeats (h : ¬model.Repeats mark s) :
    ∃ chain, model.IsWalk s chain := by
  by_contra hendless
  have hsome (n : Nat) : ∃ a, model.ancestor? s n = some a := by
    rw [← Option.ne_none_iff_exists']
    exact fun hnone => hendless (exists_isWalk_of_ancestor? hnone)
  choose walk hwalk using hsome
  have hne (i j : Nat) (hij : i < j) : mark (walk (i + 1)) ≠ mark (walk (j + 1)) := fun heq =>
    h ⟨i + 1, j + 1, by omega, walk (i + 1), walk (j + 1), hwalk _, hwalk _, heq⟩
  have hinjective : Function.Injective fun n => mark (walk (n + 1)) := by
    intro i j heq
    rcases Nat.lt_trichotomy i j with hij | hij | hij
    · exact absurd heq (hne i j hij)
    · exact hij
    · exact absurd heq.symm (hne j i hij)
  have hinfinite : {x | x ∈ model.symbols.map mark}.Infinite :=
    Set.infinite_of_injective_forall_mem hinjective fun n =>
      List.mem_map_of_mem (mem_symbols_of_ancestor? (hwalk (n + 1)))
  exact hinfinite (List.finite_toSet _)

theorem IsWalk.getElem?_cons (h : model.IsWalk s chain) (i : Nat) :
    (s :: chain)[i]? = model.ancestor? s i := by
  cases i with
  | zero => rfl
  | succ i => exact h i

/-- Whether a mark comes back on a walk with an end can be read off the walk. -/
theorem IsWalk.repeats_iff (h : model.IsWalk s chain) :
    model.Repeats mark s ↔ ¬((s :: chain).map mark).Nodup := by
  rw [List.nodup_iff_getElem?_ne_getElem?]
  push Not
  constructor
  · rintro ⟨i, j, hij, a, b, ha, hb, heq⟩
    rw [← h.getElem?_cons] at ha hb
    obtain ⟨hj, -⟩ := List.getElem?_eq_some_iff.mp hb
    refine ⟨i, j, hij, by rwa [List.length_map], ?_⟩
    rw [List.getElem?_map, List.getElem?_map, ha, hb, Option.map_some, Option.map_some, heq]
  · rintro ⟨i, j, hij, hj, heq⟩
    rw [List.length_map] at hj
    have hb : (s :: chain)[j]? = some ((s :: chain).get ⟨j, hj⟩) := List.getElem?_eq_getElem hj
    rw [List.getElem?_map, List.getElem?_map, hb, Option.map_some, Option.map_eq_some_iff] at heq
    obtain ⟨a, ha, hmark⟩ := heq
    rw [h.getElem?_cons] at ha hb
    exact ⟨i, j, hij, a, _, ha, hb, hmark⟩

/-! ## The search for ancestors -/

theorem ancestorsFrom_eq_ok_iff {origin : String} {fuel : Nat} {seen : List String} :
    model.ancestorsFrom origin fuel seen s = .ok chain ↔
      model.IsWalk s chain ∧ (chain.map Symbol.fullName).Nodup ∧
        (∀ a ∈ chain, a.fullName ∉ seen) ∧ chain.length < fuel := by
  induction fuel generalizing seen s chain with
  | zero => simp [ancestorsFrom]
  | succ fuel ih =>
    rw [ancestorsFrom_succ_eq_ok]
    cases chain with
    | nil => simp [isWalk_nil_iff]
    | cons base rest =>
      have hstep : (∃ b r, model.baseOf? s = some b ∧ b.fullName ∉ seen ∧
          model.ancestorsFrom origin fuel (b.fullName :: seen) b = .ok r ∧
            base :: rest = b :: r) ↔
          model.baseOf? s = some base ∧ base.fullName ∉ seen ∧
            model.ancestorsFrom origin fuel (base.fullName :: seen) base = .ok rest := by
        constructor
        · rintro ⟨b, r, hbase, hnew, hrest, heq⟩
          cases heq
          exact ⟨hbase, hnew, hrest⟩
        · rintro ⟨hbase, hnew, hrest⟩
          exact ⟨base, rest, hbase, hnew, hrest, rfl⟩
      -- The base is seen from here on, so what is new after it also differs from it.
      have hseen : (∀ a ∈ rest, a.fullName ∉ base.fullName :: seen) ↔
          base.fullName ∉ rest.map Symbol.fullName ∧ ∀ a ∈ rest, a.fullName ∉ seen := by
        simp only [List.mem_cons, not_or, List.mem_map, not_exists, not_and]
        exact forall₂_and
      rw [hstep, ih, isWalk_cons_iff, hseen, List.map_cons, List.nodup_cons, List.forall_mem_cons,
        List.length_cons, Nat.succ_lt_succ_iff]
      simp only [reduceCtorEq, and_false, false_or]
      tauto

/-- The ancestors are the symbols of the walk, provided that no full name comes back on it. -/
theorem ancestors_eq_ok_iff :
    model.ancestors s = .ok chain ↔ model.IsWalk s chain ∧ ¬model.Repeats Symbol.fullName s := by
  rw [ancestors, ancestorsFrom_eq_ok_iff]
  refine and_congr_right fun hwalk => ?_
  rw [hwalk.repeats_iff, not_not, List.map_cons, List.nodup_cons]
  constructor
  · rintro ⟨hnodup, hnew, -⟩
    refine ⟨fun hmem => ?_, hnodup⟩
    obtain ⟨a, ha, heq⟩ := List.mem_map.mp hmem
    exact hnew a ha (heq ▸ List.mem_singleton_self _)
  · rintro ⟨hnew, hnodup⟩
    have hlength : chain.length ≤ model.size :=
      hnodup.of_map.length_le_of_subset hwalk.subset_symbols
    refine ⟨hnodup, fun a ha hmem => hnew ?_, by omega⟩
    exact List.mem_map.mpr ⟨a, ha, List.mem_singleton.mp hmem⟩

/-- A circle is reported if a full name comes back, and nothing else is an error. -/
theorem ancestors_eq_error_iff {e : GenerateError} :
    model.ancestors s = .error e ↔
      e = .baseTypeCycle s.fullName ∧ model.Repeats Symbol.fullName s := by
  constructor
  · intro herror
    refine ⟨ancestorsFrom_eq_error herror, ?_⟩
    by_contra hnew
    obtain ⟨chain, hwalk⟩ := exists_isWalk_of_not_repeats hnew
    cases herror.symm.trans (ancestors_eq_ok_iff.mpr ⟨hwalk, hnew⟩)
  · rintro ⟨rfl, hrepeats⟩
    cases hresult : model.ancestors s with
    | ok chain => exact absurd hrepeats (ancestors_eq_ok_iff.mp hresult).2
    | error e => rw [ancestorsFrom_eq_error hresult]

/-! ## Circles -/

/-- A circle is reported exactly if a type comes back, and without one the ancestors are the symbols
of the walk. -/
structure TellsCircles (model : Model) (s : Symbol) : Prop where
  circle_iff : model.ancestors s = .error (.baseTypeCycle s.fullName) ↔ model.Repeats Symbol.key s
  chain : ¬model.Repeats Symbol.key s → ∃ chain, model.ancestors s = .ok chain ∧
    model.IsWalk s chain

theorem Repeats.fullName_of_key (h : model.Repeats Symbol.key s) :
    model.Repeats Symbol.fullName s := by
  obtain ⟨i, j, hij, a, b, ha, hb, hkey⟩ := h
  exact ⟨i, j, hij, a, b, ha, hb, congrArg Prod.fst hkey⟩

theorem tellsCircles_iff_imp :
    model.TellsCircles s ↔ (model.Repeats Symbol.fullName s → model.Repeats Symbol.key s) := by
  constructor
  · intro h hname
    exact h.circle_iff.mp (ancestors_eq_error_iff.mpr ⟨rfl, hname⟩)
  · intro h
    refine ⟨⟨fun herror => h (ancestors_eq_error_iff.mp herror).2, fun hkey => ?_⟩, fun hkey => ?_⟩
    · exact ancestors_eq_error_iff.mpr ⟨rfl, hkey.fullName_of_key⟩
    · have hname : ¬model.Repeats Symbol.fullName s := fun hname => hkey (h hname)
      obtain ⟨chain, hwalk⟩ := exists_isWalk_of_not_repeats hname
      exact ⟨chain, ancestors_eq_ok_iff.mpr ⟨hwalk, hname⟩, hwalk⟩

/-- The symbol itself and all its ancestors are symbols of the model. -/
theorem mem_symbols_of_ancestor?_of_mem (hs : s ∈ model.symbols) {n : Nat}
    (h : model.ancestor? s n = some a) : a ∈ model.symbols := by
  cases n with
  | zero => exact Option.some.inj h ▸ hs
  | succ n => exact mem_symbols_of_ancestor? h

/-- The search for ancestors ends with a report exactly if a full name comes back, and else with the
symbols of the walk. So every circle is reported, and what is reported is a circle unless two types
of the walk differ only in the number of their type parameters. -/
theorem tellsCircles_iff (model : Model) (s : Symbol) :
    (∀ e, model.ancestors s = .error e ↔
      e = .baseTypeCycle s.fullName ∧ model.Repeats Symbol.fullName s) ∧
    (∀ chain, model.ancestors s = .ok chain ↔
      model.IsWalk s chain ∧ ¬model.Repeats Symbol.fullName s) ∧
    (model.TellsCircles s ↔
      (model.Repeats Symbol.fullName s → model.Repeats Symbol.key s)) ∧
    (s ∈ model.symbols →
      (∀ a ∈ model.symbols, ∀ b ∈ model.symbols, a.fullName = b.fullName → a.arity = b.arity) →
        model.TellsCircles s) := by
  refine ⟨fun e => ancestors_eq_error_iff, fun chain => ancestors_eq_ok_iff, tellsCircles_iff_imp,
    fun hs harity => tellsCircles_iff_imp.mpr ?_⟩
  rintro ⟨i, j, hij, a, b, ha, hb, hname⟩
  have hsame : a.arity = b.arity := harity a (mem_symbols_of_ancestor?_of_mem hs ha) b
    (mem_symbols_of_ancestor?_of_mem hs hb) hname
  exact ⟨i, j, hij, a, b, ha, hb, Prod.ext hname hsame⟩

/-- A type below two that are the base class of each other. One of these is entered once more, with
another base class than it was declared with. -/
def leafBelowCircle : Model :=
  (ofUnits [{ types := [
    { name := "Leaf", baseList := ["Left"] },
    { name := "Left", baseList := ["Right"] },
    { name := "Right" }] }]).insert { name := "Right", base := some ("Left", 0) }

theorem leafBelowCircle_tellsCircles :
    ∃ leaf ∈ leafBelowCircle.symbols, leafBelowCircle.TellsCircles leaf ∧
      leafBelowCircle.ancestors leaf = .error (.baseTypeCycle "Leaf") := by
  let leaf : Symbol := { name := "Leaf", base := some ("Left", 0) }
  have hleaf : leaf ∈ leafBelowCircle.symbols := by decide +kernel
  obtain ⟨-, -, -, htells⟩ := tellsCircles_iff leafBelowCircle leaf
  have hcircles := htells hleaf (by decide +kernel)
  have hagain : leafBelowCircle.Repeats Symbol.key leaf :=
    ⟨1, 3, by decide, { name := "Left", base := some ("Right", 0) },
      { name := "Left", base := some ("Right", 0) }, by decide +kernel, by decide +kernel, rfl⟩
  exact ⟨leaf, hleaf, hcircles, hcircles.circle_iff.mpr hagain⟩

/-- A type whose base class has the same full name and a type parameter. -/
def baseWithParameter : List SourceUnit :=
  [{ types := [
      { namespaceName := some "App", name := "Node", baseList := ["Node<int>"] },
      { namespaceName := some "App", name := "Node", typeParameters := ["T"] }] }]

/-- The walk has an end, and a circle is reported. -/
theorem not_tellsCircles_baseWithParameter :
    let model := ofUnits baseWithParameter
    ∃ node base, model.lookup? ("App.Node", 0) = some node ∧
      model.lookup? ("App.Node", 1) = some base ∧ model.IsWalk node [base] ∧
      ¬model.Repeats Symbol.key node ∧
      model.ancestors node = .error (.baseTypeCycle "App.Node") ∧ ¬model.TellsCircles node := by
  intro model
  let node : Symbol := { namespaceName := some "App", name := "Node", base := some ("App.Node", 1) }
  let base : Symbol := { namespaceName := some "App", name := "Node", arity := 1 }
  have hbase : model.baseOf? node = some base := by decide +kernel
  have hwalk : model.IsWalk node [base] :=
    isWalk_cons_iff.mpr ⟨hbase, isWalk_nil_iff.mpr (by decide +kernel)⟩
  have hnew : ¬model.Repeats Symbol.key node := by
    rw [hwalk.repeats_iff]
    decide
  have herror : model.ancestors node = .error (.baseTypeCycle "App.Node") := by decide +kernel
  exact ⟨node, base, by decide +kernel, by decide +kernel, hwalk, hnew, herror,
    fun htells => hnew (htells.circle_iff.mp herror)⟩

end Companion.Model
