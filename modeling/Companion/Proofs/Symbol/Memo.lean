import Companion.Proofs.Symbol.Order

/-!
# Remembered ancestors

A memo is asked for the ancestors of a symbol and remembers them under the key of the symbol. No key
of a model has two symbols, however the model was built, so what is found under the key of a symbol
was computed for this symbol. A memo that starts empty therefore gives the answers of the model,
errors included, whatever was asked before, and it ends with the chains that it gave: nothing is
remembered of a symbol whose chain goes round in a circle.
-/

namespace Companion.ChainMemo

variable {memo : ChainMemo} {model : Model} {s : Symbol} {asked : List Symbol}

/-- The answers to questions that are put one after the other, and the memo after the last one. -/
def askAll (memo : ChainMemo) (model : Model) :
    List Symbol → List (Except GenerateError (List Symbol)) × ChainMemo
  | [] => ([], memo)
  | s :: rest =>
    let (answer, memo) := memo.ancestors model s
    let (answers, memo) := memo.askAll model rest
    (answer :: answers, memo)

/-- What the memo has are the chains of the symbols that were asked for. -/
def Holds (memo : ChainMemo) (model : Model) (asked : List Symbol) : Prop :=
  ∀ key chain, memo.get? key = some chain ↔
    ∃ s ∈ asked, s.key = key ∧ model.ancestors s = .ok chain

theorem holds_empty (model : Model) : Holds {} model [] := by
  intro key chain
  simp [Registry.get?]

/-- What the memo has to have after one more question. -/
theorem Holds.iff_asked (h : memo.Holds model asked) (s : Symbol) (key : TypeKey)
    (chain : List Symbol) :
    (∃ a ∈ asked ++ [s], a.key = key ∧ model.ancestors a = .ok chain) ↔
      memo.get? key = some chain ∨ s.key = key ∧ model.ancestors s = .ok chain := by
  rw [h key chain]
  simp only [List.mem_append, List.mem_singleton, or_and_right, exists_or, exists_eq_left]

/-- One question to a memo, in a model in which no key has two symbols. -/
theorem Holds.ancestors (h : memo.Holds model asked) (hkeys : model.HasDistinctKeys)
    (hasked : ∀ a ∈ asked, a ∈ model.symbols) (hs : s ∈ model.symbols) :
    (memo.ancestors model s).1 = model.ancestors s ∧
      (memo.ancestors model s).2.Holds model (asked ++ [s]) := by
  unfold ChainMemo.ancestors
  cases hfound : memo.get? s.key with
  | some chain =>
    -- the symbol that the chain was computed for is this one
    obtain ⟨a, ha, hkey, hchain⟩ := (h s.key chain).mp hfound
    obtain rfl : a = s := List.inj_on_of_nodup_map hkeys (hasked a ha) hs hkey
    refine ⟨hchain.symm, fun key other => ?_⟩
    rw [h.iff_asked, hchain]
    constructor
    · exact .inl
    · rintro (hother | ⟨rfl, hother⟩)
      · exact hother
      · rw [← Except.ok.inj hother]
        exact hfound
  | none =>
    cases hresult : model.ancestors s with
    | ok chain =>
      refine ⟨rfl, fun key other => ?_⟩
      rw [h.iff_asked, hresult, Registry.get?_insert]
      split
      · next hkey => simp [hkey, hfound]
      · next hkey => simp [Ne.symm hkey]
    | error e =>
      refine ⟨rfl, fun key other => ?_⟩
      rw [h.iff_asked, hresult]
      simp

/-- A run of questions. -/
theorem Holds.askAll (h : memo.Holds model asked) (hkeys : model.HasDistinctKeys)
    (hasked : ∀ a ∈ asked, a ∈ model.symbols) {questions : List Symbol}
    (hquestions : ∀ s ∈ questions, s ∈ model.symbols) :
    (memo.askAll model questions).1 = questions.map model.ancestors ∧
      (memo.askAll model questions).2.Holds model (asked ++ questions) := by
  induction questions generalizing memo asked with
  | nil =>
    rw [List.append_nil]
    exact ⟨rfl, h⟩
  | cons s rest ih =>
    obtain ⟨hs, hrest⟩ := List.forall_mem_cons.mp hquestions
    obtain ⟨hanswer, hmemo⟩ := h.ancestors hkeys hasked hs
    have hmore : ∀ a ∈ asked ++ [s], a ∈ model.symbols :=
      List.forall_mem_append.mpr ⟨hasked, List.forall_mem_singleton.mpr hs⟩
    obtain ⟨hanswers, hend⟩ := ih hmemo hmore hrest
    rw [List.append_assoc] at hend
    refine ⟨?_, hend⟩
    rw [List.map_cons, ← hanswer, ← hanswers]
    rfl

/-- Questions about symbols of a model are answered as the model answers them, one after the other
and with the same errors, and then the memo has the chains that were given. -/
theorem askAll_eq_ancestors (units : List SourceUnit) (inserted questions : List Symbol) :
    let model := inserted.foldl Model.insert (Model.ofUnits units)
    (∀ s ∈ questions, s ∈ model.symbols) →
      (askAll {} model questions).1 = questions.map model.ancestors ∧
        (askAll {} model questions).2.Holds model questions := by
  intro model hquestions
  exact (holds_empty model).askAll (Model.hasDistinctKeys_insertAll units inserted) (by simp)
    hquestions

/-- A type below two others, and two types that have a full name in common. -/
def leafAndBoxes : List SourceUnit :=
  [{ types := [
      { name := "Leaf", baseList := ["Left"] },
      { name := "Left", baseList := ["Right"] },
      { name := "Right" },
      { name := "Box", baseList := ["Left"] },
      { name := "Box", typeParameters := ["T"] },
      { name := "Shape" }] }]

/-- Two of these types with other base classes: one closes a circle, and one is no longer below
it. -/
def circleWithoutBox : List Symbol :=
  [{ name := "Right", base := some ("Left", 0) }, { name := "Box", base := some ("Shape", 0) }]

/-- The two types of one full name are told apart, and an error is the same each time. -/
theorem askAll_leafAndBoxes :
    let model := circleWithoutBox.foldl Model.insert (Model.ofUnits leafAndBoxes)
    let leaf : Symbol := { name := "Leaf", base := some ("Left", 0) }
    let right : Symbol := { name := "Right", base := some ("Left", 0) }
    let box : Symbol := { name := "Box", base := some ("Shape", 0) }
    let boxOf : Symbol := { name := "Box", arity := 1 }
    let shape : Symbol := { name := "Shape" }
    let questions := [shape, leaf, box, leaf, boxOf, box, right]
    (∀ s ∈ questions, s ∈ model.symbols) ∧
      (askAll {} model questions).1 =
        [.ok [], .error (.baseTypeCycle "Leaf"), .ok [shape], .error (.baseTypeCycle "Leaf"),
          .ok [], .ok [shape], .error (.baseTypeCycle "Right")] ∧
      (askAll {} model questions).2.Holds model questions := by
  intro model leaf right box boxOf shape questions
  have hquestions : ∀ s ∈ questions, s ∈ model.symbols := by decide +kernel
  obtain ⟨hanswers, hmemo⟩ := askAll_eq_ancestors leafAndBoxes circleWithoutBox questions hquestions
  refine ⟨hquestions, hanswers.trans ?_, hmemo⟩
  decide +kernel

end Companion.ChainMemo
