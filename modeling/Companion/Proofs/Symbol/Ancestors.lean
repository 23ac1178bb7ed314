import Companion.Proofs.Symbol.Model
import Companion.Symbol.Ancestors

/-!
# Chains of ancestors

The ancestors of an ancestor are what follows it in the chain. So of two types in one chain, one is
an ancestor of the other, and they have all farther ancestors in common.
-/

namespace Companion.Model

variable {model : Model}

theorem ancestorsFrom_succ_eq_ok {origin : String} {fuel : Nat} {seen : List String}
    {current : Symbol} {chain : List Symbol} :
    model.ancestorsFrom origin (fuel + 1) seen current = .ok chain ↔
      model.baseOf? current = none ∧ chain = [] ∨
      ∃ base rest, model.baseOf? current = some base ∧ base.fullName ∉ seen ∧
        model.ancestorsFrom origin fuel (base.fullName :: seen) base = .ok rest ∧
        chain = base :: rest := by
  rw [ancestorsFrom]
  cases hbase : model.baseOf? current with
  | none => simp [eq_comm]
  | some base =>
    simp only [List.contains_eq_mem, decide_eq_true_eq]
    split
    · next hseen => simp [hseen]
    · next hseen =>
      simp only [except_bind_eq_ok]
      simp [hseen, pure, Except.pure, eq_comm]

/-- A chain does not depend on how much fuel is left, nor on names that it does not meet. -/
theorem ancestorsFrom_mono {origin origin' : String} {fuel fuel' : Nat} {seen seen' : List String}
    {current : Symbol} {chain : List Symbol} (hfuel : fuel ≤ fuel') (hseen : seen' ⊆ seen)
    (h : model.ancestorsFrom origin fuel seen current = .ok chain) :
    model.ancestorsFrom origin' fuel' seen' current = .ok chain := by
  induction fuel generalizing fuel' seen seen' current chain with
  | zero => cases h
  | succ fuel ih =>
    obtain ⟨fuel', rfl⟩ : ∃ n, fuel' = n + 1 := ⟨fuel' - 1, by omega⟩
    rw [ancestorsFrom_succ_eq_ok] at h ⊢
    rcases h with ⟨hbase, rfl⟩ | ⟨base, rest, hbase, hnew, hrest, rfl⟩
    · exact .inl ⟨hbase, rfl⟩
    · have hstep := ih (Nat.le_of_succ_le_succ hfuel)
        (List.cons_subset_cons base.fullName hseen) hrest
      exact .inr ⟨base, rest, hbase, fun hmem => hnew (hseen hmem), hstep, rfl⟩

/-- After an ancestor come its own ancestors. -/
theorem ancestors_append_eq_ok {s a : Symbol} {before after : List Symbol}
    (h : model.ancestors s = .ok (before ++ a :: after)) :
    model.lookup? a.key = some a ∧ model.ancestors a = .ok after := by
  induction before generalizing s with
  | nil =>
    rcases ancestorsFrom_succ_eq_ok.mp h with ⟨-, hnil⟩ | ⟨_, _, hbase, -, hrest, hcons⟩
    · cases hnil
    · cases hcons
      obtain ⟨key, -, hlookup⟩ := Option.bind_eq_some_iff.mp hbase
      exact ⟨lookup?_key_of_lookup? hlookup,
        ancestorsFrom_mono (Nat.le_succ _) (by simp) hrest⟩
  | cons b before ih =>
    rcases ancestorsFrom_succ_eq_ok.mp h with ⟨-, hnil⟩ | ⟨_, _, -, -, hrest, hcons⟩
    · cases hnil
    · cases hcons
      exact ih (ancestorsFrom_mono (Nat.le_succ _) (by simp) hrest)

/-- The only error is that a chain goes round in a circle. -/
theorem ancestorsFrom_eq_error {origin : String} {fuel : Nat} {seen : List String}
    {current : Symbol} {e : GenerateError}
    (h : model.ancestorsFrom origin fuel seen current = .error e) : e = .baseTypeCycle origin := by
  induction fuel generalizing seen current with
  | zero => exact (Except.error.inj h).symm
  | succ fuel ih =>
    rw [ancestorsFrom] at h
    split at h
    · cases h
    · next base _ =>
      split at h
      · exact (Except.error.inj h).symm
      · rcases except_bind_eq_error.mp h with hrest | ⟨rest, -, hcons⟩
        · exact ih hrest
        · cases hcons

/-- The ancestors of the symbol with a key, which has to be known. -/
def AncestorsOf (model : Model) (key : TypeKey) (chain : List Symbol) : Prop :=
  ∃ s, model.lookup? key = some s ∧ model.ancestors s = .ok chain

namespace AncestorsOf

variable {key : TypeKey} {chain before after : List Symbol} {a : Symbol}

theorem of_append (h : model.AncestorsOf key (before ++ a :: after)) :
    model.AncestorsOf a.key after := by
  obtain ⟨s, -, hchain⟩ := h
  exact ⟨a, ancestors_append_eq_ok hchain⟩

/-- The same with the type itself in front of its ancestors. -/
theorem of_cons_eq_append {origin : Symbol} (h : model.AncestorsOf key chain)
    (horigin : origin.key = key) (heq : origin :: chain = before ++ a :: after) :
    model.AncestorsOf a.key after := by
  cases before with
  | nil =>
    obtain ⟨rfl, rfl⟩ := List.cons.inj heq
    exact horigin ▸ h
  | cons b before =>
    obtain ⟨-, rfl⟩ := List.cons.inj heq
    exact h.of_append

theorem mem_symbols (h : model.AncestorsOf key chain) (ha : a ∈ chain) : a ∈ model.symbols := by
  obtain ⟨s, -, hchain⟩ := h
  obtain ⟨before, after, rfl⟩ := List.append_of_mem ha
  exact mem_of_lookup? (ancestors_append_eq_ok hchain).1

end AncestorsOf

end Companion.Model
