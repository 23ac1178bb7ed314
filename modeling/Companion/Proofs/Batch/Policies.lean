import Companion.Proofs.Batch.Emission
import Companion.Proofs.Observable.Collect
import Companion.Proofs.Symbol.Ancestors

/-!
# Policies along a chain

Which policy a type gets depends on its ancestors only, and is found by walking up the chain
(`EventPolicy.along`): the farthest ancestor with the name of a type that is generated has the last
word. So a type below another one that is generated declares nothing itself, and both call the same
method. An emitted file does what the policy of its type says (`Follows`).
-/

namespace Companion

namespace EventPolicy

variable {isOwner : Symbol → Bool} {hook : String} {chain before after : List Symbol} {s : Symbol}

/-- The policy of a type with these ancestors, some of which may own the event. -/
def along (isOwner : Symbol → Bool) (hook : String) : List Symbol → EventPolicy
  | [] => ofChain [] hook
  | s :: farther =>
    if farther.any isOwner then along isOwner hook farther
    else if isOwner s then ofOwner (ofChain farther hook)
    else ofChain (s :: farther) hook

theorem along_of_any_eq_false (h : chain.any isOwner = false) :
    along isOwner hook chain = ofChain chain hook := by
  cases chain with
  | nil => rfl
  | cons s farther =>
    rw [List.any_cons, Bool.or_eq_false_iff] at h
    simp [along, h.1, h.2]

/-- The farthest owner decides. -/
theorem along_append_cons (hs : isOwner s = true) (hafter : after.any isOwner = false) :
    along isOwner hook (before ++ s :: after) = ofOwner (ofChain after hook) := by
  induction before with
  | nil => simp [along, hs, hafter]
  | cons b before ih =>
    have hany : (before ++ s :: after).any isOwner = true := by simp [hs]
    rw [List.cons_append, along, if_pos hany, ih]

theorem exists_farthest (h : chain.any isOwner = true) :
    ∃ before s after, chain = before ++ s :: after ∧ isOwner s = true ∧
      after.any isOwner = false := by
  induction chain with
  | nil => cases h
  | cons s farther ih =>
    cases hfarther : farther.any isOwner with
    | true =>
      obtain ⟨before, owner, after, rfl, howner, hafter⟩ := ih hfarther
      exact ⟨s :: before, owner, after, rfl, howner, hafter⟩
    | false =>
      rw [List.any_cons, hfarther, Bool.or_false] at h
      exact ⟨[], s, farther, rfl, h, hfarther⟩

/-- A type below an owner declares neither the event nor the hook. -/
theorem along_of_any (h : chain.any isOwner = true) (hook : String) :
    (along isOwner hook chain).generateEvent = false ∧
      (along isOwner hook chain).globalHook = "" := by
  obtain ⟨before, s, after, rfl, hs, hafter⟩ := exists_farthest h
  rw [along_append_cons hs hafter]
  exact ⟨rfl, rfl⟩

/-- A type below an owner calls the same method as the owner. -/
theorem trigger_along_append_cons (hs : isOwner s = true) :
    (along isOwner hook (before ++ s :: after)).trigger = (along isOwner hook after).trigger := by
  cases hafter : after.any isOwner with
  | false => rw [along_append_cons hs hafter, along_of_any_eq_false hafter, ofOwner]
  | true =>
    -- the farthest owner is the same, seen from either place
    obtain ⟨nearer, owner, farther, rfl, howner, hfarther⟩ := exists_farthest hafter
    rw [along_append_cons howner hfarther, ← List.cons_append, ← List.append_assoc,
      along_append_cons howner hfarther]

theorem generateEvent_along_iff :
    (along isOwner hook chain).generateEvent = true ↔
      ∀ s ∈ chain, isOwner s = false ∧ s.hasMember changeEvent = false := by
  cases h : chain.any isOwner with
  | true =>
    obtain ⟨s, hs, howner⟩ := List.any_eq_true.mp h
    simp only [(along_of_any h hook).1, Bool.false_eq_true, false_iff]
    intro hall
    rw [(hall s hs).1] at howner
    cases howner
  | false =>
    have hnone : ∀ s ∈ chain, isOwner s = false := by simpa using h
    rw [along_of_any_eq_false h, ofChain]
    simp only [Bool.not_eq_true', List.any_eq_false, Bool.not_eq_true]
    exact forall₂_congr fun s hs => (and_iff_right (hnone s hs)).symm

theorem find?_reverse_eq_some (h : chain.reverse.find? isOwner = some s) :
    ∃ before after, chain = before ++ s :: after ∧ isOwner s = true ∧
      after.any isOwner = false := by
  obtain ⟨hs, farther, nearer, hreverse, hfarther⟩ := List.find?_eq_some_iff_append.mp h
  refine ⟨nearer.reverse, farther.reverse, ?_, hs, ?_⟩
  · rw [← List.reverse_reverse chain, hreverse]
    simp
  · simpa using hfarther

end EventPolicy

namespace Batch

open Code (SourceFile)

variable {model : Model} {options : Options} {units : List SourceUnit} {names : List String}
  {hook : String} {t : ObservableType} {policy : EventPolicy} {chain : List Symbol}
  {file : SourceFile}

/-- A symbol with the qualified name of a type that is generated. -/
def isOwner (names : List String) (s : Symbol) : Bool :=
  names.contains (qualifiedNameIn s.namespaceName s.name)

/-- The policy of a known type. -/
theorem policyOf_of_ancestorsOf (h : model.AncestorsOf t.key chain) :
    policyOf model hook names t = .ok (.along (isOwner names) hook chain) := by
  obtain ⟨own, hown, hchain⟩ := h
  rw [policyOf, hown]
  refine except_bind_eq_ok.mpr ⟨chain, hchain, ?_⟩
  have hfind : (chain.reverse.find? fun s =>
      names.contains (qualifiedNameIn s.namespaceName s.name)) =
        chain.reverse.find? (isOwner names) := rfl
  cases howner : chain.reverse.find? (isOwner names) with
  | some owner =>
    obtain ⟨before, after, rfl, hs, hafter⟩ := EventPolicy.find?_reverse_eq_some howner
    simp only [hfind, howner, (Model.ancestors_append_eq_ok hchain).2,
      EventPolicy.along_append_cons hs hafter]
    rfl
  | none =>
    have hany : chain.any (isOwner names) = false := by simpa using howner
    simp only [hfind, howner, EventPolicy.along_of_any_eq_false hany]
    rfl

/-- The ancestors of the symbol of a type decide its policy, or that it has none. -/
theorem policyOf_of_lookup? {own : Symbol} (hown : model.lookup? t.key = some own) :
    policyOf model hook names t = (model.ancestors own).map (.along (isOwner names) hook) := by
  cases hchain : model.ancestors own with
  | ok chain => exact policyOf_of_ancestorsOf ⟨own, hown, hchain⟩
  | error e =>
    rw [policyOf, hown]
    simp only [hchain]
    rfl

theorem ancestorsOf_of_policyOf {own : Symbol} (hown : model.lookup? t.key = some own)
    (h : policyOf model hook names t = .ok policy) : ∃ chain, model.AncestorsOf t.key chain := by
  rw [policyOf, hown] at h
  obtain ⟨chain, hchain, -⟩ := except_bind_eq_ok.mp h
  exact ⟨chain, own, hown, hchain⟩

/-- Without a policy the whole batch is aborted. -/
theorem skipsType_of_policyOf {e : GenerateError} (h : policyOf model hook names t = .error e) :
    e.skipsType = false := by
  cases hown : model.lookup? t.key with
  | none =>
    rw [policyOf, hown] at h
    cases h
  | some own =>
    rw [policyOf_of_lookup? hown] at h
    cases hchain : model.ancestors own with
    | ok chain =>
      rw [hchain] at h
      cases h
    | error e' =>
      rw [hchain] at h
      cases h
      rw [Model.ancestorsFrom_eq_error hchain]
      rfl

/-- If only the type is skipped, its properties are not valid. -/
theorem not_valid_of_skipsType {e : GenerateError}
    (herror : observableFile model options names t = .error e) (hskips : e.skipsType = true) :
    t.validate ≠ .ok () := by
  intro hvalid
  cases hpolicy : policyOf model options.globalHookName names t with
  | ok policy =>
    obtain ⟨file, hfile⟩ := observableFile_of_valid hvalid hpolicy
    cases herror.symm.trans hfile
  | error e' =>
    have hfile : observableFile model options names t = .error e' :=
      except_bind_eq_error.mpr (.inl hpolicy)
    cases herror.symm.trans hfile
    rw [skipsType_of_policyOf hpolicy] at hskips
    cases hskips

/-! ## Emitted files -/

/-- A file declares and calls what a policy says. -/
structure Follows (file : SourceFile) (policy : EventPolicy) : Prop where
  declaresEvent : file.declaresEvent = policy.generateEvent
  declaresTrigger : file.declaresTrigger = policy.generateEvent
  declaresGlobalHook : file.declaresGlobalHook = true ↔ policy.globalHook ≠ ""
  settersCall : file.SettersCall policy.trigger

/-- Where an emitted file comes from. -/
structure EmittedFrom (model : Model) (options : Options) (units : List SourceUnit)
    (file : SourceFile) (t : ObservableType) : Prop where
  entry : (ObservableType.collect units).get? t.qualifiedName = some t
  observableFile : observableFile model options (owners (ObservableType.collect units)) t = .ok file
  valid : t.validate = .ok ()
  key : file.key = t.key
  qualifiedName : file.qualifiedName = t.qualifiedName

theorem get?_collect_qualifiedName {name : String}
    (h : (ObservableType.collect units).get? name = some t) : name = t.qualifiedName := by
  obtain ⟨part, -, rfl, hof⟩ := ObservableType.allDeclared_collect units name t h
  exact hof.qualifiedName_eq.symm

theorem isCompanion_of_observableFile (h : observableFile model options names t = .ok file) :
    ∃ policy, policyOf model options.globalHookName names t = .ok policy ∧
      (prepare model policy t).IsCompanion file := by
  obtain ⟨policy, hpolicy, hsynthesize⟩ := observableFile_eq_ok_iff.mp h
  exact ⟨policy, hpolicy, ObservableType.isCompanion_of_synthesize hsynthesize⟩

theorem validate_of_observableFile (h : observableFile model options names t = .ok file) :
    t.validate = .ok () := by
  obtain ⟨policy, -, hsynthesize⟩ := observableFile_eq_ok_iff.mp h
  exact validate_prepare.symm.trans (ObservableType.synthesize_eq_ok_iff.mp hsynthesize).1

theorem exists_emittedFrom (h : file ∈ emitted (observableTasks model options units)) :
    ∃ t, EmittedFrom model options units file t := by
  obtain ⟨t, ht, hfile⟩ := exists_of_mem_emitted h
  obtain ⟨name, hentry⟩ := Registry.mem_values_iff.mp ht
  obtain rfl := get?_collect_qualifiedName hentry
  obtain ⟨policy, -, hcompanion⟩ := isCompanion_of_observableFile hfile
  exact ⟨t, hentry, hfile, validate_of_observableFile hfile, hcompanion.key,
    hcompanion.qualifiedName⟩

theorem EmittedFrom.isOf (h : EmittedFrom model options units file t) :
    ∃ part ∈ Model.declarations units, t.IsOf part.2 := by
  obtain ⟨part, hpart, -, hof⟩ := ObservableType.allDeclared_collect units _ t h.entry
  exact ⟨part, hpart, hof⟩

/-- An emitted file follows the policy of its chain. -/
theorem follows_along (h : file ∈ emitted (observableTasks model options units))
    (hchain : model.AncestorsOf file.key chain) :
    Follows file (.along (isOwner (owners (ObservableType.collect units))) options.globalHookName
      chain) := by
  obtain ⟨t, ht⟩ := exists_emittedFrom h
  obtain ⟨policy, hpolicy, hcompanion⟩ := isCompanion_of_observableFile ht.observableFile
  rw [ht.key] at hchain
  obtain rfl := Except.ok.inj (hpolicy.symm.trans (policyOf_of_ancestorsOf hchain))
  refine ⟨hcompanion.declaresEvent, hcompanion.declaresTrigger, ?_, ?_, ?_⟩
  · rw [hcompanion.declaresGlobalHook]
    exact decide_eq_true_iff
  · have hfields := ObservableType.fields_ne_nil_of_get?_collect units _ t ht.entry
    simpa [hcompanion.properties, prepare] using hfields
  · rw [hcompanion.setterCalls, hcompanion.properties, List.map_map]
    rfl

theorem mem_owners_iff {name : String} :
    name ∈ owners (ObservableType.collect units) ↔
      ∃ t, (ObservableType.collect units).get? name = some t ∧ t.validate = .ok () := by
  have hok (t : ObservableType) : t.validate.isOk = true ↔ t.validate = .ok () := by
    cases t.validate <;> simp [Except.isOk, Except.toBool]
  simp only [owners, List.mem_map, List.mem_filter, Prod.exists, hok,
    ← Registry.get?_eq_some_iff]
  constructor
  · rintro ⟨_, t, h, rfl⟩
    exact ⟨t, h⟩
  · rintro ⟨t, h⟩
    exact ⟨name, t, h, rfl⟩

theorem EmittedFrom.mem_owners (h : EmittedFrom model options units file t) :
    t.qualifiedName ∈ owners (ObservableType.collect units) :=
  mem_owners_iff.mpr ⟨t, h.entry, h.valid⟩

/-- The task of a type. -/
def observableTask (model : Model) (options : Options) (units : List SourceUnit)
    (t : ObservableType) : Task :=
  ⟨t.fullName, t.name,
    .ofExcept (observableFile model options (owners (ObservableType.collect units)) t)⟩

/-- A batch that is not aborted comes to the task of every type. -/
theorem observableTask_mem_reached {output : Output} {name : String}
    (hrun : (generateObservable model options units output).1.aborted = false)
    (hentry : (ObservableType.collect units).get? name = some t) :
    observableTask model options units t ∈ reached (observableTasks model options units) ∧
      (observableTask model options units t).aborts = false := by
  have htask : observableTask model options units t ∈ observableTasks model options units :=
    List.mem_map.mpr ⟨t, Registry.mem_values_iff.mpr ⟨name, hentry⟩, rfl⟩
  have hnone : (observableTasks model options units).any Task.aborts = false :=
    (run_aborted ..).symm.trans hrun
  rw [reached_of_not_aborts hnone]
  exact ⟨htask, by simpa using List.any_eq_false.mp hnone _ htask⟩

theorem skipsType_of_not_aborts {e : GenerateError}
    (h : (observableTask model options units t).aborts = false)
    (herror : observableFile model options (owners (ObservableType.collect units)) t = .error e) :
    e.skipsType = true := by
  simpa [observableTask, Task.aborts, herror, Outcome.ofExcept] using h

/-- Unless the batch is aborted, every type that can own the event is generated. -/
theorem exists_emitted_of_mem_owners {output : Output} {name : String}
    (hrun : (generateObservable model options units output).1.aborted = false)
    (h : name ∈ owners (ObservableType.collect units)) :
    ∃ file ∈ emitted (observableTasks model options units), file.qualifiedName = name := by
  obtain ⟨t, hentry, hvalid⟩ := mem_owners_iff.mp h
  obtain ⟨hreached, hgoes⟩ := observableTask_mem_reached hrun hentry
  cases hfile : observableFile model options (owners (ObservableType.collect units)) t with
  | error e =>
    have hskips : e.skipsType = true := skipsType_of_not_aborts hgoes hfile
    exact absurd hvalid (not_valid_of_skipsType hfile hskips)
  | ok file =>
    refine ⟨file, mem_emitted_iff.mpr ⟨_, hreached, Outcome.ofExcept_eq_file_iff.mpr hfile⟩, ?_⟩
    obtain ⟨policy, -, hcompanion⟩ := isCompanion_of_observableFile hfile
    exact hcompanion.qualifiedName.trans (get?_collect_qualifiedName hentry).symm

end Batch

end Companion
