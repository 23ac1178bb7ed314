import Companion.Proofs.Batch.Policies

/-!
# One event in every chain

The types of a chain that are generated in one batch share one event, one method that raises it and
one global hook (`chain_shares_event`). That a type without an event of its own has one above it,
and that no event is declared twice, does not follow: the batch knows its types by name only, not
by the number of their type parameters, and it does not look at what a type itself declares.
`hasEventAbove_iff` and `declared_once_iff` say when it holds nevertheless.
-/

namespace Companion.Batch

open Code (SourceFile)

variable {model : Model} {options : Options} {units : List SourceUnit} {s : Symbol}
  {file : SourceFile}

/-! ## Symbols and files with the same name -/

/-- Files of types with the same full name are the same. -/
theorem eq_of_fullName_eq {other : SourceFile} (hunits : Model.PlainNames units)
    (hfile : file ∈ emitted (observableTasks model options units))
    (hother : other ∈ emitted (observableTasks model options units))
    (h : file.key.1 = other.key.1) : file = other := by
  obtain ⟨t, ht⟩ := exists_emittedFrom hfile
  obtain ⟨u, hu⟩ := exists_emittedFrom hother
  obtain ⟨part, hpart, htof⟩ := ht.isOf
  obtain ⟨part', hpart', huof⟩ := hu.isOf
  rw [ht.key, hu.key] at h
  obtain ⟨hns, hname⟩ := fullNameIn_inj (htof.name ▸ hunits part hpart)
    (huof.name ▸ hunits part' hpart') h
  have hqualified : t.qualifiedName = u.qualifiedName := by
    rw [ObservableType.qualifiedName, ObservableType.qualifiedName, hns, hname]
  obtain rfl : t = u := Option.some.inj (ht.entry.symm.trans (hqualified ▸ hu.entry))
  exact Except.ok.inj (ht.observableFile.symm.trans hu.observableFile)

/-- The symbol of an emitted type is an owner. -/
theorem isOwner_of_fullName_eq (hunits : Model.PlainNames units) (hs : s.IsPlain)
    (hfile : file ∈ emitted (observableTasks model options units))
    (h : s.fullName = file.key.1) : isOwner (owners (ObservableType.collect units)) s = true := by
  obtain ⟨t, ht⟩ := exists_emittedFrom hfile
  obtain ⟨part, hpart, hof⟩ := ht.isOf
  rw [ht.key] at h
  obtain ⟨hns, hname⟩ := hs.eq_of_fullName (hof.name ▸ hunits part hpart) h
  rw [isOwner, List.contains_iff_mem, hns, hname]
  exact ht.mem_owners

/-- Unless the batch is aborted, an owner has the full name of an emitted type. -/
theorem exists_emitted_of_isOwner {output : Output} (hunits : Model.PlainNames units)
    (hs : s.IsPlain) (hrun : (generateObservable model options units output).1.aborted = false)
    (h : isOwner (owners (ObservableType.collect units)) s = true) :
    ∃ file ∈ emitted (observableTasks model options units), file.key.1 = s.fullName := by
  rw [isOwner, List.contains_iff_mem] at h
  obtain ⟨file, hfile, hname⟩ := exists_emitted_of_mem_owners hrun h
  obtain ⟨t, ht⟩ := exists_emittedFrom hfile
  obtain ⟨part, hpart, hof⟩ := ht.isOf
  rw [ht.qualifiedName] at hname
  obtain ⟨hns, hname⟩ := qualifiedNameIn_inj (hof.namespaceName ▸ properNamespace_ne_empty _)
    hs.namespaceName (hof.name ▸ hunits part hpart) hs.name hname
  refine ⟨file, hfile, ?_⟩
  rw [ht.key, ObservableType.key, ObservableType.fullName, hns, hname]
  rfl

/-- The model of the units knows every type of the batch, and its chain. -/
theorem exists_ancestorsOf
    (hfile : file ∈ emitted (observableTasks (.ofUnits units) options units)) :
    ∃ chain, (Model.ofUnits units).AncestorsOf file.key chain := by
  obtain ⟨t, ht⟩ := exists_emittedFrom hfile
  obtain ⟨part, hpart, hof⟩ := ht.isOf
  obtain ⟨own, hown, -⟩ := Model.knows_ofUnits hpart
  obtain ⟨policy, hpolicy, -⟩ := isCompanion_of_observableFile ht.observableFile
  rw [ht.key]
  exact ancestorsOf_of_policyOf (hof.key_eq ▸ hown) hpolicy

/-! ## What the types of a chain share -/

section

variable {chain : List Symbol} {owner : SourceFile}

/-- A type with an ancestor in the batch declares nothing, and calls what the ancestor calls. -/
theorem shares_of_ancestor (hmodel : model.IsPlain) (hunits : Model.PlainNames units)
    (hfile : file ∈ emitted (observableTasks model options units))
    (howner : owner ∈ emitted (observableTasks model options units))
    (hchain : model.AncestorsOf file.key chain) (hkey : owner.key ∈ chain.map Symbol.key) :
    file.declaresEvent = false ∧ file.declaresTrigger = false ∧
      file.declaresGlobalHook = false ∧
      ∃ trigger, file.SettersCall trigger ∧ owner.SettersCall trigger := by
  obtain ⟨s, hs, hskey⟩ := List.mem_map.mp hkey
  have hisOwner : isOwner (owners (ObservableType.collect units)) s = true :=
    isOwner_of_fullName_eq hunits (hmodel s (hchain.mem_symbols hs)) howner
      (congrArg Prod.fst hskey)
  obtain ⟨before, after, rfl⟩ := List.append_of_mem hs
  have hfollows := follows_along hfile hchain
  have hownerFollows := follows_along howner (hskey ▸ hchain.of_append)
  have hnothing := EventPolicy.along_of_any (List.any_eq_true.mpr ⟨s, hs, hisOwner⟩)
    options.globalHookName
  refine ⟨hfollows.declaresEvent.trans hnothing.1, hfollows.declaresTrigger.trans hnothing.1, ?_,
    _, ?_, hownerFollows.settersCall⟩
  · rw [← Bool.not_eq_true, hfollows.declaresGlobalHook]
    exact not_not_intro hnothing.2
  · rw [← EventPolicy.trigger_along_append_cons hisOwner]
    exact hfollows.settersCall

/-- Of two members of a list one comes after the other, unless they are the same. -/
theorem mem_after_or_mem_after {α : Type} {l : List α} {a b : α} (ha : a ∈ l) (hb : b ∈ l)
    (hne : a ≠ b) :
    (∃ before after, l = before ++ a :: after ∧ b ∈ after) ∨
      ∃ before after, l = before ++ b :: after ∧ a ∈ after := by
  obtain ⟨before, after, rfl⟩ := List.append_of_mem ha
  rcases List.mem_append.mp hb with hbefore | hafter
  · obtain ⟨first, rest, rfl⟩ := List.append_of_mem hbefore
    exact .inr ⟨first, rest ++ a :: after, by simp, by simp⟩
  · rcases List.mem_cons.mp hafter with rfl | hafter
    · exact absurd rfl hne
    · exact .inl ⟨before, after, rfl, hafter⟩

/-- Of two types of one chain, one has the other as its ancestor. -/
theorem eq_or_ancestor {key : TypeKey} {origin : Symbol} {other : SourceFile}
    (hunits : Model.PlainNames units) (horigin : model.lookup? key = some origin)
    (hchain : model.ancestors origin = .ok chain)
    (hfile : file ∈ emitted (observableTasks model options units))
    (hother : other ∈ emitted (observableTasks model options units))
    (hfileKey : file.key ∈ (origin :: chain).map Symbol.key)
    (hotherKey : other.key ∈ (origin :: chain).map Symbol.key) :
    file = other ∨
      (∃ rest, model.AncestorsOf file.key rest ∧ other.key ∈ rest.map Symbol.key) ∨
      ∃ rest, model.AncestorsOf other.key rest ∧ file.key ∈ rest.map Symbol.key := by
  obtain ⟨a, ha, hakey⟩ := List.mem_map.mp hfileKey
  obtain ⟨b, hb, hbkey⟩ := List.mem_map.mp hotherKey
  have hancestors : model.AncestorsOf key chain := ⟨origin, horigin, hchain⟩
  have horiginKey := Model.key_of_lookup? horigin
  by_cases hab : a = b
  · subst hab
    exact .inl (eq_of_fullName_eq hunits hfile hother
      (congrArg Prod.fst (hakey.symm.trans hbkey)))
  · rcases mem_after_or_mem_after ha hb hab with
      ⟨before, after, heq, hmem⟩ | ⟨before, after, heq, hmem⟩
    · have hafter := hancestors.of_cons_eq_append horiginKey heq
      exact .inr (.inl ⟨after, hakey ▸ hafter, List.mem_map.mpr ⟨b, hmem, hbkey⟩⟩)
    · have hafter := hancestors.of_cons_eq_append horiginKey heq
      exact .inr (.inr ⟨after, hbkey ▸ hafter, List.mem_map.mpr ⟨a, hmem, hakey⟩⟩)

end

/-- A type below another one of the batch declares neither event nor trigger nor global hook, and
each of its setters calls the method that the setters of the other call. So of the types of one
chain at most one declares the event, and at most one the global hook. -/
theorem chain_shares_event {declared : List SourceUnit} {symbols : List Symbol}
    (hdeclared : Model.PlainNames declared) (hsymbols : ∀ s ∈ symbols, s.IsPlain)
    (hunits : Model.PlainNames units) (options : Options) :
    let model := symbols.foldl Model.insert (Model.ofUnits declared)
    let files := emitted (observableTasks model options units)
    (∀ file ∈ files, ∀ owner ∈ files, ∀ chain, model.AncestorsOf file.key chain →
      owner.key ∈ chain.map Symbol.key →
        file.declaresEvent = false ∧ file.declaresTrigger = false ∧
          file.declaresGlobalHook = false ∧
          ∃ trigger, file.SettersCall trigger ∧ owner.SettersCall trigger) ∧
    ∀ key origin chain, model.lookup? key = some origin → model.ancestors origin = .ok chain →
      ∀ file ∈ files, ∀ other ∈ files, file.key ∈ (origin :: chain).map Symbol.key →
        other.key ∈ (origin :: chain).map Symbol.key →
        (file.declaresEvent = true → other.declaresEvent = true → file = other) ∧
        (file.declaresGlobalHook = true → other.declaresGlobalHook = true → file = other) := by
  intro model files
  have hmodel : model.IsPlain := (Model.isPlain_ofUnits hdeclared).insertAll hsymbols
  refine ⟨fun file hfile owner howner chain hchain hkey =>
    shares_of_ancestor hmodel hunits hfile howner hchain hkey, ?_⟩
  intro key origin chain horigin hchain file hfile other hother hfileKey hotherKey
  rcases eq_or_ancestor hunits horigin hchain hfile hother hfileKey hotherKey with
    rfl | ⟨rest, hrest, hmem⟩ | ⟨rest, hrest, hmem⟩
  · exact ⟨fun _ _ => rfl, fun _ _ => rfl⟩
  · obtain ⟨hevent, -, hhook, -⟩ := shares_of_ancestor hmodel hunits hfile hother hrest hmem
    constructor
    · intro hdeclares
      rw [hevent] at hdeclares
      cases hdeclares
    · intro hdeclares
      rw [hhook] at hdeclares
      cases hdeclares
  · obtain ⟨hevent, -, hhook, -⟩ := shares_of_ancestor hmodel hunits hother hfile hrest hmem
    constructor
    · intro _ hdeclares
      rw [hevent] at hdeclares
      cases hdeclares
    · intro _ hdeclares
      rw [hhook] at hdeclares
      cases hdeclares

/-- A field that is to become a property. -/
def markedField (field property : String) : FieldDecl :=
  { name := some field
    typeName := some "int"
    attributes := [⟨"MakeProperty", ["\"" ++ property ++ "\""]⟩] }

/-- Two types of a batch, one below the other. -/
def nodeAndLeaf : List SourceUnit :=
  [{ types := [
      { namespaceName := some "App", name := "Leaf", baseList := ["Node"]
        fields := [markedField "_size" "Size"] },
      { namespaceName := some "App", name := "Node", fields := [markedField "_id" "Id"] }] }]

/-- A type from elsewhere that has the event, and the upper one of the two types below it. -/
def rootAndNode : List Symbol :=
  [{ namespaceName := some "Lib", name := "Root"
     members := [.event "PropertyChanged" "PropertyChangedEventHandler",
       .method "RaisePropertyChanged" "void" ["string"]] },
    { namespaceName := some "App", name := "Node", base := some ("Lib.Root", 0) }]

/-- Both types call the method that the type from elsewhere has. -/
theorem node_shares_with_leaf :
    let model := rootAndNode.foldl Model.insert (Model.ofUnits nodeAndLeaf)
    let files := emitted (observableTasks model {} nodeAndLeaf)
    ∃ leaf ∈ files, ∃ node ∈ files, leaf.key = ("App.Leaf", 0) ∧ node.key = ("App.Node", 0) ∧
      leaf.declaresEvent = false ∧ leaf.declaresTrigger = false ∧
      leaf.declaresGlobalHook = false ∧
      leaf.SettersCall "RaisePropertyChanged" ∧ node.SettersCall "RaisePropertyChanged" := by
  intro model files
  have hdeclared : Model.PlainNames nodeAndLeaf := by decide +kernel
  have hsymbols : ∀ s ∈ rootAndNode, s.IsPlain := by
    rintro s (_ | ⟨_, _ | ⟨_, ⟨⟩⟩⟩)
    · exact ⟨by decide, by decide⟩
    · exact ⟨by decide, by decide⟩
  have hfiles : ∃ leaf ∈ files, ∃ node ∈ files, leaf.key = ("App.Leaf", 0) ∧
      node.key = ("App.Node", 0) ∧ some "RaisePropertyChanged" ∈ node.setterCalls := by
    decide +kernel
  have hchain : (model.lookup? ("App.Leaf", 0)).map
      (fun s => (model.ancestors s).map (·.map (·.key))) =
        some (.ok [("App.Node", 0), ("Lib.Root", 0)]) := by
    decide +kernel
  obtain ⟨leaf, hleaf, node, hnode, hleafKey, hnodeKey, hcalls⟩ := hfiles
  obtain ⟨s, hs, hancestors⟩ := Option.map_eq_some_iff.mp hchain
  cases hresult : model.ancestors s with
  | error e =>
    rw [hresult] at hancestors
    cases hancestors
  | ok chain =>
    rw [hresult] at hancestors
    have hkeys : chain.map (·.key) = [("App.Node", 0), ("Lib.Root", 0)] :=
      Except.ok.inj hancestors
    obtain ⟨hevent, htrigger, hhook, trigger, hsame⟩ :=
      (chain_shares_event hdeclared hsymbols hdeclared {}).1 leaf hleaf node hnode chain
        ⟨s, hleafKey ▸ hs, hresult⟩ (by rw [hkeys, hnodeKey]; simp)
    rw [hsame.2.2] at hcalls
    obtain ⟨_, -, hcall⟩ := List.mem_map.mp hcalls
    obtain rfl : trigger = "RaisePropertyChanged" := Option.some.inj hcall
    exact ⟨leaf, hleaf, node, hnode, hleafKey, hnodeKey, hevent, htrigger, hhook, hsame⟩

/-! ## An event above every type without one -/

/-- Some ancestor has the event: it declares it, or its companion does. -/
def HasEventAbove (files : List SourceFile) (chain : List Symbol) : Prop :=
  ∃ s ∈ chain, s.hasMember changeEvent = true ∨
    ∃ owner ∈ files, owner.key = s.key ∧ owner.declaresEvent = true

/-- Types with the same full name have the same number of type parameters. -/
def NoOverloads (units : List SourceUnit) : Prop :=
  ∀ part ∈ Model.declarations units, ∀ part' ∈ Model.declarations units,
    part.2.fullName = part'.2.fullName → part.2.arity = part'.2.arity

instance (units : List SourceUnit) : Decidable (NoOverloads units) :=
  inferInstanceAs (Decidable (∀ part ∈ Model.declarations units,
    ∀ part' ∈ Model.declarations units,
      part.2.fullName = part'.2.fullName → part.2.arity = part'.2.arity))

/-- The farthest ancestor with the full name of a generated type is that type. -/
def HasOwnerAbove (files : List SourceFile) (chain : List Symbol) : Prop :=
  ∃ nearer s farther, chain = nearer ++ s :: farther ∧ (∃ owner ∈ files, owner.key = s.key) ∧
    ∀ r ∈ farther, ∀ other ∈ files, other.key.1 ≠ r.fullName

section

variable {output : Output} {chain : List Symbol}

theorem hasEventAbove_iff_of_chain (hunits : Model.PlainNames units) (hmodel : model.IsPlain)
    (hrun : (generateObservable model options units output).1.aborted = false)
    {key : TypeKey} (hchain : model.AncestorsOf key chain) :
    HasEventAbove (emitted (observableTasks model options units)) chain ↔
      (∃ s ∈ chain, s.hasMember changeEvent = true) ∨
        HasOwnerAbove (emitted (observableTasks model options units)) chain := by
  constructor
  · rintro ⟨s, hs, hmember | ⟨owner, howner, hkey, hevent⟩⟩
    · exact .inl ⟨s, hs, hmember⟩
    · obtain ⟨nearer, farther, rfl⟩ := List.append_of_mem hs
      have hfarther := hchain.of_append
      rw [(follows_along howner (hkey ▸ hfarther)).declaresEvent,
        EventPolicy.generateEvent_along_iff] at hevent
      refine .inr ⟨nearer, s, farther, rfl, ⟨owner, howner, hkey⟩, ?_⟩
      intro r hr other hother hname
      have hplain := hmodel r (hfarther.mem_symbols hr)
      have hisOwner := isOwner_of_fullName_eq hunits hplain hother hname.symm
      rw [(hevent r hr).1] at hisOwner
      cases hisOwner
  · rintro (⟨s, hs, hmember⟩ | ⟨nearer, s, farther, rfl, ⟨owner, howner, hkey⟩, hnames⟩)
    · exact ⟨s, hs, .inl hmember⟩
    · have hfarther := hchain.of_append
      have hfollows := follows_along howner (hkey ▸ hfarther)
      cases hevent : owner.declaresEvent with
      | true => exact ⟨s, by simp, .inr ⟨owner, howner, hkey, hevent⟩⟩
      | false =>
        -- then the owner has no owner above it, so there must be a declared event
        rw [hfollows.declaresEvent, ← Bool.not_eq_true, EventPolicy.generateEvent_along_iff]
          at hevent
        push Not at hevent
        obtain ⟨r, hr, hdeclares⟩ := hevent
        refine ⟨r, by simp [hr], .inl ?_⟩
        rw [← Bool.not_eq_false]
        apply hdeclares
        rw [← Bool.not_eq_true]
        intro hisOwner
        have hplain := hmodel r (hfarther.mem_symbols hr)
        obtain ⟨other, hother, hname⟩ := exists_emitted_of_isOwner hunits hplain hrun hisOwner
        exact hnames r hr other hother hname

/-- Without overloads a type that leaves the event to its ancestors has it there. -/
theorem hasEventAbove_of_noOverloads (hunits : Model.PlainNames units)
    (hrun : (generateObservable (.ofUnits units) options units output).1.aborted = false)
    (hfile : file ∈ emitted (observableTasks (.ofUnits units) options units))
    (hevent : file.declaresEvent = false)
    (hchain : (Model.ofUnits units).AncestorsOf file.key chain) (harity : NoOverloads units) :
    HasEventAbove (emitted (observableTasks (.ofUnits units) options units)) chain := by
  have hmodel := Model.isPlain_ofUnits hunits
  rw [hasEventAbove_iff_of_chain hunits hmodel hrun hchain, or_iff_not_imp_left]
  intro hnone
  have hany : chain.any (isOwner (owners (ObservableType.collect units))) = true := by
    rw [← Bool.not_eq_false]
    intro hno
    rw [(follows_along hfile hchain).declaresEvent, ← Bool.not_eq_true,
      EventPolicy.generateEvent_along_iff] at hevent
    apply hevent
    intro s hs
    refine ⟨List.any_eq_false.mp hno s hs |> Bool.eq_false_iff.mpr, ?_⟩
    rw [← Bool.not_eq_true]
    exact fun hmember => hnone ⟨s, hs, hmember⟩
  obtain ⟨nearer, s, farther, rfl, hs, hfarther⟩ := EventPolicy.exists_farthest hany
  have hsymbol := hchain.mem_symbols (a := s) (by simp)
  obtain ⟨owner, howner, hname⟩ := exists_emitted_of_isOwner hunits (hmodel s hsymbol) hrun hs
  refine ⟨nearer, s, farther, rfl, ⟨owner, howner, ?_⟩, ?_⟩
  · obtain ⟨t, ht⟩ := exists_emittedFrom howner
    obtain ⟨part, hpart, hof⟩ := ht.isOf
    obtain ⟨part', hpart', hof'⟩ := Model.isDeclared_ofUnits units s hsymbol
    rw [ht.key, hof.key_eq] at hname ⊢
    have hfull : part.2.fullName = part'.2.fullName :=
      hname.trans (congrArg Prod.fst hof'.key_eq)
    rw [hof'.key_eq]
    exact Prod.ext hfull (harity part hpart part' hpart' hfull)
  · intro r hr other hother hother'
    have hisOwner := isOwner_of_fullName_eq hunits
      (hmodel r (hchain.mem_symbols (by simp [hr]))) hother hother'.symm
    have hnot := List.any_eq_false.mp hfarther r hr
    exact hnot hisOwner

end

/-- A type that leaves the event to its ancestors has it there exactly if one of them declares it,
or the farthest of them with the full name of a generated type is that type and not one with another
number of type parameters. Without such overloads this is always so. -/
theorem hasEventAbove_iff {output : Output} (hunits : Model.PlainNames units)
    (hrun : (generateObservable (.ofUnits units) options units output).1.aborted = false)
    (hfile : file ∈ emitted (observableTasks (.ofUnits units) options units))
    (hevent : file.declaresEvent = false) :
    let files := emitted (observableTasks (.ofUnits units) options units)
    ∃ chain, (Model.ofUnits units).AncestorsOf file.key chain ∧
      (HasEventAbove files chain ↔
        (∃ s ∈ chain, s.hasMember changeEvent = true) ∨ HasOwnerAbove files chain) ∧
      (NoOverloads units → HasEventAbove files chain) := by
  intro files
  obtain ⟨chain, hchain⟩ := exists_ancestorsOf hfile
  exact ⟨chain, hchain,
    hasEventAbove_iff_of_chain hunits (Model.isPlain_ofUnits hunits) hrun hchain,
    hasEventAbove_of_noOverloads hunits hrun hfile hevent hchain⟩

/-- The lower of two types finds the event in the companion of the upper one. -/
theorem hasEventAbove_leaf :
    let files := emitted (observableTasks (.ofUnits nodeAndLeaf) {} nodeAndLeaf)
    (generateObservable (.ofUnits nodeAndLeaf) {} nodeAndLeaf {}).1.aborted = false ∧
      ∃ leaf ∈ files, leaf.key = ("App.Leaf", 0) ∧ leaf.declaresEvent = false ∧
        ∃ chain, (Model.ofUnits nodeAndLeaf).AncestorsOf leaf.key chain ∧
          HasEventAbove files chain := by
  intro files
  have hunits : Model.PlainNames nodeAndLeaf := by decide +kernel
  have hrun : (generateObservable (.ofUnits nodeAndLeaf) {} nodeAndLeaf {}).1.aborted = false := by
    decide +kernel
  have hleaf : ∃ leaf ∈ files, leaf.key = ("App.Leaf", 0) ∧ leaf.declaresEvent = false := by
    decide +kernel
  obtain ⟨leaf, hfile, hkey, hevent⟩ := hleaf
  obtain ⟨chain, hchain, -, habove⟩ := hasEventAbove_iff hunits hrun hfile hevent
  exact ⟨hrun, leaf, hfile, hkey, hevent, chain, hchain, habove (by decide +kernel)⟩

/-- The base of `Leaf` is not the type `Node` of the batch, but has its name. -/
def overloadedNode : List SourceUnit :=
  [{ types := [
      { namespaceName := some "App", name := "Node", fields := [markedField "_id" "Id"] },
      { namespaceName := some "App", name := "Node", typeParameters := ["T"] },
      { namespaceName := some "App", name := "Leaf", baseList := ["Node<int>"]
        fields := [markedField "_size" "Size"] }] }]

/-- `Leaf` leaves the event to a type that does not have it. -/
theorem not_hasEventAbove_overloadedNode :
    let files := emitted (observableTasks (.ofUnits overloadedNode) {} overloadedNode)
    Model.PlainNames overloadedNode ∧
      (generateObservable (.ofUnits overloadedNode) {} overloadedNode {}).1.aborted = false ∧
      ∃ leaf ∈ files, leaf.declaresEvent = false ∧
        ∃ chain, (Model.ofUnits overloadedNode).AncestorsOf leaf.key chain ∧
          ¬HasEventAbove files chain := by
  intro files
  let base : Symbol := { namespaceName := some "App", name := "Node", arity := 1 }
  have hleaf : ∃ leaf ∈ files, leaf.key = ("App.Leaf", 0) ∧ leaf.declaresEvent = false := by
    decide +kernel
  have hkeys : ∀ file ∈ files, file.key ≠ base.key := by decide +kernel
  have hchain : ((Model.ofUnits overloadedNode).lookup? ("App.Leaf", 0)).map
      (Model.ofUnits overloadedNode).ancestors = some (.ok [base]) := by
    decide +kernel
  obtain ⟨leaf, hfile, hkey, hevent⟩ := hleaf
  obtain ⟨own, hown, hancestors⟩ := Option.map_eq_some_iff.mp hchain
  refine ⟨by decide +kernel, by decide +kernel, leaf, hfile, hevent, [base],
    ⟨own, hkey ▸ hown, hancestors⟩, ?_⟩
  rintro ⟨s, hs, hmember | ⟨owner, howner, hownerKey, -⟩⟩
  · obtain rfl := List.mem_singleton.mp hs
    cases hmember
  · obtain rfl := List.mem_singleton.mp hs
    exact hkeys owner howner hownerKey

/-! ## No event twice -/

/-- The event is never declared below one that an ancestor declares. It is not declared beside one
of the type itself either exactly if some ancestor declares it too, or has the name of a type of the
batch. -/
theorem declared_once_iff
    (hfile : file ∈ emitted (observableTasks (.ofUnits units) options units)) :
    ∃ own chain, (Model.ofUnits units).lookup? file.key = some own ∧
      (Model.ofUnits units).ancestors own = .ok chain ∧
      (file.declaresEvent = true ∨ file.declaresTrigger = true →
        ∀ s ∈ chain, s.hasMember changeEvent = false) ∧
      ((file.declaresEvent = true ∨ file.declaresTrigger = true →
          ∀ s ∈ own :: chain, s.hasMember changeEvent = false) ↔
        (own.hasMember changeEvent = true → ∃ s ∈ chain, s.hasMember changeEvent = true ∨
          isOwner (owners (ObservableType.collect units)) s = true)) := by
  obtain ⟨chain, own, hown, hchain⟩ := exists_ancestorsOf hfile
  have hfollows := follows_along hfile ⟨own, hown, hchain⟩
  have hdeclares : file.declaresEvent = true ∨ file.declaresTrigger = true ↔
      ∀ s ∈ chain, isOwner (owners (ObservableType.collect units)) s = false ∧
        s.hasMember changeEvent = false := by
    rw [hfollows.declaresEvent, hfollows.declaresTrigger, or_self,
      EventPolicy.generateEvent_along_iff]
  refine ⟨own, chain, hown, hchain, ?_, ?_⟩
  · rw [hdeclares]
    exact fun hall s hs => (hall s hs).2
  · rw [hdeclares]
    constructor
    · intro honce hmember
      by_contra hnone
      push Not at hnone
      have hall := honce fun s hs => ⟨by simpa using (hnone s hs).2, by simpa using (hnone s hs).1⟩
      rw [hall own List.mem_cons_self] at hmember
      cases hmember
    · intro hcondition hall
      have hown : own.hasMember changeEvent = false := by
        rw [← Bool.not_eq_true]
        intro hmember
        obtain ⟨s, hs, habove⟩ := hcondition hmember
        rw [(hall s hs).1, (hall s hs).2] at habove
        simp at habove
      rintro s (_ | ⟨_, hs⟩)
      · exact hown
      · exact (hall s hs).2

/-- A type with an event of its own below one with the same event. -/
def eventTwice : List SourceUnit :=
  [{ types := [
      { name := "Counter", baseList := ["Base"], fields := [markedField "_count" "Count"]
        events := [⟨"PropertyChanged", "PropertyChangedEventHandler"⟩] },
      { name := "Base", events := [⟨"PropertyChanged", "PropertyChangedEventHandler"⟩] }] }]

theorem eventTwice_declared_once :
    ∃ file ∈ emitted (observableTasks (.ofUnits eventTwice) {} eventTwice),
      file.key = ("Counter", 0) ∧ file.declaresEvent = false ∧ file.declaresTrigger = false := by
  have hfile : ∃ file ∈ emitted (observableTasks (.ofUnits eventTwice) {} eventTwice),
      file.key = ("Counter", 0) := by
    decide +kernel
  have hbase : ((Model.ofUnits eventTwice).lookup? ("Counter", 0)).map
      (fun s => ((Model.ofUnits eventTwice).ancestors s).map (·.map (·.hasMember changeEvent))) =
      some (.ok [true]) := by
    decide +kernel
  obtain ⟨file, hmem, hkey⟩ := hfile
  obtain ⟨own, chain, hown, hchain, habove, -⟩ := declared_once_iff hmem
  rw [hkey] at hown
  rw [hown, Option.map_some, hchain] at hbase
  have hchainMembers : chain.map (·.hasMember changeEvent) = [true] :=
    Except.ok.inj (Option.some.inj hbase)
  obtain ⟨s, hs, hmember⟩ : ∃ s ∈ chain, s.hasMember changeEvent = true :=
    List.mem_map.mp (hchainMembers ▸ List.mem_singleton.mpr rfl)
  have hnot : ¬(file.declaresEvent = true ∨ file.declaresTrigger = true) := by
    intro hdeclares
    rw [habove hdeclares s hs] at hmember
    cases hmember
  rw [not_or, Bool.not_eq_true, Bool.not_eq_true] at hnot
  exact ⟨file, hmem, hkey, hnot⟩

/-- A type that declares the event itself. -/
def ownEvent : List SourceUnit :=
  [{ types := [
      { namespaceName := some "App", name := "Counter"
        fields := [markedField "_count" "Count"]
        events := [⟨"PropertyChanged", "PropertyChangedEventHandler?"⟩]
        methods := [{ name := "OnPropertyChanged", parameters := [⟨"name", "string"⟩] }] }] }]

/-- The companion declares the event once more. -/
theorem ownEvent_declared_twice :
    ∃ file ∈ emitted (observableTasks (.ofUnits ownEvent) {} ownEvent),
      file.declaresEvent = true ∧ file.declaresTrigger = true ∧
        ∃ own, (Model.ofUnits ownEvent).lookup? file.key = some own ∧
          own.hasMember changeEvent = true := by
  have hfile : ∃ file ∈ emitted (observableTasks (.ofUnits ownEvent) {} ownEvent),
      file.declaresEvent = true ∧ file.declaresTrigger = true ∧
        ((Model.ofUnits ownEvent).lookup? file.key).any (·.hasMember changeEvent) = true := by
    decide +kernel
  obtain ⟨file, hmem, hevent, htrigger, hown⟩ := hfile
  exact ⟨file, hmem, hevent, htrigger, (Option.any_eq_true _ _).mp hown⟩

end Companion.Batch
