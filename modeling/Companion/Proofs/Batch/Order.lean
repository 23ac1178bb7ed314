import Companion.Proofs.Batch.Emission
import Companion.Proofs.Concrete.Collect
import Companion.Proofs.Naming.Unique
import Companion.Proofs.Observable.Collect
import Companion.Proofs.Symbol.Order

/-!
# Batches and the order of the input

If every declared type has one declaration, the order of the units, and of the declarations in them,
does not matter for what a batch does, only for the order in which it does it. The models agree
(`Model.agrees_ofUnits`), the registries have the same entries, and what becomes of a type depends
on these two alone; so the tasks are the same up to their order. Identifiers come from simple names,
and are these names themselves if they differ. `generate_reordered` puts this together.
-/

namespace Companion

/-- The same unit, with its declarations in any order. -/
structure SourceUnit.Reorders (unit unit' : SourceUnit) : Prop where
  path : unit.path = unit'.path
  usings : unit.usings = unit'.usings
  types : unit.types.Perm unit'.types

/-- The same units, in any order and with their declarations in any order. -/
def Reordered (units units' : List SourceUnit) : Prop :=
  ∃ between, units.Perm between ∧ List.Forall₂ SourceUnit.Reorders between units'

/-- No two declarations have the same full name. -/
def DistinctFullNames (units : List SourceUnit) : Prop :=
  ((Model.declarations units).map (·.2.fullName)).Nodup

instance (units : List SourceUnit) : Decidable (DistinctFullNames units) :=
  inferInstanceAs (Decidable ((Model.declarations units).map (·.2.fullName)).Nodup)

variable {units units' : List SourceUnit}

theorem Model.declarations_perm_of_forall₂ (h : List.Forall₂ SourceUnit.Reorders units units') :
    (declarations units).Perm (declarations units') := by
  induction h with
  | nil => exact .nil
  | @cons unit unit' units units' hunit _ ih =>
    have hparts : (unit.types.map (unit.usings, ·)).Perm (unit'.types.map (unit'.usings, ·)) := by
      rw [hunit.usings]
      exact hunit.types.map _
    exact hparts.append ih

theorem Reordered.declarations_perm (h : Reordered units units') :
    (Model.declarations units).Perm (Model.declarations units') := by
  obtain ⟨between, hunits, hdecls⟩ := h
  exact (hunits.flatMap_right _).trans (Model.declarations_perm_of_forall₂ hdecls)

theorem DistinctFullNames.nodup_key (h : DistinctFullNames units) :
    ((Model.declarations units).map (·.2.key)).Nodup := by
  rw [DistinctFullNames, List.Nodup, List.pairwise_map] at h
  rw [List.Nodup, List.pairwise_map]
  exact h.imp fun hne hkey => hne (congrArg Prod.fst hkey)

theorem DistinctFullNames.nodup_qualifiedName (h : DistinctFullNames units)
    (hplain : Model.PlainNames units) :
    ((Model.declarations units).map (·.2.qualifiedName)).Nodup := by
  rw [DistinctFullNames, List.Nodup, List.pairwise_map] at h
  rw [List.Nodup, List.pairwise_map]
  refine h.imp_of_mem fun {part part'} hpart hpart' hne hname => hne ?_
  exact (TypeDecl.qualifiedName_eq_iff (hplain part hpart) (hplain part' hpart')).mp hname

/-! ## Registries -/

theorem ObservableType.get?_collect_perm
    (hperm : (Model.declarations units).Perm (Model.declarations units'))
    (hdistinct : ((Model.declarations units).map (·.2.qualifiedName)).Nodup) :
    (collect units).get? = (collect units').get? := by
  -- two passes: the fields of all declarations, and then their modifiers
  refine find_foldl_perm (·.2.qualifiedName)
    (fun part old => old.map (·.addModifiers part.2.modifiers))
    (fun registry part key => registry.get?_modify _ key _) hperm hdistinct ?_
  refine find_foldl_perm (·.2.qualifiedName)
    (fun part old =>
      if decoratedFields part.2 = [] then old
      else some ((old.getD (ofDecl part.2)).absorb part.1 (decoratedFields part.2)))
    (fun registry part key => ?_) hperm hdistinct rfl
  rw [get?_collectDecl]
  by_cases hkey : key = part.2.qualifiedName
  · by_cases hfields : decoratedFields part.2 = [] <;> simp [hkey, hfields]
  · simp [hkey]

theorem ConcreteType.get?_collect_perm
    (hperm : (Model.declarations units).Perm (Model.declarations units'))
    (hdistinct : ((Model.declarations units).map (·.2.qualifiedName)).Nodup) :
    (collect units).get? = (collect units').get? := by
  have hdecls := hperm.map Prod.snd
  have hnames : (((Model.declarations units).map Prod.snd).map (·.qualifiedName)).Nodup := by
    rwa [List.map_map]
  refine find_foldl_perm (·.qualifiedName) (fun decl old => old.map (·.addModifiers decl.modifiers))
    (fun registry decl key => registry.get?_modify _ key _) hdecls hnames ?_
  exact find_foldl_perm (·.qualifiedName) (fun decl old => old.or (marked? decl))
    get?_collectDecl hdecls hnames rfl

namespace Batch

/-! ## Tasks -/

section

variable {model model' : Model} (h : model.Agrees model')

include h

theorem policyOf_congr {names names' : List String}
    (hnames : ∀ name, names.contains name = names'.contains name) (hook : String)
    (t : ObservableType) : policyOf model hook names t = policyOf model' hook names' t := by
  simp only [policyOf, h.lookup?, h.ancestors_eq, hnames]

theorem observableFile_congr {names names' : List String}
    (hnames : ∀ name, names.contains name = names'.contains name) (options : Options)
    (t : ObservableType) :
    observableFile model options names t = observableFile model' options names' t := by
  simp only [observableFile, policyOf_congr h hnames, Model.requiredNamespaces_congr h.lookup?]

theorem concreteTask_congr (options : Options) (t : ConcreteType) :
    concreteTask model options t = concreteTask model' options t := by
  have href : model.isReference = model'.isReference := by
    funext scope t
    cases t <;> simp only [Model.isReference, Model.resolve?_congr h.lookup?]
  have hread (interface : Symbol) : ConcreteType.readMember? interface model =
      ConcreteType.readMember? interface model' := by
    funext arguments options member
    cases member <;>
      simp only [ConcreteType.readMember?, href, Model.requiredNamespaces_congr h.lookup?]
  have hchains : checkAncestors model = checkAncestors model' := by
    funext key
    simp only [checkAncestors, h.lookup?, h.ancestors_eq]
  simp only [concreteTask, concreteFile, Model.lookupMetadata?_congr h.lookup?, hchains,
    ConcreteType.readProperties, hread]

end

variable {options : Options}

/-- The tasks are the same if the models agree and the same is found in the registries. -/
theorem observableTasks_perm {model model' : Model} (hmodel : model.Agrees model')
    (hregistry : (ObservableType.collect units).get? = (ObservableType.collect units').get?) :
    (observableTasks model options units).Perm (observableTasks model' options units') := by
  have hentries := Registry.entries_perm hregistry
  have howners (name : String) : (owners (ObservableType.collect units)).contains name =
      (owners (ObservableType.collect units')).contains name :=
    ((hentries.filter _).map _).contains_eq
  simp only [observableTasks, observableFile_congr hmodel howners]
  exact (hentries.map _).map _

/-- A type that does not name its interface aborts the batch, whatever stands before it. -/
theorem aborts_concreteTasks {t : ConcreteType} (model : Model) (options : Options)
    (ht : t ∈ (ConcreteType.collect units).values) (hblank : (interfaceNameOf t).isEmpty = true) :
    (concreteTasks model options units).any Task.aborts = true := by
  cases hfind : (ConcreteType.collect units).values.find? fun t => (interfaceNameOf t).isEmpty with
  | none => exact absurd hblank (List.find?_eq_none.mp hfind t ht)
  | some t =>
    rw [concreteTasks, hfind]
    rfl

theorem concreteTasks_of_named (model : Model) (options : Options)
    (h : ∀ t ∈ (ConcreteType.collect units).values, ¬(interfaceNameOf t).isEmpty = true) :
    concreteTasks model options units =
      (ConcreteType.collect units).values.map (concreteTask model options) := by
  rw [concreteTasks, List.find?_eq_none.mpr h]

/-! ## Runs -/

/-- What was done by two runs that are not aborted is the same up to the order, and they are either
both aborted or both not. Identifiers are the same if the names that they are for differ. -/
structure SameUpToOrder (names : List String) (first second : Report × Output) : Prop where
  aborted : first.1.aborted = second.1.aborted
  skipped : first.1.aborted = false → first.1.skipped.Perm second.1.skipped
  diagnostics : first.1.aborted = false → first.2.diagnostics.Perm second.2.diagnostics
  sources : first.1.aborted = false → names.Nodup → first.2.sources.Perm second.2.sources

theorem SameUpToOrder.of_aborted {names : List String} {first second : Report × Output}
    (hfirst : first.1.aborted = true) (hsecond : second.1.aborted = true) :
    SameUpToOrder names first second := by
  have hnot : ¬first.1.aborted = false := by simp [hfirst]
  exact ⟨hfirst.trans hsecond.symm, (absurd · hnot), (absurd · hnot), (absurd · hnot)⟩

theorem sourcesOf_of_nodup (ending : LineEnding) {products : List (String × Code.SourceFile)}
    (h : (products.map Prod.fst).Nodup) :
    sourcesOf ending {} products = products.map fun (name, file) => ⟨name, file.print ending⟩ := by
  rw [sourcesOf, Naming.UniqueNames.assignAll_of_nodup h fun _ _ => List.not_mem_nil]
  simp [List.zipWith_map]

theorem nodup_product?_of_nodup {tasks : List Task} (h : (tasks.map (·.simpleName)).Nodup) :
    ((tasks.filterMap Task.product?).map Prod.fst).Nodup := by
  refine nodup_map_filterMap (fun task product hproduct => ?_) h
  obtain ⟨_, -, rfl⟩ := Option.map_eq_some_iff.mp hproduct
  rfl

theorem run_sameUpToOrder {tasks tasks' : List Task} (hperm : tasks.Perm tasks')
    (ending : LineEnding) (output : Output) :
    SameUpToOrder (tasks.map (·.simpleName)) (run ending output tasks)
      (run ending output tasks') := by
  have haborted : tasks.any Task.aborts = tasks'.any Task.aborts := hperm.any_eq
  -- an aborted run stops at its first such task, so only a run to the end forgets the order
  have hreached (h : (run ending output tasks).1.aborted = false) :
      reached tasks = tasks ∧ reached tasks' = tasks' := by
    rw [run_aborted] at h
    exact ⟨reached_of_not_aborts h, reached_of_not_aborts (haborted.symm.trans h)⟩
  refine ⟨by rw [run_aborted, run_aborted, haborted], fun h => ?_, fun h => ?_, fun h hnames => ?_⟩
  · obtain ⟨hfirst, hsecond⟩ := hreached h
    rw [run_eq, run_eq, hfirst, hsecond]
    exact hperm.filterMap _
  · obtain ⟨hfirst, hsecond⟩ := hreached h
    rw [run_eq, run_eq, hfirst, hsecond]
    exact (hperm.filterMap _).append_left _
  · obtain ⟨hfirst, hsecond⟩ := hreached h
    have hproducts := nodup_product?_of_nodup hnames
    have hproducts' := nodup_product?_of_nodup ((hperm.map _).nodup_iff.mp hnames)
    rw [run_eq, run_eq, hfirst, hsecond]
    simp only [sourcesOf_of_nodup ending hproducts, sourcesOf_of_nodup ending hproducts']
    exact ((hperm.filterMap _).map _).append_left _

theorem generateObservable_sameUpToOrder {model model' : Model} (hmodel : model.Agrees model')
    (hregistry : (ObservableType.collect units).get? = (ObservableType.collect units').get?)
    (options : Options) (output : Output) :
    SameUpToOrder ((ObservableType.collect units).values.map (·.name))
      (generateObservable model options units output)
      (generateObservable model' options units' output) := by
  have hnames : (observableTasks model options units).map (·.simpleName) =
      (ObservableType.collect units).values.map (·.name) := List.map_map
  rw [← hnames]
  exact run_sameUpToOrder (observableTasks_perm hmodel hregistry) options.lineEnding output

theorem generateConcrete_sameUpToOrder {model model' : Model} (hmodel : model.Agrees model')
    (hregistry : (ConcreteType.collect units).get? = (ConcreteType.collect units').get?)
    (options : Options) (output : Output) :
    SameUpToOrder ((ConcreteType.collect units).values.map (·.name))
      (generateConcrete model options units output)
      (generateConcrete model' options units' output) := by
  have hvalues : (ConcreteType.collect units).values.Perm (ConcreteType.collect units').values :=
    (Registry.entries_perm hregistry).map _
  -- which type is named in the error depends on the order, but not that the run is aborted
  by_cases hblank : ∃ t ∈ (ConcreteType.collect units).values, (interfaceNameOf t).isEmpty = true
  · obtain ⟨t, ht, hblank⟩ := hblank
    refine .of_aborted ?_ ?_
    · exact (run_aborted ..).trans (aborts_concreteTasks model options ht hblank)
    · exact (run_aborted ..).trans
        (aborts_concreteTasks model' options (hvalues.mem_iff.mp ht) hblank)
  · have hnamed (t : ConcreteType) (ht : t ∈ (ConcreteType.collect units).values) :
        ¬(interfaceNameOf t).isEmpty = true := fun h => hblank ⟨t, ht, h⟩
    have hnamed' (t : ConcreteType) (ht : t ∈ (ConcreteType.collect units').values) :
        ¬(interfaceNameOf t).isEmpty = true := hnamed t (hvalues.mem_iff.mpr ht)
    have hnames : ((ConcreteType.collect units).values.map (concreteTask model options)).map
        (·.simpleName) = (ConcreteType.collect units).values.map (·.name) := List.map_map
    rw [generateConcrete, generateConcrete, concreteTasks_of_named model options hnamed,
      concreteTasks_of_named model' options hnamed', ← hnames]
    refine run_sameUpToOrder ?_ options.lineEnding output
    rw [funext (concreteTask_congr hmodel options)]
    exact hvalues.map _

/-- Units can be given in any order, and so can the declarations in a unit, as long as no two of
them have the same full name. The model knows the same types, and both batches do the same. -/
theorem generate_reordered (hreordered : Reordered units units')
    (hplain : Model.PlainNames units) (hdistinct : DistinctFullNames units) :
    (∀ key, (Model.ofUnits units).lookup? key = (Model.ofUnits units').lookup? key) ∧
      ∀ options output,
        SameUpToOrder ((ObservableType.collect units).values.map (·.name))
          (generateObservable (.ofUnits units) options units output)
          (generateObservable (.ofUnits units') options units' output) ∧
        SameUpToOrder ((ConcreteType.collect units).values.map (·.name))
          (generateConcrete (.ofUnits units) options units output)
          (generateConcrete (.ofUnits units') options units' output) := by
  have hperm := hreordered.declarations_perm
  have hmodel := Model.agrees_ofUnits hperm hdistinct.nodup_key
  have hnames := hdistinct.nodup_qualifiedName hplain
  refine ⟨congrFun hmodel.lookup?, fun options output => ⟨?_, ?_⟩⟩
  · exact generateObservable_sameUpToOrder hmodel
      (ObservableType.get?_collect_perm hperm hnames) options output
  · exact generateConcrete_sameUpToOrder hmodel
      (ConcreteType.get?_collect_perm hperm hnames) options output

/-- A type with both markers that derives from one in another unit, and a malformed one. -/
def leafFirst : List SourceUnit :=
  [{ types := [
      { namespaceName := some "App", name := "Leaf", baseList := ["Node"]
        attributes := [⟨"MakeConcrete", ["\"App.ILeaf\""]⟩]
        fields := [{ name := some "_size", typeName := some "int"
                     attributes := [⟨"MakeProperty", ["\"Size\""]⟩] }] },
      { namespaceName := some "App", name := "Stem"
        fields := [{ name := some "_id", typeName := some "int"
                     attributes := [⟨"MakeProperty", ["\"1st\""]⟩] }] }] },
    { types := [
      { namespaceName := some "App", name := "ILeaf", kind := .interface
        properties := [{ name := "Color", typeName := "string" }] },
      { namespaceName := some "App", name := "Node"
        fields := [{ name := some "_id", typeName := some "int"
                     attributes := [⟨"MakeProperty", ["\"Id\""]⟩] }] }] }]

/-- The same with everything in reverse. -/
def nodeFirst : List SourceUnit :=
  leafFirst.reverse.map fun unit => { unit with types := unit.types.reverse }

/-- The leaf comes first in one of the runs and last in the other, with the same text: it leaves the
event to the node in both. -/
theorem leafFirst_reordered :
    let first := generateObservable (.ofUnits leafFirst) {} leafFirst {}
    let second := generateObservable (.ofUnits nodeFirst) {} nodeFirst {}
    first.1 = ⟨["Leaf", "Node"], ["App.Stem"], false⟩ ∧
      second.1 = ⟨["Node", "Leaf"], ["App.Stem"], false⟩ ∧
      first.2.sources.Perm second.2.sources ∧ first.2.diagnostics.Perm second.2.diagnostics ∧
      (generateConcrete (.ofUnits leafFirst) {} leafFirst {}).1.generated = ["Leaf"] ∧
      (generateConcrete (.ofUnits leafFirst) {} leafFirst {}).2.sources.Perm
        (generateConcrete (.ofUnits nodeFirst) {} nodeFirst {}).2.sources := by
  intro first second
  have hreordered : Reordered leafFirst nodeFirst := by
    refine ⟨leafFirst.reverse, leafFirst.reverse_perm.symm, ?_⟩
    rw [nodeFirst, List.forall₂_map_right_iff, List.forall₂_same]
    exact fun unit _ => ⟨rfl, rfl, unit.types.reverse_perm.symm⟩
  have hplain : Model.PlainNames leafFirst := by decide
  have hdistinct : DistinctFullNames leafFirst := by decide
  obtain ⟨-, hruns⟩ := generate_reordered hreordered hplain hdistinct
  obtain ⟨hobservable, hconcrete⟩ := hruns {} {}
  have hfirst : first.1 = ⟨["Leaf", "Node"], ["App.Stem"], false⟩ := by decide +kernel
  have hgoes : first.1.aborted = false := congrArg Report.aborted hfirst
  refine ⟨hfirst, by decide +kernel, hobservable.sources hgoes (by decide +kernel),
    hobservable.diagnostics hgoes, by decide +kernel, ?_⟩
  exact hconcrete.sources (by decide +kernel) (by decide +kernel)

end Batch

end Companion
