import Companion.Proofs.Batch.Accounting

/-!
# Malformed types

A type whose properties are malformed gets no companion. Nothing else comes of it: without the
markers of its fields the batch would emit the same sources under the same identifiers, and would
have the same to say about all other types.

The markers of a type make one entry in the registry (`collect_unmark`). A malformed type is not
among the possible owners of an event (`owners_erase`), so the entries of the other types mean the
same without it, and a task without a file leaves nothing but its own report (`run_append_cons`).
-/

namespace Companion

namespace Registry

variable {κ α : Type} [DecidableEq κ]

/-- The registry with some entries. -/
def ofEntries (entries : List (κ × α)) (hdistinct : (entries.map Prod.fst).Nodup) :
    Registry κ α where
  entries := entries
  index key := (entries.map Prod.fst).idxOf? key
  indexed key position := by
    rw [List.idxOf?_eq_some_iff, List.getElem?_eq_some_iff]
    refine exists_congr fun hlt => and_iff_left_of_imp fun hkey before hbefore hsame => ?_
    exact Nat.ne_of_lt hbefore (hdistinct.getElem_inj_iff.mp (hsame.trans hkey.symm))

/-- The registry without a key. -/
def erase (r : Registry κ α) (key : κ) : Registry κ α :=
  ofEntries (r.entries.filter fun e => e.1 ≠ key) (r.distinct.sublist (List.filter_sublist.map _))

theorem entries_erase (r : Registry κ α) (key : κ) :
    (r.erase key).entries = r.entries.filter fun e => e.1 ≠ key := rfl

theorem filter_changeAt (key key' : κ) (change : α → α) (entries : List (κ × α)) :
    (changeAt key' change entries).filter (fun e => e.1 ≠ key) =
      changeAt key' change (entries.filter fun e => e.1 ≠ key) := by
  rw [changeAt, changeAt, List.filter_map]
  congr 1
  refine List.filter_congr fun e _ => ?_
  simp only [Function.comp]
  split <;> rfl

theorem erase_modify (r : Registry κ α) (key key' : κ) (change : α → α) :
    (r.modify key' change).erase key = (r.erase key).modify key' change := by
  apply eq_of_entries_eq
  rw [entries_erase, entries_modify, entries_modify, filter_changeAt, entries_erase]

theorem erase_modify_self (r : Registry κ α) (key : κ) (change : α → α) :
    (r.modify key change).erase key = r.erase key := by
  rw [erase_modify]
  apply eq_of_entries_eq
  rw [entries_modify]
  apply changeAt_of_not_mem
  simp [entries_erase]

theorem erase_upsert_self (r : Registry κ α) (key : κ) (fresh : α) (change : α → α) :
    (r.upsert key fresh change).erase key = r.erase key := by
  apply eq_of_entries_eq
  rw [entries_erase, entries_upsert]
  split
  · rw [← entries_modify, ← entries_erase, erase_modify_self]
  · simp [entries_erase]

theorem erase_upsert_of_ne {key key' : κ} (h : key' ≠ key) (r : Registry κ α) (fresh : α)
    (change : α → α) :
    (r.upsert key' fresh change).erase key = (r.erase key).upsert key' fresh change := by
  have hmem : key' ∈ (r.erase key).entries.map Prod.fst ↔ key' ∈ r.entries.map Prod.fst := by
    simp [entries_erase, h]
  apply eq_of_entries_eq
  rw [entries_erase, entries_upsert, entries_upsert, entries_erase]
  simp only [← entries_erase r key, hmem]
  split
  · rw [filter_changeAt, entries_erase]
  · simp [entries_erase, h]

/-- Only the value of the key is missing. -/
theorem exists_values_erase {r : Registry κ α} {key : κ} {value : α}
    (h : r.get? key = some value) :
    ∃ before after, r.values = before ++ value :: after ∧
      (r.erase key).values = before ++ after := by
  obtain ⟨before, after, hentries⟩ := List.append_of_mem (get?_eq_some_iff.mp h)
  have hdistinct := r.distinct
  rw [hentries, List.map_append, List.map_cons, List.nodup_append, List.nodup_cons] at hdistinct
  obtain ⟨-, ⟨hafter, -⟩, hbefore⟩ := hdistinct
  have hkept : (r.erase key).entries = before ++ after := by
    have hkeep (entries : List (κ × α)) (hne : ∀ e ∈ entries, e.1 ≠ key) :
        entries.filter (fun e => e.1 ≠ key) = entries :=
      List.filter_eq_self.mpr fun e he => decide_eq_true (hne e he)
    rw [entries_erase, hentries, List.filter_append, List.filter_cons_of_neg (by simp),
      hkeep before fun e he => hbefore e.1 (List.mem_map_of_mem he) key List.mem_cons_self,
      hkeep after fun e he heq => hafter (List.mem_map.mpr ⟨e, he, heq⟩)]
  exact ⟨before.map Prod.snd, after.map Prod.snd, by simp [values, hentries],
    by simp [values, hkept]⟩

end Registry

/-! ## Without markers -/

/-- The field without property markers. -/
def FieldDecl.unmarked (field : FieldDecl) : FieldDecl :=
  { field with
    attributes := field.attributes.filter fun a =>
      MarkerKind.ofName? a.name ≠ some .makeProperty }

/-- The declaration without property markers, if it has the qualified name. -/
def TypeDecl.unmark (name : String) (decl : TypeDecl) : TypeDecl :=
  if decl.qualifiedName = name then { decl with fields := decl.fields.map FieldDecl.unmarked }
  else decl

/-- The units without the property markers of the type with a qualified name. -/
def SourceUnit.unmark (name : String) (unit : SourceUnit) : SourceUnit :=
  { unit with types := unit.types.map (·.unmark name) }

theorem Model.declarations_unmark (name : String) (units : List SourceUnit) :
    declarations (units.map (·.unmark name)) =
      (declarations units).map fun part => (part.1, part.2.unmark name) := by
  simp [declarations, SourceUnit.unmark, List.flatMap_map, List.map_flatMap, Function.comp_def]

namespace ObservableType

theorem decorated?_unmarked (decl : TypeDecl) (field : FieldDecl) :
    decorated? decl field.unmarked = none := by
  have hnone : Marker.findProperty? field.unmarked.attributes = none := by
    refine List.findSome?_eq_none_iff.mpr fun a ha => ?_
    have hname : MarkerKind.ofName? a.name ≠ some .makeProperty := by
      simpa using (List.mem_filter.mp ha).2
    rw [Marker.bind_property?_ofAttribute?, if_neg hname]
  rw [decorated?, hnone]
  rfl

theorem collectDecl_erase (registry : Registry String ObservableType) (usings : List String)
    (decl : TypeDecl) (name : String) :
    collectDecl (registry.erase name) usings (decl.unmark name) =
      (collectDecl registry usings decl).erase name := by
  unfold collectDecl
  by_cases hname : decl.qualifiedName = name
  · have hnone : decoratedFields (decl.unmark name) = [] := by
      rw [TypeDecl.unmark, if_pos hname, decoratedFields, List.filterMap_map]
      exact List.filterMap_eq_nil_iff.mpr fun field _ => decorated?_unmarked _ field
    rw [hnone, List.foldl_nil]
    refine List.foldlRecOn
      (motive := fun changed => registry.erase name = Registry.erase changed name) _ _ rfl ?_
    intro changed h field _
    rw [h, hname, changed.erase_upsert_self]
  · rw [TypeDecl.unmark, if_neg hname]
    exact List.foldl_hom (Registry.erase · name) fun registry field =>
      (registry.erase_upsert_of_ne hname _ _).symm

/-- The markers of a type make its entry and nothing else. -/
theorem collect_unmark (name : String) (units : List SourceUnit) :
    collect (units.map (·.unmark name)) = (collect units).erase name := by
  have hqualifiedName (decl : TypeDecl) :
      (decl.unmark name).qualifiedName = decl.qualifiedName := by
    unfold TypeDecl.unmark
    split <;> rfl
  have hmodifiers (decl : TypeDecl) : (decl.unmark name).modifiers = decl.modifiers := by
    unfold TypeDecl.unmark
    split <;> rfl
  have hfields : (Model.declarations units).foldl
      (fun registry part => collectDecl registry part.1 (part.2.unmark name))
      (Registry.erase {} name) = _ :=
    List.foldl_hom (Registry.erase · name) fun registry part =>
      collectDecl_erase registry part.1 part.2 name
  rw [collect, collect, Model.declarations_unmark, List.foldl_map, List.foldl_map]
  simp only [hqualifiedName, hmodifiers]
  change List.foldl _ (List.foldl _ (Registry.erase {} name) _) _ = _
  rw [hfields]
  exact List.foldl_hom (Registry.erase · name) fun registry part =>
    (registry.erase_modify name part.2.qualifiedName _).symm

end ObservableType

namespace Batch

/-! ## Batches -/

/-- A type that cannot own an event makes no difference to those that can. -/
theorem owners_erase {registry : Registry String ObservableType} {name : String}
    {t : ObservableType} (hentry : registry.get? name = some t) (hinvalid : t.validate ≠ .ok ()) :
    owners (registry.erase name) = owners registry := by
  unfold owners
  rw [Registry.entries_erase, List.filter_filter]
  congr 1
  refine List.filter_congr fun entry hmem => ?_
  by_cases hname : entry.1 = name
  · have hget : registry.get? name = some entry.2 :=
      Registry.get?_eq_some_iff.mpr (hname ▸ hmem)
    obtain rfl : entry.2 = t := Option.some.inj (hget.symm.trans hentry)
    have hnot : entry.2.validate.isOk = false := by
      cases hvalidate : entry.2.validate with
      | ok => exact absurd hvalidate hinvalid
      | error => rfl
    simp [hnot]
  · simp [hname]

/-- Of two runs, the second lacks what the first says about a type that failed, and nothing else. -/
structure LacksOnly (output : Output) (typeName : String) (e : GenerateError)
    (first second : Report × Output) : Prop where
  sources : second.2.sources = first.2.sources
  generated : second.1.generated = first.1.generated
  aborted : second.1.aborted = first.1.aborted
  skipped : ∃ before after, first.1.skipped = before ++ typeName :: after ∧
    second.1.skipped = before ++ after
  diagnostics : ∃ before after,
    first.2.diagnostics = output.diagnostics ++ before ++ .ofError e typeName :: after ∧
      second.2.diagnostics = output.diagnostics ++ before ++ after

/-- A task that fails without aborting leaves nothing behind but what is said about it. -/
theorem run_append_cons (ending : LineEnding) (output : Output) {before after : List Task}
    {task : Task} {e : GenerateError} (houtcome : task.outcome = .failed e)
    (hgoes : (before ++ task :: after).any Task.aborts = false) :
    LacksOnly output task.fullName e (run ending output (before ++ task :: after))
      (run ending output (before ++ after)) := by
  have hgoes' : (before ++ after).any Task.aborts = false := by
    rw [List.any_append, List.any_cons] at hgoes
    simp_all
  have hskips : e.skipsType = true := by
    have htask : task.aborts = false := by simp_all
    simpa [Task.aborts, houtcome] using htask
  have hproduct : task.product? = none := by simp [Task.product?, houtcome, Outcome.file?]
  have hname : task.skippedName? = some task.fullName := by
    simp [Task.skippedName?, houtcome, hskips]
  have hreport : task.diagnostic? = some (.ofError e task.fullName) := by
    simp [Task.diagnostic?, houtcome]
  rw [run_eq, run_eq, reached_of_not_aborts hgoes, reached_of_not_aborts hgoes', hgoes, hgoes']
  simp only [List.filterMap_append, List.filterMap_cons, hproduct, hname, hreport]
  refine ⟨rfl, rfl, rfl, ⟨_, _, rfl, rfl⟩, before.filterMap Task.diagnostic?,
    after.filterMap Task.diagnostic?, ?_, ?_⟩
  · exact (List.append_assoc ..).symm
  · exact (List.append_assoc ..).symm

/-- A type whose properties are malformed is invisible to the rest of its batch: without its markers
the sources are the same, and the report and the diagnostics lack its own entries only. -/
theorem malformed_invisible {model : Model} {options : Options} {units : List SourceUnit}
    {output : Output} {t : ObservableType} {e : GenerateError}
    (hrun : (generateObservable model options units output).1.aborted = false)
    (ht : t ∈ (ObservableType.collect units).values)
    (herror : observableFile model options (owners (ObservableType.collect units)) t = .error e)
    (hcode : e.code = .malformedInput) :
    LacksOnly output t.fullName e (generateObservable model options units output)
      (generateObservable model options (units.map (·.unmark t.qualifiedName)) output) := by
  obtain ⟨name, hentry⟩ := Registry.mem_values_iff.mp ht
  obtain rfl := get?_collect_qualifiedName hentry
  obtain ⟨before, after, hvalues, hkept⟩ := Registry.exists_values_erase hentry
  have hinvalid : t.validate ≠ .ok () :=
    not_valid_of_skipsType herror (decide_eq_true hcode)
  let task := observableTask model options units
  have hfirst : observableTasks model options units =
      before.map task ++ task t :: after.map task := by
    rw [observableTasks, hvalues, List.map_append, List.map_cons]
    rfl
  have hsecond : observableTasks model options (units.map (·.unmark t.qualifiedName)) =
      before.map task ++ after.map task := by
    rw [observableTasks, ObservableType.collect_unmark, owners_erase hentry hinvalid, hkept,
      List.map_append]
    rfl
  have hgoes : (before.map task ++ task t :: after.map task).any Task.aborts = false := by
    rw [← hfirst]
    exact (run_aborted ..).symm.trans hrun
  simp only [generateObservable, hfirst, hsecond]
  exact run_append_cons options.lineEnding output (congrArg Outcome.ofExcept herror) hgoes

/-- A malformed type and one derived from it that has its simple name. -/
def shapes : List SourceUnit :=
  [{ types := [
      { namespaceName := some "App", name := "Shape"
        fields := [{ name := some "_id", typeName := some "int"
                     attributes := [⟨"MakeProperty", ["\"1st\""]⟩] }] },
      { namespaceName := some "Draw", name := "Shape", baseList := ["App.Shape"]
        fields := [{ name := some "_size", typeName := some "int"
                     attributes := [⟨"MakeProperty", ["\"Size\""]⟩] }] }] }]

theorem shapes_malformed_invisible :
    let first := generateObservable (.ofUnits shapes) {} shapes {}
    let second :=
      generateObservable (.ofUnits shapes) {} (shapes.map (·.unmark "App.Shape")) {}
    first.1 = ⟨["Shape"], ["App.Shape"], false⟩ ∧ second.2.sources = first.2.sources ∧
      second.1.skipped = [] := by
  intro first second
  have hmember : ∃ t ∈ (ObservableType.collect shapes).values, t.qualifiedName = "App.Shape" ∧
      (observableFile (.ofUnits shapes) {} (owners (ObservableType.collect shapes)) t).map
        (fun _ => ()) = .error (.invalidPropertyName "App.Shape" "1st") := by
    decide +kernel
  obtain ⟨t, ht, hname, herror⟩ := hmember
  cases hfile : observableFile (.ofUnits shapes) {} (owners (ObservableType.collect shapes)) t with
  | ok => simp [hfile, Except.map] at herror
  | error e =>
    rw [hfile] at herror
    cases herror
    have hfirst : first.1 = ⟨["Shape"], ["App.Shape"], false⟩ := by decide +kernel
    have hlacks := malformed_invisible (congrArg Report.aborted hfirst) ht hfile rfl
    rw [hname] at hlacks
    obtain ⟨before, after, hskipped, hkept⟩ := hlacks.skipped
    have hone : before ++ t.fullName :: after = ["App.Shape"] :=
      hskipped.symm.trans (congrArg Report.skipped hfirst)
    obtain ⟨rfl, rfl⟩ : before = [] ∧ after = [] := by
      cases before <;> simp_all
    exact ⟨hfirst, hlacks.sources, hkept⟩

end Batch

end Companion
