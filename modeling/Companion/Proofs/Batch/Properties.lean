import Mathlib.Data.List.Nodup
import Companion.Proofs.Batch.Accounting
import Companion.Proofs.Observable.Keys

/-!
# No field is lost

The properties of an emitted file are those of the eligible fields of its type, each once and in the
order in which the fields are declared. And every eligible field is found in one emitted file, or
else its type is listed as skipped.
-/

namespace Companion

namespace Batch

open Code

variable {model : Model} {options : Options} {units : List SourceUnit} {names : List String}
  {t : ObservableType} {file : SourceFile}

theorem properties_of_observableFile (h : observableFile model options names t = .ok file) :
    file.properties = t.fields.map DecoratedField.view := by
  obtain ⟨policy, -, hcompanion⟩ := isCompanion_of_observableFile h
  rw [hcompanion.properties, prepare, List.map_map]
  rfl

/-- The properties of an emitted file, one for each eligible field, in order. -/
theorem forall₂_describes_properties (h : file ∈ emitted (observableTasks model options units)) :
    List.Forall₂ FieldDecl.Describes (eligibleFields units file.qualifiedName)
      file.properties := by
  obtain ⟨t, ht⟩ := exists_emittedFrom h
  have hdescribes := ObservableType.forall₂_describes_collect units t.qualifiedName
  rw [ObservableType.fieldsUnder, ht.entry] at hdescribes
  rw [ht.qualifiedName, properties_of_observableFile ht.observableFile]
  exact hdescribes

/-- No two emitted files are for one type. -/
theorem nodup_qualifiedName_emitted (model : Model) (options : Options) (units : List SourceUnit) :
    ((emitted (observableTasks model options units)).map SourceFile.qualifiedName).Nodup := by
  have hkey : ∀ entry ∈ (ObservableType.collect units).entries, ∀ file, observableFile model options
      (owners (ObservableType.collect units)) entry.2 = .ok file →
        file.qualifiedName = entry.1 := by
    intro entry hentry file hfile
    obtain ⟨policy, -, hcompanion⟩ := isCompanion_of_observableFile hfile
    have hname := get?_collect_qualifiedName (Registry.get?_eq_some_iff.mpr hentry)
    exact hcompanion.qualifiedName.trans hname.symm
  have hdistinct := (ObservableType.collect units).distinct
  refine List.Nodup.sublist (((reached_sublist _).filterMap _).map _) ?_
  rw [observableTasks, Registry.values, List.map_map, List.filterMap_map]
  rw [List.Nodup, List.pairwise_map] at hdistinct ⊢
  rw [List.pairwise_filterMap]
  refine hdistinct.imp_of_mem ?_
  intro a b ha hb hne file hfile file' hfile'
  have hfile := Outcome.ofExcept_eq_file_iff.mp (outcome_of_file? hfile)
  have hfile' := Outcome.ofExcept_eq_file_iff.mp (outcome_of_file? hfile')
  rw [hkey a ha file hfile, hkey b hb file' hfile']
  exact hne

theorem exists_entry_of_isEligible {part : List String × TypeDecl} {field : FieldDecl}
    (hpart : part ∈ Model.declarations units) (hfield : field ∈ part.2.fields)
    (heligible : part.2.isEligible field = true) :
    ∃ t, (ObservableType.collect units).get? part.2.qualifiedName = some t :=
  ObservableType.exists_entry_of_isDecorated hpart (List.any_eq_true.mpr ⟨field, hfield, heligible⟩)

/-- Unless the batch is aborted, a type without a companion is reached, and its error only skips
it. -/
theorem exists_failed_of_invalid {output : Output} {name : String}
    (hrun : (generateObservable model options units output).1.aborted = false)
    (hentry : (ObservableType.collect units).get? name = some t) (hinvalid : t.validate ≠ .ok ()) :
    observableTask model options units t ∈ reached (observableTasks model options units) ∧
      ∃ e, (observableTask model options units t).outcome = .failed e ∧ e.skipsType = true := by
  obtain ⟨hreached, hgoes⟩ := observableTask_mem_reached hrun hentry
  cases hfile : observableFile model options (owners (ObservableType.collect units)) t with
  | ok file => exact absurd (validate_of_observableFile hfile) hinvalid
  | error e =>
    exact ⟨hreached, e, congrArg Outcome.ofExcept hfile, skipsType_of_not_aborts hgoes hfile⟩

/-- Unless the batch is aborted, a type without a companion is listed as skipped. -/
theorem mem_skipped_of_invalid {output : Output} {name : String}
    (hrun : (generateObservable model options units output).1.aborted = false)
    (hentry : (ObservableType.collect units).get? name = some t) (hinvalid : t.validate ≠ .ok ()) :
    t.fullName ∈ (generateObservable model options units output).1.skipped := by
  obtain ⟨hreached, e, houtcome, hskips⟩ := exists_failed_of_invalid hrun hentry hinvalid
  have hskipped : (observableTask model options units t).skippedName? = some t.fullName := by
    rw [Task.skippedName?, houtcome]
    exact if_pos hskips
  rw [generateObservable, run_eq]
  exact List.mem_filterMap.mpr ⟨_, hreached, hskipped⟩

/-- No decorated field is lost, repeated or moved. The properties of an emitted file are those of
the eligible fields of its type, in order; and an eligible field belongs to one emitted file, or its
type is listed as skipped. -/
theorem no_field_lost {output : Output}
    (hrun : (generateObservable model options units output).1.aborted = false) :
    let files := emitted (observableTasks model options units)
    (generateObservable model options units output).2.sources.map (·.text) =
        output.sources.map (·.text) ++ files.map (·.print options.lineEnding) ∧
      (∀ file ∈ files, List.Forall₂ FieldDecl.Describes
        (eligibleFields units file.qualifiedName) file.properties) ∧
      ∀ part ∈ Model.declarations units, ∀ field ∈ part.2.fields,
        part.2.isEligible field = true →
          (files.map SourceFile.qualifiedName).count part.2.qualifiedName = 1 ∨
          (files.map SourceFile.qualifiedName).count part.2.qualifiedName = 0 ∧
            ∃ other ∈ Model.declarations units,
              other.2.qualifiedName = part.2.qualifiedName ∧
                other.2.fullName ∈ (generateObservable model options units output).1.skipped := by
  intro files
  refine ⟨run_texts .., fun file hfile => forall₂_describes_properties hfile, ?_⟩
  intro part hpart field hfield heligible
  obtain ⟨t, hentry⟩ := exists_entry_of_isEligible hpart hfield heligible
  by_cases hvalid : t.validate = .ok ()
  · obtain ⟨file, hfile, hname⟩ := exists_emitted_of_mem_owners hrun
      (mem_owners_iff.mpr ⟨t, hentry, hvalid⟩)
    refine .inl (List.count_eq_one_of_mem (nodup_qualifiedName_emitted model options units) ?_)
    exact List.mem_map.mpr ⟨file, hfile, hname⟩
  · refine .inr ⟨List.count_eq_zero.mpr ?_, ?_⟩
    · intro hmem
      obtain ⟨file, hfile, hname⟩ := List.mem_map.mp hmem
      obtain ⟨t', ht'⟩ := exists_emittedFrom hfile
      have hsame := ht'.entry
      rw [← ht'.qualifiedName, hname, hentry] at hsame
      exact hvalid (Option.some.inj hsame ▸ ht'.valid)
    · obtain ⟨other, hother, hname, hof⟩ := ObservableType.allDeclared_collect units _ t hentry
      have hfull : other.2.fullName = t.fullName := by
        rw [TypeDecl.fullName, ObservableType.fullName, hof.namespaceName, hof.name]
      exact ⟨other, hother, hname, hfull ▸ mem_skipped_of_invalid hrun hentry hvalid⟩

/-- A type in two parts, and a malformed one. -/
def boxAndLid : List SourceUnit :=
  [{ types := [
      { name := "Box"
        fields := [{ name := some "_size", typeName := some "int"
                     attributes := [⟨"MakeProperty", ["\"Size\""]⟩] }] },
      { name := "Lid"
        fields := [{ name := some "_id", typeName := some "int"
                     attributes := [⟨"MakeProperty", ["\"1st\""]⟩] }] }] },
    { types := [
      { name := "Box"
        fields := [{ name := some "_tag" },
                   { name := some "_label", typeName := some "string?"
                     attributes := [⟨"MakeProperty", ["\"Label\""]⟩] }] }] }]

theorem boxAndLid_no_field_lost :
    (generateObservable (.ofUnits boxAndLid) {} boxAndLid {}).1.aborted = false ∧
      (eligibleFields boxAndLid ".Box").map (·.name) = [some "_size", some "_label"] ∧
      ∃ file ∈ emitted (observableTasks (.ofUnits boxAndLid) {} boxAndLid),
        List.Forall₂ FieldDecl.Describes (eligibleFields boxAndLid ".Box") file.properties := by
  have hrun : (generateObservable (.ofUnits boxAndLid) {} boxAndLid {}).1.aborted = false := by
    decide +kernel
  have hbox : ∃ file ∈ emitted (observableTasks (.ofUnits boxAndLid) {} boxAndLid),
      file.qualifiedName = ".Box" := by
    decide +kernel
  obtain ⟨file, hfile, hname⟩ := hbox
  refine ⟨hrun, by decide +kernel, file, hfile, ?_⟩
  exact hname ▸ (no_field_lost hrun).2.1 file hfile

/-- A field with two markers, of which the first does not name the property. -/
def twiceMarked : List SourceUnit :=
  [{ types := [
      { name := "Box"
        fields := [{ name := some "_size", typeName := some "int"
                     attributes := [⟨"MakeProperty", ["\"\""]⟩,
                                    ⟨"MakeProperty", ["\"Size\""]⟩] }] }] }]

/-- Only the first marker is read, so the field gets no property, and nothing is said about it. -/
theorem twiceMarked_field_lost :
    let report := (generateObservable (.ofUnits twiceMarked) {} twiceMarked {}).1
    report.aborted = false ∧ report.skipped = [] ∧
      (emitted (observableTasks (.ofUnits twiceMarked) {} twiceMarked)).isEmpty = true ∧
      ∃ part ∈ Model.declarations twiceMarked, ∃ field ∈ part.2.fields,
        part.2.isComplete field = true ∧ ∃ marker ∈ field.markers, marker.name ≠ "" := by
  decide +kernel

end Batch

end Companion
