import Mathlib.Data.List.Dedup
import Companion.Command.Generate
import Companion.Proofs.Batch.Identifiers
import Companion.Proofs.Command.Ends
import Companion.Proofs.Disk

/-!
# Sources on the disk

All sources of a run are written to one directory. None of them is lost exactly if their files have
different places. Identifiers that are no paths themselves have files with different places if they
are different, so it is the identifiers on which it depends, and `Batch.identifiers_nodup_iff` says
when these are different.
-/

namespace Companion.Command

open SessionM Disk

/-- The path of the file of a source. -/
def sourcePath (outDir : String) (identifier : String) : String :=
  Path.join outDir (sourceFileName identifier)

def sourcePlace (outDir : String) (identifier : String) : Location :=
  place (sourcePath outDir identifier)

/-- The places of the files of some sources, each once. -/
def writtenFiles (disk : Disk) (outDir : String) (sources : List Source) : List Location :=
  (sources.filterMap fun source =>
    (disk.locate (sourcePath outDir source.identifier)).toOption).dedup

/-- Every source is found again in its own file, and there are as many files as sources. -/
def KeepsSources (disk : Disk) (outDir : String) (sources : List Source) : Prop :=
  (∀ source ∈ sources,
    disk.readText (sourcePath outDir source.identifier) = .ok source.text) ∧
  (writtenFiles disk outDir sources).length = sources.length

/-! ## Places -/

theorem sourceFileName_ne {identifier name : String} (h : name.length < 5) :
    sourceFileName identifier ≠ name := by
  rintro rfl
  rw [sourceFileName, String.length_append] at h
  have hlength : ".g.cs".length = 5 := by decide
  omega

theorem sourcePlace_of_not_mem (outDir : String) {identifier : String}
    (h : '/' ∉ identifier.toList) :
    sourcePlace outDir identifier = place outDir ++ [sourceFileName identifier] := by
  have hslash : '/' ∉ (sourceFileName identifier).toList := by
    simpa [sourceFileName] using h
  have hrelative : Path.isAbsolute (sourceFileName identifier) = false := by
    rw [Path.isAbsolute, decide_eq_false_iff_not]
    exact fun hhead => hslash (List.mem_of_mem_head? hhead)
  have hname : Path.isName (sourceFileName identifier) = true := by
    have hempty : sourceFileName identifier ≠ "" := sourceFileName_ne (by decide)
    have hdot : sourceFileName identifier ≠ "." := sourceFileName_ne (by decide)
    simp [Path.isName, hempty, hdot]
  have hup : sourceFileName identifier ≠ ".." := sourceFileName_ne (by decide)
  rw [sourcePlace, sourcePath, place, Path.names_join outDir hrelative,
    Path.names_of_not_mem hslash, List.filter_cons_of_pos hname, List.filter_nil,
    List.foldl_append, List.foldl_cons, List.foldl_nil, enter, if_neg hup, place]

theorem sourcePlace_inj {outDir a b : String} (ha : '/' ∉ a.toList) (hb : '/' ∉ b.toList)
    (h : sourcePlace outDir a = sourcePlace outDir b) : a = b := by
  rw [sourcePlace_of_not_mem outDir ha, sourcePlace_of_not_mem outDir hb] at h
  have hname : sourceFileName a = sourceFileName b := by simpa using h
  exact (String.append_left_inj ".g.cs").mp hname

/-! ## Delivering -/

/-- The writes that deliver some sources. -/
def sourceWrites (outDir : String) (sources : List Source) : List (String × String) :=
  sources.map fun source => (sourcePath outDir source.identifier, source.text)

theorem sourceWrites_places (outDir : String) (sources : List Source) :
    (sourceWrites outDir sources).map (fun write => place write.1) =
      (sources.map (·.identifier)).map (sourcePlace outDir) := by
  rw [sourceWrites, List.map_map, List.map_map]
  rfl

theorem ends_writeEach {outDir : String} {sources : List Source} {session session' : Session}
    (h : Ends (sources.forM fun source => do
      let path := Path.join outDir (sourceFileName source.identifier)
      Workspace.writeText path source.text
      Workspace.printLine ("  ✓ " ++ path)) session () session') :
    session.disk.writeAll (sourceWrites outDir sources) = .ok session'.disk := by
  induction sources generalizing session with
  | nil =>
    cases h
    rfl
  | cons source sources ih =>
    obtain ⟨session₂, hfirst, hrest⟩ := ends_forM_cons.mp h
    obtain ⟨_, session₁, hwrite, hprint⟩ := ends_bind_iff.mp hfirst
    have hdisk := ends_writeText hwrite
    rw [← ends_print hprint] at hdisk
    exact except_bind_eq_ok.mpr ⟨_, hdisk, ih hrest⟩

theorem ends_writeSources {outDir : String} {sources : List Source} {session session' : Session}
    (h : Ends (writeSources outDir sources) session () session') :
    ∃ disk, session.disk.makeDirs outDir = (.ok (), disk) ∧
      disk.writeAll (sourceWrites outDir sources) = .ok session'.disk := by
  obtain ⟨_, session₁, hdirs, hwrites⟩ := ends_bind_iff.mp h
  exact ⟨session₁.disk, ends_makeDirs hdirs, ends_writeEach hwrites⟩

theorem ends_deliver {args : GenerateArguments} {outDir : String} {reports : List Report}
    {output : Output} {session session' : Session} (hfiles : args.stdout = false)
    (h : Ends (deliver args outDir reports output) session () session') :
    ∃ disk, session.disk.makeDirs outDir = (.ok (), disk) ∧
      disk.writeAll (sourceWrites outDir output.sources) = .ok session'.disk := by
  obtain ⟨_, session₁, hdiagnostics, h₁⟩ := ends_bind_iff.mp h
  rw [hfiles] at h₁
  obtain ⟨_, session₂, hwrite, h₂⟩ := ends_bind_iff.mp h₁
  obtain ⟨_, session₃, hline, hsummary⟩ := ends_bind_iff.mp h₂
  have hdisk₁ : session₁.disk = session.disk :=
    ends_forM_disk (fun _ _ _ => ends_printError) hdiagnostics
  have hdisk₂ : session'.disk = session₂.disk := (ends_print hsummary).trans (ends_print hline)
  rw [hdisk₂, ← hdisk₁]
  exact ends_writeSources hwrite

/-! ## What is kept -/

/-- Sources that have been written are kept exactly if their files have different places. -/
theorem keepsSources_iff {disk disk' : Disk} {outDir : String} {sources : List Source}
    (h : disk.writeAll (sourceWrites outDir sources) = .ok disk') :
    KeepsSources disk' outDir sources ↔
      ((sources.map (·.identifier)).map (sourcePlace outDir)).Nodup := by
  obtain ⟨-, hpaths, hnodes⟩ := writeAll_eq_ok h
  have hmem : ∀ source ∈ sources,
      (sourcePath outDir source.identifier, source.text) ∈ sourceWrites outDir sources :=
    fun source hsource => List.mem_map.mpr ⟨source, hsource, rfl⟩
  have hpath : ∀ source ∈ sources, disk'.IsFilePath (sourcePath outDir source.identifier) :=
    fun source hsource => hpaths (sourcePath outDir source.identifier, source.text)
      (hmem source hsource)
  have hlocated : writtenFiles disk' outDir sources =
      ((sources.map (·.identifier)).map (sourcePlace outDir)).dedup := by
    rw [writtenFiles, List.map_map, ← List.filterMap_eq_map]
    apply congrArg List.dedup
    apply List.filterMap_congr
    intro source hsource
    rw [(hpath source hsource).1]
    rfl
  have hcount : (writtenFiles disk' outDir sources).length = sources.length ↔
      ((sources.map (·.identifier)).map (sourcePlace outDir)).Nodup := by
    rw [hlocated, ← List.dedup_eq_self, ← (List.dedup_sublist _).length_eq, List.length_map,
      List.length_map]
  -- that there are enough files says it all: then no file is written over
  rw [KeepsSources, hcount, and_iff_right_iff_imp]
  intro hnodup source hsource
  rw [← sourceWrites_places] at hnodup
  have hlast := lastText?_of_nodup hnodup (hmem source hsource)
  apply readText_eq (hpath source hsource)
  rw [hnodes, hlast]
  rfl

/-- After what was generated has been written, the identifiers are distinct and all sources are kept
exactly if no batch uses the identifier of the attributes, where these are emitted, no two batches
use the same identifier, and different identifiers have files at different places. The last
condition can only fail for identifiers with slashes in them. -/
theorem deliver_generate_keeps_iff {mode : Batch.Mode} {model : Model} {options : Options}
    {units : List SourceUnit} {args : GenerateArguments} {outDir : String}
    {session session' : Session} {reports : List Report} {output : Output}
    (hgenerate : Batch.generate mode model options units = (reports, output))
    (hfiles : args.stdout = false)
    (hrun : SessionM.exec (deliver args outDir reports output) session = (none, session')) :
    (output.identifiers.Nodup ∧ KeepsSources session'.disk outDir output.sources ↔
      (options.emitAttributes = true →
        ∀ report ∈ reports, MarkerSource.identifier ∉ report.generated) ∧
      reports.Pairwise (fun first second => first.generated.Disjoint second.generated) ∧
      ∀ a ∈ output.identifiers, ∀ b ∈ output.identifiers,
        sourcePlace outDir a = sourcePlace outDir b → a = b) ∧
    ((∀ identifier ∈ output.identifiers, '/' ∉ identifier.toList) →
      ∀ a ∈ output.identifiers, ∀ b ∈ output.identifiers,
        sourcePlace outDir a = sourcePlace outDir b → a = b) := by
  have hidentifiers := Batch.identifiers_nodup_iff mode model options units
  rw [hgenerate] at hidentifiers
  obtain ⟨disk, -, hwrites⟩ := ends_deliver hfiles (exec_eq_none_iff.mp hrun)
  have hkeeps : KeepsSources session'.disk outDir output.sources ↔
      (output.identifiers.map (sourcePlace outDir)).Nodup := keepsSources_iff hwrites
  constructor
  · rw [hkeeps, ← and_assoc, ← hidentifiers]
    exact and_congr_right fun hnodup => List.nodup_map_iff_inj_on hnodup
  · intro hslash a ha b hb
    exact sourcePlace_inj (hslash a ha) (hslash b hb)

/-- A type with both markers, and its interface. -/
def twiceMarked : List SourceUnit :=
  [{ types := [
      { name := "Person"
        attributes := [⟨"MakeConcrete", ["\"IPerson\""]⟩]
        fields := [⟨some "_age", some "int", [], [⟨"MakeProperty", ["\"Age\""]⟩], none⟩] },
      { name := "IPerson", kind := .interface }] }]

/-- One batch keeps its sources and that of the attributes. -/
theorem deliver_observable_keeps :
    let generated := Batch.generate .observable (Model.ofUnits twiceMarked) {} twiceMarked
    let run := SessionM.exec (deliver {} "out" generated.1 generated.2) {}
    run.1 = none ∧ generated.2.identifiers = ["MakePropertyAttribute", "Person"] ∧
      KeepsSources run.2.disk "out" generated.2.sources := by
  intro generated run
  have hsuccess : run.1 = none := by decide +kernel
  have hidentifiers : generated.2.identifiers = ["MakePropertyAttribute", "Person"] := by
    decide +kernel
  have hmarker : ∀ report ∈ generated.1, MarkerSource.identifier ∉ report.generated := by
    decide +kernel
  have hgenerate : Batch.generate .observable (Model.ofUnits twiceMarked) {} twiceMarked =
    (generated.1, generated.2) := rfl
  have hrun : SessionM.exec (deliver {} "out" generated.1 generated.2) {} = (none, run.2) :=
    Prod.ext hsuccess rfl
  obtain ⟨hiff, hplaces⟩ := deliver_generate_keeps_iff hgenerate rfl hrun
  have hslash : ∀ identifier ∈ generated.2.identifiers, '/' ∉ identifier.toList := by
    rw [hidentifiers]
    decide
  have hall := hiff.mpr ⟨fun _ => hmarker, List.pairwise_singleton _ _, hplaces hslash⟩
  exact ⟨hsuccess, hidentifiers, hall.2⟩

/-- The second of two batches writes over the source of the first. -/
theorem deliver_all_loses :
    let generated := Batch.generate .all (Model.ofUnits twiceMarked) {} twiceMarked
    let run := SessionM.exec (deliver {} "out" generated.1 generated.2) {}
    run.1 = none ∧ generated.2.identifiers = ["MakePropertyAttribute", "Person", "Person"] ∧
      ¬KeepsSources run.2.disk "out" generated.2.sources := by
  intro generated run
  have hsuccess : run.1 = none := by decide +kernel
  have hidentifiers : generated.2.identifiers = ["MakePropertyAttribute", "Person", "Person"] := by
    decide +kernel
  have hrun : run = (none, run.2) := Prod.ext hsuccess rfl
  obtain ⟨disk, -, hwrites⟩ := ends_deliver rfl (exec_eq_none_iff.mp hrun)
  refine ⟨hsuccess, hidentifiers, fun hkeeps => ?_⟩
  have hplaces : (generated.2.identifiers.map (sourcePlace "out")).Nodup :=
    (keepsSources_iff hwrites).mp hkeeps
  simp [hidentifiers] at hplaces

end Companion.Command
