import Companion.Proofs.Batch.Emission
import Companion.Proofs.Code.Printed

/-!
# Line endings

The line ending is read nowhere but where text is printed, and there it stands behind every line. So
a batch with another line ending comes to the same tasks, and its sources have the same lines, with
other endings behind them (`endings_only`).
-/

namespace Companion

open Code (SourceFile ended)

/-- A text with a carriage return before every line feed. -/
def withCarriageReturns (text : String) : String :=
  String.ofList (text.toList.flatMap fun c => if c = '\n' then ['\r', '\n'] else [c])

/-- Two sources with the same lines and different line endings. -/
structure Source.SameBesideEndings (crlf lf : Source) : Prop where
  identifier : crlf.identifier = lf.identifier
  text : ∃ lines, crlf.text = ended .crlf lines ∧ lf.text = ended .lf lines

/-- What two runs with different line endings have emitted after the same sources. -/
structure Output.SameBesideEndings (before : List Source) (crlf lf : Output) : Prop where
  diagnostics : crlf.diagnostics = lf.diagnostics
  sources : ∃ first second, crlf.sources = before ++ first ∧ lf.sources = before ++ second ∧
    List.Forall₂ Source.SameBesideEndings first second

/-- What came of two runs with different line endings: the same reports, and the same output but for
the line endings. -/
structure Batch.SameBesideEndings {R : Type} (before : List Source) (crlf lf : R × Output) :
    Prop where
  report : crlf.1 = lf.1
  output : Output.SameBesideEndings before crlf.2 lf.2

/-! ## Texts -/

theorem withCarriageReturns_append (first second : String) :
    withCarriageReturns (first ++ second) =
      withCarriageReturns first ++ withCarriageReturns second := by
  simp [withCarriageReturns, String.ofList_append]

theorem withCarriageReturns_of_lacks {text : String} (h : Lacks '\n' text) :
    withCarriageReturns text = text := by
  have hsame : ∀ c ∈ text.toList, (if c = '\n' then ['\r', '\n'] else [c]) = [c] := by
    intro c hc
    refine if_neg ?_
    rintro rfl
    exact h hc
  rw [withCarriageReturns, List.flatMap_congr hsame, List.flatMap_singleton', String.ofList_toList]

theorem withCarriageReturns_ended {lines : List String} (h : ∀ line ∈ lines, Lacks '\n' line) :
    withCarriageReturns (ended .lf lines) = ended .crlf lines := by
  have hending : withCarriageReturns LineEnding.lf.text = LineEnding.crlf.text := by decide
  unfold ended
  induction lines with
  | nil => rfl
  | cons line lines ih =>
    rw [List.forall_mem_cons] at h
    rw [List.map_cons, String.join_cons, withCarriageReturns_append, withCarriageReturns_append,
      withCarriageReturns_of_lacks h.1, hending, ih h.2, List.map_cons, String.join_cons]

/-- The lines of a file do not depend on the line ending. -/
theorem Code.SourceFile.exists_print_eq (file : SourceFile) :
    ∃ lines, (∀ ending, file.print ending = ended ending lines) ∧
      ((∀ text ∈ file.texts, Lacks '\n' text) → ∀ line ∈ lines, Lacks '\n' line) := by
  obtain ⟨parts, -, hregular⟩ := file.exists_regular
  exact ⟨_, hregular.render_eq, fun h =>
    hregular.not_mem_line (by decide) (file.linesLack (by decide) h)⟩

/-- Without line feeds in its texts, a file is printed with the same text between its endings. -/
theorem Code.SourceFile.print_crlf (file : SourceFile) (h : ∀ text ∈ file.texts, Lacks '\n' text) :
    file.print .crlf = withCarriageReturns (file.print .lf) := by
  obtain ⟨lines, hprint, hlines⟩ := file.exists_print_eq
  rw [hprint, hprint, withCarriageReturns_ended (hlines h)]

/-! ## Batches -/

theorem Output.SameBesideEndings.refl (output : Output) :
    SameBesideEndings output.sources output output :=
  ⟨rfl, [], [], (List.append_nil _).symm, (List.append_nil _).symm, .nil⟩

namespace Batch

theorem sourcesOf_sameBesideEndings (names : Naming.UniqueNames)
    (products : List (String × SourceFile)) :
    List.Forall₂ Source.SameBesideEndings (sourcesOf .crlf names products)
      (sourcesOf .lf names products) := by
  induction products generalizing names with
  | nil => exact .nil
  | cons product products ih =>
    obtain ⟨lines, hprint, -⟩ := product.2.exists_print_eq
    rw [sourcesOf_cons, sourcesOf_cons]
    exact .cons ⟨rfl, lines, hprint .crlf, hprint .lf⟩ (ih _)

variable {before : List Source} {crlf lf : Output}

theorem run_sameBesideEndings (h : Output.SameBesideEndings before crlf lf) (tasks : List Task) :
    SameBesideEndings before (run .crlf crlf tasks) (run .lf lf tasks) := by
  obtain ⟨hdiagnostics, first, second, hfirst, hsecond, hsame⟩ := h
  have hmore := sourcesOf_sameBesideEndings {} ((reached tasks).filterMap Task.product?)
  rw [run_eq, run_eq, hdiagnostics, hfirst, hsecond, List.append_assoc, List.append_assoc]
  exact ⟨rfl, rfl, _, _, rfl, rfl, List.rel_append hsame hmore⟩

section

variable (model : Model) (options : Options) (units : List SourceUnit) (ending : LineEnding)

theorem observableTasks_lineEnding :
    observableTasks model { options with lineEnding := ending } units =
      observableTasks model options units := rfl

theorem concreteFile_lineEnding (t : ConcreteType) (interface : Symbol) :
    concreteFile model { options with lineEnding := ending } t interface =
      concreteFile model options t interface := rfl

theorem concreteTasks_lineEnding :
    concreteTasks model { options with lineEnding := ending } units =
      concreteTasks model options units := by
  have htask : concreteTask model { options with lineEnding := ending } =
      concreteTask model options := by
    funext t
    simp only [concreteTask, concreteFile_lineEnding]
  simp only [concreteTasks, htask]

end

section

variable (model : Model) (options : Options) (units : List SourceUnit)

theorem generateObservable_sameBesideEndings (h : Output.SameBesideEndings before crlf lf) :
    SameBesideEndings before
      (generateObservable model { options with lineEnding := .crlf } units crlf)
      (generateObservable model { options with lineEnding := .lf } units lf) := by
  simp only [generateObservable, observableTasks_lineEnding]
  exact run_sameBesideEndings h _

theorem generateConcrete_sameBesideEndings (h : Output.SameBesideEndings before crlf lf) :
    SameBesideEndings before
      (generateConcrete model { options with lineEnding := .crlf } units crlf)
      (generateConcrete model { options with lineEnding := .lf } units lf) := by
  simp only [generateConcrete, concreteTasks_lineEnding]
  exact run_sameBesideEndings h _

theorem generateAttributes_sameBesideEndings (h : Output.SameBesideEndings before crlf lf) :
    Output.SameBesideEndings before
      (generateAttributes { options with lineEnding := .crlf } crlf)
      (generateAttributes { options with lineEnding := .lf } lf) := by
  have hmarker : Source.SameBesideEndings ⟨MarkerSource.identifier, MarkerSource.text .crlf⟩
      ⟨MarkerSource.identifier, MarkerSource.text .lf⟩ :=
    ⟨rfl, MarkerSource.sourceLines, by rw [MarkerSource.text, ended],
      by rw [MarkerSource.text, ended]⟩
  obtain ⟨hdiagnostics, first, second, hfirst, hsecond, hsame⟩ := h
  simp only [generateAttributes, Output.addSource, hfirst, hsecond, List.append_assoc]
  exact ⟨hdiagnostics, _, _, rfl, rfl, List.rel_append hsame (.cons hmarker .nil)⟩

theorem generate_sameBesideEndings (mode : Mode) :
    SameBesideEndings [] (generate mode model { options with lineEnding := .crlf } units)
      (generate mode model { options with lineEnding := .lf } units) := by
  let start (ending : LineEnding) : Output :=
    if options.emitAttributes then generateAttributes { options with lineEnding := ending } {}
    else {}
  have hstart : Output.SameBesideEndings [] (start .crlf) (start .lf) := by
    simp only [start]
    split
    · exact generateAttributes_sameBesideEndings options (.refl {})
    · exact .refl {}
  have hobservable := generateObservable_sameBesideEndings model options units hstart
  cases mode with
  | observable => exact ⟨congrArg (fun report => [report]) hobservable.report, hobservable.output⟩
  | concrete =>
    have hconcrete := generateConcrete_sameBesideEndings model options units hstart
    exact ⟨congrArg (fun report => [report]) hconcrete.report, hconcrete.output⟩
  | all =>
    have hconcrete := generateConcrete_sameBesideEndings model options units hobservable.output
    exact ⟨congrArg₂ (fun first second => [first, second]) hobservable.report hconcrete.report,
      hconcrete.output⟩

end

/-- Line endings are the only difference between the two ways to print: a file without line feeds in
its texts is printed with carriage returns added, and the runs of all batches differ in nothing but
what stands behind the lines of their sources. -/
theorem endings_only :
    (∀ file : SourceFile, (∀ text ∈ file.texts, '\n' ∉ text.toList) →
      file.print .crlf = withCarriageReturns (file.print .lf)) ∧
    ∀ (model : Model) (options : Options) (units : List SourceUnit),
      (∀ output : Output,
        SameBesideEndings output.sources
            (generateObservable model { options with lineEnding := .crlf } units output)
            (generateObservable model { options with lineEnding := .lf } units output) ∧
          SameBesideEndings output.sources
            (generateConcrete model { options with lineEnding := .crlf } units output)
            (generateConcrete model { options with lineEnding := .lf } units output)) ∧
      ∀ mode, SameBesideEndings [] (generate mode model { options with lineEnding := .crlf } units)
        (generate mode model { options with lineEnding := .lf } units) := by
  refine ⟨SourceFile.print_crlf, fun model options units => ⟨fun output => ?_, fun mode => ?_⟩⟩
  · exact ⟨generateObservable_sameBesideEndings model options units (.refl output),
      generateConcrete_sameBesideEndings model options units (.refl output)⟩
  · exact generate_sameBesideEndings model options units mode

/-- A type with one eligible field. -/
def gauge : List SourceUnit :=
  [{ types := [
      { name := "Gauge"
        fields := [{ name := some "_level", typeName := some "int"
                     attributes := [⟨"MakeProperty", ["\"Level\""]⟩] }] }] }]

theorem endings_only_gauge :
    (∀ text ∈ Code.pointFile.texts, '\n' ∉ text.toList) ∧
      Code.pointFile.print .crlf = withCarriageReturns (Code.pointFile.print .lf) ∧
      SameBesideEndings [] (generate .all (.ofUnits gauge) { lineEnding := .crlf } gauge)
        (generate .all (.ofUnits gauge) { lineEnding := .lf } gauge) := by
  have htexts : ∀ text ∈ Code.pointFile.texts, '\n' ∉ text.toList := by decide
  exact ⟨htexts, endings_only.1 Code.pointFile htexts,
    (endings_only.2 (.ofUnits gauge) {} gauge).2 .all⟩

end Batch

end Companion
