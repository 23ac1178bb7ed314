import Mathlib.Data.List.Nodup
import Companion.Batch
import Companion.Proofs.Naming.Unique

/-!
# Identifiers of sources

A batch gives its sources pairwise distinct identifiers, which its report lists in the order of the
sources. Every batch starts with no names taken, and the source of the attributes takes none, so
between batches there is no such promise: `identifiers_nodup_iff` says when it holds nevertheless.
-/

namespace Companion.Batch

/-- A state of a batch that started after `before` was emitted: the report lists what was emitted
since, without repetition, and nothing else is taken. -/
structure State.Lists (before : List String) (state : State) : Prop where
  identifiers : state.output.identifiers = before ++ state.report.generated
  taken : ∀ identifier, identifier ∈ state.names.taken ↔ identifier ∈ state.report.generated
  nodup : state.report.generated.Nodup

namespace State.Lists

variable {before : List String} {state : State} {ending : LineEnding}

theorem init (output : Output) : Lists output.identifiers { output } where
  identifiers := (List.append_nil _).symm
  taken _ := Iff.rfl
  nodup := List.nodup_nil

/-- A task that emits no source leaves the lists alone. -/
theorem of_eq {state' : State} (h : state.Lists before)
    (hsources : state'.output.sources = state.output.sources)
    (hgenerated : state'.report.generated = state.report.generated)
    (hnames : state'.names = state.names) : state'.Lists before where
  identifiers := by
    rw [Output.identifiers, hsources, hgenerated]
    exact h.identifiers
  taken := by
    rw [hnames, hgenerated]
    exact h.taken
  nodup := by
    rw [hgenerated]
    exact h.nodup

theorem settle (h : state.Lists before) (task : Task) :
    (settle ending state task).Lists before := by
  unfold Batch.settle
  split
  · next file _ =>
    have hfree : (state.names.assign task.simpleName).1 ∉ state.report.generated := by
      rw [← h.taken]
      exact state.names.assign_not_mem task.simpleName
    refine ⟨?_, ?_, ?_⟩
    · have hbefore : state.output.sources.map (·.identifier) = _ := h.identifiers
      simp [Output.identifiers, Output.addSource, hbefore]
    · intro identifier
      simp [Naming.UniqueNames.assign_taken, h.taken, or_comm]
    · exact h.nodup.append (List.nodup_singleton _) (List.disjoint_singleton.mpr hfree)
  · next error _ =>
    refine h.of_eq rfl ?_ rfl
    simp only
    split <;> rfl
  · exact h.of_eq rfl rfl rfl

theorem settleAll (h : state.Lists before) (tasks : List Task) :
    (settleAll ending state tasks).Lists before := by
  induction tasks generalizing state with
  | nil => exact h
  | cons task tasks ih =>
    rw [Batch.settleAll]
    split
    · exact h.settle task
    · exact ih (h.settle task)

end State.Lists

theorem run_lists (ending : LineEnding) (output : Output) (tasks : List Task) :
    (run ending output tasks).2.identifiers =
        output.identifiers ++ (run ending output tasks).1.generated ∧
      (run ending output tasks).1.generated.Nodup := by
  have h : (settleAll ending { output } tasks).Lists output.identifiers :=
    (State.Lists.init output).settleAll tasks
  exact ⟨h.identifiers, h.nodup⟩

/-- The identifiers that are emitted before the first batch. -/
def markerIdentifiers (options : Options) : List String :=
  if options.emitAttributes then [MarkerSource.identifier] else []

section

variable (mode : Mode) (model : Model) (options : Options) (units : List SourceUnit)

theorem generate_lists :
    (generate mode model options units).2.identifiers =
        markerIdentifiers options ++ (generate mode model options units).1.flatMap (·.generated) ∧
      ∀ report ∈ (generate mode model options units).1, report.generated.Nodup := by
  let start : Output := if options.emitAttributes then generateAttributes options {} else {}
  have hstart : start.identifiers = markerIdentifiers options := by
    simp only [start, markerIdentifiers]
    split <;> rfl
  have hone (tasks : List Task) :
      (run options.lineEnding start tasks).2.identifiers = markerIdentifiers options ++
          [(run options.lineEnding start tasks).1].flatMap (·.generated) ∧
        ∀ report ∈ [(run options.lineEnding start tasks).1], report.generated.Nodup := by
    obtain ⟨hidentifiers, hnodup⟩ := run_lists options.lineEnding start tasks
    rw [hidentifiers, hstart, List.flatMap_singleton]
    exact ⟨rfl, List.forall_mem_singleton.mpr hnodup⟩
  cases mode with
  | observable => exact hone _
  | concrete => exact hone _
  | all =>
    let first := run options.lineEnding start (observableTasks model options units)
    let second := run options.lineEnding first.2 (concreteTasks model options units)
    have hall : generate .all model options units = ([first.1, second.1], second.2) := rfl
    obtain ⟨hfirst, hnodup₁⟩ : _ ∧ first.1.generated.Nodup := run_lists ..
    obtain ⟨hsecond, hnodup₂⟩ : _ ∧ second.1.generated.Nodup := run_lists ..
    rw [hall]
    refine ⟨?_, ?_⟩
    · rw [hsecond, hfirst, hstart]
      simp only [List.flatMap_cons, List.flatMap_nil, List.append_nil, List.append_assoc, first,
        second]
    · intro report hreport
      rcases List.mem_pair.mp hreport with rfl | rfl
      · exact hnodup₁
      · exact hnodup₂

/-- The identifiers of everything that is emitted are distinct exactly if no batch has a source with
the identifier of the attributes, where these are emitted, and no two batches have an identifier in
common. -/
theorem identifiers_nodup_iff :
    (generate mode model options units).2.identifiers.Nodup ↔
      (options.emitAttributes = true → ∀ report ∈ (generate mode model options units).1,
        MarkerSource.identifier ∉ report.generated) ∧
      (generate mode model options units).1.Pairwise
        fun first second => first.generated.Disjoint second.generated := by
  obtain ⟨hidentifiers, hnodup⟩ := generate_lists mode model options units
  have hreports : ((generate mode model options units).1.flatMap (·.generated)).Nodup ↔
      (generate mode model options units).1.Pairwise
        fun first second => first.generated.Disjoint second.generated := by
    rw [List.nodup_flatMap]
    exact and_iff_right hnodup
  rw [hidentifiers, ← hreports, markerIdentifiers]
  split
  · next hemit => simp [hemit]
  · next hemit => simp [hemit]

end

end Companion.Batch
