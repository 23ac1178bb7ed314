import Mathlib.Order.Defs.Unbundled
import Companion.Proofs.Command.Reading
import Companion.Proofs.Command.Sources

/-!
# What generating touches

Everything is read before anything is written, so a run that is refused for what it reads leaves the
disk as it was. A run that goes on writes to the places of its sources and makes directories on the
way to its output directory; nothing else changes, whether or not all writes succeed. This is a
relation between disks (`Disk.ChangesOnly`) to which each operation of the second phase keeps and
that can be chained, so that it holds of the phase as a whole.
-/

namespace Companion

/-! ## Changes of a disk -/

namespace Disk

variable {files directories : Location → Prop} {disk disk' : Disk} {location : Location}

/-- A location to which the first names on a path lead. -/
def IsOnWay (path : String) (location : Location) : Prop :=
  ∃ names, names <+: Path.names path ∧ location = names.foldl enter []

/-- What may become of the node at a location: it stays, a file is written there or a directory is
made where nothing was. -/
inductive Change (files directories : Location → Prop) (location : Location) :
    Option Node → Option Node → Prop
  | kept (node : Option Node) : Change files directories location node node
  | written {node : Option Node} (text : String) (h : files location)
    (hnode : node ≠ some .directory) : Change files directories location node (some (.file text))
  | made (h : directories location) : Change files directories location none (some .directory)

/-- Files are written at certain locations and missing directories are made at others; nothing else
changes. -/
def ChangesOnly (files directories : Location → Prop) (disk disk' : Disk) : Prop :=
  ∀ location, Change files directories location (disk.node? location) (disk'.node? location)

theorem Change.trans {first second third : Option Node}
    (h₁ : Change files directories location first second)
    (h₂ : Change files directories location second third) :
    Change files directories location first third := by
  cases h₁ with
  | kept => exact h₂
  | written text hfile hnode =>
    cases h₂ with
    | kept => exact .written text hfile hnode
    | written text _ _ => exact .written text hfile hnode
  | made hdirectory =>
    cases h₂ with
    | kept => exact .made hdirectory
    | written _ _ hnode => exact absurd rfl hnode

instance : IsPreorder Disk (ChangesOnly files directories) where
  refl _ _ := .kept _
  trans _ _ _ h₁ h₂ location := (h₁ location).trans (h₂ location)

theorem changesOnly_insert {node : Node} (hnode : disk.node? location ≠ some .directory)
    (h : Change files directories location (disk.node? location) (some node)) :
    ChangesOnly files directories disk (disk.insert location node) := by
  intro other
  rw [node?_insert (ne_nil_of_node?_ne hnode)]
  split
  · next hother => rwa [hother]
  · exact .kept _

theorem changesOnly_writeText {path text : String} (hfile : files (place path))
    (h : disk.writeText path text = .ok disk') : ChangesOnly files directories disk disk' := by
  obtain ⟨-, hnode, rfl⟩ := writeText_eq_ok h
  exact changesOnly_insert hnode (.written text hfile hnode)

theorem changesOnly_makeAlong {names : List String}
    (h : ∀ way, way <+: names → directories (way.foldl enter location)) :
    ChangesOnly files directories disk (disk.makeAlong location names).2 := by
  induction names generalizing disk location with
  | nil => exact refl disk
  | cons name names ih =>
    rw [makeAlong]
    split
    · exact refl disk
    · next next hnext =>
      obtain ⟨-, -, rfl⟩ := follow_eq_ok_iff.mp hnext
      have hrest (way : List String) (hway : way <+: names) :
          directories (way.foldl enter (enter location name)) :=
        h (name :: way) (List.cons_prefix_cons.mpr ⟨rfl, hway⟩)
      split
      · exact refl disk
      · exact refl disk
      · exact ih hrest
      · next hnone =>
        have hmade : ChangesOnly files directories disk
            (disk.insert (enter location name) .directory) := by
          refine changesOnly_insert (by simp [hnone]) ?_
          rw [hnone]
          exact .made (hrest [] List.nil_prefix)
        exact IsTrans.trans _ _ _ hmade (ih hrest)

theorem changesOnly_makeDirs (disk : Disk) (path : String) :
    ChangesOnly files (IsOnWay path) disk (disk.makeDirs path).2 := by
  have halong {names : List String} (hnames : names <+: Path.names path) :
      ChangesOnly files (IsOnWay path) disk (disk.makeAlong [] names).2 :=
    changesOnly_makeAlong fun way hway => ⟨way, hway.trans hnames, rfl⟩
  rw [makeDirs]
  split
  · exact refl disk
  · split
    · have hdots := halong (List.dropLast_prefix (Path.names path))
      split
      · next hmade => rwa [hmade] at hdots
      · next hmade => rwa [hmade] at hdots
    · exact halong (List.prefix_refl _)

theorem ChangesOnly.keepsDirectories (h : ChangesOnly files directories disk disk') :
    KeepsDirectories disk disk' := by
  intro location hdirectory
  have hchange := h location
  rw [hdirectory] at hchange
  generalize disk'.node? location = node at hchange
  cases hchange with
  | kept => rfl
  | written _ _ hnode => exact absurd rfl hnode

/-- A file is still read as it was if its place is not among those that are written to. -/
theorem ChangesOnly.readText (h : ChangesOnly files directories disk disk') {path text : String}
    (hplace : ¬files (place path)) (hread : disk.readText path = .ok text) :
    disk'.readText path = .ok text := by
  obtain ⟨hpath, hnode⟩ := readText_eq_ok hread
  refine readText_eq (hpath.mono h.keepsDirectories) ?_
  have hchange := h (place path)
  rw [hnode] at hchange
  generalize disk'.node? (place path) = node at hchange
  cases hchange with
  | kept => rfl
  | written _ hfile _ => exact absurd hfile hplace

end Disk

/-! ## Commands within a relation -/

namespace SessionM

variable {α β : Type} {R : Disk → Disk → Prop} [IsPreorder Disk R]

/-- Whether it fails or not, a command only leads to disks that are related to the one before. -/
def Within (R : Disk → Disk → Prop) (command : SessionM α) : Prop :=
  ∀ session, R session.disk (command.outcome session).2.disk

theorem Within.bind {command : SessionM α} {next : α → SessionM β} (hfirst : Within R command)
    (hnext : ∀ a, Within R (next a)) : Within R (command >>= next) := by
  intro session
  have hdisk := hfirst session
  rw [outcome_bind]
  rcases houtcome : command.outcome session with ⟨failure | a, session₁⟩
  · rwa [houtcome] at hdisk
  · rw [houtcome] at hdisk
    exact IsTrans.trans _ _ _ hdisk (hnext a session₁)

theorem within_pure (a : α) : Within R (pure a) := fun session => refl session.disk

theorem within_forM {f : α → SessionM Unit} {l : List α} (h : ∀ a ∈ l, Within R (f a)) :
    Within R (l.forM f) := by
  induction l with
  | nil => exact within_pure ()
  | cons a l ih =>
    obtain ⟨hfirst, hrest⟩ := List.forall_mem_cons.mp h
    exact hfirst.bind fun _ => ih hrest

theorem within_print (text : String) : Within R (Workspace.print text) :=
  fun session => refl session.disk

theorem within_printError (text : String) : Within R (Workspace.printError text) :=
  fun session => refl session.disk

theorem within_writeText {path text : String}
    (h : ∀ disk disk' : Disk, disk.writeText path text = .ok disk' → R disk disk') :
    Within R (Workspace.writeText path text) := by
  intro session
  have houtcome : (Workspace.writeText path text : SessionM Unit).outcome session =
    (check (session.disk.writeText path text) >>= fun disk =>
      modify fun s => { s with disk }).outcome session := rfl
  rw [houtcome]
  cases hwrite : session.disk.writeText path text with
  | error fault => exact refl session.disk
  | ok disk => exact h _ _ hwrite

omit [IsPreorder Disk R] in
theorem within_makeDirs {path : String} (h : ∀ disk : Disk, R disk (disk.makeDirs path).2) :
    Within R (Workspace.makeDirs path) := by
  intro session
  have houtcome : (Workspace.makeDirs path : SessionM Unit).outcome session =
    (check (session.disk.makeDirs path).1).outcome
      { session with disk := (session.disk.makeDirs path).2 } := rfl
  rw [houtcome]
  cases (session.disk.makeDirs path).1 with
  | error fault => exact h session.disk
  | ok made => exact h session.disk

end SessionM

namespace Command

open SessionM Disk

variable {args : GenerateArguments} {config : Config} {cwd : String} {session : Session}

/-! ## The second phase -/

/-- A place at which one of some sources is written. -/
def IsSourcePlace (outDir : String) (sources : List Source) (location : Location) : Prop :=
  ∃ source ∈ sources, location = sourcePlace outDir source.identifier

section

variable {R : Disk → Disk → Prop} [IsPreorder Disk R] {outDir : String} {reports : List Report}
  {output : Output}

theorem within_printSources (sources : List Source) : Within R (printSources sources) :=
  within_forM fun _ _ => (within_print _).bind fun _ => within_print _

theorem within_deliver
    (h : args.stdout = false → Within R (writeSources outDir output.sources)) :
    Within R (deliver args outDir reports output) := by
  have hdiagnostics : Within R (printDiagnostics output.diagnostics) :=
    within_forM fun _ _ => within_printError _
  have hlast : ∀ _ : Unit, Within R (do
      Workspace.printLine ""
      Workspace.printLine (summaryLine reports output)) :=
    fun _ => (within_print _).bind fun _ => within_print _
  refine hdiagnostics.bind fun _ => ?_
  split
  · exact (within_printSources output.sources).bind hlast
  · next hstdout => exact (h (eq_false_of_ne_true hstdout)).bind hlast

end

theorem within_writeSources (outDir : String) (sources : List Source) :
    Within (ChangesOnly (IsSourcePlace outDir sources) (IsOnWay outDir))
      (writeSources outDir sources) := by
  refine (within_makeDirs fun disk => changesOnly_makeDirs disk outDir).bind fun _ => ?_
  refine within_forM fun source hsource => Within.bind ?_ fun _ => within_print _
  exact within_writeText fun _ _ => changesOnly_writeText ⟨source, hsource, rfl⟩

/-! ## The first phase -/

/-- The manifests that an input path stands for on a disk. -/
def manifestsAt (disk : Disk) (input : String) : List String :=
  if disk.isFile input then [input] else (disk.filesUnder input).filter Manifest.isManifest

theorem ends_inputManifests (input : String) (session : Session) :
    Ends (inputManifests input) session (manifestsAt session.disk input) session := by
  refine ends_bind_iff.mpr ⟨_, session, ends_isFile input, ?_⟩
  rw [manifestsAt]
  split
  · exact ends_pure _
  · exact ends_bind_iff.mpr ⟨_, session, ends_filesUnder input, ends_pure _⟩

/-- What generating cannot start from: a configuration that cannot be read, an input path at which
there is nothing, or a manifest, be it the last one, that cannot be read. -/
inductive BadInput (args : GenerateArguments) (cwd : String) (disk : Disk) : Prop
  | config (h : Config.on? disk cwd = none)
  | input {config : Config} (hconfig : Config.on? disk cwd = some config)
    (h : disk.fileExists (args.inputPath config cwd) = false)
  | manifest {config : Config} (hconfig : Config.on? disk cwd = some config) {path : String}
    (hpath : path ∈ manifestsAt disk (args.inputPath config cwd))
    (h : Manifest.on? disk path = none)

/-- A manifest whose bytes spell no text is one that cannot be read. -/
theorem BadInput.of_invalid {disk : Disk} (hconfig : Config.on? disk cwd = some config)
    {path : String} (hpath : path ∈ manifestsAt disk (args.inputPath config cwd)) {node : Node}
    {bytes : ByteArray} (hnode : disk.nodeAt path = .ok node) (hbytes : node.bytes? = some bytes)
    (h : ¬bytes.IsValidUTF8) : BadInput args cwd disk := by
  refine .manifest hconfig hpath ?_
  rw [Manifest.on?, decoded?, readText_of_invalid hnode hbytes h]
  rfl

theorem exists_units_of_not_badInput {disk : Disk} (h : ¬BadInput args cwd disk) :
    ∃ config units, Config.on? disk cwd = some config ∧
      disk.fileExists (args.inputPath config cwd) = true ∧
      Manifest.allOn? disk (manifestsAt disk (args.inputPath config cwd)) = some units := by
  cases hconfig : Config.on? disk cwd with
  | none => exact absurd (.config hconfig) h
  | some config =>
    have hinput : disk.fileExists (args.inputPath config cwd) = true := by
      by_contra hmissing
      exact h (.input hconfig (eq_false_of_ne_true hmissing))
    cases hunits : Manifest.allOn? disk (manifestsAt disk (args.inputPath config cwd)) with
    | none =>
      obtain ⟨path, hpath, hbad⟩ := Manifest.allOn?_eq_none_iff.mp hunits
      exact absurd (.manifest hconfig hpath hbad) h
    | some units => exact ⟨config, units, rfl, hinput, hunits⟩

/-- With a configuration and something at the input path, generating goes on to the manifests. -/
theorem generate_outcome (hconfig : Config.on? session.disk cwd = some config)
    (hinput : session.disk.fileExists (args.inputPath config cwd) = true) :
    ∃ session₁ : Session, session₁.disk = session.disk ∧ outcome (generate args cwd) session =
      outcome (generateFrom args config cwd
        (manifestsAt session.disk (args.inputPath config cwd))) session₁ := by
  obtain ⟨session₁, hprint, hdisk⟩ := exists_ends_printLine "🔨 Generating sources..." session
  refine ⟨session₁, hdisk, ?_⟩
  rw [generate, outcome_bind_of_ends (Config.ends_load hconfig),
    outcome_bind_of_ends (ends_fileExists _), if_pos hinput, outcome_bind_of_ends hprint,
    outcome_bind_of_ends (ends_inputManifests _ session₁), hdisk]

theorem refuses_generateFrom {manifests : List String}
    (h : Manifest.allOn? session.disk manifests = none) :
    Refuses (generateFrom args config cwd manifests) session := by
  cases manifests with
  | nil => cases h
  | cons path paths => exact (Manifest.refuses_loadAll h).bind

theorem refuses_generate_of_missing (hconfig : Config.on? session.disk cwd = some config)
    (h : session.disk.fileExists (args.inputPath config cwd) = false) :
    Refuses (generate args cwd) session := by
  refine Refuses.after (Config.ends_load hconfig) rfl ?_
  refine Refuses.after (ends_fileExists _) rfl ?_
  rw [if_neg (by simp [h])]
  exact (refuses_throw _).bind

theorem BadInput.refuses (h : BadInput args cwd session.disk) :
    Refuses (generate args cwd) session := by
  cases h with
  | config h => exact (Config.refuses_load h).bind
  | input hconfig h => exact refuses_generate_of_missing hconfig h
  | @manifest config hconfig path hpath h =>
    cases hinput : session.disk.fileExists (args.inputPath config cwd) with
    | false => exact refuses_generate_of_missing hconfig hinput
    | true =>
      obtain ⟨session₁, hdisk, houtcome⟩ := generate_outcome hconfig hinput
      have hunits : Manifest.allOn? session₁.disk
          (manifestsAt session.disk (args.inputPath config cwd)) = none := by
        rw [hdisk]
        exact Manifest.allOn?_eq_none_iff.mpr ⟨path, hpath, h⟩
      obtain ⟨failure, session₂, hfails, hdisk₂⟩ := refuses_generateFrom hunits
      exact ⟨failure, session₂, houtcome.trans hfails, hdisk₂.trans hdisk⟩

theorem generateFrom_related {R : Disk → Disk → Prop} [IsPreorder Disk R]
    {manifests : List String} {units : List SourceUnit}
    (hunits : Manifest.allOn? session.disk manifests = some units)
    (h : manifests ≠ [] →
      let generated := Batch.generate args.mode (Model.ofUnits units) (args.options config) units
      Within R (deliver args (args.outputPath config cwd) generated.1 generated.2)) :
    R session.disk (outcome (generateFrom args config cwd manifests) session).2.disk := by
  cases manifests with
  | nil => exact refl session.disk
  | cons path paths =>
    obtain ⟨session₁, hprint, hdisk⟩ := exists_ends_printLine ("Found " ++
      toString (path :: paths).length ++ " manifests, " ++ toString units.length ++
      " compilation units") session
    rw [generateFrom, if_neg (by simp), outcome_bind_of_ends (Manifest.ends_loadAll hunits),
      outcome_bind_of_ends hprint, ← hdisk]
    exact h (List.cons_ne_nil _ _) session₁

/-- A run is within a relation if its second phase is, whenever it comes to that. -/
theorem generate_related {R : Disk → Disk → Prop} [IsPreorder Disk R]
    (h : ∀ config units, Config.on? session.disk cwd = some config →
      Manifest.allOn? session.disk (manifestsAt session.disk (args.inputPath config cwd)) =
        some units →
      manifestsAt session.disk (args.inputPath config cwd) ≠ [] →
      let generated := Batch.generate args.mode (Model.ofUnits units) (args.options config) units
      Within R (deliver args (args.outputPath config cwd) generated.1 generated.2)) :
    R session.disk (outcome (generate args cwd) session).2.disk := by
  by_cases hbad : BadInput args cwd session.disk
  · obtain ⟨failure, session₁, houtcome, hdisk⟩ := hbad.refuses
    rw [houtcome, hdisk]
    exact refl session.disk
  · obtain ⟨config, units, hconfig, hinput, hunits⟩ := exists_units_of_not_badInput hbad
    obtain ⟨session₁, hdisk, houtcome⟩ := generate_outcome hconfig hinput
    have hdeliver := h config units hconfig hunits
    rw [← hdisk] at hunits
    have hfrom := generateFrom_related hunits (hdisk ▸ hdeliver)
    rwa [houtcome, ← hdisk]

/-- Generating from bad input fails and changes nothing. It changes nothing either if it only prints
or finds no manifest. Otherwise nothing changes but the places of the sources and the directories
that are made on the way to the output directory, even if a write fails; in particular every file at
another place is read as before. -/
theorem generate_touches_outputs_only (args : GenerateArguments) (cwd : String)
    (session : Session) :
    let run := SessionM.exec (generate args cwd) session
    (BadInput args cwd session.disk → run.1 ≠ none ∧ run.2.disk = session.disk) ∧
    (args.stdout = true → run.2.disk = session.disk) ∧
    (∀ config, Config.on? session.disk cwd = some config →
      manifestsAt session.disk (args.inputPath config cwd) = [] →
      run.2.disk = session.disk) ∧
    (¬BadInput args cwd session.disk →
      ∃ config units, Config.on? session.disk cwd = some config ∧
        Manifest.allOn? session.disk (manifestsAt session.disk (args.inputPath config cwd)) =
          some units ∧
        let outDir := args.outputPath config cwd
        let sources :=
          (Batch.generate args.mode (Model.ofUnits units) (args.options config) units).2.sources
        ChangesOnly (IsSourcePlace outDir sources) (IsOnWay outDir) session.disk run.2.disk ∧
        ∀ path text, ¬IsSourcePlace outDir sources (place path) →
          session.disk.readText path = .ok text → run.2.disk.readText path = .ok text) := by
  intro run
  have hrun : run.2 = (outcome (generate args cwd) session).2 := exec_snd _ _
  refine ⟨fun hbad => hbad.refuses.exec, fun hstdout => ?_, fun config hconfig hnone => ?_,
    fun hgood => ?_⟩
  · rw [hrun]
    refine Eq.symm (generate_related (R := Eq) fun config units _ _ _ => ?_)
    refine within_deliver fun hfiles => ?_
    rw [hstdout] at hfiles
    cases hfiles
  · rw [hrun]
    refine Eq.symm (generate_related (R := Eq) fun config' units hconfig' _ hsome => ?_)
    cases hconfig.symm.trans hconfig'
    exact absurd hnone hsome
  · obtain ⟨config, units, hconfig, -, hunits⟩ := exists_units_of_not_badInput hgood
    refine ⟨config, units, hconfig, hunits, ?_⟩
    intro outDir sources
    have hchanges : ChangesOnly (IsSourcePlace outDir sources) (IsOnWay outDir) session.disk
        run.2.disk := by
      rw [hrun]
      -- the configuration and the units depend on the disk alone, so the run reads the same ones
      refine generate_related fun config' units' hconfig' hunits' _ => ?_
      cases hconfig.symm.trans hconfig'
      cases hunits.symm.trans hunits'
      exact within_deliver fun _ => within_writeSources outDir sources
    exact ⟨hchanges, fun path text hplace hread => hchanges.readText hplace hread⟩

/-- A manifest that can be read, and one behind it that cannot. -/
def mixedManifests : Session := .holding [("good.decl.json", "[null]"), ("late.decl.json", "[")]

/-- Generating from the first of the two alone. -/
def goodOnly : GenerateArguments := { path := some "good.decl.json" }

/-- With both manifests nothing happens; with the good one alone, the other is left alone. -/
theorem generate_touches_mixedManifests :
    let all := SessionM.exec (generate {} "") mixedManifests
    let one := SessionM.exec (generate goodOnly "") mixedManifests
    (BadInput {} "" mixedManifests.disk ∧ all.1 ≠ none ∧ all.2.disk = mixedManifests.disk) ∧
      ¬BadInput goodOnly "" mixedManifests.disk ∧ one.1 = none ∧
      one.2.disk.fileExists "Generated/MakePropertyAttribute.g.cs" = true ∧
      one.2.disk.readText "late.decl.json" = .ok "[" := by
  dsimp only
  obtain ⟨hrefused, -⟩ := generate_touches_outputs_only {} "" mixedManifests
  obtain ⟨hrefusedOne, -, -, hframe⟩ := generate_touches_outputs_only goodOnly "" mixedManifests
  have hconfig : Config.on? mixedManifests.disk "" = some {} := by decide +kernel
  have hlate : "./late.decl.json" ∈ manifestsAt mixedManifests.disk "." := by
    have hbelow : ["late.decl.json"] ∈ mixedManifests.disk.filesBelow [] := by
      rw [filesBelow, List.mem_mergeSort]
      decide +kernel
    have hnode : mixedManifests.disk.nodeAt "." = .ok .directory := rfl
    have hlocate : mixedManifests.disk.locate "." = .ok [] := rfl
    rw [manifestsAt, if_neg (by decide +kernel), filesUnder, hnode, hlocate, List.mem_filter,
      List.mem_map]
    refine ⟨⟨["late.decl.json"], List.mem_filter.mpr ⟨hbelow, ?_⟩, ?_⟩, ?_⟩
    all_goals decide +kernel
  have hunread : Manifest.on? mixedManifests.disk "./late.decl.json" = none := by decide +kernel
  have hbad : BadInput {} "" mixedManifests.disk := .manifest hconfig hlate hunread
  have hsuccess : (SessionM.exec (generate goodOnly "") mixedManifests).1 = none := by
    decide +kernel
  have hgood : ¬BadInput goodOnly "" mixedManifests.disk :=
    fun hbad => (hrefusedOne hbad).1 hsuccess
  refine ⟨⟨hbad, hrefused hbad⟩, hgood, hsuccess, by decide +kernel, ?_⟩
  obtain ⟨config, units, hconfig', hunits, -, hkept⟩ := hframe hgood
  cases hconfig.symm.trans hconfig'
  have hunit : Manifest.allOn? mixedManifests.disk
      (manifestsAt mixedManifests.disk (goodOnly.inputPath {} "")) =
        some [{ path := some "good.decl.json" }] := by
    decide +kernel
  cases hunit.symm.trans hunits
  have hread : mixedManifests.disk.readText "late.decl.json" = .ok "[" := rfl
  refine hkept "late.decl.json" "[" ?_ hread
  rintro ⟨source, hsource, hplace⟩
  revert source
  decide +kernel

end Command

end Companion
