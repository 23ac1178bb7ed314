import Companion.Command.Init
import Companion.Proofs.Command.Reading
import Companion.Proofs.Declaration.Codec
import Companion.Proofs.Disk
import Companion.Proofs.Json.RoundTrip

/-!
# Configurations are read as they were written

A configuration is written with all its members, under the names by which they are read, and its
text is read back whatever texts are in it. So a project that has been initialised is loaded with
the directories that were asked for: the configuration is the last file that is written, and only
lines are printed after it.
-/

namespace Companion

open Json SessionM

/-! ## The text of a configuration -/

theorem LineEnding.recovers :
    Recovers (fun ending => .string (name ending)) fun json => (case? json).bind ofName? := by
  intro ending
  cases ending <;> rfl

namespace Config

theorem recovers : Recovers toJson ofJson? := by
  refine Recovers.record (fun _ => rfl) (by decide) fun c => ?_
  simp [text?, flag?, LineEnding.recovers c.lineEnding]

theorem plainTo (c : Config) : PlainTo 1 c.toJson := by
  refine .object ?_
  simp [PlainTo.string, PlainTo.bool]

theorem parse?_render (c : Config) : parse? c.render = some c := by
  rw [parse?, render, c.plainTo.read?_render]
  exact recovers c

theorem on?_of_readText {disk : Disk} {cwd text : String}
    (h : disk.readText (Path.join cwd fileName) = .ok text) : on? disk cwd = parse? text := by
  rw [on?, if_pos (Disk.fileExists_of_readText h), decoded?, h]
  rfl

end Config

/-! ## Starting a project -/

namespace Command

variable {args : InitArguments} {cwd : String} {session session' : Session}

/-- The configuration is written to whatever disk there is by then. -/
theorem init_writes_config
    (h : session.disk.fileExists (Path.join cwd Config.fileName) = false ∨ args.force = true)
    (hrun : Ends (init args cwd) session () session') :
    ∃ disk : Disk, disk.writeText (Path.join cwd Config.fileName) args.config.render =
      .ok session'.disk := by
  obtain ⟨_, _, hexists, hrun⟩ := ends_bind_iff.mp hrun
  cases (ends_fileExists _).symm.trans hexists
  rw [if_neg (by rcases h with h | h <;> simp [h])] at hrun
  -- what is printed and made before is of no account
  obtain ⟨session₁, hrun⟩ := exists_ends_last hrun
  obtain ⟨session₂, hrun⟩ := exists_ends_last hrun
  obtain ⟨session₃, hrun⟩ := exists_ends_last hrun
  obtain ⟨_, session₄, hwrite, hlines⟩ := ends_bind_iff.mp hrun
  refine ⟨session₃.disk, ?_⟩
  rw [ends_forM_disk (fun _ _ _ => ends_print) hlines]
  exact ends_writeText hwrite

/-- Without being told to replace it, an existing configuration is left alone, and so is the rest of
the disk. -/
theorem init_of_exists (hexists : session.disk.fileExists (Path.join cwd Config.fileName) = true)
    (hforce : args.force = false) :
    ∃ session', Ends (init args cwd) session () session' ∧ session'.disk = session.disk := by
  obtain ⟨session₁, hfirst, hdisk₁⟩ :=
    exists_ends_printLine ("⚠️ " ++ Config.fileName ++ " already exists") session
  obtain ⟨session₂, hsecond, hdisk₂⟩ := exists_ends_printLine "Use --force to overwrite" session₁
  refine ⟨session₂, ends_bind_iff.mpr ⟨_, session, ends_fileExists _, ?_⟩, hdisk₂.trans hdisk₁⟩
  rw [if_pos (by simp [hexists, hforce])]
  exact ends_bind_iff.mpr ⟨(), session₁, hfirst, hsecond⟩

/-- Every configuration is recovered from its text. A project that is initialised, where there is no
configuration or it is to be replaced, is loaded with the given directories and defaults for
everything else; where there is one, initialising changes no file. -/
theorem load_after_init :
    (∀ c : Config, Config.parse? c.render = some c) ∧
    (∀ (args : InitArguments) (cwd : String) (session session' : Session),
      session.disk.fileExists (Path.join cwd Config.fileName) = false ∨ args.force = true →
      SessionM.exec (init args cwd) session = (none, session') →
        Ends (Config.load cwd) session' { srcDir := args.srcDir, outDir := args.outDir }
          session') ∧
    ∀ (args : InitArguments) (cwd : String) (session : Session),
      session.disk.fileExists (Path.join cwd Config.fileName) = true → args.force = false →
        ∃ session', SessionM.exec (init args cwd) session = (none, session') ∧
          session'.disk = session.disk := by
  refine ⟨Config.parse?_render, fun args cwd session session' h hrun => ?_,
    fun args cwd session hexists hforce => ?_⟩
  · obtain ⟨disk, hwrite⟩ := init_writes_config h (exec_eq_none_iff.mp hrun)
    have hread := Disk.readText_writeText hwrite
    exact Config.ends_load ((Config.on?_of_readText hread).trans (Config.parse?_render args.config))
  · obtain ⟨session', hends, hdisk⟩ := init_of_exists hexists hforce
    exact ⟨session', exec_eq_none_iff.mpr hends, hdisk⟩

/-- Directories whose names need escapes. -/
def oddDirectories : InitArguments := { srcDir := "a \"b\"\\c", outDir := "line\nbreak\x01é" }

theorem load_after_init_odd :
    let run := SessionM.exec (init oddDirectories "/work") {}
    run.1 = none ∧
      Ends (Config.load "/work") run.2
        { srcDir := "a \"b\"\\c", outDir := "line\nbreak\x01é" } run.2 ∧
      ∃ session', SessionM.exec (init {} "/work") run.2 = (none, session') ∧
        session'.disk = run.2.disk := by
  intro run
  obtain ⟨-, hload, hagain⟩ := load_after_init
  have hsuccess : run.1 = none := by decide +kernel
  have hexists : run.2.disk.fileExists (Path.join "/work" Config.fileName) = true := by
    decide +kernel
  have hfresh : ({} : Session).disk.fileExists (Path.join "/work" Config.fileName) = false := by
    decide +kernel
  exact ⟨hsuccess, hload oddDirectories "/work" {} run.2 (.inl hfresh) (exec_of_fst hsuccess),
    hagain {} "/work" run.2 hexists rfl⟩

end Command

end Companion
