import Companion.Command.Load
import Companion.Proofs.Basic
import Companion.Proofs.Command.Ends

/-!
# What commands read

Reading a configuration or manifests depends on the disk alone and leaves it alone. So what is read
is a function of the disk (`Config.on?`, `Manifest.on?`): where it has a value the command ends with
that value, and where it has none the command is refused.
-/

namespace Companion

namespace SessionM

variable {α β : Type} {session : Session}

/-- A command fails and has not touched the disk. -/
def Refuses (command : SessionM α) (session : Session) : Prop :=
  ∃ failure session', command.outcome session = (.error failure, session') ∧
    session'.disk = session.disk

theorem outcome_bind_of_ends {command : SessionM α} {next : α → SessionM β} {a : α}
    {session' : Session} (h : Ends command session a session') :
    (command >>= next).outcome session = (next a).outcome session' := by
  rw [outcome_bind, h]

theorem refuses_throw (failure : Failure) : Refuses (throw failure : SessionM α) session :=
  ⟨failure, session, rfl, rfl⟩

theorem Refuses.bind {command : SessionM α} {next : α → SessionM β} (h : Refuses command session) :
    Refuses (command >>= next) session := by
  obtain ⟨failure, session', houtcome, hdisk⟩ := h
  refine ⟨failure, session', ?_, hdisk⟩
  rw [outcome_bind, houtcome]

theorem Refuses.after {command : SessionM α} {next : α → SessionM β} {a : α} {session' : Session}
    (hends : Ends command session a session') (hdisk : session'.disk = session.disk)
    (h : Refuses (next a) session') : Refuses (command >>= next) session := by
  obtain ⟨failure, session₂, houtcome, hdisk₂⟩ := h
  exact ⟨failure, session₂, (outcome_bind_of_ends hends).trans houtcome, hdisk₂.trans hdisk⟩

theorem Refuses.exec {command : SessionM Unit} (h : Refuses command session) :
    (command.exec session).1 ≠ none ∧ (command.exec session).2.disk = session.disk := by
  obtain ⟨failure, session', houtcome, hdisk⟩ := h
  rw [exec_eq, houtcome]
  exact ⟨Option.some_ne_none failure, hdisk⟩

/-! ## Operations that read -/

theorem ends_pure (a : α) : Ends (pure a) session a session := rfl

theorem ends_fileExists (path : String) :
    Ends (Workspace.fileExists path) session (session.disk.fileExists path) session := rfl

theorem ends_isFile (path : String) :
    Ends (Workspace.isFile path) session (session.disk.isFile path) session := rfl

theorem ends_filesUnder (path : String) :
    Ends (Workspace.filesUnder path) session (session.disk.filesUnder path) session := rfl

theorem ends_readText {path text : String} (h : session.disk.readText path = .ok text) :
    Ends (Workspace.readText path) session text session := by
  refine ends_bind_iff.mpr ⟨session, session, ends_get_iff.mpr ⟨rfl, rfl⟩, ?_⟩
  exact ends_check_iff.mpr ⟨h, rfl⟩

theorem refuses_readText {path : String} {fault : Fault}
    (h : session.disk.readText path = .error fault) :
    Refuses (Workspace.readText path : SessionM String) session := by
  have hget : Ends get session session session := ends_get_iff.mpr ⟨rfl, rfl⟩
  refine Refuses.after hget rfl ?_
  rw [h]
  exact refuses_throw .io

/-- What a file holds, if it can be read and decoded. -/
def decoded? (decode : String → Option α) (disk : Disk) (path : String) : Option α :=
  (disk.readText path).toOption.bind decode

section

variable {decode : String → Option α} {next : String → SessionM α} {path : String}

theorem ends_decode {a : α} (h : decoded? decode session.disk path = some a)
    (hnext : ∀ text, decode text = some a → Ends (next text) session a session) :
    Ends (Workspace.readText path >>= next) session a session := by
  obtain ⟨text, htext, hdecode⟩ := Option.bind_eq_some_iff.mp h
  refine ends_bind_iff.mpr ⟨text, session, ends_readText (except_toOption_eq_some.mp htext), ?_⟩
  exact hnext text hdecode

theorem refuses_decode (h : decoded? decode session.disk path = none)
    (hnext : ∀ text, decode text = none → Refuses (next text) session) :
    Refuses (Workspace.readText path >>= next) session := by
  cases hread : session.disk.readText path with
  | error fault => exact (refuses_readText hread).bind
  | ok text =>
    have hdecode : decode text = none := by
      rw [decoded?, hread] at h
      exact h
    exact Refuses.after (ends_readText hread) rfl (hnext text hdecode)

end

end SessionM

/-- A session with some files at the root of its disk, and nothing else. -/
def Session.holding (files : List (String × String)) : Session :=
  { disk := files.foldl (fun disk file => disk.insert [file.1] (.file file.2)) {} }

open SessionM

variable {session : Session}

/-! ## Configurations -/

namespace Config

/-- The configuration of a directory, if the one that it may have can be read. -/
def on? (disk : Disk) (cwd : String) : Option Config :=
  if disk.fileExists (Path.join cwd fileName) then decoded? parse? disk (Path.join cwd fileName)
  else some {}

theorem ends_load {cwd : String} {config : Config} (h : on? session.disk cwd = some config) :
    Ends (load cwd) session config session := by
  refine ends_bind_iff.mpr ⟨_, session, ends_fileExists _, ?_⟩
  rw [on?] at h
  split at h
  · next hexists =>
    rw [if_pos hexists]
    refine ends_decode h fun text htext => ?_
    rw [htext]
    exact ends_pure config
  · next hmissing =>
    rw [if_neg hmissing]
    cases h
    exact ends_pure _

theorem refuses_load {cwd : String} (h : on? session.disk cwd = none) :
    Refuses (load cwd) session := by
  refine Refuses.after (ends_fileExists _) rfl ?_
  rw [on?] at h
  split at h
  · next hexists =>
    rw [if_pos hexists]
    refine refuses_decode h fun text htext => ?_
    rw [htext]
    exact refuses_throw .invalidConfig
  · cases h

end Config

/-! ## Manifests -/

namespace Manifest

/-- The units of the manifest at a path, if it can be read. -/
def on? (disk : Disk) (path : String) : Option (List SourceUnit) := decoded? (load? path) disk path

theorem ends_load {path : String} {units : List SourceUnit}
    (h : on? session.disk path = some units) : Ends (load path) session units session := by
  refine ends_decode h fun text htext => ?_
  rw [htext]
  exact ends_pure units

theorem refuses_load {path : String} (h : on? session.disk path = none) :
    Refuses (load path) session := by
  refine refuses_decode h fun text htext => ?_
  rw [htext]
  exact refuses_throw (.invalidManifest path)

/-- The units of several manifests, if all of them can be read. -/
def allOn? (disk : Disk) (paths : List String) : Option (List SourceUnit) :=
  (paths.mapM (on? disk)).map List.flatten

theorem allOn?_cons (disk : Disk) (path : String) (paths : List String) :
    allOn? disk (path :: paths) =
      (on? disk path).bind fun units => (allOn? disk paths).map (units ++ ·) := by
  rw [allOn?, allOn?, List.mapM_cons]
  cases on? disk path with
  | none => rfl
  | some units => cases paths.mapM (on? disk) <;> rfl

theorem allOn?_eq_none_iff {disk : Disk} {paths : List String} :
    allOn? disk paths = none ↔ ∃ path ∈ paths, on? disk path = none := by
  induction paths with
  | nil => simp [allOn?]
  | cons path paths ih =>
    rw [allOn?_cons, List.exists_mem_cons_iff, ← ih]
    cases on? disk path with
    | none => simp
    | some units => simp

theorem ends_loadAll {paths : List String} {units : List SourceUnit}
    (h : allOn? session.disk paths = some units) : Ends (loadAll paths) session units session := by
  induction paths generalizing units with
  | nil =>
    cases h
    exact ends_pure _
  | cons path paths ih =>
    rw [allOn?_cons] at h
    obtain ⟨first, hfirst, h⟩ := Option.bind_eq_some_iff.mp h
    obtain ⟨rest, hrest, rfl⟩ := Option.map_eq_some_iff.mp h
    refine ends_bind_iff.mpr ⟨first, session, ends_load hfirst, ?_⟩
    exact ends_bind_iff.mpr ⟨rest, session, ih hrest, ends_pure _⟩

/-- One manifest that cannot be read is enough, wherever it stands. -/
theorem refuses_loadAll {paths : List String} (h : allOn? session.disk paths = none) :
    Refuses (loadAll paths) session := by
  induction paths with
  | nil => cases h
  | cons path paths ih =>
    rw [allOn?_cons] at h
    cases hfirst : on? session.disk path with
    | none => exact (refuses_load hfirst).bind
    | some first =>
      rw [hfirst] at h
      have hrest : allOn? session.disk paths = none := Option.map_eq_none_iff.mp h
      exact Refuses.after (ends_load hfirst) rfl (ih hrest).bind

end Manifest

end Companion
