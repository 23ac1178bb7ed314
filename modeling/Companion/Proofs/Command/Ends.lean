import Companion.Command.Workspace

/-!
# Commands that come to their end

A command on a session either fails or ends in a new session. The lemmas take a command that ends
apart, and say for each operation of a workspace what ending means for the disk.
-/

namespace Companion.SessionM

variable {α β : Type} {session session' : Session}

/-- What a command returns or why it fails, and the session after it. -/
def outcome (command : SessionM α) (session : Session) : Except Failure α × Session :=
  (command.run.run session).run

/-- A command returns a value and leads from one session to another. -/
def Ends (command : SessionM α) (session : Session) (a : α) (session' : Session) : Prop :=
  command.outcome session = (.ok a, session')

theorem exec_eq (command : SessionM Unit) (session : Session) :
    command.exec session = match command.outcome session with
      | (.ok (), session) => (none, session)
      | (.error failure, session) => (some failure, session) := rfl

theorem exec_eq_none_iff {command : SessionM Unit} :
    command.exec session = (none, session') ↔ Ends command session () session' := by
  rw [exec_eq, Ends]
  rcases command.outcome session with ⟨_ | _, _⟩ <;> simp

theorem exec_snd (command : SessionM Unit) (session : Session) :
    (command.exec session).2 = (command.outcome session).2 := by
  rw [exec_eq]
  rcases command.outcome session with ⟨_ | _, _⟩ <;> rfl

theorem exec_of_fst {command : SessionM Unit} (h : (command.exec session).1 = none) :
    command.exec session = (none, (command.exec session).2) := by
  rw [← h]

theorem outcome_bind (command : SessionM α) (next : α → SessionM β) (session : Session) :
    (command >>= next).outcome session = match command.outcome session with
      | (.ok a, session₁) => (next a).outcome session₁
      | (.error failure, session₁) => (.error failure, session₁) := by
  have hbind : (command >>= next).outcome session = match command.outcome session with
    | (result, session₁) => ExceptT.bindCont next result session₁ := rfl
  rw [hbind]
  rcases command.outcome session with ⟨_ | _, _⟩ <;> rfl

theorem ends_bind_iff {command : SessionM α} {next : α → SessionM β} {b : β} :
    Ends (command >>= next) session b session' ↔
      ∃ a session₁, Ends command session a session₁ ∧ Ends (next a) session₁ b session' := by
  unfold Ends
  rw [outcome_bind]
  rcases command.outcome session with ⟨failure | a, session₁⟩
  · simp
  · constructor
    · exact fun h => ⟨a, session₁, rfl, h⟩
    · rintro ⟨_, _, ⟨⟩, h⟩
      exact h

theorem ends_get_iff {a : Session} :
    Ends get session a session' ↔ a = session ∧ session' = session := by
  constructor
  · rintro ⟨⟩
    exact ⟨rfl, rfl⟩
  · rintro ⟨rfl, rfl⟩
    rfl

theorem ends_modify_iff {change : Session → Session} :
    Ends (modify change) session () session' ↔ session' = change session := by
  constructor
  · rintro ⟨⟩
    rfl
  · rintro rfl
    rfl

theorem ends_check_iff {result : Except Fault α} {a : α} :
    Ends (check result) session a session' ↔ result = .ok a ∧ session' = session := by
  cases result with
  | error fault =>
    constructor
    · rintro ⟨⟩
    · rintro ⟨⟨⟩, -⟩
  | ok b =>
    constructor
    · rintro ⟨⟩
      exact ⟨rfl, rfl⟩
    · rintro ⟨⟨⟩, rfl⟩
      rfl

/-- However a command begins, it ends as what comes last in it ends. -/
theorem exists_ends_last {command : SessionM Unit} {next : Unit → SessionM β} {b : β}
    (h : Ends (command >>= next) session b session') :
    ∃ session₁, Ends (next ()) session₁ b session' := by
  obtain ⟨⟨⟩, session₁, -, hnext⟩ := ends_bind_iff.mp h
  exact ⟨session₁, hnext⟩

/-! ## Operations -/

theorem ends_print {text : String} (h : Ends (Workspace.print text) session () session') :
    session'.disk = session.disk := by
  rw [ends_modify_iff.mp h]

theorem exists_ends_printLine (text : String) (session : Session) :
    ∃ session', Ends (Workspace.printLine text) session () session' ∧
      session'.disk = session.disk :=
  ⟨_, ends_modify_iff.mpr rfl, rfl⟩

theorem ends_printError {text : String}
    (h : Ends (Workspace.printError text) session () session') :
    session'.disk = session.disk := by
  rw [ends_modify_iff.mp h]

theorem ends_writeText {path text : String}
    (h : Ends (Workspace.writeText path text) session () session') :
    session.disk.writeText path text = .ok session'.disk := by
  obtain ⟨_, _, hget, h₁⟩ := ends_bind_iff.mp h
  obtain ⟨rfl, rfl⟩ := ends_get_iff.mp hget
  obtain ⟨disk, _, hcheck, h₂⟩ := ends_bind_iff.mp h₁
  obtain ⟨hdisk, rfl⟩ := ends_check_iff.mp hcheck
  rw [ends_modify_iff.mp h₂]
  exact hdisk

theorem ends_makeDirs {path : String}
    (h : Ends (Workspace.makeDirs path) session () session') :
    session.disk.makeDirs path = (.ok (), session'.disk) := by
  obtain ⟨_, _, hget, h₁⟩ := ends_bind_iff.mp h
  obtain ⟨rfl, rfl⟩ := ends_get_iff.mp hget
  obtain ⟨_, _, hmodify, h₂⟩ := ends_bind_iff.mp h₁
  obtain ⟨hresult, rfl⟩ := ends_check_iff.mp h₂
  rw [ends_modify_iff.mp hmodify]
  exact Prod.ext hresult rfl

/-! ## Loops -/

theorem ends_forM_cons {f : α → SessionM Unit} {a : α} {l : List α} :
    Ends ((a :: l).forM f) session () session' ↔
      ∃ session₁, Ends (f a) session () session₁ ∧ Ends (l.forM f) session₁ () session' := by
  rw [List.forM, ends_bind_iff]
  exact ⟨fun ⟨_, h⟩ => h, fun h => ⟨(), h⟩⟩

/-- A loop whose steps leave the disk alone does so too. -/
theorem ends_forM_disk {f : α → SessionM Unit} {l : List α}
    (hf : ∀ a session session', Ends (f a) session () session' → session'.disk = session.disk)
    (h : Ends (l.forM f) session () session') : session'.disk = session.disk := by
  induction l generalizing session with
  | nil =>
    cases h
    rfl
  | cons a l ih =>
    obtain ⟨session₁, hfirst, hrest⟩ := ends_forM_cons.mp h
    rw [ih hrest, hf a _ _ hfirst]

end Companion.SessionM
