import Companion.EventPolicy
import Companion.Proofs.Text.Search

/-!
# The method that raises an inherited event

Setters call a method of an ancestor if the event is inherited. `trigger_eq_iff_offers` says which:
the nearest ancestor that declares the event and the ancestors above it have members, and of those
that can raise the event the one with the default name is called, or else the first. The default
name is a guess only if there is none. Methods of ancestors below the event do not count.
-/

namespace Companion

/-- A text is read as the string type, under its keyword or its name, nullable or not. -/
def SpellsString (text : String) : Prop :=
  ∃ t : TypeRef,
    (t = .predefined "string" ∨ t = .named "String" [] ∨ t = .named "System.String" []) ∧
      (TypeRef.parse text = .ok t ∨ TypeRef.parse text = .ok (.nullable t))

/-- A method that can raise the event: the event's name occurs in its name, and it takes a string
and nothing else. -/
def Member.CanRaise (member : Member) : Prop :=
  ∃ name returnType parameter, member = .method name returnType [parameter] ∧
    changeEvent.toList <:+: name.toList ∧ SpellsString parameter

theorem TypeRef.isString_iff {t : TypeRef} :
    t.isString = true ↔
      t = .predefined "string" ∨ t = .named "String" [] ∨ t = .named "System.String" [] := by
  cases t with
  | predefined keyword => simp [isString]
  | named name args => cases args <;> simp [isString]
  | array | tuple | nullable | pointer | functionPointer => simp [isString]

namespace EventPolicy

/-- The method that is called to raise the event, given the members of those who may have it. -/
inductive Offers (members : List Member) : String → Prop
  /-- One with the default name goes first. -/
  | default {m : Member} (mem : m ∈ members) (canRaise : m.CanRaise)
      (name : m.name = defaultTrigger) : Offers members defaultTrigger
  | first {before after : List Member} {m : Member} (split : members = before ++ m :: after)
      (none_before : ∀ b ∈ before, ¬b.CanRaise) (canRaise : m.CanRaise)
      (no_default : ∀ a ∈ members, a.CanRaise → a.name ≠ defaultTrigger) : Offers members m.name
  | none (no_method : ∀ m ∈ members, ¬m.CanRaise) : Offers members defaultTrigger

variable {members : List Member} {chain before above : List Symbol} {s : Symbol} {hook : String}

theorem isStringType_iff {text : String} : isStringType text = true ↔ SpellsString text := by
  unfold isStringType SpellsString
  simp only [← TypeRef.isString_iff]
  cases TypeRef.parse text with
  | error => simp
  | ok t =>
    cases t with
    | nullable inner =>
      constructor
      · exact fun h => ⟨inner, h, .inr rfl⟩
      · rintro ⟨t, ht, heq | heq⟩
        · cases heq
          cases ht
        · cases heq
          exact ht
    | predefined | named | array | tuple | pointer | functionPointer => simp

theorem isTrigger_iff {member : Member} : isTrigger member = true ↔ member.CanRaise := by
  unfold isTrigger Member.CanRaise
  split
  · simp [Text.occurs_iff_isInfix, isStringType_iff]
  · next hmethod =>
    simp only [Bool.false_eq_true, false_iff]
    rintro ⟨name, returnType, parameter, rfl, -⟩
    exact hmethod name returnType parameter rfl

/-! ## The choice among members -/

/-- The method that is called if these members may raise the event. -/
def choose (members : List Member) : String :=
  let candidates := (members.filter isTrigger).map Member.name
  (if candidates.contains defaultTrigger then some defaultTrigger else candidates.head?).getD
    defaultTrigger

theorem choose_of_mem {m : Member} (hm : m ∈ members) (hraise : m.CanRaise)
    (hname : m.name = defaultTrigger) : choose members = defaultTrigger := by
  have hmem : defaultTrigger ∈ (members.filter isTrigger).map Member.name :=
    List.mem_map.mpr ⟨m, List.mem_filter.mpr ⟨hm, isTrigger_iff.mpr hraise⟩, hname⟩
  simp [choose, hmem]

theorem choose_of_forall_ne (h : ∀ m ∈ members, m.CanRaise → m.name ≠ defaultTrigger) :
    choose members =
      (((members.filter isTrigger).map Member.name).head?).getD defaultTrigger := by
  have hmem : defaultTrigger ∉ (members.filter isTrigger).map Member.name := by
    intro hmem
    obtain ⟨m, hm, hname⟩ := List.mem_map.mp hmem
    obtain ⟨hm, htrigger⟩ := List.mem_filter.mp hm
    exact h m hm (isTrigger_iff.mp htrigger) hname
  simp [choose, hmem]

theorem offers_choose (members : List Member) : Offers members (choose members) := by
  by_cases hdefault : ∃ m ∈ members, m.CanRaise ∧ m.name = defaultTrigger
  · obtain ⟨m, hm, hraise, hname⟩ := hdefault
    rw [choose_of_mem hm hraise hname]
    exact .default hm hraise hname
  · have hother : ∀ m ∈ members, m.CanRaise → m.name ≠ defaultTrigger :=
      fun m hm hraise hname => hdefault ⟨m, hm, hraise, hname⟩
    rw [choose_of_forall_ne hother]
    cases hfilter : members.filter isTrigger with
    | nil =>
      refine .none fun m hm hraise => ?_
      exact List.filter_eq_nil_iff.mp hfilter m hm (isTrigger_iff.mpr hraise)
    | cons m rest =>
      obtain ⟨before, after, hsplit, hbefore, htrigger, -⟩ := List.filter_eq_cons_iff.mp hfilter
      refine .first hsplit (fun b hb hraise => ?_) (isTrigger_iff.mp htrigger) hother
      exact hbefore b hb (isTrigger_iff.mpr hraise)

/-- The choice is the only one that is offered. -/
theorem choose_eq_iff_offers {trigger : String} :
    choose members = trigger ↔ Offers members trigger := by
  constructor
  · rintro rfl
    exact offers_choose members
  · intro h
    cases h with
    | default hm hraise hname => exact choose_of_mem hm hraise hname
    | @first before after m hsplit hbefore hraise hother =>
      have hnone : before.filter isTrigger = [] :=
        List.filter_eq_nil_iff.mpr fun b hb htrigger => hbefore b hb (isTrigger_iff.mp htrigger)
      rw [choose_of_forall_ne hother, hsplit, List.filter_append, hnone, List.nil_append,
        List.filter_cons_of_pos (isTrigger_iff.mpr hraise)]
      rfl
    | none hnone =>
      have hother : ∀ m ∈ members, m.CanRaise → m.name ≠ defaultTrigger :=
        fun m hm hraise => absurd hraise (hnone m hm)
      have hfilter : members.filter isTrigger = [] :=
        List.filter_eq_nil_iff.mpr fun m hm htrigger => hnone m hm (isTrigger_iff.mp htrigger)
      rw [choose_of_forall_ne hother, hfilter]
      rfl

/-! ## The choice along a chain -/

theorem filter_isTrigger_methods (s : Symbol) :
    s.methods.filter isTrigger = s.members.filter isTrigger := by
  rw [Symbol.methods, List.filter_filter]
  refine List.filter_congr fun m _ => ?_
  cases m <;> simp [isTrigger, Member.isMethod]

theorem triggers_eq (chain : List Symbol) :
    triggers chain =
      (((chain.dropWhile (!·.hasMember changeEvent)).flatMap Symbol.members).filter
        isTrigger).map Member.name := by
  simp only [triggers, List.filter_flatMap, filter_isTrigger_methods]

theorem trigger_ofChain_append (hbefore : ∀ b ∈ before, b.hasMember changeEvent = false)
    (hs : s.hasMember changeEvent = true) :
    (ofChain (before ++ s :: above) hook).trigger =
      choose ((s :: above).flatMap Symbol.members) := by
  have hdrop : (before ++ s :: above).dropWhile (!·.hasMember changeEvent) = s :: above := by
    rw [List.dropWhile_append_of_pos (by simpa using hbefore),
      List.dropWhile_cons_of_neg (by simpa using hs)]
  rw [ofChain, findTrigger?, triggers_eq, hdrop]
  rfl

/-- If an ancestor declares the event, the method to call is looked for among the members of the
nearest one that does and of those above it. -/
theorem trigger_eq_iff_offers (h : ∃ s ∈ chain, s.hasMember changeEvent = true) (hook : String) :
    ∃ before s above, chain = before ++ s :: above ∧
      (∀ b ∈ before, b.hasMember changeEvent = false) ∧ s.hasMember changeEvent = true ∧
      ∀ trigger, (ofChain chain hook).trigger = trigger ↔
        Offers ((s :: above).flatMap Symbol.members) trigger := by
  obtain ⟨s, hs⟩ := Option.isSome_iff_exists.mp (List.find?_isSome.mpr h)
  obtain ⟨hmember, before, above, rfl, hbefore⟩ := List.find?_eq_some_iff_append.mp hs
  have hnearer : ∀ b ∈ before, b.hasMember changeEvent = false := by simpa using hbefore
  refine ⟨before, s, above, rfl, hnearer, hmember, fun trigger => ?_⟩
  rw [trigger_ofChain_append hnearer hmember]
  exact choose_eq_iff_offers

/-- An ancestor with the event and a method that raises it, below one with the default method. -/
def eventBelowDefault : List Symbol :=
  [{ name := "Middle", members := [.method "Refresh" "void" ["string"]] },
    { name := "Base"
      members := [.event "PropertyChanged" "PropertyChangedEventHandler?",
        .method "RaisePropertyChanged" "void" ["System.String"]] },
    { name := "Root", members := [.method "OnPropertyChanged" "void" ["string?"]] }]

theorem eventBelowDefault_offers :
    (∃ s ∈ eventBelowDefault, s.hasMember changeEvent = true) ∧
      ∃ before s above, eventBelowDefault = before ++ s :: above ∧
        s.hasMember changeEvent = true ∧
        Offers ((s :: above).flatMap Symbol.members) "OnPropertyChanged" := by
  have hevent : ∃ s ∈ eventBelowDefault, s.hasMember changeEvent = true := by decide
  obtain ⟨before, s, above, hchain, -, hs, hoffers⟩ := trigger_eq_iff_offers hevent ""
  have htrigger : (ofChain eventBelowDefault "").trigger = "OnPropertyChanged" := by
    decide +kernel
  exact ⟨hevent, before, s, above, hchain, hs, (hoffers _).mp htrigger⟩

/-- An ancestor with a method that raises the event of the one above it. -/
def raiserBelowEvent : List Symbol :=
  [{ name := "Middle", members := [.method "RaisePropertyChanged" "void" ["string"]] },
    { name := "Base", members := [.event "PropertyChanged" "PropertyChangedEventHandler"] }]

/-- The event and a method that takes a nullable string under its name. -/
def raiserOfNullable : List Symbol :=
  [{ name := "Base"
     members := [.event "PropertyChanged" "PropertyChangedEventHandler",
       .method "RaisePropertyChanged" "void" ["String?"]] }]

/-- The method below the event is not found, and a method that no ancestor has is called. The
nullable string type counts under all its names. -/
theorem raiserBelowEvent_not_offered :
    (∃ s ∈ raiserBelowEvent, s.hasMember changeEvent = true) ∧
      Offers (raiserBelowEvent.flatMap Symbol.members) "RaisePropertyChanged" ∧
      (ofChain raiserBelowEvent "").trigger = "OnPropertyChanged" ∧
      ¬Offers (raiserBelowEvent.flatMap Symbol.members) (ofChain raiserBelowEvent "").trigger ∧
      (ofChain raiserOfNullable "").trigger = "RaisePropertyChanged" := by
  have hchoose : choose (raiserBelowEvent.flatMap Symbol.members) = "RaisePropertyChanged" := by
    decide +kernel
  have htrigger : (ofChain raiserBelowEvent "").trigger = "OnPropertyChanged" := by
    decide +kernel
  refine ⟨by decide, choose_eq_iff_offers.mp hchoose, htrigger, fun hoffers => ?_, by
    decide +kernel⟩
  have hsame := choose_eq_iff_offers.mpr hoffers
  rw [hchoose, htrigger] at hsame
  exact absurd hsame (by decide)

end EventPolicy

end Companion
