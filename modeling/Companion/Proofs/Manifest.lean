import Mathlib.Data.List.Forall2
import Companion.Proofs.Command.Reading
import Companion.Proofs.Declaration.Codec
import Companion.Proofs.Json.RoundTrip

/-!
# What a manifest yields

The text of a unit, or of a list of units, is read back as JSON, whatever is in the units, and is
never too deep for a reader. A unit that was written as an object can only be read as itself. A list
of them is tried as one unit first: that fails on the first item, which would have to be a path and
is an object. The empty list has no item on which it could fail, and yields a unit with nothing in
it.
-/

namespace Companion

open Json

/-! ## Texts of declarations -/

section

variable {depth : Nat}

theorem Json.plainTo_ofText (text : String) : PlainTo depth (ofText text) := .string text

theorem Json.plainTo_ofTextOrNull (text : Option String) : PlainTo depth (ofTextOrNull text) := by
  cases text with
  | none => exact .null
  | some text => exact .string text

theorem Json.plainTo_ofList {α : Type} {encode : α → Json} (h : ∀ a, PlainTo depth (encode a))
    (items : List α) : PlainTo (depth + 1) (ofList encode items) := by
  refine .array fun json hjson => ?_
  obtain ⟨a, -, rfl⟩ := List.mem_map.mp hjson
  exact h a

theorem Json.plainTo_texts (texts : List String) : PlainTo (depth + 1) (ofList ofText texts) :=
  plainTo_ofList plainTo_ofText texts

theorem Attribute.plainTo (a : Attribute) : PlainTo (depth + 2) a.toJson := by
  refine .object ?_
  simp [plainTo_ofText, plainTo_texts]

theorem FieldDecl.plainTo (d : FieldDecl) : PlainTo (depth + 4) d.toJson := by
  refine .object ?_
  simp [plainTo_ofTextOrNull, plainTo_texts, plainTo_ofList Attribute.plainTo]

theorem PropertyDecl.plainTo (d : PropertyDecl) : PlainTo (depth + 1) d.toJson := by
  refine .object ?_
  simp [plainTo_ofText, plainTo_ofTextOrNull, PlainTo.bool]

theorem ParameterDecl.plainTo (d : ParameterDecl) : PlainTo (depth + 1) d.toJson := by
  refine .object ?_
  simp [plainTo_ofText]

theorem MethodDecl.plainTo (d : MethodDecl) : PlainTo (depth + 3) d.toJson := by
  refine .object ?_
  simp [plainTo_ofText, plainTo_texts, plainTo_ofList ParameterDecl.plainTo]

theorem EventDecl.plainTo (d : EventDecl) : PlainTo (depth + 1) d.toJson := by
  refine .object ?_
  simp [plainTo_ofText]

theorem TypeDecl.plainTo (d : TypeDecl) : PlainTo (depth + 6) d.toJson := by
  refine .object ?_
  simp [plainTo_ofText, plainTo_ofTextOrNull, plainTo_texts, plainTo_ofList Attribute.plainTo,
    plainTo_ofList FieldDecl.plainTo, plainTo_ofList PropertyDecl.plainTo,
    plainTo_ofList MethodDecl.plainTo, plainTo_ofList EventDecl.plainTo]

theorem SourceUnit.plainTo (u : SourceUnit) : PlainTo (depth + 8) u.toJson := by
  refine .object ?_
  simp [plainTo_ofTextOrNull, plainTo_texts, plainTo_ofList TypeDecl.plainTo]

end

theorem SourceUnit.isTractable_toJson (u : SourceUnit) : u.toJson.isTractable = true :=
  u.plainTo.isTractableTo

theorem SourceUnit.isTractable_ofList (units : List SourceUnit) :
    (ofList toJson units).isTractable = true :=
  (plainTo_ofList plainTo units).isTractableTo

namespace Manifest

/-! ## Both readings -/

theorem units?_toJson (unit : SourceUnit) : units? unit.toJson = some [unit] := by
  rw [units?, SourceUnit.recovers]

/-- A list that starts with an object is not the array of the fields of one unit. -/
theorem ofJson?_ofList_cons (unit : SourceUnit) (units : List SourceUnit) :
    SourceUnit.ofJson? (ofList SourceUnit.toJson (unit :: units)) = none := by
  rw [SourceUnit.ofJson?, ofList, List.map_cons, fields?]
  split
  · simp [SourceUnit.toJson, textOrNull?]
  · rfl

theorem units?_ofList_cons (unit : SourceUnit) (units : List SourceUnit) :
    units? (ofList SourceUnit.toJson (unit :: units)) = some (unit :: units) := by
  rw [units?, ofJson?_ofList_cons]
  exact SourceUnit.recovers.list (unit :: units)

theorem units?_ofList_nil : units? (ofList SourceUnit.toJson []) = some [{}] := rfl

/-! ## Loading -/

/-- A unit is given as it was written, but always with a path, which is that of the manifest if the
unit has none. -/
structure IsLocated (path : String) (unit located : SourceUnit) : Prop where
  path_of_some : ∀ own, unit.path = some own → located.path = some own
  path_of_none : unit.path = none → located.path = some path
  usings_eq : located.usings = unit.usings
  types_eq : located.types = unit.types

theorem isLocated_locate (path : String) (unit : SourceUnit) :
    IsLocated path unit (locate path unit) where
  path_of_some own h := by rw [locate, h, Option.getD_some]
  path_of_none h := by rw [locate, h, Option.getD_none]
  usings_eq := rfl
  types_eq := rfl

/-- Loading the manifest at a path succeeds, leaves everything as it is and gives exactly these
units, in order. -/
def Yields (session : Session) (path : String) (units : List SourceUnit) : Prop :=
  ∃ loaded, SessionM.Ends (load path) session loaded session ∧
    List.Forall₂ (IsLocated path) units loaded

section

variable {session : Session} {path text : String} {json : Json} {read units : List SourceUnit}

theorem ends_load_of_units? (htext : session.disk.readText path = .ok text)
    (hjson : Json.read? text = some json) (htractable : json.isTractable = true)
    (hread : units? json = some read) :
    SessionM.Ends (load path) session (read.map (locate path)) session := by
  refine ends_load ?_
  have hparse : parse? text = some read := by simp [parse?, hjson, htractable, hread]
  rw [on?, SessionM.decoded?, htext]
  exact congrArg (Option.map _) hparse

theorem yields_iff (htext : session.disk.readText path = .ok text)
    (hjson : Json.read? text = some json) (htractable : json.isTractable = true)
    (hread : units? json = some read) :
    Yields session path units ↔ List.Forall₂ (IsLocated path) units (read.map (locate path)) := by
  have hends := ends_load_of_units? htext hjson htractable hread
  constructor
  · rintro ⟨loaded, hloaded, hunits⟩
    cases hends.symm.trans hloaded
    exact hunits
  · exact fun hunits => ⟨_, hends, hunits⟩

theorem forall₂_locate (path : String) (units : List SourceUnit) :
    List.Forall₂ (IsLocated path) units (units.map (locate path)) :=
  List.forall₂_map_right_iff.mpr (List.forall₂_same.mpr fun unit _ => isLocated_locate path unit)

/-- The empty list of units yields a unit. -/
theorem not_yields_nil (htext : session.disk.readText path = .ok text)
    (hjson : Json.read? text = some (ofList SourceUnit.toJson [])) : ¬Yields session path [] := by
  rw [yields_iff htext hjson (SourceUnit.isTractable_ofList []) units?_ofList_nil]
  rintro ⟨⟩

theorem yields_cons {unit : SourceUnit} (htext : session.disk.readText path = .ok text)
    (hjson : Json.read? text = some (ofList SourceUnit.toJson (unit :: units))) :
    Yields session path (unit :: units) := by
  rw [yields_iff htext hjson (SourceUnit.isTractable_ofList _) (units?_ofList_cons unit units)]
  exact forall₂_locate path _

theorem yields_unit {unit : SourceUnit} (htext : session.disk.readText path = .ok text)
    (hjson : Json.read? text = some unit.toJson) : Yields session path [unit] := by
  rw [yields_iff htext hjson unit.isTractable_toJson (units?_toJson unit)]
  exact forall₂_locate path [unit]

end

/-- A manifest with a list of units yields exactly those units if and only if there are any, and one
with a single unit always yields it; and the texts in which units are written are such manifests. -/
theorem load_yields_iff {session : Session} {path text : String}
    (htext : session.disk.readText path = .ok text) :
    (∀ units, Json.read? text = some (ofList SourceUnit.toJson units) →
      (Yields session path units ↔ units ≠ [])) ∧
    (∀ unit, Json.read? text = some (SourceUnit.toJson unit) → Yields session path [unit]) ∧
    (∀ units, text = (ofList SourceUnit.toJson units).render →
      Json.read? text = some (ofList SourceUnit.toJson units)) ∧
    (∀ unit, text = (SourceUnit.toJson unit).render →
      Json.read? text = some (SourceUnit.toJson unit)) := by
  refine ⟨fun units hjson => ?_, fun unit hjson => yields_unit htext hjson, ?_, ?_⟩
  · cases units with
    | nil => simp [not_yields_nil htext hjson]
    | cons unit units => simp [yields_cons htext hjson]
  · rintro units rfl
    have hplain : PlainTo 9 (ofList SourceUnit.toJson units) :=
      plainTo_ofList SourceUnit.plainTo units
    exact hplain.read?_render
  · rintro unit rfl
    have hplain : PlainTo 8 unit.toJson := unit.plainTo
    exact hplain.read?_render

/-- A session with one manifest. -/
def aloneOn (text : String) : Session := .holding [("app.decl.json", text)]

theorem readText_aloneOn (text : String) :
    (aloneOn text).disk.readText "app.decl.json" = .ok text := rfl

/-- Two units are listed, one of them with a path of its own and with a text that needs escapes. -/
def twoUnits : List SourceUnit :=
  [{ usings := ["System"] },
    { path := some "src/Person.cs", types := [{ name := "Person", doc := some "\"a\\b\"\n" }] }]

theorem twoUnits_yielded :
    Yields (aloneOn (ofList SourceUnit.toJson twoUnits).render) "app.decl.json" twoUnits := by
  obtain ⟨hlist, -, hrender, -⟩ := load_yields_iff (readText_aloneOn (ofList _ twoUnits).render)
  exact (hlist twoUnits (hrender twoUnits rfl)).mpr (List.cons_ne_nil _ _)

/-- A manifest that lists no units yields one. -/
theorem emptyList_yields_unit :
    Json.read? "[]" = some (ofList SourceUnit.toJson []) ∧
      Yields (aloneOn "[]") "app.decl.json" [{}] ∧ ¬Yields (aloneOn "[]") "app.decl.json" [] := by
  have hread : Json.read? "[]" = some (ofList SourceUnit.toJson []) := rfl
  refine ⟨hread, ?_, not_yields_nil (readText_aloneOn "[]") hread⟩
  rw [yields_iff (readText_aloneOn "[]") hread (SourceUnit.isTractable_ofList []) units?_ofList_nil]
  exact forall₂_locate "app.decl.json" [{}]

end Manifest

end Companion
