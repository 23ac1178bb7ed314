import Mathlib.Data.List.Forall2
import Companion.Proofs.Observable.Collect
import Companion.Proofs.Observable.Companion

/-!
# From fields to properties

Which fields of a declaration are to become properties can be read off the declaration: those with a
name and a type that can be read, whose first marker names the property (`TypeDecl.isEligible`). The
entry of a type has exactly these, in the order of the declarations (`fieldsUnder_collect`), each
with what the field and its marker say (`FieldDecl.Describes`).
-/

namespace Companion

/-- The property markers of a field that have arguments. -/
def FieldDecl.markers (field : FieldDecl) : List PropertyArguments :=
  field.attributes.filterMap fun a =>
    if MarkerKind.ofName? a.name = some .makeProperty then PropertyArguments.parse? a.arguments
    else none

/-- The field has a name and a type that can be read, and the type can have generated members. -/
def TypeDecl.isComplete (decl : TypeDecl) (field : FieldDecl) : Bool :=
  decl.kind.isGeneratable && field.name.isSome &&
    field.typeName.any fun text => (TypeRef.parse text).isOk

/-- The field is to become a property. Of several markers the first one counts. -/
def TypeDecl.isEligible (decl : TypeDecl) (field : FieldDecl) : Bool :=
  decl.isComplete field && field.markers.head?.any (·.name ≠ "")

/-- The fields that are to become properties of the type with a qualified name, in order. -/
def eligibleFields (units : List SourceUnit) (name : String) : List FieldDecl :=
  (Model.declarations units).flatMap fun part =>
    if part.2.qualifiedName = name then part.2.fields.filter part.2.isEligible else []

/-- A property is as a field and its first marker say. -/
structure FieldDecl.Describes (field : FieldDecl) (property : PropertyView) : Prop where
  name : ∃ arguments, field.markers.head? = some arguments ∧ property.name = arguments.name
  type : ∃ text, field.typeName = some text ∧ TypeRef.parse text = .ok property.type
  backing : ∃ name, field.name = some name ∧ property.backing? = some name
  docs : property.docs = Doc.summary field.doc

theorem FieldDecl.findProperty?_eq_head? (field : FieldDecl) :
    Marker.findProperty? field.attributes = field.markers.head? := by
  rw [markers, List.head?_filterMap, Marker.findProperty?]
  congr 1
  funext a
  exact Marker.bind_property?_ofAttribute? a

namespace ObservableType

/-- A field is entered exactly if it is eligible. -/
theorem decorated?_cases (decl : TypeDecl) (field : FieldDecl) :
    decl.isEligible field = false ∧ decorated? decl field = none ∨
      decl.isEligible field = true ∧
        ∃ entered, decorated? decl field = some entered ∧ field.Describes entered.view := by
  rw [decorated?, field.findProperty?_eq_head?, TypeDecl.isEligible, TypeDecl.isComplete]
  cases hmarker : field.markers.head? with
  | none => exact .inl ⟨by simp, rfl⟩
  | some arguments =>
    cases hname : field.name with
    | none => exact .inl ⟨by simp, rfl⟩
    | some name =>
      cases htext : field.typeName with
      | none => exact .inl ⟨by simp, rfl⟩
      | some text =>
        by_cases hempty : arguments.name = ""
        · exact .inl ⟨by simp [hempty], by simp [hempty]⟩
        · cases hkind : decl.kind.isGeneratable with
          | false => exact .inl ⟨by simp, by simp⟩
          | true =>
            cases htype : TypeRef.parse text with
            | error =>
              exact .inl ⟨by simp [htype, Except.isOk, Except.toBool],
                by simp [htype, Except.toOption]⟩
            | ok type =>
              refine .inr ⟨by simp [htype, hempty, Except.isOk, Except.toBool],
                ⟨name, type, Doc.summary field.doc, arguments, {}⟩,
                by simp [hempty, htype, Except.toOption], ?_⟩
              exact ⟨⟨arguments, hmarker, rfl⟩, ⟨text, htext, htype⟩, ⟨name, hname, rfl⟩, rfl⟩

/-- The properties of a declaration, one for each eligible field, in order. -/
theorem forall₂_describes_decoratedFields (decl : TypeDecl) :
    List.Forall₂ FieldDecl.Describes (decl.fields.filter decl.isEligible)
      ((decoratedFields decl).map DecoratedField.view) := by
  rw [decoratedFields]
  induction decl.fields with
  | nil => exact .nil
  | cons field fields ih =>
    rcases decorated?_cases decl field with ⟨hnot, hnone⟩ | ⟨heligible, entered, hsome, hdescribes⟩
    · simpa [hnot, hnone] using ih
    · simpa [heligible, hsome] using List.Forall₂.cons hdescribes ih

/-! ## Entries -/

/-- The fields under a key. -/
def fieldsUnder (registry : Registry String ObservableType) (key : String) : List DecoratedField :=
  ((registry.get? key).map (·.fields)).getD []

theorem fieldsUnder_collectDecl (registry : Registry String ObservableType) (usings : List String)
    (decl : TypeDecl) (key : String) :
    fieldsUnder (collectDecl registry usings decl) key =
      fieldsUnder registry key ++
        if decl.qualifiedName = key then decoratedFields decl else [] := by
  rw [fieldsUnder, fieldsUnder, get?_collectDecl]
  by_cases hname : decl.qualifiedName = key
  · subst hname
    by_cases hfields : decoratedFields decl = []
    · simp [hfields]
    · cases registry.get? decl.qualifiedName <;> simp [hfields, absorb, ofDecl, bare]
  · simp [hname, Ne.symm hname]

theorem fieldsUnder_modify (registry : Registry String ObservableType) (name key : String)
    (modifiers : List String) :
    fieldsUnder (registry.modify name (·.addModifiers modifiers)) key =
      fieldsUnder registry key := by
  rw [fieldsUnder, fieldsUnder, Registry.get?_modify]
  split
  · cases registry.get? key <;> rfl
  · rfl

/-- An entry has the decorated fields of all parts of its type, in order. -/
theorem fieldsUnder_collect (units : List SourceUnit) (key : String) :
    fieldsUnder (collect units) key = (Model.declarations units).flatMap fun part =>
      if part.2.qualifiedName = key then decoratedFields part.2 else [] := by
  have hparts (parts : List (List String × TypeDecl))
      (registry : Registry String ObservableType) :
      fieldsUnder
          (parts.foldl (fun registry part => collectDecl registry part.1 part.2) registry) key =
        fieldsUnder registry key ++ parts.flatMap fun part =>
          if part.2.qualifiedName = key then decoratedFields part.2 else [] := by
    induction parts generalizing registry with
    | nil => simp
    | cons part parts ih =>
      rw [List.foldl_cons, ih, fieldsUnder_collectDecl, List.append_assoc, List.flatMap_cons]
  exact List.foldlRecOn (motive := fun registry => fieldsUnder registry key = _) _ _
    (hparts (Model.declarations units) {}) fun registry h part _ =>
      (fieldsUnder_modify registry part.2.qualifiedName key part.2.modifiers).trans h

theorem forall₂_describes_collect (units : List SourceUnit) (key : String) :
    List.Forall₂ FieldDecl.Describes (eligibleFields units key)
      ((fieldsUnder (collect units) key).map DecoratedField.view) := by
  rw [fieldsUnder_collect, eligibleFields]
  induction Model.declarations units with
  | nil => exact .nil
  | cons part parts ih =>
    rw [List.flatMap_cons, List.flatMap_cons, List.map_append]
    refine List.rel_append ?_ ih
    split
    · exact forall₂_describes_decoratedFields part.2
    · exact .nil

end ObservableType

end Companion
