import Companion.Declaration.Codec

/-!
# Manifests lose nothing

What is written of a declaration is read back as the same declaration. The writer gives every field
of a record, under the name by which the reader looks for it, so no default comes into play
(`Recovers.record`); lists and optional texts are recovered item by item. A value that was read in
another spelling, with fields left out, as an array or under an alias, is therefore in its normal
form once it has been written.
-/

namespace Companion

namespace Json

/-- Everything that is written can be read back. -/
def Recovers {α : Type} (encode : α → Json) (decode : Json → Option α) : Prop :=
  ∀ a, decode (encode a) = some a

theorem recovers_text : Recovers ofText text? := fun _ => rfl

theorem recovers_flag : Recovers bool flag? := fun _ => rfl

theorem recovers_textOrNull : Recovers ofTextOrNull textOrNull? := by
  intro text
  cases text <;> rfl

section

variable {α : Type}

theorem Recovers.list {encode : α → Json} {decode : Json → Option α}
    (h : Recovers encode decode) : Recovers (ofList encode) (list? decode) := by
  intro items
  rw [ofList, list?]
  induction items with
  | nil => rfl
  | cons item items ih =>
    rw [List.map_cons, List.mapM_cons, h item, ih]
    rfl

/-! ## Records -/

@[simp]
theorem Fields.required_cons (key name : String) (value : Json) (fields : Fields)
    (decode : Json → Option α) :
    Fields.required ((key, value) :: fields) name decode =
      if name = key then decode value else fields.required name decode := by
  rw [required, List.lookup_cons]
  by_cases h : name = key
  · simp [h]
  · rw [beq_false_of_ne h, if_neg h, required]

@[simp]
theorem Fields.optional_cons (key name : String) (value : Json) (fields : Fields) (default : α)
    (decode : Json → Option α) :
    Fields.optional ((key, value) :: fields) name default decode =
      if name = key then decode value else fields.optional name default decode := by
  rw [optional, List.lookup_cons]
  by_cases h : name = key
  · simp [h]
  · rw [beq_false_of_ne h, if_neg h, optional]

/-- An object with exactly the fields of a record gives all of them. -/
theorem fields?_object {names : List String} {members : Fields}
    (hnames : members.map Prod.fst = names) (hdistinct : distinct names = true) :
    fields? names (.object members) = some members := by
  have hknown : members.filter (fun m => names.contains m.1) = members := by
    refine List.filter_eq_self.mpr fun m hm => ?_
    rw [← hnames]
    exact List.contains_iff_mem.mpr (List.mem_map_of_mem hm)
  rw [fields?]
  simp only [hknown, hnames, hdistinct, if_pos]

/-- A record is recovered if it can be read from the fields that are written, which have to be
those that the reader knows. -/
theorem Recovers.record {names : List String} {fields : α → Fields} {read : Fields → Option α}
    (hnames : ∀ a, (fields a).map Prod.fst = names) (hdistinct : distinct names = true)
    (h : ∀ a, read (fields a) = some a) :
    Recovers (fun a => .object (fields a)) fun json => (fields? names json).bind read := by
  intro a
  have hfields := fields?_object (hnames a) hdistinct
  simp only [hfields, Option.bind_some, h a]

end

end Json

open Json

theorem TypeKind.recovers : Recovers (fun kind => ofText (keyword kind)) ofJson? := by
  intro kind
  cases kind <;> rfl

theorem Attribute.recovers : Recovers toJson ofJson? := by
  refine Recovers.record (fun _ => rfl) (by decide) fun a => ?_
  simp [recovers_text _, recovers_text.list _]

theorem FieldDecl.recovers : Recovers toJson ofJson? := by
  refine Recovers.record (fun _ => rfl) (by decide) fun d => ?_
  simp [recovers_textOrNull _, recovers_text.list _, Attribute.recovers.list _]

theorem PropertyDecl.recovers : Recovers toJson ofJson? := by
  refine Recovers.record (fun _ => rfl) (by decide) fun d => ?_
  simp [recovers_text _, recovers_textOrNull _, recovers_flag _]

theorem ParameterDecl.recovers : Recovers toJson ofJson? := by
  refine Recovers.record (fun _ => rfl) (by decide) fun d => ?_
  simp [recovers_text _]

theorem MethodDecl.recovers : Recovers toJson ofJson? := by
  refine Recovers.record (fun _ => rfl) (by decide) fun d => ?_
  simp [recovers_text _, recovers_text.list _, ParameterDecl.recovers.list _]

theorem EventDecl.recovers : Recovers toJson ofJson? := by
  refine Recovers.record (fun _ => rfl) (by decide) fun d => ?_
  simp [recovers_text _]

theorem TypeDecl.recovers : Recovers toJson ofJson? := by
  refine Recovers.record (fun _ => rfl) (by decide) fun d => ?_
  simp [recovers_text _, recovers_textOrNull _, TypeKind.recovers _, recovers_text.list _,
    Attribute.recovers.list _, FieldDecl.recovers.list _, PropertyDecl.recovers.list _,
    MethodDecl.recovers.list _, EventDecl.recovers.list _]

theorem SourceUnit.recovers : Recovers toJson ofJson? := by
  refine Recovers.record (fun _ => rfl) (by decide) fun u => ?_
  simp [recovers_textOrNull _, recovers_text.list _, TypeDecl.recovers.list _]

/-- A unit is read back as it was written, and writing what was read in any spelling does not change
what is read. -/
theorem SourceUnit.manifest_lossless :
    (∀ u, ofJson? (toJson u) = some u) ∧
      ∀ json u, ofJson? json = some u → ofJson? (toJson u) = ofJson? json :=
  ⟨recovers, fun _ u h => (recovers u).trans h.symm⟩

/-- A unit and a property in the form of arrays, a type without most of its fields, with one that is
not known and with a kind under its alias. -/
def nodeManifest : Json :=
  .array [.null, .array [.string "System"],
    .array [.object [
      ("kind", .object [("record class", .null)]),
      ("line", .number "7"),
      ("name", .string "Node"),
      ("properties", .array [.array [.string "Id", .string "int"]])]]]

def nodeUnit : SourceUnit :=
  { usings := ["System"]
    types := [
      { name := "Node", kind := .record
        properties := [{ name := "Id", typeName := "int", hasGetter := true }] }] }

theorem nodeManifest_lossless :
    SourceUnit.ofJson? nodeManifest = some nodeUnit ∧
      SourceUnit.ofJson? nodeUnit.toJson = SourceUnit.ofJson? nodeManifest := by
  have hread : SourceUnit.ofJson? nodeManifest = some nodeUnit := by decide
  exact ⟨hread, SourceUnit.manifest_lossless.2 nodeManifest nodeUnit hread⟩

end Companion
