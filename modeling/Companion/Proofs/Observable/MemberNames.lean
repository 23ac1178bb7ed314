import Mathlib.Data.List.Nodup
import Mathlib.Data.List.Perm.Basic
import Companion.Proofs.Naming.Parameters
import Companion.Proofs.Observable.Companion
import Companion.Proofs.Observable.Setter

/-!
# Names of the members of a companion

No other member can have the name of an event or a property, and two methods of one name need
different numbers of parameters. The companion of an observable type stands beside the fields that
its properties are for, so these count too. Validation looks only at the names of the properties,
one by one and among each other. `clashFree_iff` says which names of other members it would also
have to look at, and `isIdentifier_hook_iff` which names of properties give a hook a name that is no
identifier.
-/

namespace Companion

namespace Code

/-- What a member must not have in common with another: its name and, for a method or a
constructor, the number of its parameters. -/
structure Signature where
  name : String
  parameters? : Option Nat
  deriving DecidableEq, Repr

def Item.signature : Item → Signature
  | .event _ _ _ name => ⟨name, none⟩
  | .method _ _ _ name parameters _ => ⟨name, some parameters.length⟩
  | .constructor _ _ name parameters _ => ⟨name, some parameters.length⟩
  | .property _ _ _ name _ => ⟨name, none⟩

/-- Members with these signatures can stand in one type. Whether two names are the same is decided
after they have been read. -/
def Signature.GoesWith (read : String → String) (a b : Signature) : Prop :=
  read a.name = read b.name → ∃ m n, a.parameters? = some m ∧ b.parameters? = some n ∧ m ≠ n

/-- Reading changes only names with an `@` in front. Names as they are written (`id`) and names as
they are meant (`plainName`) are read in this way. -/
def ReadsNames (read : String → String) : Prop :=
  ∀ name : String, name.toList.head? ≠ some '@' → read name = name

theorem readsNames_id : ReadsNames id := fun _ _ => rfl

theorem readsNames_plainName : ReadsNames plainName := fun _ => Naming.plainName_of_head?

/-- The members of a file do not clash with each other, and its events and properties do not clash
with the fields that the type has elsewhere. -/
structure SourceFile.ClashFree (read : String → String) (fields : List String)
    (file : SourceFile) : Prop where
  members : (file.declaration.members.map Item.signature).Pairwise (Signature.GoesWith read)
  fields : ∀ item ∈ file.declaration.members, item.signature.parameters? = none →
    ∀ field ∈ fields, read item.signature.name ≠ read field

variable {read : String → String}

theorem Signature.GoesWith.symm {a b : Signature} (h : a.GoesWith read b) : b.GoesWith read a := by
  intro hname
  obtain ⟨m, n, ha, hb, hne⟩ := h hname.symm
  exact ⟨n, m, hb, ha, hne.symm⟩

theorem Signature.goesWith_of_none {name : String} {b : Signature} :
    (⟨name, none⟩ : Signature).GoesWith read b ↔ read name ≠ read b.name := by
  simp [GoesWith]

theorem Signature.goesWith_of_some {name name' : String} {m n : Nat} :
    (⟨name, some m⟩ : Signature).GoesWith read ⟨name', some n⟩ ↔
      (read name = read name' → m ≠ n) := by
  simp [GoesWith]

/-- Signatures of one kind go together if their names are different. -/
theorem Signature.pairwise_goesWith_map {names : List String} {parameters? : Option Nat} :
    (names.map (Signature.mk · parameters?)).Pairwise (GoesWith read) ↔
      (names.map read).Nodup := by
  rw [List.Nodup, List.pairwise_map, List.pairwise_map]
  refine List.Pairwise.iff fun {a b} => ?_
  cases parameters? <;> simp [GoesWith]

end Code

namespace ObservableType

open Code

/-- The names that no other member can have: that of the event, if it is declared, and those of the
properties. -/
def valueNames (t : ObservableType) : List String :=
  (if t.policy.generateEvent then [changeEvent] else []) ++ t.fields.map (·.arguments.name)

/-- The names of the hooks of properties. They have two parameters. -/
def hookNames (t : ObservableType) : List String := t.fields.filterMap (·.hookName?)

/-- The names of the methods with one parameter: the trigger and the global hook, where they are
declared. -/
def callNames (t : ObservableType) : List String :=
  (if t.policy.generateEvent then [t.policy.trigger] else []) ++
    if t.hasGlobalHook then [t.policy.globalHook] else []

/-- The names of event and properties are different, each of them is different from the names of all
methods and all decorated fields, and the trigger is not called like the global hook. -/
structure NamesApart (read : String → String) (t : ObservableType) : Prop where
  values : (t.valueNames.map read).Nodup
  calls : (t.callNames.map read).Nodup
  others : ∀ name ∈ t.valueNames,
    ∀ other ∈ t.hookNames ++ t.callNames ++ t.fields.map (·.name), read name ≠ read other

instance (read : String → String) (t : ObservableType) : Decidable (t.NamesApart read) :=
  decidable_of_iff
    ((t.valueNames.map read).Nodup ∧ (t.callNames.map read).Nodup ∧
      ∀ name ∈ t.valueNames,
        ∀ other ∈ t.hookNames ++ t.callNames ++ t.fields.map (·.name), read name ≠ read other)
    ⟨fun ⟨hvalues, hcalls, hothers⟩ => ⟨hvalues, hcalls, hothers⟩,
      fun h => ⟨h.values, h.calls, h.others⟩⟩

variable {t : ObservableType} {options : Options} {file : SourceFile} {read : String → String}

/-! ## Signatures of the members -/

theorem map_signature_fieldItems (t : ObservableType) (field : DecoratedField) :
    (t.fieldItems field).map Item.signature =
      [⟨field.arguments.name, none⟩] ++ field.hookName?.toList.map (Signature.mk · (some 2)) := by
  unfold fieldItems
  cases field.hookName? <;> rfl

/-- The members of a companion: the event and the properties, the hooks, and the methods with one
parameter. -/
theorem map_signature_items_perm (t : ObservableType) (options : Options) :
    ((t.items options).map Item.signature).Perm
      (t.valueNames.map (Signature.mk · none) ++
        (t.hookNames.map (Signature.mk · (some 2)) ++
          t.callNames.map (Signature.mk · (some 1)))) := by
  have hfields : ((t.fields.flatMap t.fieldItems).map Item.signature).Perm
      ((t.fields.map (·.arguments.name)).map (Signature.mk · none) ++
        t.hookNames.map (Signature.mk · (some 2))) := by
    rw [List.map_flatMap]
    simp only [map_signature_fieldItems]
    refine (List.flatMap_append_perm _ _ _).symm.trans (.of_eq ?_)
    rw [hookNames, List.filterMap_eq_flatMap_toList, List.map_flatMap, List.map_map,
      List.map_eq_flatMap]
    rfl
  have hlast : (if t.hasGlobalHook then [Item.partialMethod [globalHookDoc] t.policy.globalHook
      [⟨.predefined "string", "propertyName", [], none⟩]] else []).map Item.signature =
        (if t.hasGlobalHook then [t.policy.globalHook] else []).map (Signature.mk · (some 1)) := by
    split <;> rfl
  rw [items, valueNames, callNames, List.map_append, List.map_append, hlast]
  cases t.policy.generateEvent with
  | false =>
    refine (hfields.append_right _).trans (.of_eq ?_)
    simp
  | true =>
    -- the trigger stands behind the event and comes to stand behind the hooks
    refine .cons _ ((((hfields.append_right _).cons _).trans List.perm_middle.symm).trans
      (.of_eq ?_))
    simp [triggerItem, Item.signature]

/-- What holds of the names of all events and properties of a companion. -/
theorem forall_items_iff (t : ObservableType) (options : Options) {p : String → Prop} :
    (∀ item ∈ t.items options, item.signature.parameters? = none → p item.signature.name) ↔
      ∀ name ∈ t.valueNames, p name := by
  have hmem (s : Signature) : s ∈ (t.items options).map Item.signature ↔ _ :=
    (map_signature_items_perm t options).mem_iff
  constructor
  · intro h name hname
    have hsignature : (⟨name, none⟩ : Signature) ∈ (t.items options).map Item.signature := by
      simpa [hmem] using hname
    obtain ⟨item, hitem, heq⟩ := List.mem_map.mp hsignature
    simpa [heq] using h item hitem
  · intro h item hitem hnone
    have hsignature := (hmem item.signature).mp (List.mem_map_of_mem hitem)
    simp only [List.mem_append, List.mem_map] at hsignature
    rcases hsignature with ⟨name, hname, heq⟩ | ⟨name, -, heq⟩ | ⟨name, -, heq⟩
    · exact heq ▸ h name hname
    all_goals simp [← heq] at hnone

/-! ## Names of hooks -/

theorem toList_hookName (name : String) : ("On" ++ name ++ "Changed").toList =
    'O' :: 'n' :: (name.toList ++ "Changed".toList) := by
  simp

theorem hookNames_eq (t : ObservableType) : t.hookNames =
    ((t.fields.filter (·.arguments.extraNotify)).map (·.arguments.name)).map
      fun name => "On" ++ name ++ "Changed" := by
  unfold hookNames
  induction t.fields with
  | nil => rfl
  | cons field fields ih =>
    rw [List.filterMap_cons, ih, DecoratedField.hookName?, List.filter_cons]
    split <;> simp_all

/-- The name of a hook is read as it is written. -/
theorem read_of_mem_hookNames (hread : ReadsNames read) {hook : String} (h : hook ∈ t.hookNames) :
    read hook = hook := by
  rw [hookNames_eq] at h
  obtain ⟨name, -, rfl⟩ := List.mem_map.mp h
  exact hread _ (by simp)

/-- Different properties have different hooks. -/
theorem nodup_hookNames (h : t.validate = .ok ()) : t.hookNames.Nodup := by
  obtain ⟨-, hnames⟩ := validateFields_eq_ok_iff.mp h
  rw [hookNames_eq]
  refine List.Nodup.map ?_ (hnames.sublist (List.filter_sublist.map _))
  intro a b hab
  have hlist := congrArg String.toList hab
  simp only [toList_hookName, List.cons.injEq, true_and] at hlist
  exact String.toList_inj.mp (List.append_cancel_right hlist)

/-! ## Clashes -/

/-- Among the members of a companion, the hooks of properties clash at most with the event or with
properties. -/
theorem pairwise_goesWith_items (options : Options) (hvalid : t.validate = .ok ())
    (hread : ReadsNames read) :
    ((t.items options).map Item.signature).Pairwise (Signature.GoesWith read) ↔
      (t.valueNames.map read).Nodup ∧ (t.callNames.map read).Nodup ∧
        ∀ name ∈ t.valueNames, ∀ other ∈ t.hookNames ++ t.callNames, read name ≠ read other := by
  rw [(map_signature_items_perm t options).pairwise_iff fun h => h.symm, List.pairwise_append,
    List.pairwise_append, Signature.pairwise_goesWith_map, Signature.pairwise_goesWith_map,
    Signature.pairwise_goesWith_map]
  have hhooks : (t.hookNames.map read).Nodup := by
    rw [List.map_congr_left fun hook => read_of_mem_hookNames hread, List.map_id']
    exact nodup_hookNames hvalid
  -- hooks and calls differ in the number of parameters
  have hcalls : ∀ a ∈ t.hookNames.map (Signature.mk · (some 2)),
      ∀ b ∈ t.callNames.map (Signature.mk · (some 1)), a.GoesWith read b := by
    simp [Signature.goesWith_of_some]
  simp only [hhooks, true_and, and_true, eq_true hcalls]
  simp only [List.forall_mem_map, List.forall_mem_append, Signature.goesWith_of_none]

/-- The members of a companion do not clash exactly if the names of event and properties differ from
each other and from those of the methods and of all decorated fields, and the trigger is not called
like the global hook. That the hooks of properties do not clash with each other or with the other
methods takes no condition. -/
theorem clashFree_iff (hread : ReadsNames read) (h : t.synthesize options = .ok file) :
    file.ClashFree read (t.fields.map (·.name)) ↔ t.NamesApart read := by
  obtain ⟨hvalid, rfl⟩ := synthesize_eq_ok_iff.mp h
  have hmembers := pairwise_goesWith_items options hvalid hread
  have hfields := forall_items_iff t options
    (p := fun name => ∀ field ∈ t.fields.map (·.name), read name ≠ read field)
  constructor
  · intro hfree
    obtain ⟨hvalues, hcalls, hothers⟩ := hmembers.mp hfree.members
    refine ⟨hvalues, hcalls, fun name hname other hother => ?_⟩
    rcases List.mem_append.mp hother with hother | hother
    · exact hothers name hname other hother
    · exact hfields.mp hfree.fields name hname other hother
  · intro hapart
    refine ⟨hmembers.mpr ⟨hapart.values, hapart.calls, fun name hname other hother => ?_⟩,
      hfields.mpr fun name hname other hother => ?_⟩
    · exact hapart.others name hname other (List.mem_append_left _ hother)
    · exact hapart.others name hname other (List.mem_append_right _ hother)

/-- A type with event, hooks of properties and global hook, one of whose fields is called like a
reserved word. -/
def student : ObservableType :=
  { name := "Student"
    fields := [
      { name := "_age", type := .predefined "int", arguments := ⟨"Age", true, false⟩ },
      { name := "@class", type := .predefined "string", arguments := ⟨"Class", true, true⟩ }] }

theorem validate_student : student.validate = .ok () :=
  validateFields_eq_ok_iff.mpr ⟨by decide +kernel, by decide⟩

theorem student_clashFree : ∃ file, student.synthesize {} = .ok file ∧
    file.ClashFree id ["_age", "@class"] ∧ file.ClashFree plainName ["_age", "@class"] := by
  have hfile : student.synthesize {} = .ok _ := synthesize_eq_ok_iff.mpr ⟨validate_student, rfl⟩
  exact ⟨_, hfile, (clashFree_iff readsNames_id hfile).mpr (by decide +kernel),
    (clashFree_iff readsNames_plainName hfile).mpr (by decide +kernel)⟩

/-- A property can be called like the event: nothing refuses it. -/
theorem property_clashes_with_event :
    let field : DecoratedField :=
      { name := "_changed", type := .predefined "bool",
        arguments := ⟨"PropertyChanged", false, false⟩ }
    let t : ObservableType := { name := "Alarm", fields := [field] }
    ∃ file, t.synthesize {} = .ok file ∧ ¬file.ClashFree id ["_changed"] := by
  intro field t
  have hvalid : t.validate = .ok () := validateFields_eq_ok_iff.mpr ⟨by decide +kernel, by decide⟩
  refine ⟨_, synthesize_eq_ok_iff.mpr ⟨hvalid, rfl⟩, fun hfree => ?_⟩
  have hvalues := ((pairwise_goesWith_items {} hvalid readsNames_id).mp hfree.members).1
  exact absurd hvalues (by decide)

end ObservableType

/-! ## Hooks as identifiers -/

namespace Naming

/-- An identifier has only word characters, unless it has a mark in front. -/
theorem isWordChar_iff_of_isIdentifier {name : String} (h : isIdentifier name = true) :
    (∀ c ∈ name.toList, isWordChar c = true) ↔ name.toList.head? ≠ some '@' := by
  constructor
  · intro hword hhead
    have hmark : isWordChar '@' = true := hword '@' (List.mem_of_head? hhead)
    exact absurd hmark (by decide +kernel)
  · intro hhead
    rw [isIdentifier_of_head? hhead, Bool.and_eq_true] at h
    exact isWordChar_of_isWord h.1

/-- The name of a hook is an identifier whenever its middle part has only word characters. -/
theorem isIdentifier_hookName_iff (name : String) :
    isIdentifier ("On" ++ name ++ "Changed") = true ↔
      ∀ c ∈ name.toList, isWordChar c = true := by
  have hlist := ObservableType.toList_hookName name
  have hkeyword : isKeyword ("On" ++ name ++ "Changed") = false :=
    isKeyword_of_mem (by rw [hlist]; exact List.mem_cons_self) (by decide)
  have hfirst : Text.isAlphabetic 'O' = true := by decide +kernel
  have hsecond : isWordChar 'n' = true := by decide +kernel
  have hend : "Changed".toList.all isWordChar = true := by decide +kernel
  rw [isIdentifier_of_head? (by rw [hlist]; simp), hkeyword, hlist, isWord, hfirst]
  change (true && ('n' :: (name.toList ++ "Changed".toList)).all isWordChar && true) = true ↔ _
  rw [List.all_cons, List.all_append, hsecond, hend]
  simp

end Naming

namespace ObservableType

open Code

variable {t : ObservableType} {field : DecoratedField}

theorem hook_mem_items (options : Options) (hfield : field ∈ t.fields)
    (hnotify : field.arguments.extraNotify = true) :
    Item.partialMethod [] ("On" ++ field.arguments.name ++ "Changed")
      [⟨field.type, "oldValue", [], none⟩, ⟨field.type, "newValue", [], none⟩] ∈
        t.items options := by
  refine List.mem_append_left _ (List.mem_append_right _ (List.mem_flatMap.mpr ⟨field, hfield, ?_⟩))
  simp [fieldItems, DecoratedField.hookName?, hnotify]

theorem hook_mem_setterBody (t : ObservableType) (hnotify : field.arguments.extraNotify = true) :
    Statement.call ("On" ++ field.arguments.name ++ "Changed")
      [.ident "oldValue", .ident field.name] ∈ t.setterBody field := by
  rw [setterBody_eq, setterHooks, if_pos hnotify]
  simp

/-- A property with extra notification has a hook, which the companion declares and its setter
calls. The name of the hook is an identifier exactly if that of the property has no `@` in front. -/
theorem isIdentifier_hook_iff (options : Options) (hvalid : t.validate = .ok ())
    (hfield : field ∈ t.fields) (hnotify : field.arguments.extraNotify = true) :
    let hook := "On" ++ field.arguments.name ++ "Changed"
    (∃ file, t.synthesize options = .ok file ∧
      ∃ parameters, Item.partialMethod [] hook parameters ∈ file.declaration.members) ∧
    (∃ arguments, Statement.call hook arguments ∈ t.setterBody field) ∧
    (Naming.isIdentifier hook = true ↔ field.arguments.name.toList.head? ≠ some '@') := by
  intro hook
  have hidentifier : Naming.isIdentifier field.arguments.name = true :=
    ((validateFields_eq_ok_iff.mp hvalid).1 field hfield).1
  refine ⟨⟨_, synthesize_eq_ok_iff.mpr ⟨hvalid, rfl⟩, _, hook_mem_items options hfield hnotify⟩,
    ⟨_, hook_mem_setterBody t hnotify⟩, ?_⟩
  rw [Naming.isIdentifier_hookName_iff, Naming.isWordChar_iff_of_isIdentifier hidentifier]

/-- Only the name of the property counts: its field may have an `@` in front. -/
theorem student_hook_isIdentifier :
    student.validate = .ok () ∧ student.fields[1].arguments = ⟨"Class", true, true⟩ ∧
      Naming.isIdentifier "OnClassChanged" = true := by
  have hfield : student.fields[1] ∈ student.fields := List.getElem_mem _
  have hhook := isIdentifier_hook_iff {} validate_student hfield rfl
  exact ⟨validate_student, rfl, hhook.2.2.mpr (by decide)⟩

/-- The property `@class` is valid, but its hook is declared and called as `On@classChanged`. -/
theorem hook_of_class_not_isIdentifier :
    let field : DecoratedField :=
      { name := "_class", type := .predefined "int", arguments := ⟨"@class", true, false⟩ }
    let t : ObservableType := { name := "Student", fields := [field] }
    t.validate = .ok () ∧ field ∈ t.fields ∧
      (∃ parameters, Item.partialMethod [] "On@classChanged" parameters ∈ t.items {}) ∧
      (∃ arguments, Statement.call "On@classChanged" arguments ∈ t.setterBody field) ∧
      Naming.isIdentifier "On@classChanged" = false := by
  intro field t
  have hfield : field ∈ t.fields := List.mem_singleton.mpr rfl
  exact ⟨validateFields_eq_ok_iff.mpr ⟨by decide +kernel, by decide⟩, hfield,
    ⟨_, hook_mem_items {} hfield rfl⟩, ⟨_, hook_mem_setterBody t rfl⟩, by decide +kernel⟩

end ObservableType

end Companion
