import Companion.Proofs.Basic
import Companion.Proofs.Declaration.Names
import Companion.Symbol.Model

/-!
# What is in a model

A model is read by looking keys up, and every operation that builds one is described by what it
does to the look-ups. The model of some units knows every type that they declare, with the members
and imports of all its parts, and knows no other. Which members a declaration has, and in which
order, is said by `TypeDecl.mem_members_iff` and `TypeDecl.members_ordered`.
-/

namespace Companion

theorem mem_addMissing {texts more : List String} {text : String} :
    text ∈ addMissing texts more ↔ text ∈ texts ∨ text ∈ more := by
  induction more generalizing texts with
  | nil => simp [addMissing]
  | cons first more ih =>
    have hstep : addMissing texts (first :: more) =
      addMissing (if texts.contains first then texts else texts ++ [first]) more := rfl
    rw [hstep, ih]
    split
    · next hfirst =>
      have hmem : first ∈ texts := by simpa using hfirst
      rw [List.mem_cons]
      constructor
      · exact Or.imp_right Or.inr
      · rintro (h | rfl | h)
        · exact .inl h
        · exact .inl hmem
        · exact .inr h
    · simp [or_assoc]

/-! ## Members of a declaration -/

namespace Member

/-- The place of a member among the kinds of members: fields, properties, methods, events. -/
def rank : Member → Nat
  | field _ _ => 0
  | property _ _ _ => 1
  | method _ _ _ => 2
  | event _ _ => 3

/-- All members in a list are of the kind with a rank. -/
def Ranked (k : Nat) (ms : List Member) : Prop := ∀ m ∈ ms, m.rank = k

theorem Ranked.filter {ms : List Member} {k : Nat} (h : Ranked k ms) (k' : Nat) :
    ms.filter (·.rank = k') = if k = k' then ms else [] := by
  split
  · next hk => exact List.filter_eq_self.mpr fun m hm => decide_eq_true ((h m hm).trans hk)
  · next hk =>
    refine List.filter_eq_nil_iff.mpr fun m hm hrank => hk ?_
    rw [← h m hm, of_decide_eq_true hrank]

theorem Ranked.le {ms ms' : List Member} {k k' : Nat} (h : Ranked k ms) (h' : Ranked k' ms')
    (hk : k ≤ k') : ∀ m ∈ ms, ∀ m' ∈ ms', m.rank ≤ m'.rank := by
  intro m hm m' hm'
  rwa [h m hm, h' m' hm']

theorem Ranked.pairwise {ms : List Member} {k : Nat} (h : Ranked k ms) :
    ms.Pairwise (·.rank ≤ ·.rank) :=
  List.pairwise_iff_forall_sublist.mpr fun {m m'} hsub =>
    h.le h (Nat.le_refl k) m (hsub.subset (by simp)) m' (hsub.subset (by simp))

theorem ranked_map {α : Type} (member : α → Member) {k : Nat} (h : ∀ a, (member a).rank = k)
    (as : List α) : Ranked k (as.map member) := by
  intro m hm
  obtain ⟨a, -, rfl⟩ := List.mem_map.mp hm
  exact h a

end Member

/-- The member that a field is. It needs a name and a type to be one. -/
def FieldDecl.member? (f : FieldDecl) : Option Member :=
  match f.name, f.typeName with
  | some name, some typeName => some (.field name typeName)
  | _, _ => none

/-- The member that a property is. -/
def PropertyDecl.member (p : PropertyDecl) : Member := .property p.name p.typeName p.hasSetter

/-- The member that a method is. Of its parameters only the types count. -/
def MethodDecl.member (m : MethodDecl) : Member :=
  .method m.name m.returnType (m.parameters.map (·.typeName))

/-- The member that an event is. -/
def EventDecl.member (e : EventDecl) : Member := .event e.name e.typeName

theorem FieldDecl.member?_eq_some_iff {f : FieldDecl} {m : Member} :
    f.member? = some m ↔
      ∃ name typeName, f.name = some name ∧ f.typeName = some typeName ∧
        m = .field name typeName := by
  unfold member?
  split
  · next name typeName hname htype => simp [hname, htype, eq_comm]
  · next hincomplete =>
    constructor
    · intro h
      cases h
    · rintro ⟨name, typeName, hname, htype, -⟩
      exact absurd htype (hincomplete name typeName hname)

namespace TypeDecl

variable {decl : TypeDecl} {m : Member}

/-- The declaration has the member. -/
inductive Declares (decl : TypeDecl) : Member → Prop
  | field {f : FieldDecl} {name typeName : String} (hf : f ∈ decl.fields)
      (hname : f.name = some name) (htype : f.typeName = some typeName) :
      decl.Declares (.field name typeName)
  | property {p : PropertyDecl} (hp : p ∈ decl.properties) : decl.Declares p.member
  | method {m : MethodDecl} (hm : m ∈ decl.methods) : decl.Declares m.member
  | event {e : EventDecl} (he : e ∈ decl.events) : decl.Declares e.member

/-- A declaration has the members that it declares and no others. -/
theorem mem_members_iff : m ∈ decl.members ↔ decl.Declares m := by
  simp only [members, List.mem_append, List.mem_map, or_assoc]
  constructor
  · rintro (hfield | ⟨p, hp, rfl⟩ | ⟨method, hmethod, rfl⟩ | ⟨e, he, rfl⟩)
    · obtain ⟨f, hf, hmember⟩ := List.mem_filterMap.mp hfield
      obtain ⟨name, typeName, hname, htype, rfl⟩ := FieldDecl.member?_eq_some_iff.mp hmember
      exact .field hf hname htype
    · exact .property hp
    · exact .method hmethod
    · exact .event he
  · intro h
    cases h with
    | field hf hname htype =>
      refine .inl (List.mem_filterMap.mpr ⟨_, hf, ?_⟩)
      exact FieldDecl.member?_eq_some_iff.mpr ⟨_, _, hname, htype, rfl⟩
    | property hp => exact .inr (.inl ⟨_, hp, rfl⟩)
    | method hmethod => exact .inr (.inr (.inl ⟨_, hmethod, rfl⟩))
    | event he => exact .inr (.inr (.inr ⟨_, he, rfl⟩))

theorem ranked_fields (fields : List FieldDecl) :
    Member.Ranked 0 (fields.filterMap FieldDecl.member?) := by
  intro m hm
  obtain ⟨f, -, hmember⟩ := List.mem_filterMap.mp hm
  obtain ⟨name, typeName, -, -, rfl⟩ := FieldDecl.member?_eq_some_iff.mp hmember
  rfl

/-- Fields stand before properties, these before methods, and events stand last. Members of one
kind stand in the order in which they are declared. -/
theorem members_ordered (decl : TypeDecl) :
    decl.members.Pairwise (·.rank ≤ ·.rank) ∧
    decl.members.filter (·.rank = 0) = decl.fields.filterMap FieldDecl.member? ∧
    decl.members.filter (·.rank = 1) = decl.properties.map PropertyDecl.member ∧
    decl.members.filter (·.rank = 2) = decl.methods.map MethodDecl.member ∧
    decl.members.filter (·.rank = 3) = decl.events.map EventDecl.member := by
  have hmembers : decl.members = decl.fields.filterMap FieldDecl.member? ++
      decl.properties.map PropertyDecl.member ++ decl.methods.map MethodDecl.member ++
        decl.events.map EventDecl.member := rfl
  have hfields := ranked_fields decl.fields
  have hproperties := Member.ranked_map PropertyDecl.member (fun _ => rfl) decl.properties
  have hmethods := Member.ranked_map MethodDecl.member (fun _ => rfl) decl.methods
  have hevents := Member.ranked_map EventDecl.member (fun _ => rfl) decl.events
  rw [hmembers]
  refine ⟨?sorted, ?_, ?_, ?_, ?_⟩
  case sorted =>
    simp only [List.pairwise_append, List.forall_mem_append]
    refine ⟨⟨⟨hfields.pairwise, hproperties.pairwise, ?_⟩, hmethods.pairwise, ?_⟩,
      hevents.pairwise, ?_⟩
    · exact hfields.le hproperties (by decide)
    · exact ⟨hfields.le hmethods (by decide), hproperties.le hmethods (by decide)⟩
    · exact ⟨⟨hfields.le hevents (by decide), hproperties.le hevents (by decide)⟩,
        hmethods.le hevents (by decide)⟩
  all_goals
    simp only [List.filter_append, hfields.filter, hproperties.filter, hmethods.filter,
      hevents.filter]
    simp

theorem filter_isProperty_members (decl : TypeDecl) :
    decl.members.filter Member.isProperty = decl.properties.map PropertyDecl.member := by
  obtain ⟨-, -, hproperties, -, -⟩ := members_ordered decl
  rw [← hproperties]
  refine List.filter_congr fun m _ => ?_
  cases m <;> rfl

theorem filter_isMethod_members (decl : TypeDecl) :
    decl.members.filter Member.isMethod = decl.methods.map MethodDecl.member := by
  obtain ⟨-, -, -, hmethods, -⟩ := members_ordered decl
  rw [← hmethods]
  refine List.filter_congr fun m _ => ?_
  cases m <;> rfl

end TypeDecl

namespace Symbol

/-- The symbol is that of the declared type. -/
structure IsOf (s : Symbol) (decl : TypeDecl) : Prop where
  namespaceName : s.namespaceName = properNamespace decl.namespaceName
  name : s.name = decl.name
  arity : s.arity = decl.arity

/-- The symbol has the members of a part of the type, and the imports around it. -/
structure HasPart (s : Symbol) (usings : List String) (decl : TypeDecl) : Prop where
  members : decl.members ⊆ s.members
  usings : usings ⊆ s.usings

theorem IsOf.key_eq {s : Symbol} {decl : TypeDecl} (h : s.IsOf decl) : s.key = decl.key := by
  rw [key, fullName, h.namespaceName, h.name, h.arity]
  rfl

/-- The symbol could stand in a program: the global namespace is not named, and the simple name has
no dot. -/
structure IsPlain (s : Symbol) : Prop where
  namespaceName : s.namespaceName ≠ some ""
  name : IsSimpleName s.name

theorem IsOf.isPlain {s : Symbol} {decl : TypeDecl} (h : s.IsOf decl)
    (hname : IsSimpleName decl.name) : s.IsPlain where
  namespaceName := h.namespaceName ▸ properNamespace_ne_empty _
  name := h.name ▸ hname

/-- The full name of a symbol without dots in its simple name says it all. -/
theorem IsPlain.eq_of_fullName {s : Symbol} (h : s.IsPlain) {ns : Option String} {name : String}
    (hname : IsSimpleName name) (hfull : s.fullName = fullNameIn ns name) :
    s.namespaceName = ns ∧ s.name = name :=
  fullNameIn_inj h.name hname hfull

end Symbol

namespace Model

variable {model : Model} {s : Symbol} {key : TypeKey}

theorem mem_of_lookup? (h : model.lookup? key = some s) : s ∈ model.symbols :=
  List.mem_of_find?_eq_some h

theorem key_of_lookup? (h : model.lookup? key = some s) : s.key = key := by
  simpa using List.find?_some h

theorem lookup?_key_of_lookup? (h : model.lookup? key = some s) : model.lookup? s.key = some s := by
  rw [key_of_lookup? h]
  exact h

theorem lookup?_key_of_lookupMetadata? {name : String} (h : model.lookupMetadata? name = some s) :
    model.lookup? s.key = some s := by
  unfold lookupMetadata? at h
  split at h
  · obtain ⟨arity, -, hlookup⟩ := Option.bind_eq_some_iff.mp h
    exact lookup?_key_of_lookup? hlookup
  · exact lookup?_key_of_lookup? h

theorem lookup?_isSome_of_mem (h : s ∈ model.symbols) : (model.lookup? s.key).isSome := by
  simpa [lookup?] using ⟨s, h, rfl⟩

/-! ## One operation -/

section

variable {fresh : Symbol} {change : Symbol → Symbol}

theorem forall_mem_upsert {P : Symbol → Prop} (h : ∀ s ∈ model.symbols, P s)
    (hfresh : P (change fresh)) (hchange : ∀ s, P s → P (change s)) :
    ∀ s ∈ (model.upsert key fresh change).symbols, P s := by
  unfold upsert
  split
  · intro s hs
    obtain ⟨old, hold, rfl⟩ := List.mem_map.mp hs
    split
    · exact hchange old (h old hold)
    · exact h old hold
  · intro s hs
    rcases List.mem_append.mp hs with hold | hnew
    · exact h s hold
    · exact List.mem_singleton.mp hnew ▸ hfresh

/-- A list of symbols, each changed without changing its key. -/
theorem find?_map_key (hchange : ∀ s, (change s).key = s.key) (symbols : List Symbol)
    (key : TypeKey) :
    (symbols.map change).find? (·.key = key) = (symbols.find? (·.key = key)).map change := by
  rw [List.find?_map]
  congr 2
  funext s
  simp [hchange]

theorem lookup?_upsert (hfresh : fresh.key = key) (hchange : ∀ s, (change s).key = s.key)
    (key' : TypeKey) :
    (model.upsert key fresh change).lookup? key' =
      if key' = key then some (change ((model.lookup? key).getD fresh))
      else model.lookup? key' := by
  unfold upsert
  split
  · next hany =>
    have hkeep : ∀ s, (if s.key = key then change s else s).key = s.key := by
      intro s
      split
      · exact hchange s
      · rfl
    rw [lookup?, find?_map_key hkeep]
    cases hfound : model.lookup? key' with
    | none =>
      have hne : key' ≠ key := by
        rintro rfl
        rw [lookup?, List.find?_eq_none] at hfound
        simp at hany hfound
        obtain ⟨s, hs, hkey⟩ := hany
        exact hfound s hs hkey
      rw [lookup?] at hfound
      simp [hfound, hne]
    | some s =>
      have hkey := key_of_lookup? hfound
      have hfind := hfound
      rw [lookup?] at hfind
      rw [hfind, Option.map_some, hkey]
      split
      · next heq => simp [← heq, hfound]
      · rfl
  · next hnone =>
    have hlookup : model.lookup? key = none := by
      rw [lookup?, List.find?_eq_none]
      simpa using hnone
    rw [lookup?, List.find?_append, hlookup]
    by_cases heq : key' = key
    · rw [lookup?] at hlookup
      simp [heq, hlookup, hchange, hfresh]
    · have hne : (change fresh).key ≠ key' := by
        rw [hchange, hfresh]
        exact Ne.symm heq
      simp [heq, hne, lookup?]

end

theorem lookup?_addBase (base key' : TypeKey) :
    (model.addBase key base).lookup? key' = (model.lookup? key').map fun s =>
      if s.key = key && s.base.isNone then { s with base := some base } else s := by
  rw [addBase, lookup?, find?_map_key]
  · rfl
  · intro s
    split <;> rfl

/-! ## Models of units -/

/-- Every simple name that some units declare is one. -/
def PlainNames (units : List SourceUnit) : Prop :=
  ∀ part ∈ declarations units, IsSimpleName part.2.name

instance (units : List SourceUnit) : Decidable (PlainNames units) :=
  inferInstanceAs (Decidable (∀ part ∈ declarations units, IsSimpleName part.2.name))

/-- The declarations with a qualified name, in order. -/
def declaredUnder (units : List SourceUnit) (name : String) : List TypeDecl :=
  ((declarations units).map Prod.snd).filter (·.qualifiedName = name)

theorem mem_declaredUnder {units : List SourceUnit} {name : String} {decl : TypeDecl} :
    decl ∈ declaredUnder units name ↔
      (∃ usings, (usings, decl) ∈ declarations units) ∧ decl.qualifiedName = name := by
  simp [declaredUnder]

/-- The symbols of a model could stand in a program. -/
def IsPlain (model : Model) : Prop := ∀ s ∈ model.symbols, s.IsPlain

/-- Every symbol of the model is that of a declaration. -/
def IsDeclared (parts : List (List String × TypeDecl)) (model : Model) : Prop :=
  ∀ s ∈ model.symbols, ∃ part ∈ parts, s.IsOf part.2

/-- The model has a part of a type. -/
def Knows (model : Model) (part : List String × TypeDecl) : Prop :=
  ∃ s, model.lookup? part.2.key = some s ∧ s.HasPart part.1 part.2

theorem lookup?_addDecl (usings : List String) (decl : TypeDecl) (key' : TypeKey) :
    (model.addDecl usings decl).lookup? key' =
      if key' = decl.key then
        let s := (model.lookup? decl.key).getD
          (.bare decl.namespaceName decl.name decl.arity decl.kind)
        some { s with members := s.members ++ decl.members, usings := addMissing s.usings usings }
      else model.lookup? key' := by
  rw [addDecl, lookup?_upsert]
  · rfl
  · intro s
    rfl

theorem knows_addDecl_self (part : List String × TypeDecl) :
    (model.addDecl part.1 part.2).Knows part := by
  refine ⟨_, (lookup?_addDecl part.1 part.2 part.2.key).trans (if_pos rfl), ?_, ?_⟩
  · exact List.subset_append_right _ _
  · intro text htext
    exact mem_addMissing.mpr (.inr htext)

theorem Knows.addDecl {part : List String × TypeDecl} (h : model.Knows part) (usings : List String)
    (decl : TypeDecl) : (model.addDecl usings decl).Knows part := by
  obtain ⟨s, hs, hpart⟩ := h
  rw [Knows, lookup?_addDecl]
  split
  · next heq =>
    rw [← heq, hs]
    refine ⟨_, rfl, ?_, ?_⟩
    · exact List.subset_append_of_subset_left _ hpart.members
    · intro text htext
      exact mem_addMissing.mpr (.inl (hpart.usings htext))
  · exact ⟨s, hs, hpart⟩

theorem Knows.addBase {part : List String × TypeDecl} (h : model.Knows part) (key base : TypeKey) :
    (model.addBase key base).Knows part := by
  obtain ⟨s, hs, hpart⟩ := h
  rw [Knows, lookup?_addBase, hs]
  refine ⟨_, rfl, ?_⟩
  beta_reduce
  split
  · exact ⟨hpart.members, hpart.usings⟩
  · exact hpart

theorem IsDeclared.addDecl {parts : List (List String × TypeDecl)} (h : model.IsDeclared parts)
    {part : List String × TypeDecl} (hpart : part ∈ parts) :
    (model.addDecl part.1 part.2).IsDeclared parts :=
  forall_mem_upsert h ⟨part, hpart, rfl, rfl, rfl⟩ fun _ ⟨part, hpart, hs⟩ =>
    ⟨part, hpart, hs.namespaceName, hs.name, hs.arity⟩

theorem IsDeclared.addBase {parts : List (List String × TypeDecl)} (h : model.IsDeclared parts)
    (key base : TypeKey) : (model.addBase key base).IsDeclared parts := by
  intro s hs
  obtain ⟨old, hold, rfl⟩ := List.mem_map.mp hs
  obtain ⟨part, hpart, hof⟩ := h old hold
  refine ⟨part, hpart, ?_⟩
  split
  · exact ⟨hof.namespaceName, hof.name, hof.arity⟩
  · exact hof

/-- The model of all parts, before bases are resolved. -/
theorem isDeclared_foldl_addDecl (parts : List (List String × TypeDecl)) :
    (parts.foldl (fun model (usings, decl) => model.addDecl usings decl) empty).IsDeclared parts :=
  List.foldlRecOn parts _ (by simp [IsDeclared, empty]) fun _ h _ hpart => h.addDecl hpart

theorem knows_foldl_addDecl {parts : List (List String × TypeDecl)}
    {part : List String × TypeDecl} (hpart : part ∈ parts) :
    (parts.foldl (fun model (usings, decl) => model.addDecl usings decl) empty).Knows part := by
  obtain ⟨before, after, rfl⟩ := List.append_of_mem hpart
  rw [List.foldl_append, List.foldl_cons]
  exact List.foldlRecOn (motive := fun model : Model => model.Knows part) after _
    (knows_addDecl_self part) fun _ h later _ => h.addDecl later.1 later.2

theorem isDeclared_ofUnits (units : List SourceUnit) :
    (ofUnits units).IsDeclared (declarations units) :=
  List.foldlRecOn _ _ (isDeclared_foldl_addDecl _) fun _ h _ _ => h.addBase _ _

theorem knows_ofUnits {units : List SourceUnit} {part : List String × TypeDecl}
    (hpart : part ∈ declarations units) : (ofUnits units).Knows part :=
  List.foldlRecOn (motive := fun model : Model => model.Knows part) _ _ (knows_foldl_addDecl hpart)
    fun _ h _ _ => h.addBase _ _

theorem isPlain_ofUnits {units : List SourceUnit} (h : PlainNames units) :
    (ofUnits units).IsPlain := by
  intro s hs
  obtain ⟨part, hpart, hof⟩ := isDeclared_ofUnits units s hs
  exact hof.isPlain (h part hpart)

theorem IsPlain.insert (h : model.IsPlain) (hs : s.IsPlain) : (model.insert s).IsPlain :=
  forall_mem_upsert h hs fun _ _ => hs

theorem IsPlain.insertAll (h : model.IsPlain) {symbols : List Symbol}
    (hsymbols : ∀ s ∈ symbols, s.IsPlain) : (symbols.foldl Model.insert model).IsPlain :=
  List.foldlRecOn symbols _ h fun _ h s hs => h.insert (hsymbols s hs)

end Model

end Companion
