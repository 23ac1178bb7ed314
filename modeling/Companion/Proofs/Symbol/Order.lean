import Companion.Proofs.Symbol.Model
import Companion.Symbol.Ancestors
import Companion.TypeRef.Namespaces

/-!
# Models and the order of declarations

Everything that is asked of a model is answered by looking keys up, except that the number of its
symbols bounds the search for ancestors. So two models with the same look-ups and of the same size
give the same answers (`Agrees`). If every declared type has one declaration, then the declarations
can be entered in any order, and so can the base classes, which are all resolved before the first
one is entered: `agrees_ofUnits`.
-/

namespace Companion.Model

variable {model model' : Model} {key : TypeKey} {s : Symbol}

/-! ## Symbols have different keys -/

/-- No key has two symbols. -/
def HasDistinctKeys (model : Model) : Prop := (model.symbols.map Symbol.key).Nodup

theorem HasDistinctKeys.map (h : model.HasDistinctKeys) {change : Symbol → Symbol}
    (hchange : ∀ s, (change s).key = s.key) :
    HasDistinctKeys ⟨model.symbols.map change⟩ := by
  have hkeys : (model.symbols.map change).map Symbol.key = model.symbols.map Symbol.key := by
    rw [List.map_map]
    exact List.map_congr_left fun s _ => hchange s
  rw [HasDistinctKeys, hkeys]
  exact h

theorem HasDistinctKeys.upsert (h : model.HasDistinctKeys) {fresh : Symbol}
    {change : Symbol → Symbol} (hfresh : fresh.key = key)
    (hchange : ∀ s, s.key = key → (change s).key = key) :
    (model.upsert key fresh change).HasDistinctKeys := by
  unfold Model.upsert
  split
  · refine h.map fun s => ?_
    split
    · next hs => rw [hchange s hs, hs]
    · rfl
  · next hnew =>
    have hfree : key ∉ model.symbols.map Symbol.key := by simpa using hnew
    rw [HasDistinctKeys, List.map_append, List.map_singleton, hchange fresh hfresh]
    exact h.append (List.nodup_singleton key) (List.disjoint_singleton.mpr hfree)

theorem HasDistinctKeys.addBase (h : model.HasDistinctKeys) (key base : TypeKey) :
    (model.addBase key base).HasDistinctKeys := by
  refine h.map fun s => ?_
  split <;> rfl

theorem hasDistinctKeys_ofUnits (units : List SourceUnit) : (ofUnits units).HasDistinctKeys := by
  refine List.foldlRecOn (motive := HasDistinctKeys) _ _ ?_ fun _ h entry _ =>
    h.addBase entry.1 entry.2
  exact List.foldlRecOn (motive := HasDistinctKeys) _ _ List.nodup_nil fun _ h part _ =>
    h.upsert rfl fun _ hs => hs

theorem HasDistinctKeys.insert (h : model.HasDistinctKeys) (s : Symbol) :
    (model.insert s).HasDistinctKeys :=
  h.upsert rfl fun _ _ => rfl

theorem hasDistinctKeys_insertAll (units : List SourceUnit) (symbols : List Symbol) :
    (symbols.foldl Model.insert (ofUnits units)).HasDistinctKeys :=
  List.foldlRecOn symbols _ (hasDistinctKeys_ofUnits units) fun _ h s _ => h.insert s

theorem HasDistinctKeys.lookup?_eq_some_iff (h : model.HasDistinctKeys) :
    model.lookup? key = some s ↔ s ∈ model.symbols ∧ s.key = key := by
  constructor
  · exact fun hs => ⟨mem_of_lookup? hs, key_of_lookup? hs⟩
  · rintro ⟨hmem, rfl⟩
    obtain ⟨found, hfound⟩ := Option.isSome_iff_exists.mp (lookup?_isSome_of_mem hmem)
    rw [hfound, List.inj_on_of_nodup_map h (mem_of_lookup? hfound) hmem (key_of_lookup? hfound)]

/-! ## Models that agree -/

/-- Two models know the same types. -/
structure Agrees (model model' : Model) : Prop where
  lookup? : model.lookup? = model'.lookup?
  size : model.size = model'.size

theorem HasDistinctKeys.agrees (h : model.HasDistinctKeys) (h' : model'.HasDistinctKeys)
    (hlookup : model.lookup? = model'.lookup?) : model.Agrees model' := by
  have hmem (s : Symbol) : s ∈ model.symbols ↔ s ∈ model'.symbols := by
    have hiff : s ∈ model.symbols ∧ s.key = s.key ↔ s ∈ model'.symbols ∧ s.key = s.key := by
      rw [← h.lookup?_eq_some_iff, ← h'.lookup?_eq_some_iff, hlookup]
    simpa using hiff
  have hperm := (List.perm_ext_iff_of_nodup h.of_map h'.of_map).mpr hmem
  exact ⟨hlookup, hperm.length_eq⟩

section

variable (h : model.lookup? = model'.lookup?)

include h

theorem resolve?_congr : model.resolve? = model'.resolve? := by
  funext scope name arity
  simp only [resolve?, h]

theorem baseOf?_congr : model.baseOf? = model'.baseOf? := by
  funext s
  rw [baseOf?, baseOf?, h]

theorem lookupMetadata?_congr : model.lookupMetadata? = model'.lookupMetadata? := by
  funext name
  simp only [lookupMetadata?, h]

theorem baseClass?_congr : model.baseClass? = model'.baseClass? := by
  have href : model.resolveRef? = model'.resolveRef? := by
    funext scope t
    cases t <;> simp only [resolveRef?, resolve?_congr h]
  funext usings decl
  simp only [baseClass?, href]

theorem requiredNamespaces_congr : model.requiredNamespaces = model'.requiredNamespaces := by
  funext scope t
  have hname : model.namespaceOf? = model'.namespaceOf? := by
    funext scope name
    rw [namespaceOf?, namespaceOf?, resolve?_congr h]
  rw [requiredNamespaces, requiredNamespaces, hname]

theorem ancestorsFrom_congr (origin : String) (fuel : Nat) (seen : List String) (current : Symbol) :
    model.ancestorsFrom origin fuel seen current =
      model'.ancestorsFrom origin fuel seen current := by
  induction fuel generalizing seen current with
  | zero => rfl
  | succ fuel ih => simp only [ancestorsFrom, baseOf?_congr h, ih]

end

theorem Agrees.ancestors_eq (h : model.Agrees model') (s : Symbol) :
    model.ancestors s = model'.ancestors s := by
  rw [ancestors, ancestors, h.size, ancestorsFrom_congr h.lookup?]

/-! ## Models of units -/

variable {parts parts' : List (List String × TypeDecl)} {units units' : List SourceUnit}

/-- Declarations of different types can be entered in any order. -/
theorem lookup?_foldl_addDecl_perm (hperm : parts.Perm parts')
    (hdistinct : (parts.map (·.2.key)).Nodup) :
    (parts.foldl (fun model (usings, decl) => model.addDecl usings decl) empty).lookup? =
      (parts'.foldl (fun model (usings, decl) => model.addDecl usings decl) empty).lookup? := by
  refine find_foldl_perm (·.2.key) (fun part old => some (
    let s := old.getD (.bare part.2.namespaceName part.2.name part.2.arity part.2.kind)
    { s with members := s.members ++ part.2.members, usings := addMissing s.usings part.1 }))
    (fun model part key => ?_) hperm hdistinct rfl
  rw [lookup?_addDecl]
  split
  · next hkey => rw [hkey]
  · rfl

/-- Base classes of different types can be entered in any order. -/
theorem lookup?_foldl_addBase_perm {bases bases' : List (TypeKey × TypeKey)}
    (hperm : bases.Perm bases') (hdistinct : (bases.map Prod.fst).Nodup)
    (hlookup : model.lookup? = model'.lookup?) :
    (bases.foldl (fun model (key, base) => model.addBase key base) model).lookup? =
      (bases'.foldl (fun model (key, base) => model.addBase key base) model').lookup? := by
  refine find_foldl_perm Prod.fst (fun entry old => old.map fun s =>
    if s.base.isNone then { s with base := some entry.2 } else s)
    (fun model entry key => ?_) hperm hdistinct hlookup
  rw [lookup?_addBase]
  cases hs : model.lookup? key with
  | none => simp
  | some s =>
    rw [← key_of_lookup? hs]
    by_cases hkey : s.key = entry.1 <;> simp [hkey]

/-- If every type has one declaration, the order of the declarations does not matter. -/
theorem agrees_ofUnits (hperm : (declarations units).Perm (declarations units'))
    (hdistinct : ((declarations units).map (·.2.key)).Nodup) :
    (ofUnits units).Agrees (ofUnits units') := by
  refine (hasDistinctKeys_ofUnits units).agrees (hasDistinctKeys_ofUnits units') ?_
  have hentered := lookup?_foldl_addDecl_perm hperm hdistinct
  refine lookup?_foldl_addBase_perm ?_ ?_ hentered
  · rw [baseClass?_congr hentered]
    exact hperm.filterMap _
  · refine nodup_map_filterMap (fun part entry hentry => ?_) hdistinct
    obtain ⟨_, -, rfl⟩ := Option.map_eq_some_iff.mp hentry
    rfl

end Companion.Model
