import Mathlib.Data.List.Nodup
import Mathlib.Data.Option.Basic
import Companion.Registry

/-!
# Computations that fail, and registries

The facts on which most proofs about readers and about maps rest: when a computation in several
steps succeeds, what a registry has under a key after another key got a value, and that steps under
different keys can be taken in any order.
-/

namespace Companion

theorem except_bind_eq_ok {ε α β : Type} {x : Except ε α} {f : α → Except ε β} {b : β} :
    x >>= f = .ok b ↔ ∃ a, x = .ok a ∧ f a = .ok b := by
  cases x <;> simp [bind, Except.bind]

theorem except_bind_eq_error {ε α β : Type} {x : Except ε α} {f : α → Except ε β} {e : ε} :
    x >>= f = .error e ↔ x = .error e ∨ ∃ a, x = .ok a ∧ f a = .error e := by
  cases x <;> simp [bind, Except.bind]

theorem except_toOption_eq_some {ε α : Type} {x : Except ε α} {a : α} :
    x.toOption = some a ↔ x = .ok a := by
  cases x <;> simp [Except.toOption]

/-- What is selected of members with different keys has different keys, if it keeps them. -/
theorem nodup_map_filterMap {α β κ : Type} {select : α → Option β} {key : α → κ} {key' : β → κ}
    (hselect : ∀ a b, select a = some b → key' b = key a) {l : List α} (h : (l.map key).Nodup) :
    ((l.filterMap select).map key').Nodup := by
  rw [List.Nodup, List.pairwise_map] at h ⊢
  refine List.pairwise_filterMap.mpr (h.imp fun {a b} hne x hx y hy => ?_)
  rw [hselect a x hx, hselect b y hy]
  exact hne

/-- Steps that change only what is found under their own keys can be taken in any order, if no two
of them have the same key. -/
theorem find_foldl_perm {σ α κ β : Type} [DecidableEq κ] {find : σ → κ → β} {step : σ → α → σ}
    (key : α → κ) (change : α → β → β)
    (hstep : ∀ s a k, find (step s a) k = if k = key a then change a (find s k) else find s k)
    {steps steps' : List α} (hperm : steps.Perm steps') (hdistinct : (steps.map key).Nodup)
    {s s' : σ} (hs : find s = find s') :
    find (steps.foldl step s) = find (steps'.foldl step s') := by
  let update (found : κ → β) (a : α) (k : κ) : β :=
    if k = key a then change a (found k) else found k
  have hfind (steps : List α) (s : σ) : find (steps.foldl step s) = steps.foldl update (find s) :=
    (List.foldl_hom find fun s a => (funext (hstep s a)).symm).symm
  rw [hfind, hfind, hs]
  refine hperm.foldl_eq' (fun a ha b hb found => ?_) _
  by_cases hab : a = b
  · rw [hab]
  · have hkey : key a ≠ key b := fun h => hab (List.inj_on_of_nodup_map hdistinct ha hb h)
    funext k
    by_cases ha : k = key a
    · simp [update, ha, hkey]
    · simp [update, ha]

namespace Registry

variable {κ α : Type}

/-! ## The index of a registry -/

theorem index_eq_some_iff {r : Registry κ α} {key : κ} {position : Nat} :
    r.index key = some position ↔ ∃ value, r.entries[position]? = some (key, value) := by
  rw [r.indexed, List.getElem?_map, Option.map_eq_some_iff]
  constructor
  · rintro ⟨⟨_, value⟩, hentry, rfl⟩
    exact ⟨value, hentry⟩
  · rintro ⟨value, hentry⟩
    exact ⟨(key, value), hentry, rfl⟩

theorem index_eq_none_iff {r : Registry κ α} {key : κ} :
    r.index key = none ↔ key ∉ r.entries.map Prod.fst := by
  rw [Option.eq_none_iff_forall_ne_some, List.mem_iff_getElem?, not_exists]
  exact forall_congr' fun position => not_congr (r.indexed key position)

/-- No key has two entries, since its index can only be one of their positions. -/
theorem distinct (r : Registry κ α) : (r.entries.map Prod.fst).Nodup := by
  rw [List.nodup_iff_getElem?_ne_getElem?]
  intro first second hlt hsecond heq
  have hkey := List.getElem?_eq_getElem hsecond
  have hindex := (r.indexed _ first).mpr (heq.trans hkey)
  rw [(r.indexed _ second).mpr hkey] at hindex
  exact Nat.ne_of_gt hlt (Option.some.inj hindex)

theorem position?_eq_some_iff_index {r : Registry κ α} {key : κ}
    {position : Fin r.entries.length} :
    r.position? key = some position ↔ r.index key = some position.val := by
  unfold position?
  split
  · next place hindex => simp [hindex, Fin.ext_iff]
  · next hindex => simp [hindex]

theorem position?_eq_some_iff {r : Registry κ α} {key : κ} {position : Fin r.entries.length} :
    r.position? key = some position ↔ (r.entries.get position).1 = key := by
  rw [position?_eq_some_iff_index, r.indexed, List.getElem?_map,
    List.getElem?_eq_getElem position.isLt, Option.map_some, Option.some.injEq]
  rfl

theorem position?_eq_none_iff {r : Registry κ α} {key : κ} :
    r.position? key = none ↔ r.index key = none := by
  unfold position?
  split
  · next place hindex => simp [hindex]
  · next hindex => simp [hindex]

theorem get?_eq_some_iff {r : Registry κ α} {key : κ} {value : α} :
    r.get? key = some value ↔ (key, value) ∈ r.entries := by
  rw [get?, Option.map_eq_some_iff, List.mem_iff_get]
  refine exists_congr fun position => ?_
  rw [position?_eq_some_iff, Prod.ext_iff]

theorem mem_values_iff {r : Registry κ α} {value : α} :
    value ∈ r.values ↔ ∃ key, r.get? key = some value := by
  simp [values, get?_eq_some_iff]

/-- Registries in which the same is found have the same entries, up to their order. -/
theorem entries_perm {r r' : Registry κ α} (h : r.get? = r'.get?) : r.entries.Perm r'.entries := by
  refine (List.perm_ext_iff_of_nodup r.distinct.of_map r'.distinct.of_map).mpr fun e => ?_
  rw [← get?_eq_some_iff, ← get?_eq_some_iff, h]

/-! ## Registries as lists of entries -/

/-- The entries alone make a registry, since they determine the index. -/
theorem eq_of_entries_eq {r r' : Registry κ α} (h : r.entries = r'.entries) : r = r' := by
  have hindex : r.index = r'.index := by
    funext key
    apply Option.ext
    intro position
    rw [r.indexed, r'.indexed, h]
  cases r
  cases r'
  cases h
  cases hindex
  rfl

variable [DecidableEq κ]

/-- Changes the values of the entries with a key. -/
def changeAt (key : κ) (change : α → α) (entries : List (κ × α)) : List (κ × α) :=
  entries.map fun e => if e.1 = key then (e.1, change e.2) else e

theorem lookup_changeAt (key key' : κ) (change : α → α) (entries : List (κ × α)) :
    (changeAt key change entries).lookup key' =
      if key' = key then (entries.lookup key').map change else entries.lookup key' := by
  induction entries with
  | nil => simp [changeAt]
  | cons e entries ih =>
    rw [changeAt] at ih ⊢
    rw [List.map_cons, List.lookup_cons, List.lookup_cons, ih]
    by_cases h : key' = e.1
    · by_cases hkey : e.1 = key
      · simp [h, hkey]
      · simp [h, hkey]
    · have hne : (key' == e.1) = false := beq_false_of_ne h
      by_cases hkey : e.1 = key
      · simp [hkey, hkey ▸ hne]
      · simp [hkey, hne]

theorem changeAt_of_not_mem {key : κ} {change : α → α} {entries : List (κ × α)}
    (h : key ∉ entries.map Prod.fst) : changeAt key change entries = entries := by
  refine (List.map_congr_left fun e he => if_neg ?_).trans (List.map_id _)
  rintro rfl
  exact h (List.mem_map_of_mem he)

theorem lookup_eq_some_iff_mem {entries : List (κ × α)} (hdistinct : (entries.map Prod.fst).Nodup)
    {key : κ} {value : α} : entries.lookup key = some value ↔ (key, value) ∈ entries := by
  rw [List.lookup_eq_some_iff]
  constructor
  · rintro ⟨before, after, hentries, -⟩
    rw [hentries]
    exact List.mem_append_right _ List.mem_cons_self
  · intro hmem
    obtain ⟨before, after, hentries⟩ := List.append_of_mem hmem
    refine ⟨before, after, hentries, fun e he => ?_⟩
    rw [hentries, List.map_append, List.nodup_append] at hdistinct
    have hne := hdistinct.2.2 e.1 (List.mem_map_of_mem he) key (by simp)
    simpa using hne.symm

theorem get?_eq_lookup (r : Registry κ α) (key : κ) : r.get? key = r.entries.lookup key := by
  apply Option.ext
  intro value
  rw [get?_eq_some_iff, lookup_eq_some_iff_mem r.distinct]

theorem entries_modifyAt (r : Registry κ α) (position : Fin r.entries.length) (change : α → α) :
    (r.modifyAt position change).entries =
      changeAt (r.entries.get position).1 change r.entries := by
  apply List.ext_getElem?
  intro place
  rw [modifyAt, changeAt, List.getElem?_modify, List.getElem?_map]
  cases hplace : r.entries[place]? with
  | none => rfl
  | some e =>
    have hposition : r.index (r.entries.get position).1 = some position.val :=
      position?_eq_some_iff_index.mp (position?_eq_some_iff.mpr rfl)
    -- the key of the entry at the position has no entry elsewhere
    have hkey : position.val = place ↔ e.1 = (r.entries.get position).1 := by
      rw [← Option.some.injEq, ← hposition, r.indexed, List.getElem?_map, hplace,
        Option.map_some, Option.some.injEq]
    simp only [Option.map_eq_map, Option.map_some, hkey]

theorem entries_modify (r : Registry κ α) (key : κ) (change : α → α) :
    (r.modify key change).entries = changeAt key change r.entries := by
  unfold modify
  split
  · next position hposition => rw [entries_modifyAt, position?_eq_some_iff.mp hposition]
  · next hnone =>
    rw [changeAt_of_not_mem (index_eq_none_iff.mp (position?_eq_none_iff.mp hnone))]

theorem entries_upsert (r : Registry κ α) (key : κ) (fresh : α) (change : α → α) :
    (r.upsert key fresh change).entries =
      if key ∈ r.entries.map Prod.fst then changeAt key change r.entries
      else r.entries ++ [(key, change fresh)] := by
  unfold upsert
  split
  · next position hindex =>
    have hposition : r.position? key = some ⟨position, r.index_lt hindex⟩ :=
      position?_eq_some_iff_index.mpr hindex
    have hmem : key ∈ r.entries.map Prod.fst :=
      List.mem_of_getElem? ((r.indexed key position).mp hindex)
    rw [if_pos hmem, entries_modifyAt, position?_eq_some_iff.mp hposition]
  · next hindex =>
    rw [if_neg (index_eq_none_iff.mp hindex)]
    rfl

/-! ## What is found under a key -/

theorem get?_modify (r : Registry κ α) (key key' : κ) (change : α → α) :
    (r.modify key change).get? key' =
      if key' = key then (r.get? key').map change else r.get? key' := by
  rw [get?_eq_lookup, get?_eq_lookup, entries_modify, lookup_changeAt]

/-- Of several changes under different keys, those under a key add up. -/
theorem get?_foldl_modify {β : Type} (name : β → κ) (change : α → β → α) (steps : List β)
    (r : Registry κ α) (key : κ) :
    (steps.foldl (fun r step => r.modify (name step) (change · step)) r).get? key =
      (r.get? key).map fun value => (steps.filter (name · = key)).foldl change value := by
  induction steps generalizing r with
  | nil => simp
  | cons step steps ih =>
    rw [List.foldl_cons, ih, get?_modify, List.filter_cons]
    by_cases h : key = name step
    · rw [if_pos h, if_pos (by simp [h]), Option.map_map]
      rfl
    · rw [if_neg h, if_neg (by simpa using Ne.symm h)]

theorem get?_upsert (r : Registry κ α) (key key' : κ) (fresh : α) (change : α → α) :
    (r.upsert key fresh change).get? key' =
      if key' = key then some (change ((r.get? key).getD fresh)) else r.get? key' := by
  simp only [get?_eq_lookup, entries_upsert]
  split
  · next hmem =>
    obtain ⟨⟨_, old⟩, hentry, rfl⟩ := List.mem_map.mp hmem
    have hold := (r.get?_eq_lookup _).symm.trans (get?_eq_some_iff.mpr hentry)
    rw [lookup_changeAt]
    split
    · next h => simp [h, hold]
    · rfl
  · next hnew =>
    have hnone : r.entries.lookup key = none := by
      rw [← get?_eq_lookup, Option.eq_none_iff_forall_ne_some]
      exact fun value hvalue => hnew (List.mem_map_of_mem (get?_eq_some_iff.mp hvalue))
    rw [List.lookup_append, List.lookup_cons, List.lookup_nil]
    by_cases h : key' = key
    · simp [h, hnone]
    · have hne : (key' == key) = false := beq_false_of_ne h
      simp [h, hne]

theorem get?_insert (r : Registry κ α) (key key' : κ) (value : α) :
    (r.insert key value).get? key' = if key' = key then some value else r.get? key' :=
  get?_upsert r key key' value _

end Registry

end Companion
