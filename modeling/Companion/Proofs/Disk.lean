import Mathlib.Data.List.Basic
import Companion.Disk
import Companion.Proofs.Basic
import Companion.Proofs.Text.Search

/-!
# Where paths lead and what writing does

A file may hold any bytes, and is read exactly if they are the UTF-8 form of a text. If a path leads
anywhere, then the names on it alone say where, and it leads there as long as the directories stay,
which writing files never changes. After a series of writes, every location that was written to has
the text that was written to it last, and all others have what they had.
-/

namespace Companion

/-! ## Names on paths -/

namespace Path

theorem names_append_slash (left right : String) :
    names (left ++ "/" ++ right) = names left ++ names right := by
  have hlist : (left ++ "/" ++ right).toList = left.toList ++ '/' :: right.toList := by simp
  rw [names, pieces, hlist, Text.splitBy_append_cons (by simp), List.map_append, List.filter_append]
  rfl

theorem names_empty : names "" = [] := by decide

/-- A relative path leads on from its base. -/
theorem names_join (base : String) {path : String} (h : isAbsolute path = false) :
    names (join base path) = names base ++ names path := by
  unfold join
  split
  · next hbase =>
    have hempty : base = "" := by simpa [h] using hbase
    rw [hempty, names_empty, List.nil_append]
  · split
    · next hlast =>
      -- the slash is already there
      obtain ⟨front, hfront⟩ : ∃ front : String, base = front ++ "/" := by
        obtain ⟨chars, hchars⟩ := List.getLast?_eq_some_iff.mp hlast
        refine ⟨String.ofList chars, String.toList_inj.mp ?_⟩
        simp [hchars]
      have hfront' : base = front ++ "/" ++ "" := by simp [hfront]
      rw [hfront, names_append_slash, ← hfront, hfront', names_append_slash, names_empty,
        List.append_nil]
    · exact names_append_slash base path

theorem names_of_not_mem {path : String} (h : '/' ∉ path.toList) :
    names path = [path].filter isName := by
  have hpieces : Text.splitBy (· = '/') path.toList = [path.toList] := by
    apply Text.splitBy_of_none
    intro c hc
    have hne : c ≠ '/' := by
      rintro rfl
      exact h hc
    simpa using hne
  rw [names, pieces, hpieces]
  simp

end Path

/-! ## Bytes of files -/

namespace Node

/-- The bytes of a file. -/
def bytes? : Node → Option ByteArray
  | directory => none
  | file text => some text.toByteArray
  | binary bytes _ => some ⟨bytes⟩

/-- Only the file with a text has the bytes of the text. -/
theorem bytes?_eq_some_iff {node : Node} {text : String} :
    node.bytes? = some text.toByteArray ↔ node = file text := by
  cases node with
  | directory => simp [bytes?]
  | file other => simp [bytes?, String.toByteArray_inj]
  | binary bytes h =>
    simp only [bytes?, Option.some.injEq, reduceCtorEq, iff_false]
    intro hbytes
    exact h (hbytes ▸ text.isValidUTF8)

/-- Whatever the bytes are, there is one file with them. -/
theorem existsUnique_bytes? (bytes : ByteArray) : ∃! node : Node, node.bytes? = some bytes := by
  by_cases h : bytes.IsValidUTF8
  · exact ⟨file (.ofByteArray bytes h), rfl, fun node hnode => bytes?_eq_some_iff.mp hnode⟩
  · refine ⟨binary bytes.data h, rfl, fun node hnode => ?_⟩
    cases node with
    | directory => cases hnode
    | file text =>
      cases hnode
      exact absurd text.isValidUTF8 h
    | binary other _ =>
      cases hnode
      rfl

end Node

namespace Disk

variable {disk disk' : Disk} {location : Location}

/-- Only the root is a directory on every disk. -/
theorem ne_nil_of_node?_ne (h : disk.node? location ≠ some .directory) : location ≠ [] := by
  rintro rfl
  exact h rfl

theorem node?_insert (h : location ≠ []) (node : Node) (other : Location) :
    (disk.insert location node).node? other =
      if other = location then some node else disk.node? other := by
  cases other with
  | nil => rw [if_neg h.symm, node?, node?]
  | cons name names =>
    have hkey : ((name :: names).length, name :: names) = (location.length, location) ↔
        name :: names = location := by
      constructor
      · exact fun h => congrArg Prod.snd h
      · intro h
        rw [h]
    simp only [insert, node?, Registry.get?_insert, hkey]

/-! ## Paths -/

/-- Where a name leads from a location. -/
def enter (location : Location) (name : String) : Location :=
  if name = ".." then location.dropLast else location ++ [name]

/-- Where a path leads, if all directories on it are there. -/
@[irreducible]
def place (path : String) : Location := (Path.names path).foldl enter []

theorem follow_eq_ok_iff {name : String} {location' : Location} :
    disk.follow location name = .ok location' ↔
      disk.node? location = some .directory ∧ (name = ".." ∨ isFileName name = true) ∧
        location' = enter location name := by
  unfold follow enter
  split
  · next h => simp [h]
  · next h => simp [h]
  · next h => simp [h]
  · next h =>
    by_cases hup : name = ".."
    · simp only [h, hup, if_true, Except.ok.injEq, true_and, true_or]
      exact eq_comm
    · by_cases hname : isFileName name = true
      · simp only [h, hup, hname, if_true, if_false, Except.ok.injEq, true_and, or_true]
        exact eq_comm
      · simp [hup, hname]

/-- Every directory of the first disk is one of the second. -/
def KeepsDirectories (disk disk' : Disk) : Prop :=
  ∀ location, disk.node? location = some .directory → disk'.node? location = some .directory

theorem foldlM_follow_mono (hkeeps : KeepsDirectories disk disk') {names : List String}
    {location' : Location} (h : names.foldlM disk.follow location = .ok location') :
    names.foldlM disk'.follow location = .ok location' := by
  induction names generalizing location with
  | nil => exact h
  | cons name names ih =>
    rw [List.foldlM_cons] at h ⊢
    obtain ⟨next, hnext, h⟩ := except_bind_eq_ok.mp h
    obtain ⟨hdirectory, hname⟩ := follow_eq_ok_iff.mp hnext
    have hnext' : disk'.follow location name = .ok next :=
      follow_eq_ok_iff.mpr ⟨hkeeps location hdirectory, hname⟩
    exact except_bind_eq_ok.mpr ⟨next, hnext', ih h⟩

theorem foldlM_follow_eq_ok {names : List String} {location' : Location}
    (h : names.foldlM disk.follow location = .ok location') :
    location' = names.foldl enter location := by
  induction names generalizing location with
  | nil =>
    cases h
    rfl
  | cons name names ih =>
    rw [List.foldlM_cons] at h
    obtain ⟨next, hnext, h⟩ := except_bind_eq_ok.mp h
    obtain ⟨-, -, rfl⟩ := follow_eq_ok_iff.mp hnext
    exact ih h

theorem locate_mono (hkeeps : KeepsDirectories disk disk') {path : String}
    (h : disk.locate path = .ok location) : disk'.locate path = .ok location := by
  unfold locate at h ⊢
  split at h
  · next hpath =>
    rw [if_pos hpath]
    exact foldlM_follow_mono hkeeps h
  · cases h

theorem place_of_locate_eq_ok {path : String} (h : disk.locate path = .ok location) :
    location = place path := by
  unfold locate at h
  split at h
  · rw [place]
    exact foldlM_follow_eq_ok h
  · cases h

/-! ## One write -/

section

variable {path text : String}

/-- A path to which a file can be written: it leads somewhere, and not by its form to a
directory. -/
def IsFilePath (disk : Disk) (path : String) : Prop :=
  disk.locate path = .ok (place path) ∧ Path.endsInDirectory path = false

theorem IsFilePath.mono (hkeeps : KeepsDirectories disk disk') (h : disk.IsFilePath path) :
    disk'.IsFilePath path :=
  ⟨locate_mono hkeeps h.1, h.2⟩

theorem writeText_eq_ok (h : disk.writeText path text = .ok disk') :
    disk.IsFilePath path ∧ disk.node? (place path) ≠ some .directory ∧
      disk' = disk.insert (place path) (.file text) := by
  unfold writeText at h
  split at h
  · cases h
  · next location hlocate =>
    obtain rfl := place_of_locate_eq_ok hlocate
    split at h
    · cases h
    · next hfile =>
      cases h
      simp only [Bool.or_eq_true, not_or, Bool.not_eq_true] at hfile
      exact ⟨⟨hlocate, hfile.1⟩, by simpa using hfile.2, rfl⟩

theorem node?_writeText (h : disk.writeText path text = .ok disk') (location : Location) :
    disk'.node? location =
      if location = place path then some (.file text) else disk.node? location := by
  obtain ⟨-, hnode, rfl⟩ := writeText_eq_ok h
  exact node?_insert (ne_nil_of_node?_ne hnode) _ _

theorem keepsDirectories_writeText (h : disk.writeText path text = .ok disk') :
    KeepsDirectories disk disk' := by
  intro location hdirectory
  rw [node?_writeText h, if_neg]
  · exact hdirectory
  · rintro rfl
    exact (writeText_eq_ok h).2.1 hdirectory

theorem readText_eq (h : disk.IsFilePath path)
    (hnode : disk.node? (place path) = some (.file text)) : disk.readText path = .ok text := by
  have hnodeAt : disk.nodeAt path = .ok (.file text) := by
    simp [nodeAt, h.1, h.2, hnode]
  rw [readText, hnodeAt]

theorem nodeAt_of_readText (h : disk.readText path = .ok text) :
    disk.nodeAt path = .ok (.file text) := by
  rw [readText] at h
  split at h
  · next hnode =>
    cases h
    exact hnode
  · cases h
  · cases h
  · cases h

theorem readText_eq_ok (h : disk.readText path = .ok text) :
    disk.IsFilePath path ∧ disk.node? (place path) = some (.file text) := by
  have hnodeAt := nodeAt_of_readText h
  rw [nodeAt] at hnodeAt
  split at hnodeAt
  · cases hnodeAt
  · next location hlocate =>
    obtain rfl := place_of_locate_eq_ok hlocate
    split at hnodeAt
    · cases hnodeAt
    · cases hnodeAt
    · next node _ hnode =>
      split at hnodeAt
      · cases hnodeAt
      · next hends =>
        cases hnodeAt
        exact ⟨⟨hlocate, Bool.not_eq_true _ ▸ hends⟩, hnode⟩

/-- What has been written to a path is read from it. -/
theorem readText_writeText (h : disk.writeText path text = .ok disk') :
    disk'.readText path = .ok text := by
  refine readText_eq ((writeText_eq_ok h).1.mono (keepsDirectories_writeText h)) ?_
  rw [node?_writeText h, if_pos rfl]

theorem fileExists_of_readText (h : disk.readText path = .ok text) :
    disk.fileExists path = true := by
  rw [fileExists, nodeAt_of_readText h]
  rfl

end

/-! ## Bytes -/

section

variable {path text : String} {node : Node} {bytes : ByteArray}

theorem readText_eq_ok_iff : disk.readText path = .ok text ↔
    ∃ node, disk.nodeAt path = .ok node ∧ node.bytes? = some text.toByteArray := by
  constructor
  · intro h
    exact ⟨.file text, nodeAt_of_readText h, rfl⟩
  · rintro ⟨node, hnode, hbytes⟩
    obtain rfl := Node.bytes?_eq_some_iff.mp hbytes
    rw [readText, hnode]

/-- A file cannot be read if its bytes are not the UTF-8 form of a text. -/
theorem readText_of_invalid (hnode : disk.nodeAt path = .ok node)
    (hbytes : node.bytes? = some bytes) (h : ¬bytes.IsValidUTF8) :
    disk.readText path = .error .refused := by
  cases node with
  | directory => cases hbytes
  | file text =>
    cases hbytes
    exact absurd text.isValidUTF8 h
  | binary => rw [readText, hnode]

end

/-! ## A series of writes -/

/-- Writes texts to paths, one after the other. -/
def writeAll (disk : Disk) (writes : List (String × String)) : Except Fault Disk :=
  writes.foldlM (fun disk write => disk.writeText write.1 write.2) disk

/-- The text that is written last to a location. -/
def lastText? (writes : List (String × String)) (location : Location) : Option String :=
  (writes.reverse.find? fun write => place write.1 = location).map Prod.snd

theorem lastText?_cons (write : String × String) (writes : List (String × String))
    (location : Location) :
    lastText? (write :: writes) location =
      (lastText? writes location).or (if location = place write.1 then some write.2 else none) := by
  unfold lastText?
  rw [List.reverse_cons, List.find?_append]
  cases hfind : writes.reverse.find? fun write => place write.1 = location with
  | some found => simp
  | none =>
    by_cases h : location = place write.1
    · simp [h]
    · simp [h, Ne.symm h]

theorem writeAll_eq_ok {writes : List (String × String)} (h : disk.writeAll writes = .ok disk') :
    KeepsDirectories disk disk' ∧ (∀ write ∈ writes, disk'.IsFilePath write.1) ∧
      ∀ location, disk'.node? location =
        ((lastText? writes location).map .file).or (disk.node? location) := by
  induction writes generalizing disk with
  | nil =>
    cases h
    exact ⟨fun _ h => h, by simp, fun _ => rfl⟩
  | cons write writes ih =>
    rw [writeAll, List.foldlM_cons] at h
    obtain ⟨next, hnext, hrest⟩ := except_bind_eq_ok.mp h
    obtain ⟨hrestKeeps, hpaths, hnodes⟩ := ih hrest
    -- the first path is looked up again on the last disk, so the directories on it have to stay
    have hall : KeepsDirectories disk disk' := fun location hdirectory =>
      hrestKeeps location (keepsDirectories_writeText hnext location hdirectory)
    refine ⟨hall, ?_, ?_⟩
    · exact List.forall_mem_cons.mpr
        ⟨(writeText_eq_ok hnext).1.mono hall, hpaths⟩
    · intro location
      rw [hnodes, node?_writeText hnext, lastText?_cons]
      cases lastText? writes location with
      | some text => rfl
      | none =>
        simp only [Option.map_none, Option.none_or]
        split <;> rfl

/-- If no two paths lead to the same location then nothing is written over. -/
theorem lastText?_of_nodup {writes : List (String × String)}
    (h : (writes.map fun write => place write.1).Nodup) {write : String × String}
    (hwrite : write ∈ writes) : lastText? writes (place write.1) = some write.2 := by
  induction writes with
  | nil => cases hwrite
  | cons first writes ih =>
    rw [List.map_cons, List.nodup_cons] at h
    rw [lastText?_cons]
    rcases List.mem_cons.mp hwrite with rfl | hrest
    · have hnone : lastText? writes (place write.1) = none := by
        rw [lastText?, Option.map_eq_none_iff, List.find?_eq_none]
        intro other hother heq
        refine h.1 (List.mem_map.mpr ⟨other, List.mem_reverse.mp hother, ?_⟩)
        simpa using heq
      simp [hnone]
    · rw [ih h.2 hrest]
      rfl

end Disk

end Companion
