import Companion.Path
import Companion.Registry

/-!
# Disks

A disk is a map from locations to directories and files. A file holds bytes, which may or may not
spell a text. A path is followed name by name from the root, and every name but the last has to be
that of a directory that is there, also when the path goes up again right after it. Names and paths
have a greatest length.
-/

namespace Companion

/-- The names from the root down. -/
abbrev Location := List String

/-- What stands at a location. -/
inductive Node where
  | directory
  /-- A file with a text, which is kept in its UTF-8 form. -/
  | file (text : String)
  /-- A file with bytes that are not the UTF-8 form of any text. -/
  | binary (bytes : Array UInt8) (h : ¬(ByteArray.mk bytes).IsValidUTF8)
  deriving DecidableEq

/-- Why an operation on a disk fails: something on the way is missing, or anything else. -/
inductive Fault where
  | notFound
  | refused
  deriving DecidableEq, Repr

/-- The directories and files of a file system. Anything may be filed anywhere: that a file stands
in a directory is seen only when a path is followed. -/
structure Disk where
  /-- Everything but the root, which is always there. A location is filed with its depth in front,
  by which most others are told from it at once. -/
  nodes : Registry (Nat × Location) Node := {}

namespace Disk

/-- What is at a location. -/
def node? (disk : Disk) : Location → Option Node
  | [] => some .directory
  | location => disk.nodes.get? (location.length, location)

/-- Puts something at a location, in place of what was there. -/
def insert (disk : Disk) (location : Location) (node : Node) : Disk :=
  ⟨disk.nodes.insert (location.length, location) node⟩

/-- Everything but the root, with its place. -/
def entries (disk : Disk) : List (Location × Node) :=
  disk.nodes.entries.map fun entry => (entry.1.2, entry.2)

/-- Every file that has a text, with its text. -/
def files (disk : Disk) : List (Location × String) :=
  disk.entries.filterMap fun (location, node) =>
    match node with
    | .file text => some (location, text)
    | .directory | .binary _ _ => none

/-! ## Following paths -/

/-- Whether a text is taken for a path at all: at most 4095 bytes, none of them zero. -/
def isPath (path : String) : Bool :=
  path.utf8ByteSize ≤ 4095 && !path.toList.contains (Char.ofNat 0)

/-- Whether a file or directory can have this name: at most 255 bytes. -/
def isFileName (name : String) : Bool := name.utf8ByteSize ≤ 255

/-- One step along a path, out of a directory that has to be there. -/
def follow (disk : Disk) (location : Location) (name : String) : Except Fault Location :=
  match disk.node? location with
  | none => .error .notFound
  | some (.file _) | some (.binary _ _) => .error .refused
  | some .directory =>
    if name = ".." then .ok location.dropLast
    else if isFileName name then .ok (location ++ [name])
    else .error .refused

/-- Where a path leads. There need not be anything at the end. -/
def locate (disk : Disk) (path : String) : Except Fault Location :=
  if isPath path then (Path.names path).foldlM disk.follow [] else .error .refused

/-- What a path leads to. -/
def nodeAt (disk : Disk) (path : String) : Except Fault Node :=
  match disk.locate path with
  | .error fault => .error fault
  | .ok location =>
    match disk.node? location with
    | none => .error .notFound
    | some .directory => .ok .directory
    | some file => if Path.endsInDirectory path then .error .refused else .ok file

/-- Whether a path leads to anything. -/
def fileExists (disk : Disk) (path : String) : Bool := (disk.nodeAt path).isOk

/-- Whether a path leads to a file, readable or not. -/
def isFile (disk : Disk) (path : String) : Bool :=
  match disk.nodeAt path with
  | .ok (.file _) | .ok (.binary _ _) => true
  | _ => false

/-- Whether a path leads to a directory. -/
def isDirectory (disk : Disk) (path : String) : Bool :=
  match disk.nodeAt path with
  | .ok .directory => true
  | _ => false

/-- The text of the file that a path leads to. Bytes that spell no text cannot be read. -/
def readText (disk : Disk) (path : String) : Except Fault String :=
  match disk.nodeAt path with
  | .ok (.file text) => .ok text
  | .ok .directory | .ok (.binary _ _) => .error .refused
  | .error fault => .error fault

/-- Gives a file a text, whatever it had before. The directory of the file has to be there, the file
need not. -/
def writeText (disk : Disk) (path text : String) : Except Fault Disk :=
  match disk.locate path with
  | .error fault => .error fault
  | .ok location =>
    if Path.endsInDirectory path || disk.node? location = some .directory then .error .refused
    else .ok (disk.insert location (.file text))

/-! ## Directories -/

/-- Follows names from a directory and makes those that are missing. What has been made stays, even
if a later name cannot be followed. -/
def makeAlong (disk : Disk) (location : Location) : List String → Except Fault Unit × Disk
  | [] => (.ok (), disk)
  | name :: names =>
    match disk.follow location name with
    | .error fault => (.error fault, disk)
    | .ok location =>
      match disk.node? location with
      | some (.file _) | some (.binary _ _) => (.error .refused, disk)
      | some .directory => disk.makeAlong location names
      | none => (disk.insert location .directory).makeAlong location names

/-- Makes a directory and those around it that are missing. Nothing can be made under the name of a
dot, so the directory before a dot at the end has to be there already, or to come into being on the
way. -/
def makeDirs (disk : Disk) (path : String) : Except Fault Unit × Disk :=
  if !isPath path then (.error .refused, disk)
  else if Path.endsInDot path then
    match disk.makeAlong [] (Path.names path).dropLast with
    | (.error fault, disk) => (.error fault, disk)
    | (.ok (), disk) => (if disk.isDirectory path then .ok () else .error .notFound, disk)
  else disk.makeAlong [] (Path.names path)

/-! ## Files under a directory -/

/-- The order of locations: by the first name that differs. -/
def precedes : Location → Location → Bool
  | [], _ => true
  | _, [] => false
  | a :: as, b :: bs => if a = b then precedes as bs else a < b

/-- The files under a location, as the names that lead to them from there, in order. -/
def filesBelow (disk : Disk) (location : Location) : List Location :=
  (disk.entries.filterMap fun entry =>
    if entry.2 ≠ .directory && location.isPrefixOf entry.1 then
      some (entry.1.drop location.length)
    else none).mergeSort precedes

/-- The paths of all files at or under a path. A directory that is too deep for its path to be one
is passed over. -/
def filesUnder (disk : Disk) (path : String) : List String :=
  match disk.nodeAt path, disk.locate path with
  | .ok .directory, .ok location =>
    let reached := (disk.filesBelow location).filter fun names =>
      isPath (names.dropLast.foldl Path.join path)
    reached.map (·.foldl Path.join path)
  | .ok (.file _), _ | .ok (.binary _ _), _ => [path]
  | _, _ => []

end Disk

end Companion
