import Companion.Command.Workspace
import Companion.Config
import Companion.Declaration.Codec

/-!
# Reading configurations and manifests
-/

namespace Companion

variable {m : Type → Type} [Monad m] [MonadExcept Failure m] [Workspace m]

open Workspace

/-- The configuration of a directory, or the default if it has none. -/
def Config.load (cwd : String) : m Config := do
  let path := Path.join cwd Config.fileName
  if ← fileExists path then
    match Config.parse? (← readText path) with
    | some config => return config
    | none => throw .invalidConfig
  else return {}

namespace Manifest

/-- Whether a path has the name of a manifest. -/
def isManifest (path : String) : Bool :=
  (Path.fileName? path).any fun name => (Text.before? suffix.toList name.toList).isSome

/-- The manifests at or under a path. -/
def find (path : String) : m (List String) := return (← filesUnder path).filter isManifest

/-- The units of the manifest at a path. -/
def load (path : String) : m (List SourceUnit) := do
  match load? path (← readText path) with
  | some units => return units
  | none => throw (.invalidManifest path)

/-- The units of all manifests, in order. -/
def loadAll : List String → m (List SourceUnit)
  | [] => return []
  | path :: paths => do
    let units ← load path
    return units ++ (← loadAll paths)

end Manifest

end Companion
