import ImportAtlas.Complaint
import ImportAtlas.FileTree.Access
import ImportAtlas.Settings.Decode
import ImportAtlas.Toml.Reader

/-!
# Settings files

The settings in a file of a tree: in a file that is named, or in the file of a fixed name in the
root of a scan, which need not exist.

## Main definitions

* `ImportAtlas.SettingsError`: why a settings file cannot be used.
* `ImportAtlas.Settings.load`: the settings in a file.
* `ImportAtlas.Settings.loadNear`: the settings in a directory, if there are any.
-/

namespace ImportAtlas

/-- What is wrong with a settings file. -/
inductive SettingsFault where
  /-- The file cannot be read. -/
  | unreadable (cause : FileError)
  /-- The file is no TOML. -/
  | malformed (cause : Toml.TomlError)
  /-- The file describes no settings. -/
  | meaningless (cause : EntryError)
  deriving Repr, DecidableEq

/-- Why a settings file cannot be used. -/
structure SettingsError where
  /-- The path of the file. -/
  path : Path
  /-- What is wrong with it. -/
  fault : SettingsFault
  deriving Repr, DecidableEq

/-- What the user is told. -/
def SettingsError.complaint (e : SettingsError) : Complaint :=
  let opening := "Config file " ++ e.path ++ ": "
  match e.fault with
  | .unreadable cause => ⟨opening ++ cause.message, none⟩
  | .malformed cause => ⟨opening, some cause.message⟩
  | .meaningless cause => ⟨opening, some cause.message⟩

namespace Settings

/-- The settings of a text. -/
def parse (text : String) : Except SettingsFault Settings :=
  match Toml.parse text.toList with
  | .error e => .error (.malformed e)
  | .ok fields => (ofFields fields).mapError .meaningless

/-- The settings in a file. -/
def load (t : FileTree) (path : Path) : Except SettingsError Settings :=
  match t.readText path with
  | .error e => .error ⟨path, .unreadable e⟩
  | .ok text => (parse text).mapError (SettingsError.mk path)

/-- The path of the settings in a directory. -/
def pathNear (root : Path) : Path := Path.join root "swift-module-graph.toml"

/-- The settings in a directory, if there are any. -/
def loadNear (t : FileTree) (root : Path) : Except SettingsError (Option Settings) :=
  if t.isFile (pathNear root) then (load t (pathNear root)).map some else .ok none

end Settings

end ImportAtlas
