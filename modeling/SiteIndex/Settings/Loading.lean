import SiteIndex.FileSystem.Access
import SiteIndex.Settings.Table
import SiteIndex.Settings.Validation
import SiteIndex.Toml.Document
import SiteIndex.Toml.Merge

/-!
Loading the settings of a content root. The settings file gives only what differs from the stock
settings; it is laid over them, and the whole is then read and validated. A root without a settings
file has the stock settings.
-/

namespace SiteIndex.Settings

inductive LoadError where
  | unreadable (cause : FileError)
  /-- The file is not TOML, or the merged table does not have the form of settings. -/
  | malformed
  | invalid (defect : Defect)
  deriving DecidableEq, Repr

def LoadError.message : LoadError → String
  | unreadable cause => "IO error: " ++ cause.message
  | malformed => "TOML parse error"
  | invalid defect => "Config validation error: " ++ defect.message

/-- The settings file as it is written, if there is one. -/
def loadFile (files : FileSystem) (root : String) : Except LoadError (Option Toml) :=
  match files.readText (Path.join root settingsFile) with
  | .error .notFound => .ok none
  | .error cause => .error (.unreadable cause)
  | .ok text =>
      match Toml.read? text with
      | some value => .ok (some value)
      | none => .error .malformed

/-- The settings that a table stands for, once read and validated. -/
def accept (value : Toml) : Except LoadError Settings :=
  match ofToml? value with
  | none => .error .malformed
  | some settings =>
      match settings.defect? with
      | none => .ok settings
      | some defect => .error (.invalid defect)

/-- The settings that result from laying `overrides` over `base`. -/
def resolve (base : Toml) (overrides : Option Toml) : Except LoadError Settings :=
  match overrides with
  | some overrides => accept (Toml.overlay base overrides)
  | none => accept base

def load (files : FileSystem) (root : String) : Except LoadError Settings :=
  match loadFile files root with
  | .error cause => .error cause
  | .ok overrides => resolve Settings.stock.toToml overrides

end SiteIndex.Settings
