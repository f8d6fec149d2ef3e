import Concordance.Error
import Concordance.Settings.Basic
import Concordance.Shell
import Concordance.Toml.Reader
/-!
Settings in files. A file that cannot be read, or is not what settings look like, is passed over;
where none is left, the defaults hold.
-/
namespace Concordance

def Toml.field (fields : String → Option Toml.Value) (name : String)
    (read : Toml.Value → Option α) (default : α) : Option α :=
  match fields name with
  | some v => read v
  | none => some default

namespace ExtractionSettings

def ofToml? (v : Toml.Value) : Option ExtractionSettings := do
  let fields ← v.fields? ["global_scope_providers", "instance_shadow_suffix", "enum_suffix"]
  let default : ExtractionSettings := {}
  return {
    globalScopeProviders :=
      ← Toml.field fields "global_scope_providers" (·.texts?) default.globalScopeProviders
    instanceShadowSuffix :=
      ← Toml.field fields "instance_shadow_suffix" (·.text?) default.instanceShadowSuffix
    enumSuffix := ← Toml.field fields "enum_suffix" (·.text?) default.enumSuffix }

end ExtractionSettings

namespace OutputSettings

def ofToml? (v : Toml.Value) : Option OutputSettings := do
  let fields ← v.fields? ["path", "project_root"]
  return {
    path := ← Toml.field fields "path" (·.text?.map some) none
    projectRoot := ← Toml.field fields "project_root" (·.text?.map some) none }

end OutputSettings

namespace Settings

def ofToml? (v : Toml.Value) : Option Settings := do
  let fields ← v.fields? ["extraction", "output"]
  return {
    extraction := ← Toml.field fields "extraction" ExtractionSettings.ofToml? {}
    output := ← Toml.field fields "output" OutputSettings.ofToml? {} }

def parse (text : String) : Except Error Settings :=
  match (Toml.read? text).bind fun entries => ofToml? (.table .header entries) with
  | some s => .ok s.validated
  | none => .error .toml

def fileName : String := ".crosswalk.toml"

def atPath? (shell : Shell) (path : String) : Option Settings :=
  (shell.readText? path).bind fun text => (parse text).toOption

def ofFile (shell : Shell) (path : String) : Settings := (atPath? shell path).getD {}

def mostDirectories : Nat := 10

/-- The settings of the working directory or of the nearest directory above it that has some. -/
def nearest (shell : Shell) : Settings :=
  match shell.toldDirectory with
  | .error _ => {}
  | .ok directory =>
    let directories := Path.ancestors mostDirectories directory
    (directories.findSome? fun d => atPath? shell (Path.join d fileName)).getD {}

def chosen (path : Option String) (shell : Shell) : Settings :=
  match path with
  | some path => ofFile shell path
  | none => nearest shell

end Settings
end Concordance
