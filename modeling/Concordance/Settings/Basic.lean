import Concordance.Json.Codec
import Concordance.Text.Blank
import Concordance.Text.Segment
/-!
Settings: how names are brought into agreement, and where the result goes.
-/
namespace Concordance

open Json

structure ExtractionSettings where
  /-- Binary names of the types whose members are visible without a receiver. -/
  globalScopeProviders : List String := ["GD", "Mathf"]
  /-- Types whose binary name ends with this stand for an instance and are passed over. -/
  instanceShadowSuffix : String := "Instance"
  /-- A host's enum may be compiled under its name with this behind it. -/
  enumSuffix : String := "Enum"
deriving DecidableEq, Repr

namespace ExtractionSettings

def providesGlobals (s : ExtractionSettings) (binaryName : String) : Bool :=
  binaryName ∈ s.globalScopeProviders

def isShadow (s : ExtractionSettings) (binaryName : String) : Bool :=
  s.instanceShadowSuffix ≠ "" && Text.endsWith s.instanceShadowSuffix binaryName

def withoutEnumSuffix (s : ExtractionSettings) (binaryName : String) : String :=
  match Text.stripEnd? s.enumSuffix binaryName with
  | some name => if name = "" then binaryName else name
  | none => binaryName

def layout :=
  (Layout.optional "global_scope_providers" (.list .string)
    ({} : ExtractionSettings).globalScopeProviders).and <|
  (Layout.optional "instance_shadow_suffix" .string
    ({} : ExtractionSettings).instanceShadowSuffix).and <|
  Layout.optional "enum_suffix" .string ({} : ExtractionSettings).enumSuffix

def codec : Codec ExtractionSettings :=
  layout.codec
    (fun (globalScopeProviders, instanceShadowSuffix, enumSuffix) =>
      { globalScopeProviders, instanceShadowSuffix, enumSuffix })
    (fun s => (s.globalScopeProviders, s.instanceShadowSuffix, s.enumSuffix))

/-- Settings read from a file: an empty enum suffix gives way to the default, and blank provider
names are dropped. -/
def validated (s : ExtractionSettings) : ExtractionSettings :=
  { s with
    enumSuffix := if s.enumSuffix = "" then ({} : ExtractionSettings).enumSuffix else s.enumSuffix
    globalScopeProviders := s.globalScopeProviders.filter fun n => !Text.isBlankText n }

end ExtractionSettings

structure OutputSettings where
  /-- Where snapshots go; may be a virtual path. -/
  path : Option String := none
  /-- The directory that virtual paths of the project start from. -/
  projectRoot : Option String := none
deriving DecidableEq, Repr

namespace OutputSettings

def layout :=
  (Layout.optional "path" (.option .string) none).and <|
  Layout.optional "project_root" (.option .string) none

def codec : Codec OutputSettings :=
  layout.codec
    (fun (path, projectRoot) => { path, projectRoot })
    (fun s => (s.path, s.projectRoot))

end OutputSettings

structure Settings where
  extraction : ExtractionSettings := {}
  output : OutputSettings := {}
deriving DecidableEq, Repr

namespace Settings

def validated (s : Settings) : Settings := { s with extraction := s.extraction.validated }

def encode (s : Settings) : Json :=
  .object [
    ("extraction", ExtractionSettings.codec.encode s.extraction),
    ("output", OutputSettings.codec.encode s.output)]

end Settings
end Concordance
