import Concordance.Compiled
import Concordance.Host
import Concordance.Settings.Basic
import Concordance.TypeEntry
import Concordance.Resolution.Tracker
/-!
Constants: the host's names paired with the module's values, position by position, both being in
the order of declaration. Where the two count differently nothing is paired and the type is
recorded as unresolved.
-/
namespace Concordance.Resolution

open Compiled (TypeInfo)

def members (names : List String) (values : List Compiled.EnumValue) : List EnumMember :=
  names.zipWith (fun name v => ⟨name, v.name, v.value⟩) values

def pairing? (owner name : String) (constants : List String) (binary : TypeInfo) :
    Option EnumType :=
  if constants.length = binary.enumValues.length then
    some {
      logicalName := name
      containingType := some owner
      binaryFullName := binary.fullName
      binaryName := binary.name
      isFlags := binary.isFlags
      members := members constants binary.enumValues }
  else none

/-- The first nested enum that has the host's name, with the suffix or without. -/
def nestedEnum? (suffix : String) (t : TypeInfo) (name : String) : Option TypeInfo :=
  t.nestedTypes.find? fun n => n.isEnum && (n.name = name || n.name = name ++ suffix)

inductive EnumOutcome where
  | paired (e : EnumType)
  | unresolved (u : Unresolved)
  /-- Missing in a type that stands for an instance, where it is not expected. -/
  | ignored

def EnumOutcome.enum? : EnumOutcome → Option EnumType
  | .paired e => some e
  | _ => none

def EnumOutcome.unresolved? : EnumOutcome → Option Unresolved
  | .unresolved u => some u
  | _ => none

def enumOutcome (host : Host) (settings : ExtractionSettings) (t : TypeInfo)
    (logicalName name : String) : EnumOutcome :=
  match nestedEnum? settings.enumSuffix t name with
  | none =>
    if settings.isShadow t.name then .ignored
    else .unresolved (.enumNotFound logicalName t.fullName name)
  | some binary =>
    match pairing? logicalName name (host.enumConstants logicalName name) binary with
    | some e => .paired e
    | none => .unresolved (.constantsMismatch logicalName binary.fullName)

def enumOutcomes (host : Host) (settings : ExtractionSettings) (t : TypeInfo)
    (logicalName : String) : List EnumOutcome :=
  (host.enumNames logicalName).map (enumOutcome host settings t logicalName)

def enums (os : List EnumOutcome) : NameMap EnumType :=
  .ofList (os.filterMap fun o => o.enum?.map fun e => (e.logicalName, e))

/-- The host's integer constants of a type that belong to none of its enums. -/
def looseConstants (host : Host) (logicalName : String) : List String :=
  let owned := (host.enumNames logicalName).flatMap (host.enumConstants logicalName)
  (host.integerConstants logicalName).filter fun c => c ∉ owned

def constants? (host : Host) (t : TypeInfo) (logicalName : String) : Option (NameMap Constant) :=
  let names := looseConstants host logicalName
  if names.length = t.literals.length then
    some <| .ofList <| names.zipWith
      (fun name l => (name, ⟨name, l.name, l.type.fullName, t.fullName, l.value⟩)) t.literals
  else none

def enumConstants? (names : List String) (t : TypeInfo) : Option (NameMap Constant) :=
  if names.length = t.enumValues.length then
    some <| .ofList <| names.zipWith
      (fun name v => (name, ⟨name, v.name, t.fullName, t.fullName, toString v.value.toInt⟩))
      t.enumValues
  else none

end Concordance.Resolution
