import Concordance.Registry.Basic
import Concordance.Resolution.Join
import Concordance.Resolution.Pairing
/-!
The entry of one compiled type, and the record of what could not be brought into agreement. A type
is resolved without regard to the registry, so the order of types decides only the order of lists.
-/
namespace Concordance

open Compiled (TypeInfo)
open Resolution

structure Resolver where
  host : Host
  settings : ExtractionSettings := {}
  /-- Logical names of the types that may declare enums, by binary full name. -/
  ownerNames : NameMap String := .empty

namespace Resolver

def simpleName (fullName : String) : String :=
  Text.lastSegment (fun c => c = '.' || c = '+') fullName

def ownerName (r : Resolver) (declaringType : String) : String :=
  (r.ownerNames.get? declaringType).getD (simpleName declaringType)

/-- A mismatch of a nested enum has been recorded with its owner, if the run resolves the owner
and the host lists the enum there. -/
def recordedByOwner (r : Resolver) (declaringType enumName : String) : Bool :=
  r.ownerNames.contains declaringType && enumName ∈ r.host.enumNames (r.ownerName declaringType)

/-- The constants of an enum type are its values, if it is declared inside a type. -/
def resolveEnum (r : Resolver) (t : TypeInfo) (logicalName : String) :
    NameMap Constant × List Unresolved :=
  match t.declaringType with
  | none => (.empty, [.globalEnum logicalName t.fullName])
  | some outer =>
    let enumName := r.settings.withoutEnumSuffix t.name
    match enumConstants? (r.host.enumConstants (r.ownerName outer) enumName) t with
    | some cs => (cs, [])
    | none =>
      (.empty, if r.recordedByOwner outer enumName then []
        else [.constantsMismatch logicalName t.fullName])

def bareEntry (t : TypeInfo) (logicalName : String) : TypeEntry where
  logicalName := logicalName
  binaryName := t.name
  namespaceName := t.namespaceName
  declaringType := t.declaringType
  baseType := t.baseType
  isEnum := t.isEnum
  isStatic := t.isStatic
  isBuiltinValueType := t.isValueType && !t.isEnum

def resolveM (r : Resolver) (t : TypeInfo) (logicalName : String) :
    Tracked (TypeEntry × List Unresolved) :=
  .within (.type t.fullName) <|
    if t.isEnum then
      let (constants, unresolved) := r.resolveEnum t logicalName
      pure ({ bareEntry t logicalName with constants }, unresolved)
    else do
      let methodNames ← scan t methodTable
      let propertyNames ← scan t propertyTable
      let signalNames ← scan t signalTable
      let outcomes := enumOutcomes r.host r.settings t logicalName
      let constants := constants? r.host t logicalName
      return ({ bareEntry t logicalName with
          methods := methods t methodNames
          properties := properties t propertyNames
          signals := signals t signalNames
          constants := constants.getD .empty
          enums := enums outcomes },
        outcomes.filterMap (·.unresolved?) ++
          if constants.isSome then [] else [.constantsMismatch logicalName t.fullName])

def resolve (r : Resolver) (t : TypeInfo) (logicalName : String) : TypeEntry × List Unresolved :=
  (r.resolveM t logicalName).value

theorem resolve_eq (r : Resolver) (t : TypeInfo) (logicalName : String) :
    r.resolve t logicalName =
      if t.isEnum then
        let (constants, unresolved) := r.resolveEnum t logicalName
        ({ bareEntry t logicalName with constants }, unresolved)
      else
        let outcomes := enumOutcomes r.host r.settings t logicalName
        let constants := constants? r.host t logicalName
        ({ bareEntry t logicalName with
            methods := methods t (bindings t methodTable)
            properties := properties t (bindings t propertyTable)
            signals := signals t (bindings t signalTable)
            constants := constants.getD .empty
            enums := enums outcomes },
          outcomes.filterMap (·.unresolved?) ++
            if constants.isSome then [] else [.constantsMismatch logicalName t.fullName]) := by
  unfold resolve resolveM
  rw [Tracked.value_within]
  split <;> rfl

end Resolver

/-- Make the members of a type visible without a receiver. Overloads and enums are added behind
those present; properties and constants replace those of the same name. -/
def GlobalScope.publish (g : GlobalScope) (t : TypeEntry) : GlobalScope :=
  let g := t.methods.entries.foldl (fun g e => g.addOverloads e.1 e.2) g
  { g with
    properties := g.properties.union t.properties
    constants := g.constants.union t.constants
    enums := t.enums.entries.foldl
      (fun m e => m.alter e.1 fun old => old.getD [] ++ [e.2]) g.enums }

/-- Resolve a type and store it, with its members made global if it provides them. The flag says
whether the type could be stored. -/
def Resolver.resolveIntoM (r : Resolver) (t : TypeInfo) (logicalName : String)
    (registry : Registry) : Tracked (Registry × Bool × List Unresolved) := do
  let (entry, unresolved) ← r.resolveM t logicalName
  let registry :=
    if r.settings.providesGlobals t.name then
      { registry with global := registry.global.publish entry }
    else registry
  return match registry.storeType? entry with
    | some stored => (stored, true, unresolved)
    | none => (registry, false, unresolved)

def Resolver.resolveInto (r : Resolver) (t : TypeInfo) (logicalName : String)
    (registry : Registry) : Registry × Bool × List Unresolved :=
  (r.resolveIntoM t logicalName registry).value

theorem Resolver.resolveInto_eq (r : Resolver) (t : TypeInfo) (logicalName : String)
    (registry : Registry) :
    r.resolveInto t logicalName registry =
      let (entry, unresolved) := r.resolve t logicalName
      let registry :=
        if r.settings.providesGlobals t.name then
          { registry with global := registry.global.publish entry }
        else registry
      match registry.storeType? entry with
      | some stored => (stored, true, unresolved)
      | none => (registry, false, unresolved) := rfl

end Concordance
