import Concordance.Instant
import Concordance.TypeEntry
/-!
The registry: where it came from, what is visible without a receiver, and the types under their
logical and binary names. The index of enum constants is stored with the enums and recomputed from
them whenever they change.
-/
namespace Concordance

open Json

inductive Origin where
  /-- The document that is part of the program. -/
  | baseline
  | file
  | live
deriving DecidableEq

namespace Origin

def name : Origin → String
  | .baseline => "Baseline"
  | .file => "File"
  | .live => "Live"

def codec : Codec Origin where
  decode := Decoder.variant
    ([baseline, file, live].map fun o => (o.name, .plain o))
  encode o := .string o.name

end Origin

/-- The version of the document's form that is written, and the only one that is read. -/
def formatVersion : UInt32 := 1

structure Metadata where
  hostVersion : String := ""
  dataFormat : UInt32 := formatVersion
  extractedAt : Instant := Instant.epoch
  origin : Origin := .live
  sourcePath : Option String := none

namespace Metadata

def instant : Codec Instant where
  decode depth node := do
    let s ← Decoder.string depth node
    match Instant.parse? s with
    | some t => return t
    | none => throw .unsuitable
  encode t := .string t.toText

def layout :=
  (Layout.required "godotVersion" .string).and <|
  (Layout.required "dataFormatVersion" .uint32).and <|
  (Layout.required "extractedAt" instant).and <|
  (Layout.required "source" Origin.codec).and <|
  Layout.omittable "sourcePath" (.option .string)

def codec : Codec Metadata :=
  layout.codec
    (fun (hostVersion, dataFormat, extractedAt, origin, sourcePath) =>
      { hostVersion, dataFormat, extractedAt, origin, sourcePath })
    (fun m => (m.hostVersion, m.dataFormat, m.extractedAt, m.origin, m.sourcePath))

end Metadata

/-- Members that are visible without a receiver. -/
structure GlobalScope where
  methods : NameMap (List Method) := .empty
  properties : NameMap Property := .empty
  constants : NameMap Constant := .empty
  enums : NameMap (List EnumType) := .empty
  /-- For the name of each enum member the names of the enums that have it. -/
  enumsOfConstant : NameMap (List String) := .empty
  types : NameMap TypeProxy := .empty

namespace GlobalScope

def addOwner (owner : String) (index : NameMap (List String)) (constant : String) :
    NameMap (List String) :=
  index.alter constant fun owners =>
    let owners := owners.getD []
    if owner ∈ owners then owners else owners ++ [owner]

def indexEnum (owner : String) (index : NameMap (List String)) (e : EnumType) :
    NameMap (List String) :=
  (e.members.map (·.logicalName)).foldl (addOwner owner) index

/-- The index that belongs to a table of enums, which are visited in ascending order of name. -/
def indexOf (enums : NameMap (List EnumType)) : NameMap (List String) :=
  enums.entries.foldl (fun index e => e.2.foldl (indexEnum e.1) index) .empty

def reindex (g : GlobalScope) : GlobalScope :=
  { g with enumsOfConstant := indexOf g.enums }

def addOverloads (g : GlobalScope) (name : String) (ms : List Method) : GlobalScope :=
  if ms.isEmpty then g
  else { g with methods := g.methods.alter name fun old => old.getD [] ++ ms }

def methodCount (g : GlobalScope) : Nat := g.methods.values.flatten.length

def layout :=
  (Layout.optional "MethodDatas" (.nameMap (.list Method.codec)) .empty).and <|
  (Layout.optional "PropertyDatas" (.nameMap Property.codec) .empty).and <|
  (Layout.optional "Constants" (.nameMap Constant.codec) .empty).and <|
  (Layout.optional "Enums" (.nameMap (.list EnumType.codec)) .empty).and <|
  (Layout.optional "EnumsConstants" (.nameMap (.list .string)) .empty).and <|
  Layout.optional "GlobalTypes" (.nameMap TypeProxy.codec) .empty

def codec : Codec GlobalScope :=
  layout.codec
    (fun (methods, properties, constants, enums, enumsOfConstant, types) =>
      { methods, properties, constants, enums, enumsOfConstant, types })
    (fun g => (g.methods, g.properties, g.constants, g.enums, g.enumsOfConstant, g.types))

end GlobalScope

structure Registry where
  metadata : Metadata := {}
  global : GlobalScope := {}
  /-- By logical name, then by binary full name. -/
  types : NameMap Variants := .empty

namespace Registry

/-- Store a type under its names. A type with an empty name is not stored. -/
def storeType? (r : Registry) (t : TypeEntry) : Option Registry :=
  if t.logicalName = "" ∨ t.binaryFullName = "" then none
  else
    let store (vs : Option Variants) : Variants := (vs.getD .empty).insert t.binaryFullName t
    some { r with types := r.types.alter t.logicalName store }

def storeType (r : Registry) (t : TypeEntry) : Registry := (r.storeType? t).getD r

/-- Whether a logical name counts: neither itself nor its variants may be empty. -/
def isVisible (name : String) (vs : Variants) : Bool := name ≠ "" && !vs.isEmpty

def visibleTypes (r : Registry) : NameMap Variants := r.types.filter isVisible

def variants? (r : Registry) (name : String) : Option Variants :=
  (r.types.get? name).filter (isVisible name)

def typeEntries (r : Registry) : List TypeEntry := r.visibleTypes.values.flatMap (·.values)

def typeCount (r : Registry) : Nat := r.visibleTypes.size

/-- Drop the types without a name, then the logical names that are left without a type. -/
def prune (r : Registry) : Registry :=
  let named (_ : String) (vs : Variants) : Variants := vs.filter fun full _ => full ≠ ""
  { r with types := (r.types.map named).filter isVisible }

def typesCodec : Codec (NameMap Variants) where
  decode := (Codec.nameMap (.nameMap TypeEntry.codec)).decode
  encode types := (Codec.nameMap (.nameMap TypeEntry.codec)).encode (types.filter isVisible)

def layout :=
  (Layout.required "Metadata" Metadata.codec).and <|
  (Layout.optional "GlobalData" GlobalScope.codec {}).and <|
  Layout.optional "TypeDatas" typesCodec .empty

def codec : Codec Registry :=
  layout.codec
    (fun (metadata, global, types) => { metadata, global, types })
    (fun r => (r.metadata, r.global, r.types))

end Registry
end Concordance
