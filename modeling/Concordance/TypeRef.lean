import Concordance.Text.Segment
import Concordance.Json.Codec
/-!
References to compiled types as they stand in signatures, and the names by which scripts know
these types.
-/
namespace Concordance

structure TypeRef where
  name : String
  fullName : String
  genericArguments : List TypeRef := []

namespace TypeRef

open Text

/-- The simple name is the last part of the namespace path. -/
def ofFullName (fullName : String) : TypeRef :=
  { name := lastSegment (· = '.') fullName, fullName }

def void : TypeRef := ⟨"Void", "System.Void", []⟩

def isVoid (t : TypeRef) : Bool := t.fullName == "System.Void"

def dropBrackets (fullName : String) : String := String.ofList (go fullName.toList.reverse).reverse
where
  go : List Char → List Char
    | ']' :: '[' :: r => go r
    | r => r

def packedArrays : List (String × String) := [
  ("System.Byte", "PackedByteArray"),
  ("System.Int32", "PackedInt32Array"),
  ("System.Int64", "PackedInt64Array"),
  ("System.Single", "PackedFloat32Array"),
  ("System.Double", "PackedFloat64Array"),
  ("System.String", "PackedStringArray"),
  ("Godot.Vector2", "PackedVector2Array"),
  ("Godot.Vector3", "PackedVector3Array"),
  ("Godot.Color", "PackedColorArray")]

/-- Types whose logical name is not their simple name. -/
def logicalNames : List (String × String) := [
  ("System.Void", "void"),
  ("System.Boolean", "bool"),
  ("System.SByte", "int"),
  ("System.Byte", "int"),
  ("System.Int16", "int"),
  ("System.UInt16", "int"),
  ("System.Int32", "int"),
  ("System.UInt32", "int"),
  ("System.Int64", "int"),
  ("System.UInt64", "int"),
  ("System.Single", "float"),
  ("System.Double", "float"),
  ("System.String", "String"),
  ("System.Object", "Variant"),
  ("Godot.Variant", "Variant"),
  ("Godot.GodotObject", "Object"),
  ("Godot.Collections.Array", "Array"),
  ("Godot.Collections.Dictionary", "Dictionary")]

def logicalName (t : TypeRef) : String :=
  match logicalNames.lookup t.fullName with
  | some name => name
  | none =>
    if startsWith "Godot.Collections.Array`" t.fullName then "Array"
    else if startsWith "Godot.Collections.Dictionary`" t.fullName then "Dictionary"
    else if endsWith "[]" t.fullName then
      (packedArrays.lookup (dropBrackets t.fullName)).getD "Array"
    else t.name

section Format

open Json

mutual

def encode : TypeRef → Json
  | ⟨name, fullName, args⟩ => .object (
    [("Name", .string name), ("FullName", .string fullName)] ++
      match args with
      | [] => []
      | a :: as => [("GenericArguments", .array (a.encode :: encodeList as))])

def encodeList : List TypeRef → List Json
  | [] => []
  | a :: as => a.encode :: encodeList as

end

def layout (self : Decoder TypeRef) :=
  (Layout.required "Name" .string).and <|
  (Layout.required "FullName" .string).and <|
  Layout.single "GenericArguments" ⟨Decoder.list self, fun as => .array (encodeList as)⟩ (some [])
    List.isEmpty

def decodeStep (self : Decoder TypeRef) : Decoder TypeRef :=
  (layout self).decode.map fun (name, fullName, args) => ⟨name, fullName, args⟩

def decode : Decoder TypeRef := Decoder.fix decodeStep

def codec : Codec TypeRef := ⟨decode, encode⟩

end Format

end TypeRef
end Concordance
