import Concordance.Member.Basic
/-!
The entry of one compiled type: its names, what kind of type it is, and its members by logical name.
-/
namespace Concordance

open Json

structure TypeEntry where
  logicalName : String
  binaryName : String
  namespaceName : String := ""
  /-- Binary full name of the enclosing type, for a nested type. -/
  declaringType : Option String := none
  baseType : Option String := none
  isEnum : Bool := false
  isStatic : Bool := false
  isBuiltinValueType : Bool := false
  methods : NameMap (List Method) := .empty
  properties : NameMap Property := .empty
  signals : NameMap Signal := .empty
  constants : NameMap Constant := .empty
  enums : NameMap EnumType := .empty

namespace TypeEntry

/-- Nested types are spelled `Outer+Inner`, others with their namespace in front. -/
def binaryFullName (t : TypeEntry) : String :=
  match t.declaringType with
  | some outer => outer ++ "+" ++ t.binaryName
  | none => if t.namespaceName = "" then t.binaryName else t.namespaceName ++ "." ++ t.binaryName

def methodCount (t : TypeEntry) : Nat := t.methods.values.flatten.length

def memberCount (t : TypeEntry) : Nat :=
  t.methodCount + t.properties.size + t.signals.size + t.constants.size + t.enums.size

def layout :=
  (Layout.required "LogicalName" .string).and <|
  (Layout.required "BinaryName" .string).and <|
  (Layout.optional "Namespace" .string "").and <|
  (Layout.omittable "DeclaringType" (.option .string)).and <|
  (Layout.omittable "BaseType" (.option .string)).and <|
  (Layout.flag "IsEnum").and <|
  (Layout.flag "IsStatic").and <|
  (Layout.flag "IsBuiltinValueType").and <|
  (Layout.optional "Methods" (.nameMap (.list Method.codec)) .empty).and <|
  (Layout.optional "Properties" (.nameMap Property.codec) .empty).and <|
  (Layout.optional "Signals" (.nameMap Signal.codec) .empty).and <|
  (Layout.optional "Constants" (.nameMap Constant.codec) .empty).and <|
  Layout.optional "Enums" (.nameMap EnumType.codec) .empty

def codec : Codec TypeEntry :=
  layout.codec
    (fun (logicalName, binaryName, namespaceName, declaringType, baseType, isEnum, isStatic,
        isBuiltinValueType, methods, properties, signals, constants, enums) =>
      { logicalName, binaryName, namespaceName, declaringType, baseType, isEnum, isStatic,
        isBuiltinValueType, methods, properties, signals, constants, enums })
    (fun t => (t.logicalName, t.binaryName, t.namespaceName, t.declaringType, t.baseType, t.isEnum,
      t.isStatic, t.isBuiltinValueType, t.methods, t.properties, t.signals, t.constants, t.enums))

end TypeEntry

/-- The binary types of one logical name, by binary full name. -/
abbrev Variants := NameMap TypeEntry

end Concordance
