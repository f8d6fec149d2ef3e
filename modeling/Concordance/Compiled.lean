import Concordance.TypeRef
import Concordance.Binding
/-!
Compiled modules as they are described to the program: types with their declared members, literal
fields, enum values and nested types. A nested type may be a table of member names, which its static
initializer fills.
-/
namespace Concordance.Compiled

open Json

structure Parameter where
  name : String
  position : UInt64
  type : TypeRef
  hasDefault : Bool := false
  defaultValue : Option String := none
  isRef : Bool := false
  isOut : Bool := false
  isIn : Bool := false
  isParams : Bool := false
  isNullable : Bool := false

namespace Parameter

def layout :=
  (Layout.required "Name" .string).and <|
  (Layout.required "Position" .uint64).and <|
  (Layout.required "ParameterType" TypeRef.codec).and <|
  (Layout.flag "HasDefault").and <|
  (Layout.optional "DefaultValue" (.option .string) none).and <|
  (Layout.flag "IsRef").and <|
  (Layout.flag "IsOut").and <|
  (Layout.flag "IsIn").and <|
  (Layout.flag "IsParams").and <|
  Layout.flag "IsNullable"

def codec : Codec Parameter :=
  layout.codec
    (fun (name, position, type, hasDefault, defaultValue, isRef, isOut, isIn, isParams,
        isNullable) =>
      { name, position, type, hasDefault, defaultValue, isRef, isOut, isIn, isParams, isNullable })
    (fun p => (p.name, p.position, p.type, p.hasDefault, p.defaultValue, p.isRef, p.isOut, p.isIn,
      p.isParams, p.isNullable))

end Parameter

structure Method where
  name : String
  returnType : TypeRef
  returnsNullable : Bool := false
  parameters : List Parameter := []
  isStatic : Bool := false
  isVirtual : Bool := false
  isAbstract : Bool := false
  isGeneric : Bool := false

namespace Method

def layout :=
  (Layout.required "Name" .string).and <|
  (Layout.required "ReturnType" TypeRef.codec).and <|
  (Layout.flag "ReturnsNullable").and <|
  (Layout.optional "Parameters" (.list Parameter.codec) []).and <|
  (Layout.flag "IsStatic").and <|
  (Layout.flag "IsVirtual").and <|
  (Layout.flag "IsAbstract").and <|
  Layout.flag "IsGeneric"

def codec : Codec Method :=
  layout.codec
    (fun (name, returnType, returnsNullable, parameters, isStatic, isVirtual, isAbstract,
        isGeneric) =>
      { name, returnType, returnsNullable, parameters, isStatic, isVirtual, isAbstract, isGeneric })
    (fun m => (m.name, m.returnType, m.returnsNullable, m.parameters, m.isStatic, m.isVirtual,
      m.isAbstract, m.isGeneric))

end Method

structure Property where
  name : String
  type : TypeRef
  canRead : Bool := false
  canWrite : Bool := false
  isStatic : Bool := false

namespace Property

def layout :=
  (Layout.required "Name" .string).and <|
  (Layout.required "PropertyType" TypeRef.codec).and <|
  (Layout.flag "CanRead").and <|
  (Layout.flag "CanWrite").and <|
  Layout.flag "IsStatic"

def codec : Codec Property :=
  layout.codec
    (fun (name, type, canRead, canWrite, isStatic) => { name, type, canRead, canWrite, isStatic })
    (fun p => (p.name, p.type, p.canRead, p.canWrite, p.isStatic))

end Property

/-- How the handler of an event is called. -/
structure Signature where
  returnType : TypeRef
  parameterTypes : List TypeRef := []

namespace Signature

def layout :=
  (Layout.required "ReturnType" TypeRef.codec).and <|
  Layout.optional "ParameterTypes" (.list TypeRef.codec) []

def codec : Codec Signature :=
  layout.codec
    (fun (returnType, parameterTypes) => { returnType, parameterTypes })
    (fun s => (s.returnType, s.parameterTypes))

end Signature

structure Event where
  name : String
  handlerType : TypeRef
  invoke : Option Signature := none

namespace Event

def layout :=
  (Layout.required "Name" .string).and <|
  (Layout.required "HandlerType" TypeRef.codec).and <|
  Layout.optional "Invoke" (.option Signature.codec) none

def codec : Codec Event :=
  layout.codec
    (fun (name, handlerType, invoke) => { name, handlerType, invoke })
    (fun e => (e.name, e.handlerType, e.invoke))

end Event

/-- A public field with a constant value. -/
structure Literal where
  name : String
  type : TypeRef
  value : String

namespace Literal

def layout :=
  (Layout.required "Name" .string).and <|
  (Layout.required "FieldType" TypeRef.codec).and <|
  Layout.required "Value" .string

def codec : Codec Literal :=
  layout.codec
    (fun (name, type, value) => { name, type, value })
    (fun l => (l.name, l.type, l.value))

end Literal

structure EnumValue where
  name : String
  value : Int64
deriving DecidableEq

namespace EnumValue

def layout :=
  (Layout.required "Name" .string).and <|
  Layout.required "Value" .int64

def codec : Codec EnumValue :=
  layout.codec (fun (name, value) => { name, value }) (fun v => (v.name, v.value))

end EnumValue

structure TypeInfo where
  name : String
  namespaceName : String := ""
  baseType : Option String := none
  /-- Full name of the enclosing type, for a nested type. -/
  declaringType : Option String := none
  annotation : Option String := none
  isEnum : Bool := false
  isFlags : Bool := false
  isStatic : Bool := false
  isValueType : Bool := false
  methods : List Method := []
  properties : List Property := []
  events : List Event := []
  literals : List Literal := []
  enumValues : List EnumValue := []
  nestedTypes : List TypeInfo := []
  initializer : Option Cil.Initializer := none

namespace TypeInfo

/-- Nested types are spelled `Outer+Inner`, others with their namespace in front. -/
def fullName (t : TypeInfo) : String :=
  match t.declaringType with
  | some outer => outer ++ "+" ++ t.name
  | none => if t.namespaceName = "" then t.name else t.namespaceName ++ "." ++ t.name

def logicalName (t : TypeInfo) : String := t.annotation.getD t.name

def nestedType? (t : TypeInfo) (name : String) : Option TypeInfo :=
  t.nestedTypes.find? (·.name = name)

def overloadsOf (t : TypeInfo) (name : String) : List Method := t.methods.filter (·.name = name)

def property? (t : TypeInfo) (name : String) : Option Property :=
  t.properties.find? (·.name = name)

def event? (t : TypeInfo) (name : String) : Option Event := t.events.find? (·.name = name)

section Format

mutual

def encode : TypeInfo → Json
  | ⟨name, namespaceName, baseType, declaringType, annotation, isEnum, isFlags, isStatic,
      isValueType, methods, properties, events, literals, enumValues, nestedTypes, initializer⟩ =>
    .object [
      ("Name", .string name),
      ("Namespace", .string namespaceName),
      ("BaseType", (Codec.option .string).encode baseType),
      ("DeclaringType", (Codec.option .string).encode declaringType),
      ("LogicalName", (Codec.option .string).encode annotation),
      ("IsEnum", .bool isEnum),
      ("IsFlags", .bool isFlags),
      ("IsStatic", .bool isStatic),
      ("IsValueType", .bool isValueType),
      ("Methods", (Codec.list Method.codec).encode methods),
      ("Properties", (Codec.list Property.codec).encode properties),
      ("Events", (Codec.list Event.codec).encode events),
      ("LiteralFields", (Codec.list Literal.codec).encode literals),
      ("EnumValues", (Codec.list EnumValue.codec).encode enumValues),
      ("NestedTypes", .array (encodeList nestedTypes)),
      ("StaticInitializer", (Codec.option Cil.Initializer.codec).encode initializer)]

def encodeList : List TypeInfo → List Json
  | [] => []
  | t :: ts => t.encode :: encodeList ts

end

def layout (self : Decoder TypeInfo) :=
  (Layout.required "Name" .string).and <|
  (Layout.optional "Namespace" .string "").and <|
  (Layout.optional "BaseType" (.option .string) none).and <|
  (Layout.optional "DeclaringType" (.option .string) none).and <|
  (Layout.optional "LogicalName" (.option .string) none).and <|
  (Layout.flag "IsEnum").and <|
  (Layout.flag "IsFlags").and <|
  (Layout.flag "IsStatic").and <|
  (Layout.flag "IsValueType").and <|
  (Layout.optional "Methods" (.list Method.codec) []).and <|
  (Layout.optional "Properties" (.list Property.codec) []).and <|
  (Layout.optional "Events" (.list Event.codec) []).and <|
  (Layout.optional "LiteralFields" (.list Literal.codec) []).and <|
  (Layout.optional "EnumValues" (.list EnumValue.codec) []).and <|
  (Layout.optional "NestedTypes" ⟨Decoder.list self, fun ts => .array (encodeList ts)⟩ []).and <|
  Layout.optional "StaticInitializer" (.option Cil.Initializer.codec) none

def decode : Decoder TypeInfo :=
  Decoder.fix fun self => (layout self).decode.map
    fun (name, namespaceName, baseType, declaringType, annotation, isEnum, isFlags, isStatic,
        isValueType, methods, properties, events, literals, enumValues, nestedTypes,
        initializer) =>
      ⟨name, namespaceName, baseType, declaringType, annotation, isEnum, isFlags, isStatic,
        isValueType, methods, properties, events, literals, enumValues, nestedTypes, initializer⟩

def codec : Codec TypeInfo := ⟨decode, encode⟩

end Format

end TypeInfo

structure Module where
  assemblyName : String := ""
  /-- Version of the host the module was built for. -/
  hostVersion : Option String := none
  types : List TypeInfo := []

namespace Module

def layout :=
  (Layout.optional "AssemblyName" .string "").and <|
  (Layout.optional "HostVersion" (.option .string) none).and <|
  Layout.optional "Types" (.list TypeInfo.codec) []

def codec : Codec Module :=
  layout.codec
    (fun (assemblyName, hostVersion, types) => { assemblyName, hostVersion, types })
    (fun m => (m.assemblyName, m.hostVersion, m.types))

end Module
end Concordance.Compiled
