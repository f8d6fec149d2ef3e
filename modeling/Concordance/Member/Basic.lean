import Concordance.TypeRef
/-!
Members of a type: methods with their parameters, properties, signals, constants, enums, and the
proxies that stand for a type without a receiver. Each pairs the logical name with the binary one.
-/
namespace Concordance

open Json

structure Parameter where
  position : UInt64
  name : String
  logicalType : String
  binaryType : TypeRef
  hasDefault : Bool := false
  defaultValue : Option String := none
  isRef : Bool := false
  isOut : Bool := false
  isIn : Bool := false
  isParams : Bool := false
  isNullable : Bool := false

/-- What a call has to agree with in one parameter. -/
structure Parameter.Shape where
  binaryType : String
  isRef : Bool
  isOut : Bool
  isIn : Bool
  isParams : Bool
deriving DecidableEq

namespace Parameter

def shape (p : Parameter) : Shape := ⟨p.binaryType.fullName, p.isRef, p.isOut, p.isIn, p.isParams⟩

def isRequired (p : Parameter) : Bool := !p.hasDefault && !p.isParams

def layout :=
  (Layout.required "Position" .uint64).and <|
  (Layout.required "Name" .string).and <|
  (Layout.required "LogicalType" .string).and <|
  (Layout.required "BinaryType" TypeRef.codec).and <|
  (Layout.flag "HasDefault").and <|
  (Layout.omittable "DefaultValue" (.option .string)).and <|
  (Layout.flag "IsRef").and <|
  (Layout.flag "IsOut").and <|
  (Layout.flag "IsIn").and <|
  (Layout.flag "IsParams").and <|
  Layout.flag "IsNullable"

def codec : Codec Parameter :=
  layout.codec
    (fun (position, name, logicalType, binaryType, hasDefault, defaultValue, isRef, isOut, isIn,
        isParams, isNullable) =>
      { position, name, logicalType, binaryType, hasDefault, defaultValue, isRef, isOut, isIn,
        isParams, isNullable })
    (fun p => (p.position, p.name, p.logicalType, p.binaryType, p.hasDefault, p.defaultValue,
      p.isRef, p.isOut, p.isIn, p.isParams, p.isNullable))

end Parameter

structure Method where
  logicalName : String
  binaryName : String
  returnType : TypeRef
  logicalReturnType : String
  parameters : List Parameter := []
  isStatic : Bool := false
  isVirtual : Bool := false
  isAbstract : Bool := false
  isGeneric : Bool := false
  returnsVoid : Bool := false
  returnsNullable : Bool := false
  /-- Binary full name of the declaring type. -/
  declaringType : String

namespace Method

/-- Two overloads of one shape are the same binary method. -/
structure Shape where
  declaringType : String
  parameters : List Parameter.Shape
deriving DecidableEq

def shape (m : Method) : Shape := ⟨m.declaringType, m.parameters.map (·.shape)⟩

def hasShapeOf (m n : Method) : Bool := m.shape = n.shape

def leastArguments (m : Method) : Nat := m.parameters.countP (·.isRequired)

def layout :=
  (Layout.required "LogicalName" .string).and <|
  (Layout.required "BinaryName" .string).and <|
  (Layout.required "ReturnType" TypeRef.codec).and <|
  (Layout.required "LogicalReturnType" .string).and <|
  (Layout.optional "Parameters" (.list Parameter.codec) []).and <|
  (Layout.flag "IsStatic").and <|
  (Layout.flag "IsVirtual").and <|
  (Layout.flag "IsAbstract").and <|
  (Layout.flag "IsGeneric").and <|
  (Layout.flag "ReturnsVoid").and <|
  (Layout.flag "ReturnsNullable").and <|
  Layout.required "DeclaringType" .string

def codec : Codec Method :=
  layout.codec
    (fun (logicalName, binaryName, returnType, logicalReturnType, parameters, isStatic, isVirtual,
        isAbstract, isGeneric, returnsVoid, returnsNullable, declaringType) =>
      { logicalName, binaryName, returnType, logicalReturnType, parameters, isStatic, isVirtual,
        isAbstract, isGeneric, returnsVoid, returnsNullable, declaringType })
    (fun m => (m.logicalName, m.binaryName, m.returnType, m.logicalReturnType, m.parameters,
      m.isStatic, m.isVirtual, m.isAbstract, m.isGeneric, m.returnsVoid, m.returnsNullable,
      m.declaringType))

end Method

structure Property where
  logicalName : String
  binaryName : String
  logicalType : String
  binaryType : TypeRef
  canRead : Bool := false
  canWrite : Bool := false
  isStatic : Bool := false
  declaringType : String

namespace Property

def layout :=
  (Layout.required "LogicalName" .string).and <|
  (Layout.required "BinaryName" .string).and <|
  (Layout.required "LogicalType" .string).and <|
  (Layout.required "BinaryType" TypeRef.codec).and <|
  (Layout.flag "CanRead").and <|
  (Layout.flag "CanWrite").and <|
  (Layout.flag "IsStatic").and <|
  Layout.required "DeclaringType" .string

def codec : Codec Property :=
  layout.codec
    (fun (logicalName, binaryName, logicalType, binaryType, canRead, canWrite, isStatic,
        declaringType) =>
      { logicalName, binaryName, logicalType, binaryType, canRead, canWrite, isStatic,
        declaringType })
    (fun p => (p.logicalName, p.binaryName, p.logicalType, p.binaryType, p.canRead, p.canWrite,
      p.isStatic, p.declaringType))

end Property

structure Signal where
  logicalName : String
  binaryName : String
  returnType : TypeRef
  parameterTypes : List TypeRef := []
  declaringType : String

namespace Signal

def layout :=
  (Layout.required "LogicalName" .string).and <|
  (Layout.required "BinaryName" .string).and <|
  (Layout.required "ReturnType" TypeRef.codec).and <|
  (Layout.optional "ParameterTypes" (.list TypeRef.codec) []).and <|
  Layout.required "DeclaringType" .string

def codec : Codec Signal :=
  layout.codec
    (fun (logicalName, binaryName, returnType, parameterTypes, declaringType) =>
      { logicalName, binaryName, returnType, parameterTypes, declaringType })
    (fun s => (s.logicalName, s.binaryName, s.returnType, s.parameterTypes, s.declaringType))

end Signal

structure Constant where
  logicalName : String
  binaryName : String
  valueType : String
  declaringType : String
  value : String
deriving DecidableEq

namespace Constant

def layout :=
  (Layout.required "LogicalName" .string).and <|
  (Layout.required "BinaryName" .string).and <|
  (Layout.required "ValueType" .string).and <|
  (Layout.required "DeclaringType" .string).and <|
  Layout.required "Value" .string

def codec : Codec Constant :=
  layout.codec
    (fun (logicalName, binaryName, valueType, declaringType, value) =>
      { logicalName, binaryName, valueType, declaringType, value })
    (fun c => (c.logicalName, c.binaryName, c.valueType, c.declaringType, c.value))

end Constant

structure EnumMember where
  logicalName : String
  binaryName : String
  value : Int64
deriving DecidableEq

namespace EnumMember

def layout :=
  (Layout.required "LogicalName" .string).and <|
  (Layout.required "BinaryName" .string).and <|
  Layout.required "Value" .int64

def codec : Codec EnumMember :=
  layout.codec
    (fun (logicalName, binaryName, value) => { logicalName, binaryName, value })
    (fun m => (m.logicalName, m.binaryName, m.value))

end EnumMember

structure EnumType where
  logicalName : String
  /-- Logical name of the type that contains the enum; none for a global enum. -/
  containingType : Option String := none
  binaryFullName : String
  binaryName : String
  isFlags : Bool := false
  members : List EnumMember := []
deriving DecidableEq

namespace EnumType

def member? (e : EnumType) (logicalName : String) : Option EnumMember :=
  e.members.find? (·.logicalName = logicalName)

def layout :=
  (Layout.required "LogicalName" .string).and <|
  (Layout.omittable "ContainingType" (.option .string)).and <|
  (Layout.required "BinaryFullName" .string).and <|
  (Layout.required "BinaryName" .string).and <|
  (Layout.flag "IsFlags").and <|
  Layout.optional "Values" (.list EnumMember.codec) []

def codec : Codec EnumType :=
  layout.codec
    (fun (logicalName, containingType, binaryFullName, binaryName, isFlags, members) =>
      { logicalName, containingType, binaryFullName, binaryName, isFlags, members })
    (fun e => (e.logicalName, e.containingType, e.binaryFullName, e.binaryName, e.isFlags,
      e.members))

end EnumType

/-- A logical name that stands for a type. -/
structure TypeProxy where
  logicalName : String
  binaryFullName : String
deriving DecidableEq

namespace TypeProxy

def layout :=
  (Layout.required "LogicalName" .string).and <|
  Layout.required "BinaryFullName" .string

def codec : Codec TypeProxy :=
  layout.codec
    (fun (logicalName, binaryFullName) => { logicalName, binaryFullName })
    (fun p => (p.logicalName, p.binaryFullName))

end TypeProxy
end Concordance
