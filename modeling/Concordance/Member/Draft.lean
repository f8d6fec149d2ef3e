import Concordance.Member.Basic
import Concordance.MemberName
import Concordance.Text.Casing
/-!
Descriptions of global symbols, spelled briefly. What follows from a name or a type is derived.
-/
namespace Concordance

namespace Method

def named (logicalName binaryName declaringType : String) : Method where
  logicalName := logicalName
  binaryName := binaryName
  returnType := .void
  logicalReturnType := TypeRef.void.logicalName
  isStatic := true
  returnsVoid := true
  declaringType := declaringType

def ofLogical (logicalName declaringType : String) : Method :=
  named logicalName (MemberName.toPascal logicalName) declaringType

def ofBinary (binaryName declaringType : String) : Method :=
  named (MemberName.toSnake binaryName) binaryName declaringType

def onInstance (m : Method) : Method := { m with isStatic := false }

def overridable (m : Method) : Method := { m with isVirtual := true }

def returning (m : Method) (fullName : String) : Method :=
  let type := TypeRef.ofFullName fullName
  { m with
    returnType := type
    logicalReturnType := type.logicalName
    returnsVoid := type.isVoid }

def nextParameter (m : Method) (name fullName : String) : Parameter :=
  let type := TypeRef.ofFullName fullName
  { position := UInt64.ofNat m.parameters.length
    name
    logicalType := type.logicalName
    binaryType := type }

def taking (m : Method) (p : Parameter) : Method := { m with parameters := m.parameters ++ [p] }

def param (m : Method) (name fullName : String) : Method := m.taking (m.nextParameter name fullName)

def optionalParam (m : Method) (name fullName defaultValue : String) : Method :=
  m.taking { m.nextParameter name fullName with
    hasDefault := true
    defaultValue := some defaultValue }

/-- A parameter that takes any number of arguments, as an array of `element`. -/
def paramsArray (m : Method) (name element : String) : Method :=
  m.taking { m.nextParameter name (element ++ "[]") with isParams := true }

end Method

/-- A global enum being described. The start that its members' logical names share is not part of
their binary names. -/
structure EnumDraft where
  enum : EnumType
  sharedStart : String := ""

namespace EnumDraft

def named (logicalName binaryFullName : String) : EnumDraft where
  enum := {
    logicalName
    binaryFullName
    binaryName := Text.lastSegment (fun c => c = '.' || c = '+') binaryFullName }

def sharing (d : EnumDraft) (start : String) : EnumDraft := { d with sharedStart := start }

def flags (d : EnumDraft) : EnumDraft := { d with enum := { d.enum with isFlags := true } }

def namedValue (d : EnumDraft) (logicalName binaryName : String) (value : Int64) : EnumDraft :=
  { d with enum := { d.enum with members := d.enum.members ++ [⟨logicalName, binaryName, value⟩] } }

def value (d : EnumDraft) (logicalName : String) (value : Int64) : EnumDraft :=
  let stripped := (Text.stripStart? d.sharedStart logicalName).getD logicalName
  d.namedValue logicalName (MemberName.toPascal (Text.lowerText stripped)) value

end EnumDraft

def Property.onInstance (logicalName binaryName fullType declaringType : String) : Property :=
  let type := TypeRef.ofFullName fullType
  { logicalName
    binaryName
    logicalType := type.logicalName
    binaryType := type
    canRead := true
    canWrite := true
    declaringType }

def Signal.taking (logicalName binaryName : String) (parameterTypes : List String)
    (declaringType : String) : Signal :=
  { logicalName
    binaryName
    returnType := .void
    parameterTypes := parameterTypes.map .ofFullName
    declaringType }

def Property.static (logicalName binaryName fullType declaringType : String) : Property :=
  let type := TypeRef.ofFullName fullType
  { logicalName
    binaryName
    logicalType := type.logicalName
    binaryType := type
    canRead := true
    isStatic := true
    declaringType }

end Concordance
