import Concordance.Compiled
import Concordance.Tracking
import Concordance.TypeEntry
/-!
Members of a type: the bindings of its name tables joined with the members that the module declares
under the bound names. A binding that no member answers to yields nothing.
-/
namespace Concordance.Resolution

open Compiled (TypeInfo)

def methodTable : String := "MethodName"
def propertyTable : String := "PropertyName"
def signalTable : String := "SignalName"

/-- The bindings of a name table, scanned in a phase of its own; none if the table or its
initializer is missing, or if the initializer cannot be decoded. -/
def scan (t : TypeInfo) (table : String) : Tracked (List Binding) :=
  match (t.nestedType? table).bind (·.initializer) with
  | none => pure []
  | some i =>
    .within (.phase .scanning) <|
      match Binding.ofInitializer i with
      | .ok bs => pure bs
      | .error _ => pure []

def bindings (t : TypeInfo) (table : String) : List Binding := (scan t table).value

theorem bindings_eq (t : TypeInfo) (table : String) :
    bindings t table =
      match (t.nestedType? table).bind (·.initializer) with
      | none => []
      | some i =>
        match Binding.ofInitializer i with
        | .ok bs => bs
        | .error _ => [] := by
  unfold bindings scan
  split
  · rfl
  · split <;> rfl

def parameter (p : Compiled.Parameter) : Parameter where
  position := p.position
  name := p.name
  logicalType := p.type.logicalName
  binaryType := p.type
  hasDefault := p.hasDefault
  defaultValue := p.defaultValue
  isRef := p.isRef
  isOut := p.isOut
  isIn := p.isIn
  isParams := p.isParams
  isNullable := p.isNullable

def method (logicalName declaringType : String) (m : Compiled.Method) : Method where
  logicalName := logicalName
  binaryName := m.name
  returnType := m.returnType
  logicalReturnType := m.returnType.logicalName
  parameters := m.parameters.map parameter
  isStatic := m.isStatic
  isVirtual := m.isVirtual
  isAbstract := m.isAbstract
  isGeneric := m.isGeneric
  returnsVoid := m.returnType.isVoid
  returnsNullable := m.returnsNullable
  declaringType := declaringType

def property (logicalName declaringType : String) (p : Compiled.Property) : Property where
  logicalName := logicalName
  binaryName := p.name
  logicalType := p.type.logicalName
  binaryType := p.type
  canRead := p.canRead
  canWrite := p.canWrite
  isStatic := p.isStatic
  declaringType := declaringType

/-- An event whose handler is not described is taken to return nothing and take nothing. -/
def signal (logicalName declaringType : String) (e : Compiled.Event) : Signal where
  logicalName := logicalName
  binaryName := e.name
  returnType := (e.invoke.map (·.returnType)).getD .void
  parameterTypes := (e.invoke.map (·.parameterTypes)).getD []
  declaringType := declaringType

def methods (t : TypeInfo) (bs : List Binding) : NameMap (List Method) :=
  .ofList <| bs.filterMap fun b =>
    match t.overloadsOf b.fieldName with
    | [] => none
    | ms => some (b.logicalName, ms.map (method b.logicalName t.fullName))

def properties (t : TypeInfo) (bs : List Binding) : NameMap Property :=
  .ofList <| bs.filterMap fun b =>
    (t.property? b.fieldName).map fun p => (b.logicalName, property b.logicalName t.fullName p)

def signals (t : TypeInfo) (bs : List Binding) : NameMap Signal :=
  .ofList <| bs.filterMap fun b =>
    (t.event? b.fieldName).map fun e => (b.logicalName, signal b.logicalName t.fullName e)

end Concordance.Resolution
