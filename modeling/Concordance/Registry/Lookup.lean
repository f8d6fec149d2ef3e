import Concordance.MemberName
import Concordance.Registry.Basic
/-!
Questions to a registry about types, methods and constants.
-/
namespace Concordance.Registry

def typesNamed (r : Registry) (name : String) : List TypeEntry :=
  ((r.variants? name).map (·.values)).getD []

def knowsType (r : Registry) (name : String) : Bool :=
  (r.variants? name).isSome || r.global.types.contains name

/-- The logical name of a method; a name that starts with a capital is taken for the binary one. -/
def methodName (name : String) : String :=
  match name.toList with
  | c :: _ => if c.isUpper then MemberName.toSnake name else name
  | [] => name

def hasOverload (table : NameMap (List Method)) (name : String) : Bool :=
  ((table.get? name).getD []).length ≠ 0

def knowsMethod (r : Registry) (type : Option String) (method : String) : Bool :=
  match type with
  | none => hasOverload r.global.methods (methodName method)
  | some type => (r.typesNamed type).any fun t => hasOverload t.methods (methodName method)

def globalMethods (r : Registry) (name : String) : List Method :=
  (r.global.methods.get? name).getD []

/-- The global enums with a member of that name, as the index knows them. -/
def enumsHolding (r : Registry) (constant : String) : List EnumType :=
  let owners := (r.global.enumsOfConstant.get? constant).getD []
  (owners.flatMap fun name => (r.global.enums.get? name).getD []).filter fun e =>
    (e.member? constant).isSome

end Concordance.Registry
