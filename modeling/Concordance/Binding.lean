import Concordance.Cil.Code
/-!
Recovery of name bindings. A compiled type keeps the logical names of its members in tables whose
initializers load each name and store it into the field that has the member's binary name.
-/
namespace Concordance

open Cil

structure Binding where
  logicalName : String
  fieldName : String
deriving DecidableEq, Repr

namespace Binding

/-- A store takes the name loaded last and leaves none; a name stored before is not bound again. -/
def recoverFrom (pending : Option String) (seen : List String) :
    List Instruction → List Binding
  | [] => []
  | .loadString s :: is => recoverFrom (some s) seen is
  | .other _ :: is => recoverFrom pending seen is
  | .storeStaticField field :: is =>
    match pending with
    | none => recoverFrom none seen is
    | some s =>
      if s ∈ seen then recoverFrom none seen is
      else ⟨s, field⟩ :: recoverFrom none (s :: seen) is

def recover (is : List Instruction) : List Binding := recoverFrom none [] is

def ofInitializer (i : Initializer) : Except CodeFault (List Binding) :=
  i.instructions?.map recover

def encode (b : Binding) : Json :=
  .object [("logical_name", .string b.logicalName), ("field_name", .string b.fieldName)]

end Binding
end Concordance
