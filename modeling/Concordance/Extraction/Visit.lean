import Concordance.Resolution.Resolver
/-!
The order in which the types of a module are visited, and the logical names they go by. Types come
in the order of the module, each behind the enums nested in it; a type is visited once, however
often the module lists it. Nested types other than enums are read only through the type that
encloses them.
-/
namespace Concordance

open Compiled (TypeInfo Module)

structure Visit where
  type : TypeInfo
  logicalName : String

namespace Visit

/-- The types whose full names are new, and all names seen after them. -/
def unseen (seen : List String) : List TypeInfo → List TypeInfo × List String
  | [] => ([], seen)
  | t :: ts =>
    if t.fullName ∈ seen then unseen seen ts
    else
      let (fresh, seen) := unseen (t.fullName :: seen) ts
      (t :: fresh, seen)

def ofNestedEnum (settings : ExtractionSettings) (owner : String) (t : TypeInfo) : Visit :=
  ⟨t, owner ++ "." ++ t.annotation.getD (settings.withoutEnumSuffix t.name)⟩

def ofTopLevel (settings : ExtractionSettings) (seen : List String) :
    List TypeInfo → List Visit × List String
  | [] => ([], seen)
  | t :: ts =>
    if settings.isShadow t.name || t.fullName ∈ seen then ofTopLevel settings seen ts
    else
      let (nested, seen) := unseen (t.fullName :: seen) (t.nestedTypes.filter (·.isEnum))
      let (rest, seen) := ofTopLevel settings seen ts
      (nested.map (ofNestedEnum settings t.logicalName) ++ ⟨t, t.logicalName⟩ :: rest, seen)

def ofListedEnum (settings : ExtractionSettings) (t : TypeInfo) : Visit :=
  ofNestedEnum settings (Resolver.simpleName (t.declaringType.getD "")) t

/-- All visits of a module: the top-level types, then the nested enums listed by themselves. -/
def ofModule (settings : ExtractionSettings) (m : Module) : List Visit :=
  let (visits, seen) := ofTopLevel settings [] (m.types.filter (·.declaringType.isNone))
  let listed := m.types.filter fun t => t.declaringType.isSome && t.isEnum
  visits ++ (unseen seen listed).1.map (ofListedEnum settings)

def ownerNames (visits : List Visit) : NameMap String :=
  .ofList ((visits.filter (!·.type.isEnum)).map fun v => (v.type.fullName, v.logicalName))

end Visit
end Concordance
