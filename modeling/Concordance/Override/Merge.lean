import Concordance.Registry.Basic
/-!
Sets of global symbols written by hand, and their merge into a registry. Lists only grow: an entry
that the list has already is passed over, so a second merge of a set changes nothing. Maps are
replaced key by key.
-/
namespace Concordance

open Json

structure Overrides where
  enums : NameMap (List EnumType) := .empty
  methods : NameMap (List Method) := .empty
  constants : NameMap Constant := .empty
  types : NameMap TypeProxy := .empty
  properties : NameMap Property := .empty
  /-- Functions of the language, merged last so that they can widen overloads. -/
  builtins : NameMap (List Method) := .empty

namespace Overrides

def isEmpty (o : Overrides) : Bool :=
  o.enums.isEmpty && o.methods.isEmpty && o.constants.isEmpty && o.types.isEmpty &&
    o.properties.isEmpty && o.builtins.isEmpty

def layout :=
  (Layout.optional "Enums" (.nameMap (.list EnumType.codec)) .empty).and <|
  (Layout.optional "Methods" (.nameMap (.list Method.codec)) .empty).and <|
  (Layout.optional "Constants" (.nameMap Constant.codec) .empty).and <|
  (Layout.optional "GlobalTypes" (.nameMap TypeProxy.codec) .empty).and <|
  (Layout.optional "Properties" (.nameMap Property.codec) .empty).and <|
  Layout.optional "Builtins" (.nameMap (.list Method.codec)) .empty

def codec : Codec Overrides :=
  layout.codec
    (fun (enums, methods, constants, types, properties, builtins) =>
      { enums, methods, constants, types, properties, builtins })
    (fun o => (o.enums, o.methods, o.constants, o.types, o.properties, o.builtins))

end Overrides

structure Tally where
  added : Nat := 0
  skipped : Nat := 0
deriving DecidableEq, Repr

namespace Override

def sameEnum (a b : EnumType) : Bool := a.binaryFullName = b.binaryFullName

/-- Add each entry of `incoming` that is not the same as one before it. -/
def appendNew (same : α → α → Bool) (old incoming : List α) : List α :=
  incoming.foldl (fun acc x => if acc.any (same · x) then acc else acc ++ [x]) old

/-- Merge the entries of one name into a table; a list that stays empty is not kept. -/
def mergeName (same : α → α → Bool) (table : NameMap (List α)) (name : String)
    (incoming : List α) : NameMap (List α) × Tally :=
  let old := (table.get? name).getD []
  let new := appendNew same old incoming
  let added := new.length - old.length
  (if new.isEmpty then table.erase name else table.insert name new,
    ⟨added, incoming.length - added⟩)

def mergeTable (same : α → α → Bool) (table incoming : NameMap (List α)) :
    NameMap (List α) × Tally :=
  incoming.entries.foldl (fun (table, tally) e =>
    let (table, one) := mergeName same table e.1 e.2
    (table, ⟨tally.added + one.added, tally.skipped + one.skipped⟩)) (table, {})

end Override

structure MergeCounts where
  enumsAdded : Nat
  methodsAdded : Nat
  constantsSet : Nat
  typesSet : Nat
  propertiesSet : Nat
  builtinsAdded : Nat
  duplicatesSkipped : Nat
deriving DecidableEq, Repr

def MergeCounts.changes (s : MergeCounts) : Nat :=
  s.enumsAdded + s.methodsAdded + s.constantsSet + s.typesSet + s.propertiesSet + s.builtinsAdded

/-- Merge a set into the global scope: enums, methods, constants, types, properties, and the
functions of the language at last. The index of enum constants is recomputed. -/
def GlobalScope.merge (g : GlobalScope) (o : Overrides) : GlobalScope × MergeCounts :=
  let (enums, e) := Override.mergeTable Override.sameEnum g.enums o.enums
  let (methods, m) := Override.mergeTable Method.hasShapeOf g.methods o.methods
  let (methods, b) := Override.mergeTable Method.hasShapeOf methods o.builtins
  ({ g with
      enums
      methods
      constants := g.constants.union o.constants
      types := g.types.union o.types
      properties := g.properties.union o.properties }.reindex,
    { enumsAdded := e.added
      methodsAdded := m.added
      constantsSet := o.constants.size
      typesSet := o.types.size
      propertiesSet := o.properties.size
      builtinsAdded := b.added
      duplicatesSkipped := e.skipped + m.skipped + b.skipped })

def Registry.merge (r : Registry) (o : Overrides) : Registry × MergeCounts :=
  let (global, summary) := r.global.merge o
  ({ r with global }, summary)

end Concordance
