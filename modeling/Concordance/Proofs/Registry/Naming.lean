import Concordance.Proofs.Extraction.Publishing
import Concordance.Proofs.Resolution.Naming
/-!
The names in a registry. Whatever is stored, published or merged keeps to the names that it lies
under, so the keys of a registry agree with its records. The members of an entry are copied into the
global scope with the type that declares them, while sets written by hand may name any type.
-/
namespace Concordance

open Compiled (TypeInfo Module)
open SortedMap

/-- What is visible without a receiver lies under its own logical name. -/
structure GlobalScope.Keyed (g : GlobalScope) : Prop where
  methods : g.methods.ListsBy Method.logicalName
  properties : g.properties.FiledBy Property.logicalName
  constants : g.constants.FiledBy Constant.logicalName
  enums : g.enums.ListsBy EnumType.logicalName
  types : g.types.FiledBy TypeProxy.logicalName

structure Overrides.Keyed (o : Overrides) : Prop where
  enums : o.enums.ListsBy EnumType.logicalName
  methods : o.methods.ListsBy Method.logicalName
  constants : o.constants.FiledBy Constant.logicalName
  types : o.types.FiledBy TypeProxy.logicalName
  properties : o.properties.FiledBy Property.logicalName
  builtins : o.builtins.ListsBy Method.logicalName

theorem Overrides.keyed_standard : Overrides.standard.Keyed where
  enums := listsBy_groupBy _ _
  methods := listsBy_groupBy _ _
  constants := filedBy_ofList_map _ _
  types := filedBy_ofList_map _ _
  properties := filedBy_ofList_map _ _
  builtins := listsBy_groupBy _ _

namespace GlobalScope.Keyed

variable {g : GlobalScope}

theorem empty : Keyed {} := ⟨.empty, .empty, .empty, .empty, .empty⟩

theorem addOverloads (h : g.Keyed) {name : String} {ms : List Method}
    (named : ∀ m ∈ ms, m.logicalName = name) : (g.addOverloads name ms).Keyed := by
  rw [addOverloads_eq]
  exact ⟨h.methods.appendAt named, h.properties, h.constants, h.enums, h.types⟩

theorem publish (h : g.Keyed) {t : TypeEntry} (entry : t.Keyed) : (g.publish t).Keyed where
  methods name m hm := by
    rw [listAt_publish_methods] at hm
    rcases List.mem_append.mp hm with hm | hm
    · exact h.methods name m hm
    · exact entry.methods name m hm
  properties := properties_publish g t ▸ h.properties.union entry.properties
  constants := constants_publish g t ▸ h.constants.union entry.constants
  enums name e he := by
    rw [listAt_publish_enums] at he
    rcases List.mem_append.mp he with he | he
    · exact h.enums name e he
    · exact entry.enums name e (Option.mem_toList.mp he)
  types := types_publish g t ▸ h.types

theorem reindex (h : g.Keyed) : g.reindex.Keyed :=
  ⟨h.methods, h.properties, h.constants, h.enums, h.types⟩

theorem merge (h : g.Keyed) {o : Overrides} (set : o.Keyed) : (g.merge o).1.Keyed where
  methods := (h.methods.mergeTable Method.hasShapeOf_iff set.methods).mergeTable
    Method.hasShapeOf_iff set.builtins
  properties := h.properties.union set.properties
  constants := h.constants.union set.constants
  enums := h.enums.mergeTable Override.sameEnum_iff set.enums
  types := h.types.union set.types

end GlobalScope.Keyed

namespace Registry

/-- Keys and records agree, and the members of an entry name its type as theirs. -/
structure Coherent (r : Registry) : Prop where
  global : r.global.Keyed
  keyed : ∀ l f t, r.entryAt? l f = some t → t.Keyed
  ownsMembers : ∀ l f t, r.entryAt? l f = some t → t.OwnsMembers

/-- What an operation is given keeps to its names. Nothing is asked of a type to be resolved. -/
def Operation.Coherent : Operation → Prop
  | .storeType t => t.Keyed ∧ t.OwnsMembers
  | .addOverloads name ms => ∀ m ∈ ms, m.logicalName = name
  | .resolveInto .. => True
  | .merge o => o.Keyed
  | .reindex => True
  | .prune => True

namespace Coherent

variable {r : Registry}

theorem new (metadata : Metadata) : Coherent { metadata } :=
  ⟨.empty, by simp [entryAt?], by simp [entryAt?]⟩

theorem withGlobal (h : r.Coherent) {g : GlobalScope} (global : g.Keyed) :
    Coherent { r with global := g } := ⟨global, h.keyed, h.ownsMembers⟩

theorem storeType (h : r.Coherent) {t : TypeEntry} (keyed : t.Keyed) (owns : t.OwnsMembers) :
    (r.storeType t).Coherent := by
  refine ⟨(r.global_storeType t).symm ▸ h.global, fun l f u found => ?_, fun l f u found => ?_⟩
  · rcases entryAt?_of_storeType found with rfl | found
    · exact keyed
    · exact h.keyed l f u found
  · rcases entryAt?_of_storeType found with rfl | found
    · exact owns
    · exact h.ownsMembers l f u found

theorem resolveInto (h : r.Coherent) (resolver : Resolver) (t : TypeInfo)
    (logicalName : String) : (resolver.resolveInto t logicalName r).1.Coherent := by
  have keyed := resolver.keyed_resolve t logicalName
  rw [Resolver.registry_resolveInto]
  refine storeType (h.withGlobal ?_) keyed (resolver.ownsMembers_resolve t logicalName)
  unfold Resolver.globalAfter
  split
  · exact h.global.publish keyed
  · exact h.global

theorem prune (h : r.Coherent) : r.prune.Coherent :=
  ⟨h.global, fun l f t found => h.keyed l f t (entryAt?_of_prune found),
    fun l f t found => h.ownsMembers l f t (entryAt?_of_prune found)⟩

end Coherent

theorem Coherent.apply {r : Registry} (h : r.Coherent) {op : Operation} (given : op.Coherent) :
    (op.apply r).Coherent := by
  cases op with
  | storeType t => exact h.storeType given.1 given.2
  | addOverloads name ms => exact h.withGlobal (h.global.addOverloads given)
  | resolveInto resolver t logicalName => exact h.resolveInto resolver t logicalName
  | merge o => exact h.withGlobal (h.global.merge given)
  | reindex => exact h.withGlobal h.global.reindex
  | prune => exact h.prune

theorem Coherent.run {r : Registry} (h : r.Coherent) {ops : List Operation}
    (given : ∀ op ∈ ops, op.Coherent) : (Operation.run ops r).Coherent := by
  induction ops generalizing r with
  | nil => exact h
  | cons op ops ih =>
    obtain ⟨first, rest⟩ := List.forall_mem_cons.mp given
    exact ih (h.apply first) rest

end Registry

namespace Extraction

open Registry (Operation)

variable (m : Module) (host : Host) (settings : ExtractionSettings) (now : Instant)

theorem coherent_ofModule : (ofModule m host settings now).registry.Coherent := by
  rw [registry_ofModule]
  refine (Registry.Coherent.new _).run fun op hop => ?_
  rcases List.mem_append.mp hop with hop | hop
  · obtain ⟨v, -, rfl⟩ := List.mem_map.mp hop
    trivial
  · rcases List.mem_cons.mp hop with rfl | hop
    · trivial
    · rw [List.mem_singleton.mp hop]
      trivial

/-- The keys of an extracted registry and its records agree, also after merges of sets that keep to
their names, as the standard one does. -/
theorem merged_names_agree (history : List Overrides) (keyed : ∀ o ∈ history, o.Keyed) :
    let r := (ofModule m host settings now).registry.mergeAll history
    Overrides.standard.Keyed ∧ r.global.Keyed ∧
      ∀ l f t, r.entryAt? l f = some t →
        t.logicalName = l ∧ t.binaryFullName = f ∧ t.Keyed ∧ t.OwnsMembers := by
  intro r
  have operations : ∀ op ∈ history.map Operation.merge, op.Coherent := by
    intro op hop
    obtain ⟨o, ho, rfl⟩ := List.mem_map.mp hop
    exact keyed o ho
  have coherent : r.Coherent := by
    unfold r
    rw [Registry.mergeAll_eq_run]
    exact (coherent_ofModule m host settings now).run operations
  have form : r.WellFormed := (wellFormed_ofModule m host settings now).mergeAll history
  refine ⟨Overrides.keyed_standard, coherent.global, fun l f t found => ?_⟩
  obtain ⟨-, logical, full⟩ := form.fullName l f t found
  exact ⟨logical, full, coherent.keyed l f t found, coherent.ownsMembers l f t found⟩

theorem merged_names_agree_replaced :
    let mode : TypeInfo := {
      name := "ModeEnum"
      declaringType := some "Godot.GD"
      isEnum := true
      enumValues := [⟨"On", 1⟩] }
    let gd : TypeInfo := {
      name := "GD"
      namespaceName := "Godot"
      literals := [⟨"Max", .ofFullName "System.Int64", "9"⟩]
      nestedTypes := [mode] }
    let host : Host := { classes := .ofList [("GD", {
      enums := [⟨"Mode", ["ON"]⟩]
      integerConstants := ["ON", "MAX"] })] }
    let max : Constant := ⟨"MAX", "Limit", "System.Int64", "Limits", "7"⟩
    let set : Overrides := { constants := .ofList [("MAX", max)] }
    let r := (ofModule { types := [gd] } host {} .epoch).registry.mergeAll [.standard, set]
    set.Keyed ∧ r.global.Keyed ∧ r.global.constants.get? "MAX" = some max ∧
      (r.global.enums.listAt "Mode").map (·.containingType) = [some "GD"] ∧
      ∃ t, r.entryAt? "GD" "Godot.GD" = some t ∧ t.Keyed ∧ t.OwnsMembers ∧
        t.constants.get? "MAX" = some ⟨"MAX", "Max", "System.Int64", "Godot.GD", "9"⟩ := by
  intro mode gd host max set r
  have setKeyed : set.Keyed :=
    ⟨.empty, .empty, filedBy_ofList_map Constant.logicalName [max], .empty, .empty, .empty⟩
  have keyed : ∀ o ∈ [Overrides.standard, set], o.Keyed := by
    intro o ho
    rcases List.mem_cons.mp ho with rfl | ho
    · exact Overrides.keyed_standard
    · exact List.mem_singleton.mp ho ▸ setKeyed
  obtain ⟨-, global, entries⟩ :=
    merged_names_agree { types := [gd] } host {} .epoch [.standard, set] keyed
  have constants : (r.entryAt? "GD" "Godot.GD").map (·.constants.get? "MAX") =
      some (some ⟨"MAX", "Max", "System.Int64", "Godot.GD", "9"⟩) := by
    decide +kernel
  obtain ⟨t, found, constant⟩ := Option.map_eq_some_iff.mp constants
  obtain ⟨-, -, entryKeyed, owns⟩ := entries "GD" "Godot.GD" t found
  refine ⟨setKeyed, global, ?_, ?_, t, found, entryKeyed, owns, constant⟩
  · decide +kernel
  · decide +kernel

end Extraction
end Concordance
