import Concordance.Proofs.Extraction.Publishing
import Concordance.Proofs.Resolution.Join
/-!
Where the global scope of an extraction comes from. Overloads and enums of one name are gathered
from all types that provide globals, in the order in which these are visited; a property or a
constant is that of the last. No other type leaves a trace, and a provider is filed like any other
type.
-/
namespace Concordance

open Compiled (TypeInfo Module)
open SortedMap

/-- The last of those that have a value has `y`. -/
def LatestOf (value? : α → Option β) (xs : List α) (y : β) : Prop :=
  ∃ front x back, xs = front ++ x :: back ∧ value? x = some y ∧ ∀ z ∈ back, value? z = none

theorem findSome?_reverse_eq_some {value? : α → Option β} {xs : List α} {y : β} :
    xs.reverse.findSome? value? = some y ↔ LatestOf value? xs y := by
  rw [List.findSome?_eq_some_iff]
  constructor
  · rintro ⟨later, x, earlier, parts, found, absent⟩
    refine ⟨earlier.reverse, x, later.reverse, ?_, found, by simpa using absent⟩
    simpa using congrArg List.reverse parts
  · rintro ⟨front, x, back, rfl, found, absent⟩
    exact ⟨back.reverse, x, front.reverse, by simp, found, by simpa using absent⟩

namespace SortedMap

variable {table : NameMap (List α)} {n : String}

theorem mem_keys_iff_listAt_ne_nil (kept : table.get? n ≠ some []) :
    n ∈ table.keys ↔ table.listAt n ≠ [] := by
  rw [mem_keys_iff, contains_eq_of_ne_nil kept]
  simp

theorem mem_keys_iff_of_flatMap (kept : table.get? n ≠ some []) {xs : List β} {own : β → List α}
    (listed : table.listAt n = xs.flatMap own) : n ∈ table.keys ↔ ∃ x ∈ xs, own x ≠ [] := by
  rw [mem_keys_iff_listAt_ne_nil kept, listed]
  simp

end SortedMap

namespace GlobalScope

/-- The scope has the members of these entries, one entry behind the other, and no others. -/
structure GatheredFrom (g : GlobalScope) (ts : List TypeEntry) : Prop where
  methods (n : String) : g.methods.listAt n = ts.flatMap (·.methods.listAt n)
  enums (n : String) : g.enums.listAt n = ts.filterMap (·.enums.get? n)
  properties (n : String) (p : Property) :
    g.properties.get? n = some p ↔ LatestOf (·.properties.get? n) ts p
  constants (n : String) (c : Constant) :
    g.constants.get? n = some c ↔ LatestOf (·.constants.get? n) ts c
  mem_methods (n : String) : n ∈ g.methods.keys ↔ ∃ t ∈ ts, n ∈ t.methods.keys
  mem_enums (n : String) : n ∈ g.enums.keys ↔ ∃ t ∈ ts, n ∈ t.enums.keys
  mem_properties (n : String) : n ∈ g.properties.keys ↔ ∃ t ∈ ts, n ∈ t.properties.keys
  mem_constants (n : String) : n ∈ g.constants.keys ↔ ∃ t ∈ ts, n ∈ t.constants.keys
  types : g.types = .empty

theorem GatheredFrom.reindex {g : GlobalScope} {ts : List TypeEntry} (h : g.GatheredFrom ts) :
    g.reindex.GatheredFrom ts :=
  ⟨h.methods, h.enums, h.properties, h.constants, h.mem_methods, h.mem_enums, h.mem_properties,
    h.mem_constants, h.types⟩

theorem gatheredFrom_foldl_publish {ts : List TypeEntry}
    (overloaded : ∀ t ∈ ts, ∀ n, t.methods.get? n ≠ some []) :
    (ts.foldl publish {}).GatheredFrom ts := by
  have kept : (ts.foldl publish {}).WellFormed := WellFormed.empty.foldl_publish ts
  have methods (n : String) := listAt_foldl_publish_methods {} ts n
  have enums (n : String) := listAt_foldl_publish_enums {} ts n
  exact {
    methods
    enums n := by
      rw [List.filterMap_eq_flatMap_toList]
      exact enums n
    properties n p := by
      rw [get?_foldl_publish_properties, ← findSome?_reverse_eq_some]
      simp
    constants n c := by
      rw [get?_foldl_publish_constants, ← findSome?_reverse_eq_some]
      simp
    mem_methods n := by
      rw [mem_keys_iff_of_flatMap (kept.methods n) (methods n)]
      refine exists_congr fun t => and_congr_right fun ht => ?_
      exact (mem_keys_iff_listAt_ne_nil (overloaded t ht n)).symm
    mem_enums n := by
      rw [mem_keys_iff_of_flatMap (kept.enums n) (enums n)]
      simp [mem_keys_iff, contains, Option.isSome_iff_ne_none]
    mem_properties n := by
      rw [mem_keys_iff, contains_foldl_publish_properties]
      simp [mem_keys_iff, contains]
    mem_constants n := by
      rw [mem_keys_iff, contains_foldl_publish_constants]
      simp [mem_keys_iff, contains]
    types := types_foldl_publish {} ts }

end GlobalScope

theorem Resolver.get?_methods_resolve_ne_nil (r : Resolver) (t : TypeInfo)
    (logicalName n : String) : (r.resolve t logicalName).1.methods.get? n ≠ some [] := by
  rw [resolve_eq]
  split
  · simp [bareEntry]
  · exact Resolution.get?_methods_ne_nil

namespace Extraction

/-- The global scope is gathered from the visited types that the settings let provide it, in the
order of the visits; such a type is filed under its own names besides. -/
theorem globals_from_providers (m : Module) (host : Host) (settings : ExtractionSettings)
    (now : Instant) :
    let registry := (ofModule m host settings now).registry
    let entryOf (v : Visit) := v.entry (resolver m host settings)
    let providers := (Visit.ofModule settings m).filter fun v =>
      v.type.name ∈ settings.globalScopeProviders
    registry.global.GatheredFrom (providers.map entryOf) ∧
      ∀ v ∈ providers, v.logicalName ≠ "" → v.type.fullName ≠ "" →
        registry.entryAt? v.logicalName v.type.fullName = some (entryOf v) := by
  intro registry entryOf providers
  constructor
  · rw [show registry.global = _ from global_ofModule m host settings now]
    refine (GlobalScope.gatheredFrom_foldl_publish fun t ht n => ?_).reindex
    obtain ⟨v, -, rfl⟩ := List.mem_map.mp ht
    exact Resolver.get?_methods_resolve_ne_nil _ v.type v.logicalName n
  · intro v hv logical full
    refine entryAt?_ofModule host now (List.mem_of_mem_filter hv) ?_
    simp [Visit.isNamed, logical, full]

-- Two providers share a name across namespaces.
example :
    let gd (namespaceName : String) : TypeInfo := {
      name := "GD"
      namespaceName
      methods := [{ name := "Print", returnType := .void }]
      properties := [{ name := "Time", type := .ofFullName "System.Int64" }]
      nestedTypes := [
        { name := "MethodName"
          initializer := some (.instructions [.loadString "print", .storeStaticField "Print"]) },
        { name := "PropertyName"
          initializer := some (.instructions [.loadString "time", .storeStaticField "Time"]) }] }
    let global := (ofModule { types := [gd "A", gd "B"] } {} { globalScopeProviders := ["GD"] }
      Instant.epoch).registry.global
    (global.methods.listAt "print").map (·.declaringType) = ["A.GD", "B.GD"] ∧
      (global.properties.get? "time").map (·.declaringType) = some "B.GD" := by decide +kernel

end Extraction
end Concordance
