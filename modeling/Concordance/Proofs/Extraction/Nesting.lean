import Concordance.Extraction.Job
import Concordance.Proofs.Compiled.Nesting
import Concordance.Proofs.Extraction.Provenance
import Concordance.Proofs.Override.Merge
import Concordance.Proofs.Registry.Nesting
import Concordance.Proofs.Resolution.Join
/-!
How deep an extracted registry nests. All members had room in the module's document, and all but
the methods of stored types have room in the registry's: these lie two levels deeper there. Of 127
levels a module's document leaves 125 to a listed type; a registry's document leaves 120 to a
parameter's type in the global scope and 118 to one in a stored type.
-/
namespace Concordance

open Compiled (TypeInfo Module)
open Json (maxDepth)

namespace Resolution

variable {name declaringType : String} {n : Nat}

theorem fitsIn_method {d : Compiled.Method} (h : d.FitsIn (n + 3)) :
    (method name declaringType d).FitsIn n := by
  refine ⟨by have := h.1; simp only [method]; omega, fun p hp => ?_⟩
  obtain ⟨q, hq, rfl⟩ := List.mem_map.mp hp
  have := h.2 q hq
  simp only [parameter]
  omega

end Resolution

open Resolution

/-- What a type that a module lists is resolved to has room, but for its methods. -/
theorem Resolver.fitsIn_resolve (r : Resolver) {t : TypeInfo} (logicalName : String)
    (h : t.isEnum = true ∨ t.FitsIn 125) :
    (r.resolve t logicalName).1.MethodsFitIn 120 ∧ (r.resolve t logicalName).1.OthersFitIn 118 := by
  rw [resolve_eq]
  by_cases enum : t.isEnum = true
  · rw [if_pos enum]
    exact ⟨by simp [TypeEntry.MethodsFitIn, bareEntry, SortedMap.values, SortedMap.empty],
      by simp [bareEntry, SortedMap.values, SortedMap.empty],
      by simp [bareEntry, SortedMap.values, SortedMap.empty]⟩
  · have fits := h.resolve_left enum
    rw [if_neg enum]
    refine ⟨fun ms hms m hm => ?_, fun p hp => ?_, fun s hs => ?_⟩
    · obtain ⟨d, hd, name, rfl⟩ := mem_of_mem_methods hms hm
      exact fitsIn_method (fits.methods d hd)
    · obtain ⟨d, hd, name, rfl⟩ := mem_of_mem_properties hp
      have := fits.properties d hd
      simp only [property]
      omega
    · obtain ⟨d, hd, name, rfl⟩ := mem_of_mem_signals hs
      simp only [signal]
      cases invoked : d.invoke with
      | none => simp [TypeRef.void, TypeRef.nesting]
      | some signature =>
        obtain ⟨returns, takes⟩ := fits.events d hd signature invoked
        simp only [Option.map_some, Option.getD_some]
        refine ⟨by omega, fun u hu => ?_⟩
        have := takes u hu
        omega

namespace Extraction

variable {m : Module} {host : Host} {settings : ExtractionSettings}

theorem fitsIn_of_resolved (listed : ∀ t ∈ m.types, t.FitsIn 125) {t : TypeEntry}
    (h : Resolved m host settings t) : t.MethodsFitIn 120 ∧ t.OthersFitIn 118 := by
  obtain ⟨v, hv, rfl⟩ := h
  exact (resolver m host settings).fitsIn_resolve v.logicalName
    ((Visit.mem_ofModule hv).imp_right (listed v.type))

theorem fitsIn_global_ofModule (listed : ∀ t ∈ m.types, t.FitsIn 125) (now : Instant) :
    (ofModule m host settings now).registry.global.FitsIn 120 := by
  obtain ⟨methods, properties⟩ := (comesFrom_ofModule m host settings now).global
  refine ⟨fun ms hms d hd => ?_, fun q hq => ?_⟩
  · obtain ⟨t, ht, ns, hns, hd⟩ := methods ms hms d hd
    exact (fitsIn_of_resolved listed ht).1 ns hns d hd
  · obtain ⟨t, ht, hq⟩ := properties q hq
    have := (fitsIn_of_resolved listed ht).2.properties q hq
    omega

end Extraction

theorem GlobalScope.FitsIn.merge_standard {g : GlobalScope} (h : g.FitsIn 120) :
    (g.merge .standard).1.FitsIn 120 := by
  have methods : ∀ ms ∈ Overrides.standard.methods.values, ∀ m ∈ ms, m.FitsIn 120 := by
    decide +kernel
  have builtins : ∀ ms ∈ Overrides.standard.builtins.values, ∀ m ∈ ms, m.FitsIn 120 := by
    decide +kernel
  have properties : ∀ p ∈ Overrides.standard.properties.values,
      2 * p.binaryType.nesting + 1 ≤ 123 := by
    decide +kernel
  refine ⟨fun ms hms m hm => ?_, fun p hp => ?_⟩
  · rcases g.mem_of_mem_merge_methods .standard hms hm with
      ⟨ns, hns, hm⟩ | ⟨ns, hns, hm⟩ | ⟨ns, hns, hm⟩
    · exact h.methods ns hns m hm
    · exact methods ns hns m hm
    · exact builtins ns hns m hm
  · rcases SortedMap.mem_values_of_union hp with hp | hp
    · exact h.properties p hp
    · exact properties p hp

namespace Extraction.Job

variable (j : Job) (settings : ExtractionSettings) (sources : Sources) (now : Instant)

theorem registry_extract : ∃ global, (j.extract settings sources now).registry =
      { (ofModule sources.module sources.host settings now).registry with global } ∧
    ((ofModule sources.module sources.host settings now).registry.global.FitsIn 120 →
      global.FitsIn 120) := by
  unfold extract
  split
  · exact ⟨_, rfl, GlobalScope.FitsIn.merge_standard⟩
  · exact ⟨_, rfl, id⟩

/-- The document of an extracted registry can be too deep only because of methods of types. -/
theorem depth_encode_extract_le (listed : ∀ t ∈ sources.module.types, t.FitsIn 125) :
    (Registry.codec.encode (j.extract settings sources now).registry).depth ≤ maxDepth ↔
      ∀ t ∈ (j.extract settings sources now).registry.typeEntries, t.MethodsFitIn 118 := by
  obtain ⟨global, same, fits⟩ := j.registry_extract settings sources now
  have globalFits := fits (fitsIn_global_ofModule listed now)
  rw [same]
  have entries : ∀ t ∈ Registry.typeEntries
      { (ofModule sources.module sources.host settings now).registry with global },
      t.OthersFitIn 118 := by
    intro t ht
    obtain ⟨vs, hvs, ht⟩ := List.mem_flatMap.mp ht
    obtain ⟨e, he, rfl⟩ := List.mem_map.mp hvs
    have stored := (comesFrom_ofModule sources.module sources.host settings now).types e.2
      (List.mem_map.mpr ⟨e, List.mem_of_mem_filter he, rfl⟩) t ht
    exact (fitsIn_of_resolved listed stored).2
  have written := Registry.depth_encode_le (n := 118)
    (r := { (ofModule sources.module sources.host settings now).registry with global })
  rw [maxDepth, written]
  constructor
  · exact fun h t ht => (h.2 t ht).1
  · exact fun h => ⟨globalFits, fun t ht => ⟨h t ht, entries t ht⟩⟩

end Extraction.Job
end Concordance
