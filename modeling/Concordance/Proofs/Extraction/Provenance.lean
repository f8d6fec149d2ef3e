import Concordance.Proofs.Extraction.Step
import Concordance.Proofs.Extraction.Visits
import Concordance.Proofs.Resolution.Publishing
/-!
Where the contents of an extracted registry come from. Every stored entry is what one visit was
resolved to, and the global methods and properties are members of such entries.
-/
namespace Concordance

open Compiled (TypeInfo Module)

def Method.OfEntry (p : TypeEntry → Prop) (m : Method) : Prop :=
  ∃ t, p t ∧ ∃ ms ∈ t.methods.values, m ∈ ms

def Property.OfEntry (p : TypeEntry → Prop) (q : Property) : Prop :=
  ∃ t, p t ∧ q ∈ t.properties.values

/-- All global methods and properties are members of entries that satisfy `p`. -/
structure GlobalScope.ComesFrom (p : TypeEntry → Prop) (g : GlobalScope) : Prop where
  methods : ∀ ms ∈ g.methods.values, ∀ m ∈ ms, m.OfEntry p
  properties : ∀ q ∈ g.properties.values, q.OfEntry p

structure Registry.ComesFrom (p : TypeEntry → Prop) (r : Registry) : Prop where
  global : r.global.ComesFrom p
  types : ∀ vs ∈ r.types.values, ∀ t ∈ vs.values, p t

variable {p : TypeEntry → Prop}

namespace GlobalScope

theorem ComesFrom.publish {g : GlobalScope} (h : g.ComesFrom p) {t : TypeEntry} (ht : p t) :
    (g.publish t).ComesFrom p where
  methods := by
    intro ms hms m hm
    obtain ⟨name, listed⟩ := SortedMap.mem_listAt_iff.mpr ⟨ms, hms, hm⟩
    rw [listAt_publish_methods] at listed
    rcases List.mem_append.mp listed with old | own
    · obtain ⟨ns, hns, hm⟩ := SortedMap.mem_listAt_iff.mp ⟨name, old⟩
      exact h.methods ns hns m hm
    · obtain ⟨ns, hns, hm⟩ := SortedMap.mem_listAt_iff.mp ⟨name, own⟩
      exact ⟨t, ht, ns, hns, hm⟩
  properties := by
    intro q hq
    rw [properties_publish] at hq
    rcases SortedMap.mem_values_of_union hq with hq | hq
    · exact h.properties q hq
    · exact ⟨t, ht, hq⟩

end GlobalScope

namespace Registry

theorem ComesFrom.storeType {r : Registry} (h : r.ComesFrom p) {t : TypeEntry} (ht : p t) :
    (r.storeType t).ComesFrom p := by
  refine ⟨(r.global_storeType t).symm ▸ h.global, ?_⟩
  unfold Registry.storeType Registry.storeType?
  split
  · exact h.types
  · intro vs hvs u hu
    rcases SortedMap.mem_values_of_insert hvs with rfl | hvs
    · rcases SortedMap.mem_values_of_insert hu with rfl | hu
      · exact ht
      · cases found : r.types.get? t.logicalName with
        | none => simp [found, SortedMap.values, SortedMap.empty] at hu
        | some old =>
          rw [found, Option.getD_some] at hu
          exact h.types old (SortedMap.mem_values_iff.mpr ⟨t.logicalName, found⟩) u hu
    · exact h.types vs hvs u hu

theorem ComesFrom.prune {r : Registry} (h : r.ComesFrom p) : r.prune.ComesFrom p := by
  refine ⟨h.global, fun vs hvs t ht => ?_⟩
  obtain ⟨e, he, rfl⟩ := List.mem_map.mp hvs
  obtain ⟨d, hd, rfl⟩ := List.mem_map.mp (List.mem_of_mem_filter he)
  obtain ⟨f, hf, rfl⟩ := List.mem_map.mp ht
  exact h.types d.2 (List.mem_map.mpr ⟨d, hd, rfl⟩) f.2
    (List.mem_map.mpr ⟨f, List.mem_of_mem_filter hf, rfl⟩)

end Registry

namespace Extraction

def Resolved (m : Module) (host : Host) (settings : ExtractionSettings) (t : TypeEntry) : Prop :=
  ∃ v ∈ Visit.ofModule settings m, t = ((resolver m host settings).resolve v.type v.logicalName).1

theorem comesFrom_visit {r : Resolver} {x : Extraction} {v : Visit}
    (h : x.registry.ComesFrom p) (hv : p (r.resolve v.type v.logicalName).1) :
    (x.visit r v).registry.ComesFrom p := by
  change (r.resolveInto v.type v.logicalName x.registry).1.ComesFrom p
  rw [Resolver.registry_resolveInto]
  have global : (r.globalAfter v.type.name (r.resolve v.type v.logicalName).1
      x.registry.global).ComesFrom p := by
    unfold Resolver.globalAfter
    split
    · exact h.global.publish hv
    · exact h.global
  apply Registry.ComesFrom.storeType _ hv
  exact ⟨global, h.types⟩

theorem comesFrom_ofModule (m : Module) (host : Host) (settings : ExtractionSettings)
    (now : Instant) :
    (ofModule m host settings now).registry.ComesFrom (Resolved m host settings) := by
  have start : (start m host now).registry.ComesFrom (Resolved m host settings) :=
    ⟨⟨by simp [Extraction.start, SortedMap.values, SortedMap.empty],
      by simp [Extraction.start, SortedMap.values, SortedMap.empty]⟩,
      by simp [Extraction.start, SortedMap.values, SortedMap.empty]⟩
  have visited := foldl_visit_induction (r := resolver m host settings)
    (motive := fun x => x.registry.ComesFrom (Resolved m host settings)) start
    fun v hv x h => comesFrom_visit h ⟨v, hv, rfl⟩
  exact Registry.ComesFrom.prune ⟨⟨visited.global.methods, visited.global.properties⟩,
    visited.types⟩

end Extraction
end Concordance
