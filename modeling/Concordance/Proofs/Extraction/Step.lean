import Concordance.Extraction.Run
/-!
What one visit does to an extraction, and what a run of visits keeps. A visit resolves its type,
publishes the entry if the type provides globals, and stores it under its names.
-/
namespace Concordance

open Compiled (TypeInfo Module)

namespace Registry

@[simp] theorem metadata_storeType (r : Registry) (t : TypeEntry) :
    (r.storeType t).metadata = r.metadata := by
  unfold storeType storeType?
  split <;> rfl

@[simp] theorem global_storeType (r : Registry) (t : TypeEntry) :
    (r.storeType t).global = r.global := by
  unfold storeType storeType?
  split <;> rfl

end Registry

def Resolver.globalAfter (r : Resolver) (binaryName : String) (entry : TypeEntry)
    (g : GlobalScope) : GlobalScope :=
  if r.settings.providesGlobals binaryName then g.publish entry else g

theorem Resolver.registry_resolveInto (r : Resolver) (t : TypeInfo) (logicalName : String)
    (registry : Registry) :
    (r.resolveInto t logicalName registry).1 =
      { registry with
        global := r.globalAfter t.name (r.resolve t logicalName).1 registry.global }.storeType
        (r.resolve t logicalName).1 := by
  rw [resolveInto_eq]
  unfold Registry.storeType globalAfter
  by_cases provides : r.settings.providesGlobals t.name
  · simp only [provides, if_true]
    split <;> simp [*]
  · simp only [provides]
    split <;> simp_all

namespace Extraction

theorem foldl_visit_induction {r : Resolver} {motive : Extraction → Prop} {x : Extraction}
    {vs : List Visit} (start : motive x)
    (step : ∀ v ∈ vs, ∀ x, motive x → motive (x.visit r v)) : motive (vs.foldl (visit r) x) := by
  induction vs generalizing x with
  | nil => exact start
  | cons v vs ih =>
    exact ih (step v (by simp) x start) fun w hw => step w (by simp [hw])

theorem metadata_visit (r : Resolver) (x : Extraction) (v : Visit) :
    (x.visit r v).registry.metadata = x.registry.metadata := by
  change (r.resolveInto v.type v.logicalName x.registry).1.metadata = _
  rw [Resolver.registry_resolveInto, Registry.metadata_storeType]

theorem metadata_ofModule (m : Module) (host : Host) (settings : ExtractionSettings)
    (now : Instant) : (ofModule m host settings now).registry.metadata =
      { hostVersion := hostVersion m host, extractedAt := now } := by
  have kept : ((Visit.ofModule settings m).foldl (visit (resolver m host settings))
      (start m host now)).registry.metadata = (start m host now).registry.metadata :=
    foldl_visit_induction
      (motive := fun x => x.registry.metadata = (start m host now).registry.metadata) rfl
      fun v _ x h => (metadata_visit _ x v).trans h
  exact kept

/-- An extraction drops the logical names that do not count. -/
theorem filter_isVisible_types_ofModule (m : Module) (host : Host) (settings : ExtractionSettings)
    (now : Instant) :
    (ofModule m host settings now).registry.types.filter Registry.isVisible =
      (ofModule m host settings now).registry.types := by
  apply SortedMap.ext
  simp [ofModule, finish, Registry.prune, SortedMap.filter]

end Extraction
end Concordance
