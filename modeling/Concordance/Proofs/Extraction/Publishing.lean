import Concordance.Proofs.Extraction.Filing
import Concordance.Proofs.Registry.Invariant
/-!
What an extraction makes visible without a receiver: the entries of the visited types that provide
globals, published one behind the other.
-/
namespace Concordance

open Compiled (TypeInfo Module)
open Registry (Operation)

namespace Visit

def published (r : Resolver) (vs : List Visit) : List TypeEntry :=
  (vs.filter fun v => r.settings.providesGlobals v.type.name).map (·.entry r)

/-- The visit as a call that changes the registry. -/
def operation (r : Resolver) (v : Visit) : Operation := .resolveInto r v.type v.logicalName

end Visit

namespace Extraction

theorem global_visit (r : Resolver) (x : Extraction) (v : Visit) :
    (x.visit r v).registry.global = r.globalAfter v.type.name (v.entry r) x.registry.global := by
  change (r.resolveInto v.type v.logicalName x.registry).1.global = _
  rw [Resolver.registry_resolveInto, Registry.global_storeType]
  rfl

theorem global_foldl_visit (r : Resolver) (x : Extraction) (vs : List Visit) :
    (vs.foldl (visit r) x).registry.global =
      (Visit.published r vs).foldl GlobalScope.publish x.registry.global := by
  induction vs generalizing x with
  | nil => rfl
  | cons v vs ih =>
    rw [List.foldl_cons, ih, global_visit]
    unfold Visit.published Resolver.globalAfter
    by_cases provides : r.settings.providesGlobals v.type.name <;> simp [provides]

theorem registry_foldl_visit (r : Resolver) (x : Extraction) (vs : List Visit) :
    (vs.foldl (visit r) x).registry = Operation.run (vs.map (·.operation r)) x.registry := by
  induction vs generalizing x with
  | nil => rfl
  | cons v vs ih => exact ih (x.visit r v)

section OfModule

variable (m : Module) (host : Host) (settings : ExtractionSettings) (now : Instant)

/-- The scope that an extraction ends with, before the enums are indexed. -/
def publishedScope : GlobalScope :=
  (Visit.published (resolver m host settings) (Visit.ofModule settings m)).foldl
    GlobalScope.publish {}

theorem global_ofModule : (ofModule m host settings now).registry.global =
    (publishedScope m host settings).reindex :=
  congrArg GlobalScope.reindex (global_foldl_visit _ (start m host now) _)

theorem registry_ofModule : (ofModule m host settings now).registry =
    Operation.run ((Visit.ofModule settings m).map (·.operation (resolver m host settings)) ++
      [.reindex, .prune]) (start m host now).registry := by
  unfold Operation.run
  rw [List.foldl_append]
  exact congrArg (fun r : Registry => Registry.prune { r with global := r.global.reindex })
    (registry_foldl_visit _ (start m host now) _)

theorem wellFormed_ofModule : (ofModule m host settings now).registry.WellFormed := by
  rw [registry_ofModule]
  exact (Registry.WellFormed.new _).run _

end OfModule

end Extraction
end Concordance
