import Concordance.Extraction.Visit
import Concordance.Tracking
/-!
Extraction of a registry from a module, type by type, with an observer or without.
-/
namespace Concordance

open Compiled (TypeInfo Module)

structure Extraction where
  registry : Registry := {}
  unresolved : Tracker := {}

/-- What an observer is told behind each type. -/
structure Step where
  done : Nat
  total : Nat
  fullName : String
deriving DecidableEq, Repr

structure ObservedRun where
  steps : List Step := []
  /-- The extraction, or what was tracked when the observer crashed. -/
  outcome : Except Tracking Extraction

namespace Extraction

def hostVersion (m : Module) (host : Host) : String :=
  if host.version = "" then m.hostVersion.getD "" else host.version

def visitM (r : Resolver) (x : Extraction) (v : Visit) : Tracked Extraction := do
  let (registry, _, unresolved) ← r.resolveIntoM v.type v.logicalName x.registry
  return ⟨registry, x.unresolved.add unresolved⟩

def visit (r : Resolver) (x : Extraction) (v : Visit) : Extraction := (x.visitM r v).value

def resolver (m : Module) (host : Host) (settings : ExtractionSettings) : Resolver :=
  { host, settings, ownerNames := Visit.ownerNames (Visit.ofModule settings m) }

def finish (x : Extraction) : Extraction :=
  { x with registry := { x.registry with global := x.registry.global.reindex }.prune }

def start (m : Module) (host : Host) (now : Instant) : Extraction :=
  { registry := { metadata := { hostVersion := hostVersion m host, extractedAt := now } } }

def ofModule (m : Module) (host : Host) (settings : ExtractionSettings) (now : Instant) :
    Extraction :=
  let r := resolver m host settings
  ((Visit.ofModule settings m).foldl (visit r) (start m host now)).finish

/-- Visit the types one by one. The observer is told of each and may crash at it, which leaves
nothing extracted. -/
def observe (r : Resolver) (crashes : Step → Bool) (total : Nat) :
    (done : Nat) → List Visit → Extraction → Tracked (List Step × Option Extraction)
  | _, [], x => pure ([], some x.finish)
  | done, v :: vs, x => do
    let x ← x.visitM r v
    .call .increment
    let step : Step := ⟨done + 1, total, v.type.fullName⟩
    if crashes step then return ([step], none)
    else
      let (steps, extracted) ← observe r crashes total (done + 1) vs x
      return (step :: steps, extracted)

/-- The visits of an extraction, up to where its guard for the phase is dropped. -/
def attempt (r : Resolver) (crashes : Step → Bool) (total : Nat) (vs : List Visit)
    (x : Extraction) : Tracked (List Step × Option Extraction) := do
  .call (.take (.phase .resolving))
  .call (.setProgress ⟨0, UInt64.ofNat total⟩)
  observe r crashes total 0 vs x

def run (m : Module) (host : Host) (settings : ExtractionSettings) (now : Instant)
    (crashes : Step → Bool) (t : Tracking) : ObservedRun × Tracking :=
  let visits := Visit.ofModule settings m
  let a := attempt (resolver m host settings) crashes visits.length visits (start m host now)
  -- No guard is released that is not held, so the calls can all be made.
  let s := (Guarded.run ⟨t, []⟩ a.calls).getD ⟨t, []⟩
  let outcome :=
    match a.value.2 with
    | some x => .ok x
    | none => .error s.tracking
  ({ steps := a.value.1, outcome }, s.unwind)

/-- What is tracked behind an extraction that nothing stopped. -/
def trackedAfter (m : Module) (settings : ExtractionSettings) (t : Tracking) : Tracking :=
  let total := UInt64.ofNat (Visit.ofModule settings m).length
  { t with progress := ⟨total, total⟩ }

def spanName : String := "resolve_types"

end Extraction
end Concordance
