/-!
What the program is doing, for the report of a crash: the phase, the type in hand, and the progress
of the extraction. A guard keeps what was tracked when it was taken; dropping it restores that,
whatever has been set since.
-/
namespace Concordance

inductive Phase where
  | loading
  | scanning
  | resolving
  | merging
  | persisting
deriving DecidableEq, Repr

def Phase.all : List Phase := [.loading, .scanning, .resolving, .merging, .persisting]

def Phase.name : Phase → String
  | .loading => "loading"
  | .scanning => "scanning"
  | .resolving => "resolving"
  | .merging => "merging"
  | .persisting => "persisting"

structure Context where
  phase : Option Phase := none
  type : Option String := none
deriving DecidableEq, Repr

structure Progress where
  processed : UInt64 := 0
  total : UInt64 := 0
deriving DecidableEq, Repr

def Progress.increment (p : Progress) : Progress := { p with processed := p.processed + 1 }

structure Tracking where
  context : Context := {}
  progress : Progress := {}
deriving DecidableEq, Repr

/-- The context to go back to. -/
structure Guard where
  previous : Context
deriving DecidableEq, Repr

namespace Tracking

def setPhase (t : Tracking) (p : Phase) : Guard × Tracking :=
  (⟨t.context⟩, { t with context := { t.context with phase := some p } })

def setType (t : Tracking) (name : String) : Guard × Tracking :=
  (⟨t.context⟩, { t with context := { t.context with type := some name } })

def drop (t : Tracking) (g : Guard) : Tracking := { t with context := g.previous }

def reset (t : Tracking) : Tracking := { t with context := {} }

end Tracking

/-- What a guard is taken for. -/
inductive Mark where
  | phase (p : Phase)
  | type (name : String)
deriving DecidableEq, Repr

def Tracking.take (t : Tracking) : Mark → Guard × Tracking
  | .phase p => t.setPhase p
  | .type name => t.setType name

/-- What is tracked, with the guards that are held, the innermost in front. -/
structure Guarded where
  tracking : Tracking
  guards : List (Mark × Guard) := []

namespace Guarded

inductive Call where
  | take (m : Mark)
  | release
  | setProgress (p : Progress)
  | increment
deriving DecidableEq, Repr

def step (s : Guarded) : Call → Option Guarded
  | .take m =>
    let (guard, tracking) := s.tracking.take m
    some ⟨tracking, (m, guard) :: s.guards⟩
  | .release =>
    match s.guards with
    | [] => none
    | (_, guard) :: outer => some ⟨s.tracking.drop guard, outer⟩
  | .setProgress progress => some { s with tracking := { s.tracking with progress } }
  | .increment =>
    some { s with tracking := { s.tracking with progress := s.tracking.progress.increment } }

/-- Calls one behind the other; none if a guard is released that is not held. -/
def run (s : Guarded) (calls : List Call) : Option Guarded := calls.foldlM step s

/-- What is tracked when all guards have been dropped, the innermost first: where their block ends,
or by a crash. -/
def unwind (s : Guarded) : Tracking := s.guards.foldl (fun t e => t.drop e.2) s.tracking

end Guarded

/-- A result, with the calls that the work on it makes about what is tracked. -/
structure Tracked (α : Type) where
  value : α
  calls : List Guarded.Call := []

namespace Tracked

instance : Monad Tracked where
  pure a := ⟨a, []⟩
  bind w f := ⟨(f w.value).value, w.calls ++ (f w.value).calls⟩

def call (c : Guarded.Call) : Tracked Unit := ⟨(), [c]⟩

def within (m : Mark) (w : Tracked α) : Tracked α := ⟨w.value, .take m :: w.calls ++ [.release]⟩

@[simp] theorem calls_pure (a : α) : (pure a : Tracked α).calls = [] := rfl

@[simp] theorem calls_bind (w : Tracked α) (f : α → Tracked β) :
    (w >>= f).calls = w.calls ++ (f w.value).calls := rfl

@[simp] theorem value_pure (a : α) : (pure a : Tracked α).value = a := rfl

@[simp] theorem value_bind (w : Tracked α) (f : α → Tracked β) :
    (w >>= f).value = (f w.value).value := rfl

@[simp] theorem value_within (m : Mark) (w : Tracked α) : (w.within m).value = w.value := rfl

end Tracked

def version : String := "0.1.0"

namespace Crash

inductive Payload where
  | text (s : String)
  | other

def Payload.message : Payload → String
  | .text s => s
  | .other => "Unknown panic"

def activity (span : Option String) (t : Tracking) : List String :=
  ["Phase:    " ++ (match t.context.phase with
    | some p => p.name
    | none => "(not set)")] ++
  (match span with
    | some s => ["Span:     " ++ s]
    | none => []) ++
  (match t.context.type with
    | some name => ["Type:     " ++ name]
    | none => []) ++
  if t.progress.total = 0 then []
  else
    let percent := t.progress.processed * 100 / t.progress.total
    ["Progress: " ++ toString t.progress.processed.toNat ++ " / " ++
      toString t.progress.total.toNat ++ " types (" ++ toString percent.toNat ++ "%)"]

def report (payload : Payload) (span : Option String) (t : Tracking) : List String :=
  ["",
    "==================== CROSSWALK CRASH REPORT ====================",
    "  Version:  " ++ version,
    "  Platform: linux",
    "  PANIC:    " ++ payload.message] ++
  (activity span t).map ("  " ++ ·) ++
  ["  Run with RUST_BACKTRACE=1 for stack trace",
    "================================================================"]

end Crash
end Concordance
