import Concordance.Tracking
import Mathlib.Data.List.Basic
/-!
What is tracked while guards are held. A guard keeps the whole context and not only what it was taken
for, so what is tracked depends on the order of the releases. Where guards are released in reverse,
the phase and the type are always those of the innermost guards of their kinds, and behind the
outermost guard the context is what it was before.
-/
namespace Concordance

namespace Mark

def phase? : Mark → Option Phase
  | .phase p => some p
  | .type _ => none

def type? : Mark → Option String
  | .phase _ => none
  | .type name => some name

end Mark

/-- What is tracked within marks, the innermost in front: of each kind the first, else what the
context has. -/
def Context.under (c : Context) (marks : List Mark) : Context where
  phase := (marks.findSome? Mark.phase?).or c.phase
  type := (marks.findSome? Mark.type?).or c.type

namespace Tracking

theorem drop_take (t : Tracking) (m : Mark) : (t.take m).2.drop (t.take m).1 = t := by
  cases m <;> rfl

theorem previous_take (t : Tracking) (m : Mark) : (t.take m).1.previous = t.context := by
  cases m <;> rfl

theorem context_take {t : Tracking} {c : Context} {marks : List Mark}
    (h : t.context = c.under marks) (m : Mark) : (t.take m).2.context = c.under (m :: marks) := by
  cases m with
  | phase p =>
    have set : (t.take (.phase p)).2.context = { t.context with phase := some p } := rfl
    rw [set, h]
    rfl
  | type name =>
    have set : (t.take (.type name)).2.context = { t.context with type := some name } := rfl
    rw [set, h]
    rfl

end Tracking

namespace Guarded

def marks (s : Guarded) : List Mark := s.guards.map (·.1)

theorem run_cons (s : Guarded) (call : Call) (calls : List Call) :
    s.run (call :: calls) = (s.step call).bind (·.run calls) := List.foldlM_cons

theorem run_append (s : Guarded) (calls more : List Call) :
    s.run (calls ++ more) = (s.run calls).bind (·.run more) := List.foldlM_append

/-- Each guard keeps what was tracked within the guards outside of it. -/
def Restores (c : Context) : List (Mark × Guard) → Prop
  | [] => True
  | (_, guard) :: outer => guard.previous = c.under (outer.map (·.1)) ∧ Restores c outer

/-- The innermost guards are what is tracked, over the context `c` from the start. -/
structure Nested (c : Context) (s : Guarded) : Prop where
  context : s.tracking.context = c.under s.marks
  restores : Restores c s.guards

variable {c : Context} {s s' : Guarded}

theorem Nested.start (t : Tracking) : Nested t.context ⟨t, []⟩ := ⟨rfl, trivial⟩

theorem Nested.step (h : s.Nested c) {call : Call} (made : s.step call = some s') :
    s'.Nested c := by
  cases call with
  | take m =>
    obtain rfl := Option.some.inj made
    exact ⟨Tracking.context_take h.context m,
      (s.tracking.previous_take m).trans h.context, h.restores⟩
  | release =>
    obtain ⟨tracking, guards⟩ := s
    cases guards with
    | nil => cases made
    | cons e outer =>
      obtain rfl := Option.some.inj made
      exact ⟨h.restores.1, h.restores.2⟩
  | setProgress progress =>
    obtain rfl := Option.some.inj made
    exact ⟨h.context, h.restores⟩
  | increment =>
    obtain rfl := Option.some.inj made
    exact ⟨h.context, h.restores⟩

theorem Nested.run (h : s.Nested c) {calls : List Call} (made : s.run calls = some s') :
    s'.Nested c := by
  induction calls generalizing s with
  | nil => exact Option.some.inj made ▸ h
  | cons call calls ih =>
    rw [run_cons] at made
    obtain ⟨next, first, rest⟩ := Option.bind_eq_some_iff.mp made
    exact ih (h.step first) rest

theorem Nested.unwind_eq (h : s.Nested c) : s.unwind = { s.tracking with context := c } := by
  obtain ⟨tracking, guards⟩ := s
  induction guards generalizing tracking with
  | nil =>
    have context : tracking.context = c := h.context
    rw [← context]
    rfl
  | cons e outer ih =>
    have dropped : Nested c ⟨tracking.drop e.2, outer⟩ := ⟨h.restores.1, h.restores.2⟩
    exact ih _ dropped

-- Dropped in the other order, the inner guard brings back what the outer one was taken for.
example :
    let outer := Tracking.setPhase {} .resolving
    let inner := outer.2.setType "Node"
    ((inner.2.drop outer.1).drop inner.1).context = ⟨some .resolving, none⟩ := by
  decide

/-- Unwinding is a release of each guard that is held. -/
theorem run_releases (s : Guarded) :
    s.run (List.replicate s.guards.length .release) = some ⟨s.unwind, []⟩ := by
  obtain ⟨tracking, guards⟩ := s
  induction guards generalizing tracking with
  | nil => rfl
  | cons e outer ih =>
    rw [List.length_cons, List.replicate_succ, run_cons]
    exact ih (tracking.drop e.2)

end Guarded
end Concordance
