import Concordance.Extraction.Run
import Concordance.Proofs.Tracking
/-!
What is tracked while a module is extracted. A visit takes a guard for its type, and within that one
for each table of names that it scans, and has released them all when the observer is told of it. So
at each callback only the phase of the extraction is held, and a crash there drops it.
-/
namespace Concordance

open Compiled (TypeInfo Module)
open Guarded (Call)

def Tracking.counting (t : Tracking) (k : Nat) : Tracking :=
  { t with progress := { t.progress with processed := t.progress.processed + UInt64.ofNat k } }

theorem Tracking.counting_counting (t : Tracking) (k l : Nat) :
    (t.counting k).counting l = t.counting (k + l) := by
  simp [counting, UInt64.ofNat_add, UInt64.add_assoc]

namespace Tracked

/-- Work that releases what it takes, and counts nothing. -/
def Restores (w : Tracked α) : Prop := ∀ s : Guarded, s.run w.calls = some s

theorem Restores.pure (a : α) : Restores (Pure.pure a) := fun _ => rfl

theorem Restores.bind {w : Tracked α} {f : α → Tracked β} (first : w.Restores)
    (second : ∀ a, (f a).Restores) : (w >>= f).Restores := by
  intro s
  rw [calls_bind, Guarded.run_append, first, Option.bind_some]
  exact second w.value s

theorem Restores.within {w : Tracked α} (inner : w.Restores) (m : Mark) : (w.within m).Restores := by
  intro s
  rw [Tracked.within, List.cons_append, Guarded.run_cons, Guarded.step, Option.bind_some,
    Guarded.run_append, inner, Option.bind_some]
  exact congrArg (fun t => some { s with tracking := t }) (s.tracking.drop_take m)

theorem restores_scan (t : TypeInfo) (table : String) : (Resolution.scan t table).Restores := by
  unfold Resolution.scan
  split
  · exact .pure _
  · refine .within ?_ _
    split <;> exact .pure _

theorem restores_resolveM (r : Resolver) (t : TypeInfo) (logicalName : String) :
    (r.resolveM t logicalName).Restores := by
  refine .within ?_ _
  split
  · exact .pure _
  · exact .bind (restores_scan t _) fun _ => .bind (restores_scan t _) fun _ =>
      .bind (restores_scan t _) fun _ => .pure _

theorem restores_visitM (r : Resolver) (x : Extraction) (v : Visit) :
    (x.visitM r v).Restores := by
  refine .bind (.bind (restores_resolveM r _ _) fun _ => ?_) fun _ => .pure _
  dsimp only
  split <;> exact .pure _

end Tracked

namespace Extraction

def callbacks (total done : Nat) (vs : List Visit) : List Step :=
  vs.mapIdx fun i v => ⟨done + i + 1, total, v.type.fullName⟩

theorem callbacks_cons (total done : Nat) (v : Visit) (vs : List Visit) :
    callbacks total done (v :: vs) =
      ⟨done + 1, total, v.type.fullName⟩ :: callbacks total (done + 1) vs := by
  simp [callbacks, List.mapIdx_cons, Nat.add_assoc, Nat.add_comm 1]

theorem length_callbacks (total done : Nat) (vs : List Visit) :
    (callbacks total done vs).length = vs.length := List.length_mapIdx

theorem findIdx?_quiet (told : List Step) : told.findIdx? (fun _ => false) = none := by
  simp [List.findIdx?_eq_none_iff]

section Observe

variable (r : Resolver) (crashes : Step → Bool) (total done : Nat)

theorem value_observe_cons (v : Visit) (vs : List Visit) (x : Extraction) :
    (observe r crashes total done (v :: vs) x).value =
      let told : Step := ⟨done + 1, total, v.type.fullName⟩
      if crashes told then ([told], none)
      else
        let rest := (observe r crashes total (done + 1) vs (x.visit r v)).value
        (told :: rest.1, rest.2) := by
  rw [observe]
  dsimp only [Tracked.value_bind]
  split <;> rfl

/-- The observer is told of the types in order up to the one at which it first crashes. -/
theorem value_observe (vs : List Visit) (x : Extraction) :
    (observe r crashes total done vs x).value =
      match (callbacks total done vs).findIdx? crashes with
      | none => (callbacks total done vs, some (vs.foldl (visit r) x).finish)
      | some i => ((callbacks total done vs).take (i + 1), none) := by
  induction vs generalizing done x with
  | nil => rfl
  | cons v vs ih =>
    rw [value_observe_cons, callbacks_cons, List.findIdx?_cons]
    dsimp only
    by_cases crash : crashes ⟨done + 1, total, v.type.fullName⟩ = true
    · rw [if_pos crash, if_pos crash]
      rfl
    · rw [if_neg crash, if_neg crash, ih]
      cases (callbacks total (done + 1) vs).findIdx? crashes <;> rfl

/-- The visits count the types of which the observer is told, and leave all else that is tracked. -/
theorem run_observe (vs : List Visit) (x : Extraction) (s : Guarded) :
    s.run (observe r crashes total done vs x).calls = some { s with
      tracking := s.tracking.counting (observe r crashes total done vs x).value.1.length } := by
  induction vs generalizing done x s with
  | nil => simp [observe, Guarded.run, Tracking.counting]
  | cons v vs ih =>
    rw [value_observe_cons, observe, Tracked.calls_bind, Guarded.run_append,
      Tracked.restores_visitM, Option.bind_some, Tracked.calls_bind]
    dsimp only
    by_cases crash : crashes ⟨done + 1, total, v.type.fullName⟩ = true
    · rw [if_pos crash, if_pos crash]
      rfl
    · have counted : s.run (Tracked.call .increment).calls =
          some { s with tracking := s.tracking.counting 1 } := rfl
      rw [if_neg crash, if_neg crash, Guarded.run_append, counted, Option.bind_some,
        Tracked.calls_bind, Tracked.calls_pure, List.append_nil, ih, Tracking.counting_counting,
        List.length_cons, Nat.add_comm 1]
      rfl

end Observe

def trackedAt (t : Tracking) (done total : Nat) : Tracking where
  context := { t.context with phase := some .resolving }
  progress := ⟨UInt64.ofNat done, UInt64.ofNat total⟩

theorem run_attempt (r : Resolver) (crashes : Step → Bool) (total : Nat) (vs : List Visit)
    (x : Extraction) (t : Tracking) :
    let a := attempt r crashes total vs x
    Guarded.run ⟨t, []⟩ a.calls = some ⟨trackedAt t a.value.1.length total,
      [(.phase .resolving, ⟨t.context⟩)]⟩ := by
  have begun : Guarded.run ⟨t, []⟩ [.take (.phase .resolving), .setProgress ⟨0, .ofNat total⟩] =
      some ⟨trackedAt t 0 total, [(.phase .resolving, ⟨t.context⟩)]⟩ := rfl
  change Guarded.run ⟨t, []⟩ ([_, _] ++ (observe r crashes total 0 vs x).calls) = _
  rw [Guarded.run_append, begun, Option.bind_some, run_observe]
  simp [Tracking.counting, trackedAt, attempt]

theorem run_attempt_quiet (r : Resolver) (total : Nat) (vs : List Visit) (x : Extraction)
    (t : Tracking) :
    Guarded.run ⟨t, []⟩ (attempt r (fun _ => false) total vs x).calls =
      some ⟨trackedAt t vs.length total, [(.phase .resolving, ⟨t.context⟩)]⟩ := by
  have value : (attempt r (fun _ => false) total vs x).value = _ :=
    value_observe r (fun _ => false) total 0 vs x
  rw [run_attempt, value, findIdx?_quiet, length_callbacks]

section Run

variable (m : Module) (host : Host) (settings : ExtractionSettings) (now : Instant)
  (crashes : Step → Bool) (t : Tracking)

theorem run_eq :
    let visits := Visit.ofModule settings m
    let told := callbacks visits.length 0 visits
    run m host settings now crashes t =
      match told.findIdx? crashes with
      | none => (⟨told, .ok (ofModule m host settings now)⟩, trackedAfter m settings t)
      | some i => (⟨told.take (i + 1), .error (trackedAt t (i + 1) visits.length)⟩,
          { t with progress := ⟨UInt64.ofNat (i + 1), UInt64.ofNat visits.length⟩ }) := by
  intro visits told
  have length : told.length = visits.length := length_callbacks ..
  have tracked := run_attempt (resolver m host settings) crashes visits.length visits
    (start m host now) t
  have value : (attempt (resolver m host settings) crashes visits.length visits
      (start m host now)).value = _ := value_observe _ crashes visits.length 0 visits _
  unfold run
  dsimp only at tracked ⊢
  rw [tracked, Option.getD_some, value]
  cases first : told.findIdx? crashes with
  | none =>
    dsimp only
    rw [length]
    rfl
  | some i =>
    have inside : i < told.length := (List.findIdx?_eq_some_iff_getElem.mp first).1
    dsimp only
    rw [List.length_take_of_le inside]
    rfl

theorem run_quiet : run m host settings now (fun _ => false) t =
    (⟨callbacks (Visit.ofModule settings m).length 0 (Visit.ofModule settings m),
      .ok (ofModule m host settings now)⟩, trackedAfter m settings t) := by
  rw [run_eq, findIdx?_quiet]

/-- Without a crash a run under observation extracts what an unobserved one does. -/
theorem run_undisturbed :
    (run m host settings now (fun _ => false) t).1.outcome = .ok (ofModule m host settings now) ∧
      (run m host settings now (fun _ => false) t).2 = trackedAfter m settings t := by
  rw [run_quiet]
  exact ⟨rfl, rfl⟩

end Run

/-- Whatever guards are held, what is tracked is what the innermost of each kind was taken for, and
releasing them all leads back to the start. So an extraction leaves the context as it was, whether
it ends or its observer crashes; and at every callback it is resolving, with the type that was in
hand before and the types counted. -/
theorem context_is_innermost :
    (∀ (t : Tracking) (calls : List Call) (s : Guarded), Guarded.run ⟨t, []⟩ calls = some s →
      s.tracking.context = t.context.under s.marks ∧
      (s.guards = [] → s.tracking.context = t.context) ∧
      s.unwind = { s.tracking with context := t.context }) ∧
    ∀ (m : Module) (host : Host) (settings : ExtractionSettings) (now : Instant)
      (crashes : Step → Bool) (t : Tracking),
      let visits := Visit.ofModule settings m
      let n := visits.length
      let told := callbacks n 0 visits
      (run m host settings now crashes t).2.context = t.context ∧
      (told.findIdx? crashes = none →
        (run m host settings now crashes t).1 = ⟨told, .ok (ofModule m host settings now)⟩) ∧
      ∀ i < n, ∃ s, Guarded.run ⟨t, []⟩ (attempt (resolver m host settings) (fun _ => false) n
          (visits.take (i + 1)) (start m host now)).calls = some s ∧
        s.tracking.context = ⟨some .resolving, t.context.type⟩ ∧
        s.tracking.progress = ⟨UInt64.ofNat (i + 1), UInt64.ofNat n⟩ ∧
        (n < UInt64.size → s.tracking.progress.processed.toNat = i + 1 ∧
          s.tracking.progress.total.toNat = n) ∧
        (told.findIdx? crashes = some i → run m host settings now crashes t =
          (⟨told.take (i + 1), .error s.tracking⟩, s.unwind)) := by
  refine ⟨fun t calls s made => ?_, fun m host settings now crashes t => ?_⟩
  · have nested := (Guarded.Nested.start t).run made
    refine ⟨nested.context, fun released => ?_, nested.unwind_eq⟩
    rw [nested.context, Guarded.marks, released]
    rfl
  · intro visits n told
    have whole := run_eq m host settings now crashes t
    refine ⟨?_, fun quiet => ?_, fun i hi => ?_⟩
    · rw [whole]
      split <;> rfl
    · rw [whole, quiet]
    · have length : (visits.take (i + 1)).length = i + 1 := List.length_take_of_le hi
      refine ⟨_, run_attempt_quiet (resolver m host settings) n _ (start m host now) t, rfl, ?_,
        fun small => ?_, fun crash => ?_⟩
      · rw [length]
        rfl
      · rw [length]
        exact ⟨UInt64.toNat_ofNat_of_lt' (Nat.lt_of_le_of_lt hi small),
          UInt64.toNat_ofNat_of_lt' small⟩
      · rw [whole, crash, length]
        rfl

theorem context_is_innermost_second :
    let mode : TypeInfo := {
      name := "Mode"
      declaringType := some "Node"
      isEnum := true
      enumValues := [⟨"On", 1⟩] }
    let m : Module := { types := [{ name := "Node", nestedTypes := [mode] }, { name := "Timer" }] }
    let crashes (s : Step) : Bool := s.fullName = "Node"
    let t : Tracking := { context := ⟨some .loading, some "Main"⟩ }
    (∃ s, Guarded.run ⟨t, []⟩
        [.take (.type "Node"), .take (.phase .scanning), .take (.phase .merging), .release] = some s ∧
      s.tracking.context = ⟨some .scanning, some "Node"⟩ ∧ s.unwind = t) ∧
    ∃ s : Tracking, run m {} {} .epoch crashes t =
        (⟨[⟨1, 3, "Node+Mode"⟩, ⟨2, 3, "Node"⟩], .error s⟩, { t with progress := ⟨2, 3⟩ }) ∧
      s.context = ⟨some .resolving, some "Main"⟩ ∧ s.progress = ⟨2, 3⟩ := by
  intro mode m crashes t
  obtain ⟨guards, extraction⟩ := context_is_innermost
  constructor
  · obtain ⟨s, made⟩ : ∃ s, Guarded.run ⟨t, []⟩ [.take (.type "Node"), .take (.phase .scanning),
        .take (.phase .merging), .release] = some s := ⟨_, rfl⟩
    obtain ⟨innermost, -, unwound⟩ := guards t _ s made
    obtain rfl := Option.some.inj made
    exact ⟨_, made, innermost, unwound⟩
  · have three : (Visit.ofModule {} m).length = 3 := by decide +kernel
    have told : callbacks 3 0 (Visit.ofModule {} m) =
        [⟨1, 3, "Node+Mode"⟩, ⟨2, 3, "Node"⟩, ⟨3, 3, "Timer"⟩] := by
      decide +kernel
    have crash : (callbacks 3 0 (Visit.ofModule {} m)).findIdx? crashes = some 1 := by
      rw [told]
      decide
    obtain ⟨-, -, atCallback⟩ := extraction m {} {} .epoch crashes t
    rw [three] at atCallback
    obtain ⟨s, made, context, progress, -, stopped⟩ := atCallback 1 (by decide)
    have unwound : s.unwind = ⟨t.context, s.tracking.progress⟩ := (guards t _ s made).2.2
    refine ⟨s.tracking, ?_, context, progress⟩
    rw [stopped crash, told, unwound, progress]
    rfl

end Extraction
end Concordance
