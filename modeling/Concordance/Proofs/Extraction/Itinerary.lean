import Concordance.Proofs.Extraction.Order
import Concordance.Proofs.Extraction.Tracking
/-!
The order of visits, told by nothing but the names visited before. A type that has been visited adds
none; any other adds the new names of its nested enums and then its own. The observer of an
extraction is told of just these names, one behind the other.
-/
namespace Concordance

open Compiled (TypeInfo Module)

namespace Visit

/-- Of the names those that are not known, each where it first stands. -/
def newNames (known names : List String) : List String := (names.filter (· ∉ known)).eraseDups

def namesAdded (visited : List String) (t : TypeInfo) : List String :=
  if t.fullName ∈ visited then []
  else
    newNames (t.fullName :: visited) ((t.nestedTypes.filter (·.isEnum)).map (·.fullName)) ++
      [t.fullName]

/-- The full names of the types in the order in which they are visited: first the top-level types
that are no shadows, then the enums listed by themselves. -/
def itinerary (settings : ExtractionSettings) (m : Module) : List String :=
  let visited := (topLevel settings m).foldl (fun visited t => visited ++ namesAdded visited t) []
  visited ++ newNames visited ((listedEnums m).map (·.fullName))

theorem newNames_cons_of_known {known : List String} {n : String} (h : n ∈ known)
    (names : List String) : newNames known (n :: names) = newNames known names := by
  rw [newNames, List.filter_cons_of_neg (by simpa using h), newNames]

theorem newNames_cons_of_new {known : List String} {n : String} (h : n ∉ known)
    (names : List String) :
    newNames known (n :: names) = n :: newNames (n :: known) names := by
  rw [newNames, List.filter_cons_of_pos (by simpa using h), List.eraseDups_cons,
    List.filter_filter, newNames]
  congr 3
  funext k
  simp [not_or, beq_eq_decide]

theorem newNames_congr {known known' : List String} (h : ∀ n, n ∈ known ↔ n ∈ known')
    (names : List String) : newNames known names = newNames known' names := by
  simp only [newNames, h]

theorem fullNames_unseen (seen : List String) (ts : List TypeInfo) :
    (unseen seen ts).1.map (·.fullName) = newNames seen (ts.map (·.fullName)) := by
  induction ts generalizing seen with
  | nil => rfl
  | cons t ts ih =>
    unfold unseen
    rw [List.map_cons]
    split
    · next known => rw [ih, newNames_cons_of_known known]
    · next new => rw [newNames_cons_of_new new, ← ih]; rfl

variable {settings : ExtractionSettings}

/-- The marks of a traversal are the names visited, so these alone decide how it goes on. -/
theorem fullNames_ofTopLevel {seen visited : List String} (marked : ∀ n, n ∈ seen ↔ n ∈ visited)
    (ts : List TypeInfo) : visited ++ (ofTopLevel settings seen ts).1.map (·.type.fullName) =
      (ts.filter (!settings.isShadow ·.name)).foldl
        (fun visited t => visited ++ namesAdded visited t) visited := by
  induction ts generalizing seen visited with
  | nil => simp [ofTopLevel]
  | cons t ts ih =>
    unfold ofTopLevel
    by_cases shadow : settings.isShadow t.name
    · rw [List.filter_cons_of_neg (by simpa using shadow), if_pos (by simp [shadow]), ih marked]
    rw [List.filter_cons_of_pos (by simpa using shadow), List.foldl_cons]
    by_cases known : t.fullName ∈ seen
    · rw [if_pos (by simp [known]), namesAdded, if_pos ((marked _).mp known), List.append_nil,
        ih marked]
    · let enums := t.nestedTypes.filter (·.isEnum)
      let added := newNames (t.fullName :: visited) (enums.map (·.fullName))
      have extended : ∀ n, n ∈ t.fullName :: seen ↔ n ∈ t.fullName :: visited := by simp [marked]
      have nested : (unseen (t.fullName :: seen) enums).1.map (·.fullName) = added := by
        rw [fullNames_unseen, newNames_congr extended]
      have behind : ∀ n, n ∈ (unseen (t.fullName :: seen) enums).2 ↔
          n ∈ visited ++ (added ++ [t.fullName]) := by
        intro n
        rw [(marks_unseen _ _).marked, nested, extended]
        simp only [List.mem_cons, List.mem_append, List.not_mem_nil, or_false]
        tauto
      rw [if_neg (by simp [shadow, known]), namesAdded,
        if_neg fun old => known ((marked _).mpr old), ← ih behind, ← nested]
      simp [ofNestedEnum, Function.comp_def, enums]

theorem fullNames_ofModule (settings : ExtractionSettings) (m : Module) :
    (ofModule settings m).map (·.type.fullName) = itinerary settings m := by
  let types := m.types.filter (·.declaringType.isNone)
  let visited := (topLevel settings m).foldl (fun visited t => visited ++ namesAdded visited t) []
  have names : (ofTopLevel settings [] types).1.map (·.type.fullName) = visited := by
    have unmarked : ∀ n, n ∈ ([] : List String) ↔ n ∈ ([] : List String) := fun _ => Iff.rfl
    rw [← List.nil_append (List.map _ _), fullNames_ofTopLevel unmarked, ← topLevel_eq_filter]
  have marked : ∀ n, n ∈ (ofTopLevel settings [] types).2 ↔ n ∈ visited := by
    intro n
    rw [(marks_ofTopLevel settings [] types).marked, names, List.mem_nil_iff, false_or]
  have listed : (unseen (ofTopLevel settings [] types).2 (listedEnums m)).1.map (·.fullName) =
      newNames visited ((listedEnums m).map (·.fullName)) := by
    rw [fullNames_unseen, newNames_congr marked]
  calc (ofModule settings m).map (·.type.fullName)
    _ = (ofTopLevel settings [] types).1.map (·.type.fullName) ++
        (unseen (ofTopLevel settings [] types).2 (listedEnums m)).1.map (·.fullName) := by
      simp [ofModule, types, listedEnums, ofListedEnum, ofNestedEnum, Function.comp_def]
    _ = itinerary settings m := by rw [names, listed]; rfl

end Visit

namespace Extraction

/-- Every type is visited once, in the order that the module gives, and the observer is told of it
with its place in the order. Behind the last visit as many types are done as there are to do. -/
theorem visits_each_once (m : Module) (host : Host) (settings : ExtractionSettings)
    (now : Instant) (t : Tracking) :
    let names := Visit.itinerary settings m
    let n := names.length
    let observed := run m host settings now (fun _ => false) t
    names.Nodup ∧
      observed.1.steps = names.mapIdx (fun i name => ⟨i + 1, n, name⟩) ∧
      observed.2.progress = ⟨UInt64.ofNat n, UInt64.ofNat n⟩ ∧
      (n < UInt64.size → observed.2.progress.processed.toNat = n ∧
        observed.2.progress.total.toNat = n) := by
  intro names n observed
  have order : (Visit.ofModule settings m).map (·.type.fullName) = names :=
    Visit.fullNames_ofModule settings m
  have count : (Visit.ofModule settings m).length = n := by
    rw [← List.length_map (f := (·.type.fullName)), order]
  have told : observed = _ := run_quiet m host settings now t
  have progress : observed.2.progress = ⟨UInt64.ofNat n, UInt64.ofNat n⟩ := by
    rw [told, ← count]
    rfl
  refine ⟨order ▸ Visit.nodup_fullNames settings m, ?_, progress, fun small => ?_⟩
  · rw [told, count, ← order]
    refine List.ext_getElem (by simp [callbacks]) fun i _ _ => ?_
    simp [callbacks]
  · rw [progress]
    exact ⟨UInt64.toNat_ofNat_of_lt' small, UInt64.toNat_ofNat_of_lt' small⟩

/-- A shadow is passed over with its enum, and a class listed again adds nothing; of its enums one
is nested twice and listed too, and one is only listed. -/
theorem visits_each_once_listed_again :
    let mode : TypeInfo := { name := "Mode", declaringType := some "Node", isEnum := true }
    let kind : TypeInfo := { name := "Kind", declaringType := some "Node", isEnum := true }
    let node : TypeInfo := { name := "Node", nestedTypes := [mode, mode] }
    let shadow : TypeInfo := { name := "NodeInstance", nestedTypes := [mode, kind] }
    let m : Module := { types := [kind, shadow, node, mode, { node with nestedTypes := [kind] }] }
    let observed := run m {} {} .epoch (fun _ => false) {}
    3 < UInt64.size ∧
      observed.1.steps = [⟨1, 3, "Node+Mode"⟩, ⟨2, 3, "Node"⟩, ⟨3, 3, "Node+Kind"⟩] ∧
      observed.2.progress.processed.toNat = 3 ∧ observed.2.progress.total.toNat = 3 := by
  intro mode kind node shadow m observed
  have names : Visit.itinerary {} m = ["Node+Mode", "Node", "Node+Kind"] := by decide +kernel
  have small : 3 < UInt64.size := by decide
  obtain ⟨-, told, -, progress⟩ := visits_each_once m {} {} .epoch {}
  rw [names] at told progress
  exact ⟨small, told, progress small⟩

end Extraction

end Concordance
