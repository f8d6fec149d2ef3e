import Concordance.Proofs.Extraction.Step
import Concordance.Proofs.Extraction.Visits
import Concordance.Proofs.Registry.Filing
import Concordance.Registry.Counts
/-!
What an extraction files. Each visited type with both names has one entry, which is what the type is
resolved to by itself, and there are no others. What stays unresolved is what the visits leave, one
behind the other.
-/
namespace Concordance

open Compiled (TypeInfo Module)

namespace Resolver

variable (r : Resolver) (t : TypeInfo) (logicalName : String)

theorem exists_resolve_eq : ∃ methods properties signals constants enums,
    (r.resolve t logicalName).1 =
      { bareEntry t logicalName with methods, properties, signals, constants, enums } := by
  rw [resolve_eq]
  split <;> exact ⟨_, _, _, _, _, rfl⟩

@[simp] theorem logicalName_resolve : (r.resolve t logicalName).1.logicalName = logicalName := by
  obtain ⟨_, _, _, _, _, same⟩ := r.exists_resolve_eq t logicalName
  rw [same]
  rfl

@[simp] theorem binaryFullName_resolve :
    (r.resolve t logicalName).1.binaryFullName = t.fullName := by
  obtain ⟨_, _, _, _, _, same⟩ := r.exists_resolve_eq t logicalName
  rw [same]
  rfl

theorem unresolved_resolveInto (registry : Registry) :
    (r.resolveInto t logicalName registry).2.2 = (r.resolve t logicalName).2 := by
  rw [resolveInto_eq]
  dsimp only
  split <;> rfl

end Resolver

namespace Visit

def entry (r : Resolver) (v : Visit) : TypeEntry := (r.resolve v.type v.logicalName).1

def unresolved (r : Resolver) (v : Visit) : List Unresolved :=
  (r.resolve v.type v.logicalName).2

def isNamed (v : Visit) : Bool := v.logicalName ≠ "" && v.type.fullName ≠ ""

@[simp] theorem logicalName_entry (r : Resolver) (v : Visit) :
    (v.entry r).logicalName = v.logicalName := r.logicalName_resolve v.type v.logicalName

@[simp] theorem binaryFullName_entry (r : Resolver) (v : Visit) :
    (v.entry r).binaryFullName = v.type.fullName := r.binaryFullName_resolve v.type v.logicalName

@[simp] theorem binaryName_entry (r : Resolver) (v : Visit) :
    (v.entry r).binaryName = v.type.name := by
  obtain ⟨_, _, _, _, _, same⟩ := r.exists_resolve_eq v.type v.logicalName
  rw [entry, same]
  rfl

@[simp] theorem declaringType_entry (r : Resolver) (v : Visit) :
    (v.entry r).declaringType = v.type.declaringType := by
  obtain ⟨_, _, _, _, _, same⟩ := r.exists_resolve_eq v.type v.logicalName
  rw [entry, same]
  rfl

@[simp] theorem isNamed_entry (r : Resolver) (v : Visit) : (v.entry r).isNamed = v.isNamed := by
  simp [TypeEntry.isNamed, isNamed]

end Visit

namespace Extraction

variable {r : Resolver} {x : Extraction} {es : List TypeEntry}

theorem unresolved_visit (v : Visit) :
    (x.visit r v).unresolved.entries = x.unresolved.entries ++ v.unresolved r := by
  change x.unresolved.entries ++ (r.resolveInto v.type v.logicalName x.registry).2.2 = _
  rw [Resolver.unresolved_resolveInto, Visit.unresolved]

theorem unresolved_foldl_visit (vs : List Visit) :
    (vs.foldl (visit r) x).unresolved.entries =
      x.unresolved.entries ++ vs.flatMap (·.unresolved r) := by
  induction vs generalizing x with
  | nil => simp
  | cons v vs ih =>
    rw [List.foldl_cons, ih, unresolved_visit, List.flatMap_cons, List.append_assoc]

/-- A visit files its entry, if that has both names, and leaves the others as they are. -/
theorem files_visit (h : x.registry.Files es) {v : Visit}
    (new : ∀ u ∈ es, u.binaryFullName ≠ v.type.fullName) :
    (x.visit r v).registry.Files (es ++ ([v].filter (·.isNamed)).map (·.entry r)) := by
  change (r.resolveInto v.type v.logicalName x.registry).1.Files _
  rw [Resolver.registry_resolveInto]
  have published : Registry.Files { x.registry with
      global := r.globalAfter v.type.name (v.entry r) x.registry.global } es :=
    ⟨h.entryAt, h.named, h.nonempty⟩
  have stored := published.storeType (t := v.entry r) (by simpa using new)
  have names : [v.entry r].filter (·.isNamed) = ([v].filter (·.isNamed)).map (·.entry r) := by
    cases named : v.isNamed <;> simp [named]
  exact names ▸ stored

theorem files_foldl_visit (h : x.registry.Files es) {vs : List Visit}
    (distinct : (vs.map (·.type.fullName)).Nodup)
    (new : ∀ v ∈ vs, ∀ u ∈ es, u.binaryFullName ≠ v.type.fullName) :
    (vs.foldl (visit r) x).registry.Files (es ++ (vs.filter (·.isNamed)).map (·.entry r)) := by
  induction vs generalizing x es with
  | nil => simpa using h
  | cons v vs ih =>
    obtain ⟨differs, rest⟩ := List.nodup_cons.mp distinct
    have filed := files_visit (r := r) h (new v List.mem_cons_self)
    have stillNew : ∀ w ∈ vs, ∀ u ∈ es ++ ([v].filter (·.isNamed)).map (·.entry r),
        u.binaryFullName ≠ w.type.fullName := by
      intro w hw u hu
      rcases List.mem_append.mp hu with hu | hu
      · exact new w (List.mem_cons_of_mem _ hw) u hu
      · obtain ⟨v', hv', rfl⟩ := List.mem_map.mp hu
        obtain rfl := List.mem_singleton.mp (List.mem_of_mem_filter hv')
        rw [Visit.binaryFullName_entry]
        exact fun same => differs (List.mem_map.mpr ⟨w, hw, same.symm⟩)
    have all := ih filed rest stillNew
    rw [List.append_assoc, ← List.map_append, ← List.filter_append] at all
    exact all

section OfModule

variable (m : Module) (host : Host) (settings : ExtractionSettings) (now : Instant)

theorem files_ofModule : (ofModule m host settings now).registry.Files
    (((Visit.ofModule settings m).filter (·.isNamed)).map
      (·.entry (resolver m host settings))) := by
  have started : (start m host now).registry.Files [] := .empty _ _
  have visited := files_foldl_visit (r := resolver m host settings) started
    (Visit.nodup_fullNames settings m) (by simp)
  -- The index is computed from the enums and does not touch the types.
  have indexed : Registry.Files { ((Visit.ofModule settings m).foldl
      (visit (resolver m host settings)) (start m host now)).registry with
        global := ((Visit.ofModule settings m).foldl (visit (resolver m host settings))
          (start m host now)).registry.global.reindex } _ :=
    ⟨visited.entryAt, visited.named, visited.nonempty⟩
  exact indexed.prune

theorem unresolved_ofModule : (ofModule m host settings now).unresolved.entries =
    (Visit.ofModule settings m).flatMap (·.unresolved (resolver m host settings)) :=
  unresolved_foldl_visit (x := start m host now) _

variable {m settings} in
theorem entryAt?_ofModule {v : Visit} (visited : v ∈ Visit.ofModule settings m)
    (named : v.isNamed = true) :
    (ofModule m host settings now).registry.entryAt? v.logicalName v.type.fullName =
      some (v.entry (resolver m host settings)) := by
  refine ((files_ofModule m host settings now).entryAt _ _ _).mpr ⟨?_, by simp, by simp⟩
  exact List.mem_map_of_mem (List.mem_filter.mpr ⟨visited, named⟩)

/-- An extraction neither loses, merges nor invents types. -/
theorem ofModule_holds_visited (m : Module) (host : Host) (settings : ExtractionSettings)
    (now : Instant) :
    let x := ofModule m host settings now
    let r := resolver m host settings
    let visits := Visit.ofModule settings m
    let named := visits.filter (·.isNamed)
    (visits.map (·.type.fullName)).Nodup ∧
      (∀ l f t, x.registry.entryAt? l f = some t ↔
        ∃ v ∈ named, v.logicalName = l ∧ v.type.fullName = f ∧ v.entry r = t) ∧
      (∀ l vs, x.registry.types.get? l = some vs → vs.isEmpty = false) ∧
      x.registry.typeEntries.Perm (named.map (·.entry r)) ∧
      (RegistryCounts.of x.registry).binaryVariants = named.length ∧
      x.unresolved.entries = visits.flatMap (·.unresolved r) := by
  intro x r visits named
  have files : x.registry.Files (named.map (·.entry r)) := files_ofModule m host settings now
  have distinct : (named.map (·.entry r)).Nodup := by
    have names := (Visit.nodup_fullNames settings m).sublist
      (List.filter_sublist.map (·.type.fullName) : (named.map _).Sublist _)
    refine List.Nodup.of_map TypeEntry.binaryFullName ?_
    simpa [Function.comp_def] using names
  have perm := files.perm_typeEntries distinct
  refine ⟨Visit.nodup_fullNames settings m, fun l f t => ?_, files.nonempty, perm, ?_,
    unresolved_ofModule m host settings now⟩
  · rw [files.entryAt, List.mem_map]
    constructor
    · rintro ⟨⟨v, hv, rfl⟩, rfl, rfl⟩
      exact ⟨v, hv, by simp⟩
    · rintro ⟨v, hv, rfl, rfl, rfl⟩
      exact ⟨⟨v, hv, rfl⟩, by simp⟩
  · exact perm.length_eq.trans (List.length_map _)

end OfModule

end Extraction
end Concordance
