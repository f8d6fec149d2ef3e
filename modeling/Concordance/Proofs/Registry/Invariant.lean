import Concordance.Proofs.Extraction.Step
import Concordance.Proofs.Override.History
import Concordance.Proofs.Registry.Filing
import Concordance.Proofs.Registry.Index
import Concordance.Proofs.Resolution.Publishing
/-!
What holds of a registry however it came about. Each operation on a registry keeps its form: an
entry lies under its own two names, and nothing that is kept is empty.
-/
namespace Concordance

open Json

namespace Registry

inductive Operation where
  | storeType (t : TypeEntry)
  | addOverloads (name : String) (ms : List Method)
  /-- Resolve a type, publish it if it provides globals, and store it. -/
  | resolveInto (r : Resolver) (t : Compiled.TypeInfo) (logicalName : String)
  | merge (o : Overrides)
  | reindex
  | prune

namespace Operation

def apply : Operation → Registry → Registry
  | storeType t, r => r.storeType t
  | addOverloads name ms, r => { r with global := r.global.addOverloads name ms }
  | resolveInto resolver t logicalName, r => (resolver.resolveInto t logicalName r).1
  | merge o, r => (r.merge o).1
  | reindex, r => { r with global := r.global.reindex }
  | prune, r => r.prune

def run (ops : List Operation) (r : Registry) : Registry := ops.foldl (fun r op => op.apply r) r

end Operation

end Registry

/-- No list of the global scope is kept empty. -/
structure GlobalScope.WellFormed (g : GlobalScope) : Prop where
  methods : ∀ n, g.methods.get? n ≠ some []
  enums : ∀ n, g.enums.get? n ≠ some []
  enumsOfConstant : ∀ n, g.enumsOfConstant.get? n ≠ some []

/-- Entries lie under their own two names, which are not empty, and no name is kept without an
entry. -/
structure Registry.WellFormed (r : Registry) : Prop where
  global : r.global.WellFormed
  logicalName : ∀ l vs, r.types.get? l = some vs → l ≠ "" ∧ vs.isEmpty = false
  fullName : ∀ l f t, r.entryAt? l f = some t →
    f ≠ "" ∧ t.logicalName = l ∧ t.binaryFullName = f

namespace GlobalScope.WellFormed

variable {g : GlobalScope}

theorem empty : WellFormed {} := ⟨by simp, by simp, by simp⟩

theorem addOverloads (h : g.WellFormed) (name : String) (ms : List Method) :
    (g.addOverloads name ms).WellFormed := by
  rw [addOverloads_eq]
  refine ⟨fun n => ?_, h.enums, h.enumsOfConstant⟩
  rw [SortedMap.get?_appendAt]
  split
  · exact SortedMap.appendBinding_ne_nil (h.methods n) ms
  · exact h.methods n

theorem publish (h : g.WellFormed) (t : TypeEntry) : (g.publish t).WellFormed where
  methods n := get?_publish_methods_ne_nil t (h.methods n)
  enums n := get?_publish_enums_ne_nil t (h.enums n)
  enumsOfConstant n := by
    rw [enumsOfConstant_publish]
    exact h.enumsOfConstant n

theorem foldl_publish (h : g.WellFormed) (ts : List TypeEntry) :
    (ts.foldl GlobalScope.publish g).WellFormed := by
  induction ts generalizing g with
  | nil => exact h
  | cons t ts ih => exact ih (h.publish t)

theorem reindex (h : g.WellFormed) : g.reindex.WellFormed :=
  ⟨h.methods, h.enums, get?_indexOf_ne_nil g.enums⟩

theorem merge (h : g.WellFormed) (o : Overrides) : (g.merge o).1.WellFormed where
  methods n := by
    rw [merge_methods]
    exact Override.get?_mergeTable_ne_nil (.inr (Override.get?_mergeTable_ne_nil
      (.inr (h.methods n))))
  enums n := Override.get?_mergeTable_ne_nil (.inr (h.enums n))
  enumsOfConstant := get?_indexOf_ne_nil _

end GlobalScope.WellFormed

namespace Registry

namespace WellFormed

variable {r : Registry}

theorem new (metadata : Metadata) : WellFormed { metadata } :=
  ⟨.empty, by simp, by simp [entryAt?]⟩

theorem withGlobal (h : r.WellFormed) {g : GlobalScope} (global : g.WellFormed) :
    WellFormed { r with global := g } := ⟨global, h.logicalName, h.fullName⟩

theorem storeType (h : r.WellFormed) (t : TypeEntry) : (r.storeType t).WellFormed := by
  cases named : t.isNamed with
  | false => rwa [storeType_of_not_isNamed named]
  | true =>
    obtain ⟨logical, full⟩ : t.logicalName ≠ "" ∧ t.binaryFullName ≠ "" := by
      simpa [TypeEntry.isNamed] using named
    refine ⟨(r.global_storeType t).symm ▸ h.global, fun l vs found => ?_, fun l f u found => ?_⟩
    · rw [types_storeType named, SortedMap.get?_alter] at found
      split at found
      · next own =>
        have key := SortedMap.get?_insert_self ((r.types.get? t.logicalName).getD .empty)
          t.binaryFullName t
        obtain rfl := Option.some.inj found
        exact ⟨own ▸ logical, SortedMap.isEmpty_eq_false key⟩
      · exact h.logicalName l vs found
    · rw [entryAt?_storeType r named] at found
      split at found
      · next own =>
        obtain rfl := Option.some.inj found
        exact ⟨own.2 ▸ full, own.1.symm, own.2.symm⟩
      · exact h.fullName l f u found

theorem resolveInto (h : r.WellFormed) (resolver : Resolver) (t : Compiled.TypeInfo)
    (logicalName : String) : (resolver.resolveInto t logicalName r).1.WellFormed := by
  rw [Resolver.registry_resolveInto]
  apply storeType
  apply h.withGlobal
  unfold Resolver.globalAfter
  split
  · exact h.global.publish _
  · exact h.global

theorem files (h : r.WellFormed) : r.Files (r.types.values.flatMap (·.values)) where
  entryAt l f t := by
    simp only [List.mem_flatMap, SortedMap.mem_values_iff]
    constructor
    · intro found
      obtain ⟨vs, group, entry⟩ := Option.bind_eq_some_iff.mp found
      exact ⟨⟨vs, ⟨l, group⟩, f, entry⟩, (h.fullName l f t found).2⟩
    · rintro ⟨⟨vs, ⟨k, group⟩, e, entry⟩, rfl, rfl⟩
      have found : r.entryAt? k e = some t := Option.bind_eq_some_iff.mpr ⟨vs, group, entry⟩
      obtain ⟨-, logical, full⟩ := h.fullName k e t found
      rwa [logical, full]
  named t ht := by
    simp only [List.mem_flatMap, SortedMap.mem_values_iff] at ht
    obtain ⟨vs, ⟨l, group⟩, f, entry⟩ := ht
    have found : r.entryAt? l f = some t := Option.bind_eq_some_iff.mpr ⟨vs, group, entry⟩
    obtain ⟨named, rfl, rfl⟩ := h.fullName l f t found
    simp [TypeEntry.isNamed, named, (h.logicalName _ vs group).1]
  nonempty l vs group := (h.logicalName l vs group).2

theorem prune_eq (h : r.WellFormed) : r.prune = r := h.files.prune_eq

theorem prune (h : r.WellFormed) : r.prune.WellFormed := by
  rwa [h.prune_eq]

theorem visibleTypes_eq (h : r.WellFormed) : r.visibleTypes = r.types := by
  apply SortedMap.ext
  refine List.filter_eq_self.mpr ?_
  rintro ⟨l, vs⟩ he
  exact h.files.isVisible (SortedMap.mem_entries_iff.mp he)

theorem knowsMethod_none (h : r.WellFormed) {n : String}
    (plain : ∀ c ∈ n.toList.head?, c.isUpper = false) :
    r.knowsMethod none n = r.global.methods.contains n := by
  have name : methodName n = n := by
    unfold methodName
    split
    · next c _ start =>
      have lower : c.isUpper = false := plain c (by simp [start])
      simp [lower]
    · rfl
  rw [knowsMethod, name, SortedMap.contains_eq_of_ne_nil (h.global.methods n)]
  unfold hasOverload SortedMap.listAt
  cases (r.global.methods.get? n).getD [] <;> rfl

end WellFormed

/-- No operation gives up the form of a registry. -/
theorem WellFormed.apply {r : Registry} (h : r.WellFormed) (op : Operation) :
    (op.apply r).WellFormed := by
  cases op with
  | storeType t => exact h.storeType t
  | addOverloads name ms => exact h.withGlobal (h.global.addOverloads name ms)
  | resolveInto resolver t logicalName => exact h.resolveInto resolver t logicalName
  | merge o => exact h.withGlobal (h.global.merge o)
  | reindex => exact h.withGlobal h.global.reindex
  | prune => exact h.prune

theorem WellFormed.run {r : Registry} (h : r.WellFormed) (ops : List Operation) :
    (Operation.run ops r).WellFormed := by
  induction ops generalizing r with
  | nil => exact h
  | cons op ops ih => exact ih (h.apply op)

theorem mergeAll_eq_run (r : Registry) (history : List Overrides) :
    r.mergeAll history = Operation.run (history.map .merge) r := by
  unfold mergeAll Operation.run
  rw [List.foldl_map]
  rfl

theorem WellFormed.mergeAll {r : Registry} (h : r.WellFormed) (history : List Overrides) :
    (r.mergeAll history).WellFormed := by
  rw [mergeAll_eq_run]
  exact h.run _

/-- A registry that operations have made of a new one is well-formed. So pruning it once more
changes nothing, all its types are written, and the methods without a receiver are those that have
an entry. -/
theorem operations_keep_form (metadata : Metadata) (ops : List Operation) :
    let r := Operation.run ops { metadata }
    r.WellFormed ∧ r.prune = r ∧
      typesCodec.encode r.types = (Codec.nameMap (.nameMap TypeEntry.codec)).encode r.types ∧
      ∀ n, (∀ c ∈ n.toList.head?, c.isUpper = false) →
        r.knowsMethod none n = r.global.methods.contains n := by
  intro r
  have form : r.WellFormed := (WellFormed.new metadata).run ops
  have written := congrArg (Codec.nameMap (.nameMap TypeEntry.codec)).encode form.visibleTypes_eq
  exact ⟨form, form.prune_eq, written, fun _ => form.knowsMethod_none⟩

theorem operations_keep_form_pow :
    let maths : Compiled.TypeInfo := {
      name := "Mathf"
      methods := [{ name := "Lerp", returnType := .ofFullName "System.Single" }]
      nestedTypes := [{
        name := "MethodName"
        declaringType := some "Mathf"
        initializer := some (.instructions [.loadString "lerp", .storeStaticField "Lerp"]) }] }
    let written : Overrides := {
      methods := .ofList
        [("lerp", [(Method.ofLogical "lerp" "Extra").param "weight" "System.Single"])]
      builtins := .ofList [("preload", [])] }
    let ops : List Operation := [
      .storeType { logicalName := "Node", binaryName := "Node", namespaceName := "Godot" },
      .storeType { logicalName := "", binaryName := "Nameless" },
      .resolveInto { host := {} } maths "Mathf", .addOverloads "pow" [], .merge written, .prune,
      .reindex]
    let r := Operation.run ops {}
    r.typeEntries.map (·.binaryFullName) = ["Mathf", "Godot.Node"] ∧
      r.global.methods.entries.map (fun e => (e.1, e.2.map (·.declaringType))) =
        [("lerp", ["Mathf", "Extra"])] ∧
      r.prune = r ∧ r.knowsMethod none "lerp" = true ∧ r.knowsMethod none "pow" = false := by
  intro maths written ops r
  obtain ⟨-, pruned, -, known⟩ := operations_keep_form {} ops
  have lerp : r.knowsMethod none "lerp" = r.global.methods.contains "lerp" :=
    known "lerp" (by simp)
  have pow : r.knowsMethod none "pow" = r.global.methods.contains "pow" := known "pow" (by simp)
  refine ⟨by decide +kernel, by decide +kernel, pruned, ?_, ?_⟩
  · rw [lerp]
    decide +kernel
  · rw [pow]
    decide +kernel

end Registry
end Concordance
