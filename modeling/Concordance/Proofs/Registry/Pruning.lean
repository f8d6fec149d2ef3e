import Concordance.Proofs.Registry.Lossless
import Concordance.Registry.Lookup
/-!
What pruning changes for those who read a registry. Readers pass over a logical name that is empty
or has no variants, as pruning does, but only pruning looks at the full names of the variants. So
the two agree where no variant lies under an empty full name, and there alone.
-/
namespace Concordance.Registry

theorem get?_visibleTypes_eq (r : Registry) (name : String) :
    r.visibleTypes.get? name = r.variants? name := SortedMap.get?_filter _ _ _

/-- Pruning takes the variant without a name out of each group, and then the groups left empty. -/
theorem variants?_prune (r : Registry) (name : String) :
    r.prune.variants? name = ((r.variants? name).map (·.erase "")).filter (!·.isEmpty) := by
  have types : r.prune.types.get? name =
      ((r.types.get? name).map (·.erase "")).filter (isVisible name) := by
    rw [prune, SortedMap.get?_filter, SortedMap.get?_map]
    rfl
  unfold variants?
  rw [types, Option.filter_filter]
  cases r.types.get? name with
  | none => rfl
  | some vs =>
    have stillEmpty : vs.isEmpty = true → (vs.erase "").isEmpty = true := by
      simp only [SortedMap.isEmpty, SortedMap.erase, SortedMap.filter, List.isEmpty_iff]
      intro empty
      rw [empty, List.filter_nil]
    cases empty : vs.isEmpty <;> by_cases unnamed : name = "" <;>
      simp_all [isVisible, Option.filter]

theorem visibleTypes_prune (r : Registry) : r.prune.visibleTypes =
    (r.visibleTypes.map fun _ vs => vs.erase "").filter fun _ vs => !vs.isEmpty := by
  apply SortedMap.ext_get?
  intro name
  rw [SortedMap.get?_filter, SortedMap.get?_map, get?_visibleTypes_eq, get?_visibleTypes_eq]
  exact r.variants?_prune name

theorem length_typeEntries (r : Registry) : r.typeEntries.length =
    r.prune.typeEntries.length + (r.visibleTypes.values.filter (·.contains "")).length := by
  have groups : r.prune.visibleTypes.values =
      (r.visibleTypes.values.map (·.erase "")).filter (!·.isEmpty) := by
    rw [visibleTypes_prune]
    simp [SortedMap.values, SortedMap.filter, SortedMap.map, List.filter_map, Function.comp_def]
  unfold typeEntries
  rw [groups]
  generalize r.visibleTypes.values = vss
  induction vss with
  | nil => rfl
  | cons vs vss ih =>
    have own : vs.values.length = vs.size := List.length_map _
    have kept : (([vs.erase ""].filter (!·.isEmpty)).flatMap (·.values)).length =
        (vs.erase "").size := by
      cases empty : (vs.erase "").isEmpty with
      | true => simp_all [SortedMap.isEmpty, SortedMap.size]
      | false => simp [empty, SortedMap.values, SortedMap.size]
    have taken : ([vs].filter (·.contains "")).length = if vs.contains "" then 1 else 0 := by
      cases unnamed : vs.contains "" <;> simp [unnamed]
    rw [← List.singleton_append (l := vss), List.map_append, List.map_singleton,
      List.filter_append, List.filter_append, List.flatMap_append, List.flatMap_append,
      List.length_append, List.length_append, List.length_append, kept, taken, ih,
      List.flatMap_singleton, own, vs.size_eq_size_erase ""]
    omega

/-- Two registries whose types no reader can tell apart. -/
structure ReadsAlike (r s : Registry) : Prop where
  types : r.visibleTypes = s.visibleTypes
  variants (n : String) : r.variants? n = s.variants? n
  typeEntries : r.typeEntries = s.typeEntries
  typeCount : r.typeCount = s.typeCount
  typesNamed (n : String) : r.typesNamed n = s.typesNamed n
  knowsType (n : String) : r.knowsType n = s.knowsType n
  counts : RegistryCounts.of r = RegistryCounts.of s
  text : (codec.encode r).toText = (codec.encode s).toText

theorem variants?_prune_of_named {r : Registry} {n : String}
    (named : ∀ vs, r.variants? n = some vs → vs.contains "" = false) :
    r.prune.variants? n = r.variants? n := by
  rw [variants?_prune]
  cases found : r.variants? n with
  | none => rfl
  | some vs =>
    have absent : vs.get? "" = none := by simpa [SortedMap.contains] using named vs found
    have visible := (r.get?_visibleTypes n vs).mp ((r.get?_visibleTypes_eq n).trans found)
    have nonempty : vs.isEmpty = false := visible.2.2
    rw [Option.map_some, SortedMap.erase_eq_self absent,
      Option.filter_some_pos (by simp [nonempty])]

theorem readsAlike_of_visibleTypes {r : Registry} (types : r.visibleTypes = r.prune.visibleTypes) :
    r.ReadsAlike r.prune := by
  have variants (n : String) : r.variants? n = r.prune.variants? n := by
    rw [← get?_visibleTypes_eq, ← get?_visibleTypes_eq, types]
  have visible : r.visible = r.prune.visible := congrArg (fun types => { r with types }) types
  exact {
    types
    variants
    typeEntries := congrArg (·.values.flatMap (·.values)) types
    typeCount := congrArg (·.size) types
    typesNamed := fun n => congrArg (fun vs? => (vs?.map (·.values)).getD []) (variants n)
    knowsType := fun n =>
      congrArg (fun vs? : Option Variants => vs?.isSome || r.global.types.contains n) (variants n)
    counts := by rw [← r.counts_visible, ← r.prune.counts_visible, visible]
    text := by rw [← r.encode_visible, ← r.prune.encode_visible, visible] }

/-- What pruning takes away: the variants under an empty full name, and the groups that have no
others. Without such variants no reader can tell a registry from the pruned one; with them the
counts differ by their number. -/
theorem readsAlike_prune_iff (r : Registry) :
    (∀ n, r.prune.variants? n = ((r.variants? n).map (·.erase "")).filter (!·.isEmpty)) ∧
      (RegistryCounts.of r).binaryVariants = (RegistryCounts.of r.prune).binaryVariants +
        (r.visibleTypes.values.filter (·.contains "")).length ∧
      (r.ReadsAlike r.prune ↔ ∀ n vs, r.variants? n = some vs → vs.contains "" = false) := by
  refine ⟨r.variants?_prune, r.length_typeEntries, fun alike n vs found => ?_, fun named => ?_⟩
  · have same : r.typeEntries.length = r.prune.typeEntries.length :=
      congrArg (·.binaryVariants) alike.counts
    have none : r.visibleTypes.values.filter (·.contains "") = [] :=
      List.length_eq_zero_iff.mp (by have := r.length_typeEntries; omega)
    have group := SortedMap.mem_values_iff.mpr ⟨n, (r.get?_visibleTypes_eq n).trans found⟩
    simpa using List.filter_eq_nil_iff.mp none vs group
  · apply readsAlike_of_visibleTypes
    apply SortedMap.ext_get?
    intro n
    rw [get?_visibleTypes_eq, get?_visibleTypes_eq, variants?_prune_of_named (named n)]

-- A type without a name counts until it is pruned, and its logical name with it.
example :
    let node : TypeEntry := { logicalName := "Node", binaryName := "" }
    let r : Registry := { types := .ofList [("Node", .ofList [("", node)])] }
    r.knowsType "Node" = true ∧ r.prune.knowsType "Node" = false ∧
      r.typeCount = 1 ∧ r.prune.typeCount = 0 := by
  decide +kernel

end Concordance.Registry
