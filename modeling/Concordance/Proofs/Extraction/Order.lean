import Concordance.Proofs.Extraction.Publishing
/-!
The order in which a module lists its types. Where no full name is met twice, every type is visited
whatever stands before it, so another order permutes the visits and with them the lists that visits
append to.
-/
namespace Concordance

open Compiled (TypeInfo Module)

namespace Visit

def blockNames (t : TypeInfo) : List String :=
  t.fullName :: (t.nestedTypes.filter (·.isEnum)).map (·.fullName)

def block (settings : ExtractionSettings) (t : TypeInfo) : List Visit :=
  (t.nestedTypes.filter (·.isEnum)).map (ofNestedEnum settings t.logicalName) ++
    [⟨t, t.logicalName⟩]

def topLevel (settings : ExtractionSettings) (m : Module) : List TypeInfo :=
  m.types.filter fun t => t.declaringType.isNone && !settings.isShadow t.name

theorem topLevel_eq_filter (settings : ExtractionSettings) (m : Module) :
    topLevel settings m =
      (m.types.filter (·.declaringType.isNone)).filter (!settings.isShadow ·.name) := by
  rw [List.filter_filter, topLevel]
  exact List.filter_congr fun t _ => Bool.and_comm _ _

def listedEnums (m : Module) : List TypeInfo :=
  m.types.filter fun t => t.declaringType.isSome && t.isEnum

/-- No full name is met twice among the types that are visited with their enums, nor among the
enums listed by themselves. -/
structure DistinctNames (settings : ExtractionSettings) (m : Module) : Prop where
  topLevel : ((topLevel settings m).flatMap blockNames).Nodup
  listed : ((listedEnums m).map (·.fullName)).Nodup

theorem unseen_of_nodup {ts : List TypeInfo} (distinct : (ts.map (·.fullName)).Nodup)
    (seen : List String) : (unseen seen ts).1 = ts.filter fun t => t.fullName ∉ seen := by
  induction ts generalizing seen with
  | nil => rfl
  | cons t ts ih =>
    obtain ⟨differs, rest⟩ := List.nodup_cons.mp distinct
    unfold unseen
    by_cases known : t.fullName ∈ seen
    · rw [if_pos known, ih rest, List.filter_cons_of_neg (by simpa using known)]
    · rw [if_neg known, List.filter_cons_of_pos (by simpa using known)]
      refine congrArg (t :: ·) ((ih rest _).trans (List.filter_congr fun u hu => ?_))
      have other : u.fullName ≠ t.fullName := fun same =>
        differs (List.mem_map.mpr ⟨u, hu, same⟩)
      simp [other]

theorem fullNames_block (settings : ExtractionSettings) (t : TypeInfo) :
    ((block settings t).map (·.type.fullName)).Perm (blockNames t) := by
  simp [block, blockNames, ofNestedEnum, Function.comp_def, List.perm_append_singleton]

theorem unseen_block {t : TypeInfo} {seen : List String} (own : (blockNames t).Nodup)
    (new : ∀ n ∈ blockNames t, n ∉ seen) :
    (unseen (t.fullName :: seen) (t.nestedTypes.filter (·.isEnum))).1 =
        t.nestedTypes.filter (·.isEnum) ∧
      ∀ n, n ∈ (unseen (t.fullName :: seen) (t.nestedTypes.filter (·.isEnum))).2 ↔
        n ∈ seen ∨ n ∈ blockNames t := by
  obtain ⟨outer, inner⟩ := List.nodup_cons.mp own
  have all : (unseen (t.fullName :: seen) (t.nestedTypes.filter (·.isEnum))).1 =
      t.nestedTypes.filter (·.isEnum) := by
    rw [unseen_of_nodup inner]
    refine List.filter_eq_self.mpr fun u hu => ?_
    have name := List.mem_map_of_mem (f := TypeInfo.fullName) hu
    have other : u.fullName ≠ t.fullName := fun same => outer (same ▸ name)
    simpa [other] using new u.fullName (List.mem_cons_of_mem _ name)
  refine ⟨all, fun n => ?_⟩
  rw [(marks_unseen _ _).marked, all, blockNames, List.mem_cons, List.mem_cons, or_assoc,
    or_left_comm]

variable {settings : ExtractionSettings} {m : Module}

/-- Without a name met twice all types but the shadows are visited, with all their enums. -/
theorem ofTopLevel_of_nodup {ts : List TypeInfo} {seen : List String}
    (distinct : ((ts.filter (!settings.isShadow ·.name)).flatMap blockNames).Nodup)
    (fresh : ∀ n ∈ (ts.filter (!settings.isShadow ·.name)).flatMap blockNames, n ∉ seen) :
    (ofTopLevel settings seen ts).1 =
      (ts.filter (!settings.isShadow ·.name)).flatMap (block settings) := by
  induction ts generalizing seen with
  | nil => rfl
  | cons t ts ih =>
    unfold ofTopLevel
    by_cases shadow : settings.isShadow t.name
    · rw [List.filter_cons_of_neg (by simpa using shadow)] at distinct fresh ⊢
      rw [if_pos (by simp [shadow])]
      exact ih distinct fresh
    · rw [List.filter_cons_of_pos (by simpa using shadow), List.flatMap_cons] at distinct fresh ⊢
      obtain ⟨own, rest, apart⟩ := List.nodup_append.mp distinct
      have new : ∀ n ∈ blockNames t, n ∉ seen := fun n hn =>
        fresh n (List.mem_append_left _ hn)
      obtain ⟨nested, marked⟩ := unseen_block own new
      have stillFresh : ∀ n ∈ (ts.filter (!settings.isShadow ·.name)).flatMap blockNames,
          n ∉ (unseen (t.fullName :: seen) (t.nestedTypes.filter (·.isEnum))).2 := by
        intro n hn known
        rcases (marked n).mp known with known | here
        · exact fresh n (List.mem_append_right _ hn) known
        · exact apart n here n hn rfl
      rw [if_neg (by simp [shadow, new t.fullName List.mem_cons_self])]
      dsimp only
      rw [nested, ih rest stillFresh]
      simp [block]

/-- The visits where no name is met twice: a listed enum is left out if it has been visited with
the type that encloses it. -/
theorem ofModule_of_distinct (h : DistinctNames settings m) :
    ofModule settings m = (topLevel settings m).flatMap (block settings) ++
      ((listedEnums m).filter fun t =>
        t.fullName ∉ (topLevel settings m).flatMap blockNames).map (ofListedEnum settings) := by
  have visits : (ofTopLevel settings [] (m.types.filter (·.declaringType.isNone))).1 =
      (topLevel settings m).flatMap (block settings) := by
    rw [topLevel_eq_filter]
    exact ofTopLevel_of_nodup (topLevel_eq_filter settings m ▸ h.topLevel) (by simp)
  have marks := marks_ofTopLevel settings [] (m.types.filter (·.declaringType.isNone))
  have marked : ∀ n, n ∈ (ofTopLevel settings [] (m.types.filter (·.declaringType.isNone))).2 ↔
      n ∈ (topLevel settings m).flatMap blockNames := by
    intro n
    rw [marks.marked, visits, List.map_flatMap]
    simp [(fullNames_block settings _).mem_iff]
  unfold ofModule
  dsimp only
  rw [visits, unseen_congr marked]
  exact congrArg (_ ++ List.map _ ·) (unseen_of_nodup h.listed _)

theorem DistinctNames.perm {types : List TypeInfo} (h : DistinctNames settings m)
    (perm : types.Perm m.types) : DistinctNames settings { m with types } :=
  ⟨((perm.filter _).flatMap_right _).nodup_iff.mpr h.topLevel,
    ((perm.filter _).map _).nodup_iff.mpr h.listed⟩

theorem ofModule_perm {types : List TypeInfo} (perm : types.Perm m.types)
    (h : DistinctNames settings m) :
    (ofModule settings { m with types }).Perm (ofModule settings m) := by
  have blocks : (topLevel settings { m with types }).Perm (topLevel settings m) := perm.filter _
  have names := blocks.flatMap_right blockNames
  have listed : (listedEnums { m with types }).Perm (listedEnums m) := perm.filter _
  rw [ofModule_of_distinct h, ofModule_of_distinct (h.perm perm)]
  refine (blocks.flatMap_right _).append (List.Perm.map _ ?_)
  simp only [names.mem_iff]
  exact listed.filter _

theorem ownerNames_perm {vs ws : List Visit} (perm : vs.Perm ws)
    (distinct : (vs.map (·.type.fullName)).Nodup) : ownerNames vs = ownerNames ws := by
  refine SortedMap.ofList_perm ((perm.filter _).map _) ?_
  have owners := List.filter_sublist (p := fun v => !v.type.isEnum) (l := vs)
  simpa [Function.comp_def] using distinct.sublist (owners.map (·.type.fullName))

end Visit

/-- Two scopes that differ at most in the order of their lists, and in what they bind a property or
a constant to. -/
structure GlobalScope.AgreesUpToOrder (g h : GlobalScope) : Prop where
  methods : ∀ n, (g.methods.listAt n).Perm (h.methods.listAt n)
  enums : ∀ n, (g.enums.listAt n).Perm (h.enums.listAt n)
  methodNames : g.methods.keys = h.methods.keys
  propertyNames : g.properties.keys = h.properties.keys
  constantNames : g.constants.keys = h.constants.keys
  enumNames : g.enums.keys = h.enums.keys
  typeNames : g.types.keys = h.types.keys
  enumsOfConstant : g.enumsOfConstant = h.enumsOfConstant

/-- Two extractions that differ at most in the order in which visits were made, and in their
time. -/
structure Extraction.AgreesUpToOrder (x y : Extraction) : Prop where
  types : x.registry.types = y.registry.types
  global : x.registry.global.AgreesUpToOrder y.registry.global
  metadata : x.registry.metadata =
    { y.registry.metadata with extractedAt := x.registry.metadata.extractedAt }
  unresolved : x.unresolved.entries.Perm y.unresolved.entries

namespace GlobalScope

theorem agreesUpToOrder_of_perm {ts us : List TypeEntry} (perm : ts.Perm us) :
    AgreesUpToOrder (ts.foldl publish {}).reindex (us.foldl publish {}).reindex := by
  have formT := WellFormed.empty.foldl_publish ts
  have formU := WellFormed.empty.foldl_publish us
  have methods (n : String) : ((ts.foldl publish {}).methods.listAt n).Perm
      ((us.foldl publish {}).methods.listAt n) := by
    rw [listAt_foldl_publish_methods, listAt_foldl_publish_methods]
    exact (perm.flatMap_right _).append_left _
  have enums (n : String) : ((ts.foldl publish {}).enums.listAt n).Perm
      ((us.foldl publish {}).enums.listAt n) := by
    rw [listAt_foldl_publish_enums, listAt_foldl_publish_enums]
    exact (perm.flatMap_right _).append_left _
  have enumNames := SortedMap.keys_eq_of_perm formT.enums formU.enums enums
  constructor
  case methods => exact methods
  case enums => exact enums
  case methodNames => exact SortedMap.keys_eq_of_perm formT.methods formU.methods methods
  case propertyNames =>
    apply SortedMap.keys_congr
    intro n
    change (ts.foldl publish {}).properties.contains n = (us.foldl publish {}).properties.contains n
    rw [contains_foldl_publish_properties, contains_foldl_publish_properties, perm.any_eq]
  case constantNames =>
    apply SortedMap.keys_congr
    intro n
    change (ts.foldl publish {}).constants.contains n = (us.foldl publish {}).constants.contains n
    rw [contains_foldl_publish_constants, contains_foldl_publish_constants, perm.any_eq]
  case enumNames => exact enumNames
  case typeNames =>
    change (ts.foldl publish {}).types.keys = (us.foldl publish {}).types.keys
    rw [types_foldl_publish, types_foldl_publish]
  case enumsOfConstant => exact indexOf_congr enumNames enums

end GlobalScope

namespace Extraction

variable {m : Module} {settings : ExtractionSettings} {types : List TypeInfo}

theorem resolver_perm (perm : types.Perm m.types) (h : Visit.DistinctNames settings m)
    (host : Host) : resolver { m with types } host settings = resolver m host settings := by
  unfold resolver
  rw [Visit.ownerNames_perm (Visit.ofModule_perm perm h) (Visit.nodup_fullNames _ _)]

/-- An extraction does not depend on the order in which the module lists its types, but for the
order of lists and for the provider that a global property or constant is taken from. -/
theorem ofModule_agreesUpToOrder (m : Module) {types : List TypeInfo}
    (perm : types.Perm m.types) (host : Host) (settings : ExtractionSettings)
    (distinct : Visit.DistinctNames settings m) (now later : Instant) :
    (ofModule { m with types } host settings later).AgreesUpToOrder
      (ofModule m host settings now) := by
  have visits := Visit.ofModule_perm perm distinct
  have resolver := resolver_perm perm distinct host
  constructor
  case types =>
    have filed := files_ofModule { m with types } host settings later
    rw [resolver] at filed
    refine filed.types_eq (files_ofModule m host settings now) fun t => ?_
    exact ((visits.filter _).map _).mem_iff
  case global =>
    rw [global_ofModule, global_ofModule]
    unfold publishedScope
    rw [resolver]
    exact GlobalScope.agreesUpToOrder_of_perm ((visits.filter _).map _)
  case metadata =>
    rw [metadata_ofModule, metadata_ofModule]
    rfl
  case unresolved =>
    rw [unresolved_ofModule, unresolved_ofModule, resolver]
    exact visits.flatMap_right _

theorem ofModule_agreesUpToOrder_swap :
    let provider (name : String) (parameters : List Compiled.Parameter) : TypeInfo := {
      name
      methods := [{ name := "Print", returnType := .void, parameters }]
      nestedTypes := [
        { name := "ModeEnum", declaringType := some name, isEnum := true },
        { name := "MethodName"
          declaringType := some name
          initializer := some (.instructions [.loadString "print", .storeStaticField "Print"]) }] }
    let value : Compiled.Parameter :=
      { name := "value", position := 0, type := .ofFullName "System.Int64" }
    let gd := provider "GD" []
    let maths := provider "Mathf" [value]
    let m : Module := { types := [gd, maths] }
    let x := ofModule m {} {} .epoch
    let swapped := ofModule { m with types := [maths, gd] } {} {} .epoch
    let overloads (x : Extraction) := (x.registry.global.methods.listAt "print").map
      fun d => (d.declaringType, d.parameters.length)
    Visit.DistinctNames {} m ∧ swapped.AgreesUpToOrder x ∧
      overloads x = [("GD", 0), ("Mathf", 1)] ∧ overloads swapped = [("Mathf", 1), ("GD", 0)] := by
  intro provider value gd maths m x swapped overloads
  have distinct : Visit.DistinctNames {} m := ⟨by decide +kernel, by decide +kernel⟩
  exact ⟨distinct, ofModule_agreesUpToOrder m (.swap gd maths []) {} {} distinct _ _,
    by decide +kernel, by decide +kernel⟩

end Extraction
end Concordance
