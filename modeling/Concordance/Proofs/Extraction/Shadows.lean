import Concordance.Proofs.Extraction.NestedEnum
import Concordance.Proofs.Extraction.Order
/-!
Types that stand for an instance. At the top level they are passed over with the enums nested in
them. The names of enums are not looked at, though, and an enum that the module lists by itself is
visited whatever it is declared in, so just such enums get in.
-/
namespace Concordance

open Compiled (TypeInfo Module)

namespace Visit

section Met

variable (settings : ExtractionSettings) (m : Module)

def shadows : List TypeInfo :=
  m.types.filter fun t => t.declaringType.isNone && settings.isShadow t.name

def Shadowed (t : TypeInfo) : Prop :=
  settings.isShadow t.name = true ∨ ∃ s ∈ shadows settings m, t.declaringType = some s.fullName

/-- The enums that are met: nested in a top-level type that is no shadow, or listed by
themselves. -/
def enumsMet : List TypeInfo :=
  (topLevel settings m).flatMap (fun t => t.nestedTypes.filter (·.isEnum)) ++ listedEnums m

def typesMet : List TypeInfo := topLevel settings m ++ enumsMet settings m

/-- Nested enums are declared in the type that nests them, and a full name is that of one type. -/
structure Identified : Prop where
  declared : ∀ t ∈ topLevel settings m, ∀ u ∈ t.nestedTypes.filter (·.isEnum),
    u.declaringType = some t.fullName
  unique : ∀ t ∈ typesMet settings m, ∀ u ∈ typesMet settings m, t.fullName = u.fullName → t = u

end Met

variable {settings : ExtractionSettings} {m : Module} {v : Visit} {t : TypeInfo}

theorem fullName_mem_ofTopLevel {seen : List String} {ts : List TypeInfo} (h : t ∈ ts)
    (plain : settings.isShadow t.name = false) : t.fullName ∈ (ofTopLevel settings seen ts).2 := by
  induction ts generalizing seen with
  | nil => cases h
  | cons u ts ih =>
    unfold ofTopLevel
    split
    · next skipped =>
      rcases List.mem_cons.mp h with rfl | h
      · have known : t.fullName ∈ seen := by simpa [plain] using skipped
        exact ((marks_ofTopLevel settings seen ts).marked _).mpr (.inl known)
      · exact ih h
    · rcases List.mem_cons.mp h with rfl | h
      · refine ((marks_ofTopLevel settings _ ts).marked _).mpr (.inl ?_)
        exact ((marks_unseen _ _).marked _).mpr (.inl List.mem_cons_self)
      · exact ih h

section OfModule

theorem mem_topLevel : t ∈ topLevel settings m ↔
    (t ∈ m.types.filter (·.declaringType.isNone)) ∧ settings.isShadow t.name = false := by
  simp [topLevel, and_assoc]

theorem exists_visit_of_marked {n : String}
    (marked : n ∈ (unseen (ofTopLevel settings [] (m.types.filter (·.declaringType.isNone))).2
      (listedEnums m)).2) : ∃ v ∈ ofModule settings m, v.type.fullName = n :=
  List.mem_map.mp ((((marks_ofModule settings m).marked n).mp marked).resolve_left
    List.not_mem_nil)

/-- What a visit comes from, and for a top-level type that the names of its enums are visited. -/
theorem source_of_mem_ofModule (h : v ∈ ofModule settings m) :
    (v.type ∈ topLevel settings m ∧ ∀ u ∈ v.type.nestedTypes.filter (·.isEnum),
        ∃ w ∈ ofModule settings m, w.type.fullName = u.fullName) ∨
      v.type ∈ enumsMet settings m := by
  rcases List.mem_append.mp h with h | h
  · rcases ofTopLevel_cases h with ⟨listed, plain, -, marked⟩ | ⟨o, listed, plain, u, nested, rfl⟩
    · refine .inl ⟨mem_topLevel.mpr ⟨listed, plain⟩, fun u hu => exists_visit_of_marked ?_⟩
      exact ((marks_unseen _ (listedEnums m)).marked _).mpr (.inl (marked u hu))
    · refine .inr (List.mem_append_left _ (List.mem_flatMap.mpr ⟨o, ?_, nested⟩))
      exact mem_topLevel.mpr ⟨listed, plain⟩
  · obtain ⟨u, hu, rfl⟩ := List.mem_map.mp h
    exact .inr (List.mem_append_right _ (mem_of_mem_unseen hu))

theorem mem_typesMet (h : v ∈ ofModule settings m) : v.type ∈ typesMet settings m :=
  List.mem_append.mpr ((source_of_mem_ofModule h).imp_left And.left)

theorem exists_visit_of_mem_topLevel (h : t ∈ topLevel settings m) :
    ∃ v ∈ ofModule settings m, v.type.fullName = t.fullName := by
  obtain ⟨listed, plain⟩ := mem_topLevel.mp h
  refine exists_visit_of_marked (((marks_unseen _ (listedEnums m)).marked _).mpr (.inl ?_))
  exact fullName_mem_ofTopLevel listed plain

theorem exists_visit_of_mem_listedEnums (h : t ∈ listedEnums m) :
    ∃ v ∈ ofModule settings m, v.type.fullName = t.fullName :=
  exists_visit_of_marked (fullName_mem_unseen h)

theorem isEnum_of_mem_enumsMet (h : t ∈ enumsMet settings m) : t.isEnum = true := by
  rcases List.mem_append.mp h with h | h
  · obtain ⟨o, -, nested⟩ := List.mem_flatMap.mp h
    exact (List.mem_filter.mp nested).2
  · exact (Bool.and_eq_true_iff.mp (List.mem_filter.mp h).2).2

theorem Identified.declaringType_isSome (h : Identified settings m)
    (met : t ∈ enumsMet settings m) : t.declaringType.isSome = true := by
  rcases List.mem_append.mp met with met | met
  · obtain ⟨o, topLevel, nested⟩ := List.mem_flatMap.mp met
    rw [h.declared o topLevel t nested, Option.isSome_some]
  · exact (Bool.and_eq_true_iff.mp (List.mem_filter.mp met).2).1

theorem Identified.exists_visit_iff (h : Identified settings m) :
    (∃ v ∈ ofModule settings m, v.type = t) ↔ t ∈ typesMet settings m := by
  have named {t : TypeInfo} (met : t ∈ typesMet settings m)
      (visited : ∃ v ∈ ofModule settings m, v.type.fullName = t.fullName) :
      ∃ v ∈ ofModule settings m, v.type = t := by
    obtain ⟨v, hv, same⟩ := visited
    exact ⟨v, hv, h.unique _ (mem_typesMet hv) _ met same⟩
  constructor
  · rintro ⟨v, hv, rfl⟩
    exact mem_typesMet hv
  · intro met
    rcases List.mem_append.mp met with topLevel | isEnum
    · exact named met (exists_visit_of_mem_topLevel topLevel)
    rcases List.mem_append.mp isEnum with nested | listed
    · obtain ⟨o, topLevel, nested⟩ := List.mem_flatMap.mp nested
      obtain ⟨v, hv, rfl⟩ := named (List.mem_append_left _ topLevel)
        (exists_visit_of_mem_topLevel topLevel)
      rcases source_of_mem_ofModule hv with ⟨-, names⟩ | asEnum
      · exact named met (names t nested)
      · -- A top-level type declares nothing that it is nested in.
        have undeclared := (List.mem_filter.mp (mem_topLevel.mp topLevel).1).2
        have declared := h.declaringType_isSome asEnum
        simp_all
    · exact named met (exists_visit_of_mem_listedEnums listed)

theorem not_shadowed_of_mem_topLevel (h : t ∈ topLevel settings m) : ¬Shadowed settings m t := by
  obtain ⟨listed, plain⟩ := mem_topLevel.mp h
  have undeclared : t.declaringType = none := by simpa using (List.mem_filter.mp listed).2
  simp [Shadowed, plain, undeclared]

theorem mem_enumsMet_of_shadowed (h : v ∈ ofModule settings m)
    (shadowed : Shadowed settings m v.type) : v.type ∈ enumsMet settings m :=
  (source_of_mem_ofModule h).resolve_left fun ⟨topLevel, _⟩ =>
    not_shadowed_of_mem_topLevel topLevel shadowed

/-- What a visit leaves unresolved is recorded for its type, or for an enum nested in a type that is
none. -/
theorem binaryType_of_mem_unresolved {r : Resolver} {u : Unresolved} (h : u ∈ v.unresolved r) :
    u.binaryType = v.type.fullName ∨
      v.type.isEnum = false ∧ ∃ b ∈ v.type.nestedTypes.filter (·.isEnum),
        u.binaryType = b.fullName := by
  rw [unresolved, Resolver.resolve_eq] at h
  cases kind : v.type.isEnum with
  | true =>
    rw [if_pos kind] at h
    refine .inl ?_
    cases declared : v.type.declaringType with
    | none => simp_all [Resolver.resolveEnum, Unresolved.binaryType]
    | some outer =>
      rw [r.resolveEnum_of_declared declared] at h
      dsimp only at h
      split at h <;> simp_all [Unresolved.binaryType]
  | false =>
    rw [if_neg (by simp [kind])] at h
    rcases List.mem_append.mp h with h | h
    · obtain ⟨o, ho, left⟩ := List.mem_filterMap.mp h
      obtain ⟨name, -, rfl⟩ := List.mem_map.mp ho
      exact (Resolution.binaryType_of_unresolved?_enumOutcome left).imp_right
        fun nested => ⟨rfl, nested⟩
    · split at h
      · cases h
      · obtain rfl := List.mem_singleton.mp h
        exact .inl rfl

theorem exists_typesMet_of_mem_unresolved {r : Resolver} {u : Unresolved}
    (visited : v ∈ ofModule settings m) (h : u ∈ v.unresolved r) :
    ∃ t ∈ typesMet settings m, u.binaryType = t.fullName := by
  rcases binaryType_of_mem_unresolved h with own | ⟨notEnum, b, nested, name⟩
  · exact ⟨v.type, mem_typesMet visited, own⟩
  · rcases source_of_mem_ofModule visited with ⟨topLevel, -⟩ | isEnum
    · have met : b ∈ enumsMet settings m :=
        List.mem_append_left _ (List.mem_flatMap.mpr ⟨v.type, topLevel, nested⟩)
      exact ⟨b, List.mem_append_right _ met, name⟩
    · rw [isEnum_of_mem_enumsMet isEnum] at notEnum
      cases notEnum

end OfModule

end Visit

namespace Extraction

open Visit

variable {settings : ExtractionSettings} {m : Module}

theorem binaryName_of_entryAt? {host : Host} {now : Instant} {l f : String} {e : TypeEntry}
    (h : (ofModule m host settings now).registry.entryAt? l f = some e) :
    ∃ v ∈ Visit.ofModule settings m, e.binaryName = v.type.name ∧
      e.declaringType = v.type.declaringType := by
  obtain ⟨stored, -⟩ := ((files_ofModule m host settings now).entryAt l f e).mp h
  obtain ⟨v, hv, rfl⟩ := List.mem_map.mp stored
  exact ⟨v, List.mem_of_mem_filter hv, by simp, by simp⟩

/-- Types that stand for an instance are passed over with what is declared in them, unless they are
enums: if no enum that is met is of this kind, then none of it shows, neither among the visits nor
in the registry nor in what stays unresolved. But an enum that is met is stored, of this kind or
not. -/
theorem shadows_passed_over (m : Module) (host : Host) (settings : ExtractionSettings)
    (now : Instant) :
    let x := ofModule m host settings now
    let visits := Visit.ofModule settings m
    (∀ v ∈ visits, Shadowed settings m v.type → v.type ∈ enumsMet settings m) ∧
      ((∀ t ∈ enumsMet settings m, ¬Shadowed settings m t) →
        (∀ v ∈ visits, ¬Shadowed settings m v.type) ∧
        (∀ l f e, x.registry.entryAt? l f = some e → settings.isShadow e.binaryName = false ∧
          ∀ s ∈ shadows settings m, e.declaringType ≠ some s.fullName) ∧
        ∀ u ∈ x.unresolved.entries, ∃ t ∈ typesMet settings m,
          ¬Shadowed settings m t ∧ u.binaryType = t.fullName) ∧
      (Identified settings m → ∀ t ∈ enumsMet settings m,
        ∃ l e, x.registry.entryAt? l t.fullName = some e ∧ e.binaryName = t.name ∧
          e.declaringType = t.declaringType) := by
  intro x visits
  refine ⟨fun v => mem_enumsMet_of_shadowed, fun clear => ?_, fun identified t met => ?_⟩
  · have plain : ∀ t ∈ typesMet settings m, ¬Shadowed settings m t := fun t met =>
      (List.mem_append.mp met).elim not_shadowed_of_mem_topLevel (clear t)
    refine ⟨fun v visited => plain _ (mem_typesMet visited), fun l f e stored => ?_,
      fun u unresolved => ?_⟩
    · obtain ⟨v, visited, name, declared⟩ := binaryName_of_entryAt? stored
      obtain ⟨unmarked, elsewhere⟩ := not_or.mp (plain _ (mem_typesMet visited))
      rw [name, declared]
      exact ⟨by simpa using unmarked, fun s hs inside => elsewhere ⟨s, hs, inside⟩⟩
    · obtain ⟨v, visited, left⟩ := (mem_unresolved_ofModule host now).mp unresolved
      obtain ⟨t, met, name⟩ := exists_typesMet_of_mem_unresolved visited left
      exact ⟨t, met, plain t met, name⟩
  · obtain ⟨v, visited, rfl⟩ := identified.exists_visit_iff.mpr (List.mem_append_right _ met)
    obtain ⟨outer, declared⟩ := Option.isSome_iff_exists.mp (identified.declaringType_isSome met)
    have named := isNamed_of_nested visited declared
    exact ⟨v.logicalName, _, entryAt?_ofModule host now visited named, by simp, by simp⟩

theorem shadows_passed_over_listed :
    let mode : TypeInfo := {
      name := "ModeEnum", declaringType := some "NodeInstance", isEnum := true }
    let shadow : TypeInfo := { name := "NodeInstance", nestedTypes := [mode] }
    let state : TypeInfo := {
      name := "StateInstance", declaringType := some "Node", isEnum := true }
    let node : TypeInfo := { name := "Node", nestedTypes := [state] }
    let m : Module := { types := [shadow, mode, node] }
    let r := (ofModule m {} {} .epoch).registry
    Shadowed {} m mode ∧ Shadowed {} m state ∧
      (∃ l e, r.entryAt? l "NodeInstance+ModeEnum" = some e ∧ e.binaryName = "ModeEnum") ∧
      ∃ l e, r.entryAt? l "Node+StateInstance" = some e ∧ e.binaryName = "StateInstance" := by
  intro mode shadow state node m r
  have isShadow : ExtractionSettings.isShadow {} "NodeInstance" = true := by decide +kernel
  have plain : ExtractionSettings.isShadow {} "Node" = false := by decide +kernel
  have enums : enumsMet {} m = [state, mode] := by
    simp [enumsMet, topLevel, listedEnums, m, shadow, mode, node, state, isShadow, plain]
  have identified : Identified {} m := by
    have types : typesMet {} m = [node, state, mode] := by
      simp [typesMet, enums, topLevel, m, shadow, mode, node, isShadow, plain]
    refine ⟨fun t ht u hu => ?_, ?_⟩
    · obtain rfl : t = node := by
        simpa [topLevel, m, shadow, mode, node, isShadow, plain] using ht
      obtain rfl : u = state := by simpa [node, state] using hu
      decide +kernel
    · rw [types]
      simp only [List.mem_cons, List.not_mem_nil, or_false]
      have names : node.fullName ≠ state.fullName ∧ node.fullName ≠ mode.fullName ∧
          state.fullName ≠ mode.fullName := by decide +kernel
      rintro t (rfl | rfl | rfl) u (rfl | rfl | rfl) same <;> simp_all
  obtain ⟨-, -, stored⟩ := shadows_passed_over m {} {} .epoch
  refine ⟨.inr ⟨shadow, ?_, rfl⟩, .inl (by decide +kernel), ?_, ?_⟩
  · simp [shadows, m, shadow, isShadow]
  · obtain ⟨l, e, stored, name, -⟩ := stored identified mode (by simp [enums])
    exact ⟨l, e, stored, name⟩
  · obtain ⟨l, e, stored, name, -⟩ := stored identified state (by simp [enums])
    exact ⟨l, e, stored, name⟩

end Extraction
end Concordance
