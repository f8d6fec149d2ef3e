import Concordance.Proofs.Extraction.NestedEnum
/-!
The owner's part in the logical name of an enum. Where the enum is visited with the type that nests
it, that part is the type's logical name. Where it is visited as listed by itself, it is the last
segment of the full name of its declaring type, whether that type is visited or not. The host's list
is looked up under the logical name of a visited owner in either case.
-/
namespace Concordance

open Compiled (TypeInfo Module)
open Resolution

namespace Visit

variable {settings : ExtractionSettings} {m : Module} {v o p : Visit} {outer : String}

theorem logicalName_eq_iff_of_eq {part owner : String}
    (member : v = ofNestedEnum settings part v.type) :
    v.logicalName =
        owner ++ "." ++ v.type.annotation.getD (settings.withoutEnumSuffix v.type.name) ↔
      part = owner := by
  rw [member]
  simp only [ofNestedEnum, String.append_assoc, String.append_left_inj]

theorem isEnum_of_declared (visited : v ∈ ofModule settings m)
    (declared : v.type.declaringType = some outer) : v.type.isEnum = true := by
  rcases ofModule_cases visited with ⟨-, topLevel, -⟩ | ⟨isEnum, -⟩
  · rw [topLevel] at declared
    cases declared
  · exact isEnum

theorem logicalName_eq_of_not_isEnum (h : o ∈ ofModule settings m)
    (notEnum : o.type.isEnum = false) : o.logicalName = o.type.logicalName := by
  rcases ofModule_cases h with ⟨-, -, name⟩ | ⟨isEnum, -⟩
  · exact name
  · rw [isEnum] at notEnum
    cases notEnum

theorem marked_of_nested (h : o ∈ ofModule settings m) (notEnum : o.type.isEnum = false)
    {u : TypeInfo} (nested : u ∈ o.type.nestedTypes.filter (·.isEnum)) :
    u.fullName ∈ (ofTopLevel settings [] (m.types.filter (·.declaringType.isNone))).2 := by
  unfold ofModule at h
  rcases List.mem_append.mp h with h | h
  · rcases ofTopLevel_cases h with ⟨-, -, -, marked⟩ | ⟨t, -, -, w, hw, rfl⟩
    · exact marked u nested
    · have isEnum : w.isEnum = true := (List.mem_filter.mp hw).2
      simp [ofNestedEnum, isEnum] at notEnum
  · obtain ⟨t, ht, rfl⟩ := List.mem_map.mp h
    obtain ⟨-, isEnum⟩ := Bool.and_eq_true_iff.mp (List.mem_filter.mp (mem_of_mem_unseen ht)).2
    simp [ofListedEnum, ofNestedEnum, isEnum] at notEnum

namespace IsNestedIn

theorem mem (h : IsNestedIn settings m p v) : p ∈ ofModule settings m := by
  obtain ⟨before, after, split, -⟩ := h
  simp [split]

theorem mem_nestedTypes (h : IsNestedIn settings m p v) :
    v.type ∈ p.type.nestedTypes.filter (·.isEnum) := by
  obtain ⟨before, after, -, nested⟩ := h
  exact mem_nestedTypes_of_mem_nestedVisits nested

theorem eq_ofNestedEnum (h : IsNestedIn settings m p v) :
    v = ofNestedEnum settings p.type.logicalName v.type := by
  obtain ⟨before, after, -, nested⟩ := h
  obtain ⟨u, -, rfl⟩ := List.mem_map.mp nested
  rfl

end IsNestedIn

/-- An enum is visited with a type that nests it, or as listed by itself. Then no enum of its full
name is nested in a visited type. -/
theorem isNestedIn_or_listed (visited : v ∈ ofModule settings m)
    (declared : v.type.declaringType = some outer) :
    (∃ p, IsNestedIn settings m p v) ∨
      (v = ofNestedEnum settings (Resolver.simpleName outer) v.type ∧
        ∀ o ∈ ofModule settings m, o.type.isEnum = false →
          ∀ u ∈ o.type.nestedTypes.filter (·.isEnum), u.fullName ≠ v.type.fullName) := by
  rcases exists_ofModule_eq_or_listed visited with
    ⟨before, t, after, split, topLevel, -, rfl | nested⟩ | ⟨t, -, rfl, unmarked⟩
  · have none := Option.isNone_iff_eq_none.mp (List.mem_filter.mp topLevel).2
    rw [none] at declared
    cases declared
  · exact .inl ⟨⟨t, t.logicalName⟩, before, after, split, nested⟩
  · have outer : t.declaringType = some outer := declared
    refine .inr ⟨by simp [ofListedEnum, ofNestedEnum, outer], fun o ho notEnum u nested same => ?_⟩
    exact unmarked (same ▸ marked_of_nested ho notEnum nested)

theorem logicalName_eq_iff (visited : v ∈ ofModule settings m)
    (declared : v.type.declaringType = some outer) (owner : String) :
    v.logicalName =
        owner ++ "." ++ v.type.annotation.getD (settings.withoutEnumSuffix v.type.name) ↔
      (∃ p, IsNestedIn settings m p v ∧ p.type.logicalName = owner) ∨
        (∀ p, ¬IsNestedIn settings m p v) ∧ Resolver.simpleName outer = owner := by
  by_cases nested : ∃ p, IsNestedIn settings m p v
  · constructor
    · intro filed
      obtain ⟨p, nested⟩ := nested
      exact .inl ⟨p, nested, (logicalName_eq_iff_of_eq nested.eq_ofNestedEnum).mp filed⟩
    · rintro (⟨p, nested, name⟩ | ⟨alone, -⟩)
      · exact (logicalName_eq_iff_of_eq nested.eq_ofNestedEnum).mpr name
      · exact absurd nested (not_exists.mpr alone)
  · obtain ⟨listed, -⟩ := (isNestedIn_or_listed visited declared).resolve_left nested
    rw [logicalName_eq_iff_of_eq listed]
    simp [not_exists.mp nested]

/-- Where no other type nests the enum, it goes by its owner's logical name if the owner does, or if
that is the last segment of the owner's full name. -/
theorem logicalName_eq_iff_of_sole (visited : v ∈ ofModule settings m)
    (owner : o ∈ ofModule settings m) (notEnum : o.type.isEnum = false)
    (declared : v.type.declaringType = some outer)
    (sole : ∀ p ∈ ofModule settings m, v.type ∈ p.type.nestedTypes → p = o) :
    v.logicalName = o.logicalName ++ "." ++
        v.type.annotation.getD (settings.withoutEnumSuffix v.type.name) ↔
      v.type ∈ o.type.nestedTypes ∨ Resolver.simpleName outer = o.logicalName := by
  rcases isNestedIn_or_listed visited declared with ⟨p, nested⟩ | ⟨listed, unnested⟩
  · have enclosed := (List.mem_filter.mp nested.mem_nestedTypes).1
    obtain rfl := sole p nested.mem enclosed
    have filed := (logicalName_eq_iff_of_eq nested.eq_ofNestedEnum).mpr
      (logicalName_eq_of_not_isEnum owner notEnum).symm
    exact iff_of_true filed (.inl enclosed)
  · have absent : v.type ∉ o.type.nestedTypes := fun nested =>
      unnested o owner notEnum v.type
        (List.mem_filter.mpr ⟨nested, isEnum_of_declared visited declared⟩) rfl
    rw [logicalName_eq_iff_of_eq listed, or_iff_right absent]

end Visit

namespace Extraction

variable {settings : ExtractionSettings} {m : Module} {v o : Visit}

/-- An enum declared in a visited type has the constants that the host lists under the logical name
of that type. Its own logical name begins with the same if it is visited with a type of that logical
name, or, visited by itself, if the last segment of the type's full name happens to be it. -/
theorem enum_filed_under_owner (host : Host) (now : Instant)
    (visited : v ∈ Visit.ofModule settings m) (owner : o ∈ Visit.ofModule settings m)
    (notEnum : o.type.isEnum = false) (declared : v.type.declaringType = some o.type.fullName) :
    let x := ofModule m host settings now
    let r := resolver m host settings
    let enumName := settings.withoutEnumSuffix v.type.name
    let ownName := Resolver.simpleName o.type.fullName
    let underOwner := v.logicalName = o.logicalName ++ "." ++ v.type.annotation.getD enumName
    r.ownerName o.type.fullName = o.logicalName ∧
      (∃ t, x.registry.entryAt? v.logicalName v.type.fullName = some t ∧
        t.constants =
          (enumConstants? (host.enumConstants o.logicalName enumName) v.type).getD .empty) ∧
      (underOwner ↔
        (∃ p, Visit.IsNestedIn settings m p v ∧ p.type.logicalName = o.logicalName) ∨
          (∀ p, ¬Visit.IsNestedIn settings m p v) ∧ ownName = o.logicalName) ∧
      ((∀ p ∈ Visit.ofModule settings m, v.type ∈ p.type.nestedTypes → p = o) →
        (underOwner ↔ v.type ∈ o.type.nestedTypes ∨ ownName = o.logicalName)) := by
  intro x r enumName ownName underOwner
  have known : r.ownerName o.type.fullName = o.logicalName :=
    Visit.ownerName_resolver owner notEnum
  have constants : (v.entry r).constants =
      (enumConstants? (host.enumConstants o.logicalName enumName) v.type).getD .empty := by
    rw [Visit.constants_entry (Visit.isEnum_of_declared visited declared) declared,
      Resolver.hostConstants, known]
    rfl
  have filed := entryAt?_ofModule host now visited (Visit.isNamed_of_nested visited declared)
  exact ⟨known, ⟨_, filed, constants⟩, Visit.logicalName_eq_iff visited declared _,
    Visit.logicalName_eq_iff_of_sole visited owner notEnum declared⟩

theorem enum_filed_under_owner_listed :
    let mode : TypeInfo := { name := "Mode", declaringType := some "GodotObject", isEnum := true }
    let flags : TypeInfo := {
      name := "ConnectFlags"
      declaringType := some "GodotObject"
      isEnum := true
      enumValues := [⟨"Deferred", 1⟩] }
    let object : TypeInfo := {
      name := "GodotObject", annotation := some "Object", nestedTypes := [mode] }
    let m : Module := { types := [object, flags] }
    let host : Host := { classes := .ofList [("Object", {
      enums := [⟨"ConnectFlags", ["CONNECT_DEFERRED"]⟩] })] }
    let nested := Visit.ofNestedEnum {} "Object" mode
    let listed := Visit.ofListedEnum {} flags
    nested.logicalName = "Object.Mode" ∧ listed.logicalName ≠ "Object.ConnectFlags" ∧
      ∃ t, (ofModule m host {} .epoch).registry.entryAt? listed.logicalName
          "GodotObject+ConnectFlags" = some t ∧ t.constants.keys = ["CONNECT_DEFERRED"] := by
  intro mode flags object m host nested listed
  let owner : Visit := ⟨object, "Object"⟩
  have plain : ExtractionSettings.isShadow {} "GodotObject" = false := by decide +kernel
  have names : mode.fullName ≠ object.fullName ∧ flags.fullName ≠ mode.fullName ∧
      flags.fullName ≠ object.fullName := by decide +kernel
  have visits : Visit.ofModule {} m = [nested, owner, listed] := by
    simp [Visit.ofModule, Visit.ofTopLevel, Visit.unseen, TypeInfo.logicalName, nested, owner,
      listed, m, names, plain, object, mode, flags]
  have sole (v : Visit) : ∀ p ∈ Visit.ofModule {} m, v.type ∈ p.type.nestedTypes → p = owner := by
    rw [visits]
    rintro p hp enclosed
    obtain rfl | rfl | rfl : p = nested ∨ p = owner ∨ p = listed := by simpa using hp
    · cases enclosed
    · rfl
    · cases enclosed
  have ofOwner : owner ∈ Visit.ofModule {} m := by simp [visits]
  obtain ⟨-, -, -, nestedUnder⟩ := enum_filed_under_owner (v := nested) host .epoch
    (by simp [visits]) ofOwner rfl rfl
  obtain ⟨-, ⟨t, filed, constants⟩, -, listedUnder⟩ := enum_filed_under_owner (v := listed) host
    .epoch (by simp [visits]) ofOwner rfl rfl
  refine ⟨?_, fun filed => ?_, t, filed, ?_⟩
  · exact ((nestedUnder (sole nested)).mpr (.inl List.mem_cons_self)).trans (by decide +kernel)
  · rcases (listedUnder (sole listed)).mp (filed.trans (by decide +kernel)) with enclosed | same
    · have same := congrArg TypeInfo.fullName (List.mem_singleton.mp enclosed)
      exact names.2.1 same
    · exact absurd same (by decide +kernel)
  · rw [constants]
    decide +kernel

end Extraction
end Concordance
