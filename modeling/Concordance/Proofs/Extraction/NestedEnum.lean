import Concordance.Proofs.Extraction.Filing
import Concordance.Proofs.Resolution.Pairing
/-!
The two views of a nested enum. Its owner pairs it with an enum of the host and so gives names to
its values; visited by itself it looks up the host's list under the name that its binary name is
read back as. What the host counts differently is recorded by the one or the other, where both have
the same enum in mind.
-/
namespace Concordance

open Compiled (TypeInfo Module)
open Resolution

namespace Resolver

variable (r : Resolver) {t : TypeInfo} {outer : String}

/-- The host's list for an enum of that binary name, declared in the type `outer`. -/
def hostConstants (outer binaryName : String) : List String :=
  r.host.enumConstants (r.ownerName outer) (r.settings.withoutEnumSuffix binaryName)

theorem resolveEnum_of_declared (declared : t.declaringType = some outer) (logicalName : String) :
    r.resolveEnum t logicalName =
      ((enumConstants? (r.hostConstants outer t.name) t).getD .empty,
        if (r.hostConstants outer t.name).length = t.enumValues.length ∨
          r.recordedByOwner outer (r.settings.withoutEnumSuffix t.name) = true then []
        else [.constantsMismatch logicalName t.fullName]) := by
  rw [resolveEnum, declared]
  dsimp only
  rw [← hostConstants, enumConstants?]
  by_cases same : (r.hostConstants outer t.name).length = t.enumValues.length
  · simp [same]
  · simp [same]

end Resolver

namespace Visit

section Views

variable {r : Resolver} {v : Visit} {outer : String}

theorem constants_entry (isEnum : v.type.isEnum = true)
    (declared : v.type.declaringType = some outer) :
    (v.entry r).constants =
      (enumConstants? (r.hostConstants outer v.type.name) v.type).getD .empty := by
  rw [entry, Resolver.resolve_eq, if_pos isEnum, r.resolveEnum_of_declared declared]

theorem enums_entry (notEnum : v.type.isEnum = false) :
    (v.entry r).enums = enums (enumOutcomes r.host r.settings v.type v.logicalName) := by
  simp [entry, Resolver.resolve_eq, notEnum]

theorem mismatch_mem_unresolved_of_isEnum (isEnum : v.type.isEnum = true)
    {logical full : String} :
    .constantsMismatch logical full ∈ v.unresolved r ↔
      (logical = v.logicalName ∧ full = v.type.fullName) ∧
        ∃ outer, v.type.declaringType = some outer ∧
          (r.hostConstants outer v.type.name).length ≠ v.type.enumValues.length ∧
          r.recordedByOwner outer (r.settings.withoutEnumSuffix v.type.name) = false := by
  rw [unresolved, Resolver.resolve_eq, if_pos isEnum]
  cases declared : v.type.declaringType with
  | none => simp [Resolver.resolveEnum, declared]
  | some outer =>
    rw [r.resolveEnum_of_declared declared]
    dsimp only
    split
    · next silent => simpa using fun _ _ => silent.resolve_left
    · next speaks =>
      obtain ⟨differs, unreported⟩ := not_or.mp speaks
      simp [differs, unreported]

/-- Under a name that the host gives to an enum of its own, a type finds the nested enum `full`, and
the two count differently. -/
def Disputes (r : Resolver) (o : Visit) (full : String) : Prop :=
  ∃ name ∈ r.host.enumNames o.logicalName, ∃ b,
    nestedEnum? r.settings.enumSuffix o.type name = some b ∧ b.fullName = full ∧
      (r.host.enumConstants o.logicalName name).length ≠ b.enumValues.length

theorem mismatch_mem_unresolved_of_not_isEnum (notEnum : v.type.isEnum = false)
    {logical full : String} :
    .constantsMismatch logical full ∈ v.unresolved r ↔
      logical = v.logicalName ∧ (v.Disputes r full ∨
        (full = v.type.fullName ∧ constants? r.host v.type v.logicalName = none)) := by
  have nested : .constantsMismatch logical full ∈
      (enumOutcomes r.host r.settings v.type v.logicalName).filterMap (·.unresolved?) ↔
        logical = v.logicalName ∧ v.Disputes r full := by
    simp only [enumOutcomes, List.mem_filterMap, List.mem_map, exists_exists_and_eq_and,
      unresolved?_enumOutcome, Disputes]
    tauto
  have own : .constantsMismatch logical full ∈
      (if (constants? r.host v.type v.logicalName).isSome then []
        else [.constantsMismatch v.logicalName v.type.fullName] : List Unresolved) ↔
      logical = v.logicalName ∧
        full = v.type.fullName ∧ constants? r.host v.type v.logicalName = none := by
    cases constants? r.host v.type v.logicalName <;> simp
  rw [unresolved, Resolver.resolve_eq, if_neg (by simp [notEnum])]
  dsimp only
  rw [List.mem_append, nested, own, and_or_left]

end Views

section OfModule

variable {settings : ExtractionSettings} {m : Module} {host : Host} {v o : Visit} {outer : String}

theorem isNamed_of_nested (visited : v ∈ ofModule settings m)
    (declared : v.type.declaringType = some outer) : v.isNamed = true := by
  have full : v.type.fullName ≠ "" := by simp [TypeInfo.fullName, declared]
  rcases ofModule_cases visited with ⟨-, topLevel, -⟩ | ⟨-, owner, same⟩
  · rw [topLevel] at declared
    cases declared
  · have logical : v.logicalName ≠ "" := by
      rw [same]
      simp [ofNestedEnum]
    simp [isNamed, logical, full]

theorem ownerName_resolver (visited : o ∈ ofModule settings m) (notEnum : o.type.isEnum = false) :
    (Extraction.resolver m host settings).ownerName o.type.fullName = o.logicalName := by
  rw [Resolver.ownerName, Extraction.resolver, get?_ownerNames visited notEnum, Option.getD_some]

theorem recordedByOwner_resolver {enumName : String} :
    (Extraction.resolver m host settings).recordedByOwner outer enumName = true ↔
      ∃ o ∈ ofModule settings m, o.type.isEnum = false ∧ o.type.fullName = outer ∧
        enumName ∈ host.enumNames o.logicalName := by
  rw [Resolver.recordedByOwner, Bool.and_eq_true, decide_eq_true_eq]
  constructor
  · rintro ⟨known, listed⟩
    obtain ⟨e, he, rfl⟩ := SortedMap.contains_ofList.mp known
    obtain ⟨o, ho, rfl⟩ := List.mem_map.mp he
    obtain ⟨visited, owner⟩ := List.mem_filter.mp ho
    have notEnum : o.type.isEnum = false := by simpa using owner
    rw [ownerName_resolver visited notEnum] at listed
    exact ⟨o, visited, notEnum, rfl, listed⟩
  · rintro ⟨o, visited, notEnum, rfl, listed⟩
    rw [ownerName_resolver visited notEnum]
    have known := get?_ownerNames visited notEnum
    exact ⟨by rw [Extraction.resolver, SortedMap.contains, known, Option.isSome_some], listed⟩

/-- The enum is visited as one nested in the type `o`: among the visits right in front of it. -/
def IsNestedIn (settings : ExtractionSettings) (m : Module) (o v : Visit) : Prop :=
  ∃ before after, ofModule settings m =
    before ++ (nestedVisits settings before o.type ++ o :: after) ∧
      v ∈ nestedVisits settings before o.type

theorem ofModule_single {o t : TypeInfo} (topLevel : o.declaringType = none)
    (nests : o.nestedTypes = [t]) (isEnum : t.isEnum = true)
    (plain : settings.isShadow o.name = false) (differs : t.fullName ≠ o.fullName) :
    nestedVisits settings [] o = [ofNestedEnum settings o.logicalName t] ∧
      ofModule settings { types := [o] } =
        [ofNestedEnum settings o.logicalName t, ⟨o, o.logicalName⟩] := by
  constructor
  · simp [nestedVisits, unseen, nests, isEnum, differs]
  · simp [ofModule, ofTopLevel, unseen, topLevel, nests, isEnum, plain, differs]

theorem nestedEnum?_eq_of_names {before : List Visit} (h : v ∈ nestedVisits settings before o.type)
    {suffix name : String} {b : TypeInfo} (found : nestedEnum? suffix o.type name = some b)
    (fullName : b.fullName = v.type.fullName) (binaryName : b.name = v.type.name) :
    b = v.type := by
  obtain ⟨t, ht, rfl⟩ := List.mem_map.mp h
  obtain ⟨front, back, split, first⟩ := exists_eq_append_of_mem_unseen ht
  -- The search goes by binary names and the visits go by full names; both take the first.
  let spelled := fun n : TypeInfo => decide (n.name = name) || decide (n.name = name ++ suffix)
  have search : (front ++ t :: back).find? spelled = some b := by
    rw [← split, List.find?_filter]
    simpa [nestedEnum?, spelled] using found
  have fits : spelled t = true := by
    have answers : spelled b = true := List.find?_some search
    simpa [spelled, binaryName, ofNestedEnum] using answers
  cases before : front.find? spelled with
  | none =>
    rw [List.find?_append, before, Option.none_or, List.find?_cons_of_pos fits] at search
    exact (Option.some.inj search).symm
  | some c =>
    rw [List.find?_append, before, Option.some_or] at search
    obtain rfl := Option.some.inj search
    exact absurd fullName (first c (List.mem_of_find?_eq_some before))

end OfModule

end Visit

namespace Extraction

variable {settings : ExtractionSettings} {m : Module} {v o : Visit} {outer : String}

theorem mem_unresolved_ofModule (host : Host) (now : Instant) {u : Unresolved} :
    u ∈ (ofModule m host settings now).unresolved.entries ↔
      ∃ w ∈ Visit.ofModule settings m, u ∈ w.unresolved (resolver m host settings) := by
  rw [unresolved_ofModule, List.mem_flatMap]

/-- What an owner pairs a nested enum with is what that enum has as constants by itself, unless its
binary name is misread. -/
theorem constants_eq_members_of_paired (host : Host) (now : Instant) {name : String}
    {d : EnumType} (notEnum : o.type.isEnum = false) (nested : Visit.IsNestedIn settings m o v)
    (declared : v.type.declaringType = some o.type.fullName)
    (paired : (o.entry (resolver m host settings)).enums.get? name = some d)
    (fullName : d.binaryFullName = v.type.fullName) :
    ∃ t, (ofModule m host settings now).registry.entryAt? v.logicalName v.type.fullName = some t ∧
      t.constants = (enumConstants? (host.enumConstants o.logicalName
        (settings.withoutEnumSuffix v.type.name)) v.type).getD .empty ∧
      (d.binaryName = v.type.name → ¬settings.Misreads name d.binaryName →
        ∀ c, t.constants.get? c = (d.members.reverse.find? (·.logicalName = c)).map
          (·.asConstant d.binaryFullName)) := by
  obtain ⟨before, after, split, hv⟩ := nested
  have owner : o ∈ Visit.ofModule settings m := by simp [split]
  have visited : v ∈ Visit.ofModule settings m := by simp [split, hv]
  have isEnum := (List.mem_filter.mp (Visit.mem_nestedTypes_of_mem_nestedVisits hv)).2
  have named := Visit.isNamed_of_nested visited declared
  have constants : (v.entry (resolver m host settings)).constants =
      (enumConstants? (host.enumConstants o.logicalName
        (settings.withoutEnumSuffix v.type.name)) v.type).getD .empty := by
    rw [Visit.constants_entry isEnum declared, Resolver.hostConstants,
      Visit.ownerName_resolver owner notEnum]
    rfl
  refine ⟨_, entryAt?_ofModule host now visited named, constants, fun binaryName readBack c => ?_⟩
  rw [Visit.enums_entry notEnum] at paired
  change (enums (enumOutcomes host settings o.type o.logicalName)).get? name = some d at paired
  obtain ⟨b, found, pairing⟩ := pairing?_of_get?_enums paired
  obtain ⟨counts, -, full, binary, members⟩ := eq_of_pairing? pairing
  obtain rfl : b = v.type := Visit.nestedEnum?_eq_of_names hv found (full.symm.trans fullName)
    (binary.symm.trans binaryName)
  have read : settings.withoutEnumSuffix v.type.name = name := by
    rw [ExtractionSettings.withoutEnumSuffix_eq_iff (spelled_of_nestedEnum? found), ← binary]
    exact readBack
  rw [constants, read, get?_enumConstants? counts, members, full]

theorem constants_eq_members_of_paired_suffixed :
    let t : TypeInfo := {
      name := "ProcessModeEnum"
      declaringType := some "Node"
      isEnum := true
      enumValues := [⟨"Inherit", 0⟩, ⟨"Pausable", 1⟩] }
    let o : TypeInfo := { name := "Node", nestedTypes := [t] }
    let host : Host := { classes := .ofList [("Node", {
      enums := [⟨"ProcessMode", ["INHERIT", "PAUSABLE"]⟩] })] }
    let d : EnumType := {
      logicalName := "ProcessMode"
      containingType := some "Node"
      binaryFullName := "Node+ProcessModeEnum"
      binaryName := "ProcessModeEnum"
      members := [⟨"INHERIT", "Inherit", 0⟩, ⟨"PAUSABLE", "Pausable", 1⟩] }
    (Visit.entry (resolver { types := [o] } host {}) ⟨o, "Node"⟩).enums.get? "ProcessMode" =
        some d ∧
      ∃ e, (ofModule { types := [o] } host {} .epoch).registry.entryAt? "Node.ProcessMode"
          "Node+ProcessModeEnum" = some e ∧
        e.constants.get? "PAUSABLE" = some ⟨"PAUSABLE", "Pausable", "Node+ProcessModeEnum",
          "Node+ProcessModeEnum", "1"⟩ := by
  intro t o host d
  obtain ⟨nests, visits⟩ := Visit.ofModule_single (o := o) (t := t) rfl rfl rfl
    (by decide +kernel : ExtractionSettings.isShadow {} "Node" = false) (by decide +kernel)
  have nested : Visit.IsNestedIn {} { types := [o] } ⟨o, "Node"⟩
      (.ofNestedEnum {} "Node" t) :=
    ⟨[], [], by rw [nests]; exact visits, nests ▸ List.mem_cons_self⟩
  have paired : (Visit.entry (resolver { types := [o] } host {}) ⟨o, "Node"⟩).enums.get?
      "ProcessMode" = some d := by
    decide +kernel
  have readBack : ¬ExtractionSettings.Misreads {} "ProcessMode" d.binaryName := by decide +kernel
  obtain ⟨e, filed, -, agree⟩ :=
    constants_eq_members_of_paired host .epoch rfl nested rfl paired rfl
  have name : (Visit.ofNestedEnum {} "Node" t).logicalName = "Node.ProcessMode" := by
    decide +kernel
  exact ⟨paired, e, name ▸ filed, agree rfl readBack "PAUSABLE"⟩

-- The host's name has the suffix: the owner pairs the enum, which itself asks for another name.
example :
    let t : TypeInfo := {
      name := "ModeEnum"
      declaringType := some "Node"
      isEnum := true
      enumValues := [⟨"On", 1⟩] }
    let o : TypeInfo := { name := "Node", nestedTypes := [t] }
    let host : Host := { classes := .ofList [("Node", { enums := [⟨"ModeEnum", ["ON"]⟩] })] }
    let r := (ofModule { types := [o] } host {} .epoch).registry
    ((r.entryAt? "Node" "Node").bind (·.enums.get? "ModeEnum")).map (·.members) =
        some [⟨"ON", "On", 1⟩] ∧
      (r.entryAt? "Node.Mode" "Node+ModeEnum").map (·.constants.entries) = some [] := by
  decide +kernel

theorem exists_mismatch_iff (host : Host) (now : Instant)
    (visited : v ∈ Visit.ofModule settings m) (isEnum : v.type.isEnum = true)
    (declared : v.type.declaringType = some outer)
    (differs : ((resolver m host settings).hostConstants outer v.type.name).length ≠
      v.type.enumValues.length) :
    (∃ l, .constantsMismatch l v.type.fullName ∈
      (ofModule m host settings now).unresolved.entries) ↔
      (resolver m host settings).recordedByOwner outer
          (settings.withoutEnumSuffix v.type.name) = false ∨
        ∃ o ∈ Visit.ofModule settings m, o.type.isEnum = false ∧
          o.Disputes (resolver m host settings) v.type.fullName := by
  constructor
  · rintro ⟨l, recorded⟩
    obtain ⟨w, hw, left⟩ := (mem_unresolved_ofModule host now).mp recorded
    -- A full name is visited once, so of the enums only this one records it.
    cases kind : w.type.isEnum with
    | true =>
      obtain ⟨⟨-, same⟩, outer', declared', -, relied⟩ :=
        (Visit.mismatch_mem_unresolved_of_isEnum kind).mp left
      obtain rfl := Visit.eq_of_fullName_eq visited hw same
      obtain rfl := Option.some.inj (declared.symm.trans declared')
      exact .inl relied
    | false =>
      obtain ⟨-, disputed | ⟨same, -⟩⟩ :=
        (Visit.mismatch_mem_unresolved_of_not_isEnum kind).mp left
      · exact .inr ⟨w, hw, kind, disputed⟩
      · obtain rfl := Visit.eq_of_fullName_eq visited hw same
        rw [isEnum] at kind
        cases kind
  · rintro (relied | ⟨o, ho, notEnum, disputed⟩)
    · have left := (Visit.mismatch_mem_unresolved_of_isEnum isEnum).mpr
        ⟨⟨rfl, rfl⟩, outer, declared, differs, relied⟩
      exact ⟨v.logicalName, (mem_unresolved_ofModule host now).mpr ⟨v, visited, left⟩⟩
    · have left := (Visit.mismatch_mem_unresolved_of_not_isEnum notEnum).mpr ⟨rfl, .inl disputed⟩
      exact ⟨o.logicalName, (mem_unresolved_ofModule host now).mpr ⟨o, ho, left⟩⟩

/-- A nested enum that the host counts differently has no constants. That is on record unless the
enum relies on an owner that finds another nested enum for the host's name. -/
theorem disputed_enum_recorded (host : Host) (now : Instant)
    (visited : v ∈ Visit.ofModule settings m) (isEnum : v.type.isEnum = true)
    (declared : v.type.declaringType = some outer)
    (differs : ((resolver m host settings).hostConstants outer v.type.name).length ≠
      v.type.enumValues.length) :
    let x := ofModule m host settings now
    let r := resolver m host settings
    let enumName := settings.withoutEnumSuffix v.type.name
    let recorded := ∃ l, .constantsMismatch l v.type.fullName ∈ x.unresolved.entries
    (∃ t, x.registry.entryAt? v.logicalName v.type.fullName = some t ∧ t.constants = .empty) ∧
      (recorded ↔ r.recordedByOwner outer enumName = false ∨
        ∃ o ∈ Visit.ofModule settings m, o.type.isEnum = false ∧
          o.Disputes r v.type.fullName) ∧
      ((∀ o ∈ Visit.ofModule settings m, o.type.isEnum = false → o.type.fullName = outer →
        nestedEnum? settings.enumSuffix o.type enumName = some v.type) → recorded) := by
  intro x r enumName recorded
  have named := Visit.isNamed_of_nested visited declared
  have iff := exists_mismatch_iff host now visited isEnum declared differs
  refine ⟨⟨_, entryAt?_ofModule host now visited named, ?_⟩, iff, fun finds => iff.mpr ?_⟩
  · rw [Visit.constants_entry isEnum declared, enumConstants?_eq_none.mpr differs, Option.getD_none]
  · cases relied : r.recordedByOwner outer enumName with
    | false => exact .inl rfl
    | true =>
      obtain ⟨o, ho, notEnum, rfl, listed⟩ := Visit.recordedByOwner_resolver.mp relied
      have found := finds o ho notEnum rfl
      rw [Resolver.hostConstants, Visit.ownerName_resolver ho notEnum] at differs
      exact .inr ⟨o, ho, notEnum, enumName, listed, v.type, found, rfl, differs⟩

theorem disputed_enum_recorded_three_for_two :
    let t : TypeInfo := {
      name := "ProcessModeEnum"
      declaringType := some "Node"
      isEnum := true
      enumValues := [⟨"Inherit", 0⟩, ⟨"Pausable", 1⟩] }
    let o : TypeInfo := { name := "Node", nestedTypes := [t] }
    let host : Host := { classes := .ofList [("Node", {
      enums := [⟨"ProcessMode", ["INHERIT", "PAUSABLE", "ALWAYS"]⟩] })] }
    let x := ofModule { types := [o] } host {} .epoch
    (∃ e, x.registry.entryAt? "Node.ProcessMode" "Node+ProcessModeEnum" = some e ∧
      e.constants = .empty) ∧
      ∃ l, .constantsMismatch l "Node+ProcessModeEnum" ∈ x.unresolved.entries := by
  intro t o host x
  obtain ⟨-, visits⟩ := Visit.ofModule_single (o := o) (t := t) rfl rfl rfl
    (by decide +kernel : ExtractionSettings.isShadow {} "Node" = false) (by decide +kernel)
  have visited : Visit.ofNestedEnum {} "Node" t ∈ Visit.ofModule {} { types := [o] } :=
    visits ▸ List.mem_cons_self
  have differs : ((resolver { types := [o] } host {}).hostConstants "Node" t.name).length ≠
      t.enumValues.length := by
    decide +kernel
  obtain ⟨empty, -, recorded⟩ := disputed_enum_recorded host .epoch visited rfl rfl differs
  have name : (Visit.ofNestedEnum {} "Node" t).logicalName = "Node.ProcessMode" := by
    decide +kernel
  have read : ExtractionSettings.withoutEnumSuffix {} "ProcessModeEnum" = "ProcessMode" := by
    decide +kernel
  refine ⟨name ▸ empty, recorded fun w hw notEnum _ => ?_⟩
  rw [visits] at hw
  obtain rfl | rfl : w = .ofNestedEnum {} o.logicalName t ∨ w = ⟨o, o.logicalName⟩ := by
    simpa using hw
  · cases notEnum
  · simp [nestedEnum?, o, t, Visit.ofNestedEnum, read]

-- Both spellings are nested: the owner pairs the first, and the second relies on it in vain.
example :
    let t : TypeInfo := {
      name := "Mode"
      declaringType := some "Node"
      isEnum := true
      enumValues := [⟨"On", 1⟩] }
    let u : TypeInfo := { t with name := "ModeEnum", enumValues := [⟨"Off", 0⟩, ⟨"On", 1⟩] }
    let o : TypeInfo := { name := "Node", nestedTypes := [t, u] }
    let host : Host := { classes := .ofList [("Node", { enums := [⟨"Mode", ["ON"]⟩] })] }
    let x := ofModule { types := [o] } host {} .epoch
    (x.registry.entryAt? "Node.Mode" "Node+ModeEnum").map (·.constants.entries) = some [] ∧
      x.unresolved.entries = [] := by
  decide +kernel

end Extraction

end Concordance
