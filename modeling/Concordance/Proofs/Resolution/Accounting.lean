import Concordance.Proofs.Resolution.Pairing
import Concordance.Resolution.Resolver
import Mathlib.Data.List.Forall2
/-!
Account of the enums that the host lists for a type. Each time it lists one, either no nested enum
answers and it is recorded as missing, or the first that answers counts differently and is recorded,
or the two are paired, position by position. Nothing else is kept, and of other things only the
constants of the type itself may be recorded behind.
-/
namespace Concordance.Resolution

open Compiled (TypeInfo)

/-- A nested enum that bears the host's name, with the suffix or without. -/
def Answers (suffix name : String) (n : TypeInfo) : Prop :=
  n.isEnum = true ∧ (n.name = name ∨ n.name = name ++ suffix)

def FirstAnswer (suffix name : String) (nested : List TypeInfo) (b : TypeInfo) : Prop :=
  Answers suffix name b ∧
    ∃ front back, nested = front ++ b :: back ∧ ∀ n ∈ front, ¬Answers suffix name n

/-- The enum `name` of the type `owner`, made of the host's constants and of the values of `b`. -/
structure PairsWith (owner name : String) (constants : List String) (b : TypeInfo) (d : EnumType) :
    Prop where
  logicalName : d.logicalName = name
  containingType : d.containingType = some owner
  binaryFullName : d.binaryFullName = b.fullName
  binaryName : d.binaryName = b.name
  isFlags : d.isFlags = b.isFlags
  constants : d.members.map (·.logicalName) = constants
  values : (d.members.map fun m => (m.binaryName, m.value)) =
    b.enumValues.map fun v => (v.name, v.value)

/-- What becomes of the enum `name` that the host lists for the type `owner`: the enum that is kept,
and what is recorded. -/
inductive Accounted (host : Host) (settings : ExtractionSettings) (t : TypeInfo)
    (owner name : String) : Option EnumType → Option Unresolved → Prop where
  | missing (absent : ∀ n ∈ t.nestedTypes, ¬Answers settings.enumSuffix name n) :
      Accounted host settings t owner name none (some (.enumNotFound owner t.fullName name))
  | mismatched (b : TypeInfo) (first : FirstAnswer settings.enumSuffix name t.nestedTypes b)
      (differs : b.enumValues.length ≠ (host.enumConstants owner name).length) :
      Accounted host settings t owner name none (some (.constantsMismatch owner b.fullName))
  | paired (b : TypeInfo) (d : EnumType)
      (first : FirstAnswer settings.enumSuffix name t.nestedTypes b)
      (pairs : PairsWith owner name (host.enumConstants owner name) b d) :
      Accounted host settings t owner name (some d) none

section Search

variable {suffix name : String} {t b : TypeInfo}

private theorem answers_iff {n : TypeInfo} :
    (n.isEnum && (n.name = name || n.name = name ++ suffix)) = true ↔ Answers suffix name n := by
  simp [Answers]

theorem nestedEnum?_eq_none :
    nestedEnum? suffix t name = none ↔ ∀ n ∈ t.nestedTypes, ¬Answers suffix name n := by
  simp only [nestedEnum?, List.find?_eq_none, answers_iff]

theorem nestedEnum?_eq_some :
    nestedEnum? suffix t name = some b ↔ FirstAnswer suffix name t.nestedTypes b := by
  simp only [nestedEnum?, List.find?_eq_some_iff_append, answers_iff, FirstAnswer,
    Bool.not_eq_true', ← Bool.not_eq_true]

end Search

section Pairs

variable {owner name : String} {constants : List String} {b : TypeInfo} {d : EnumType}

theorem eq_members_iff {ms : List EnumMember} {values : List Compiled.EnumValue} :
    constants.length = values.length ∧ ms = members constants values ↔
      ms.map (·.logicalName) = constants ∧
        (ms.map fun m => (m.binaryName, m.value)) = values.map fun v => (v.name, v.value) := by
  constructor
  · rintro ⟨same, rfl⟩
    induction constants generalizing values with
    | nil =>
      obtain rfl := List.length_eq_zero_iff.mp same.symm
      exact ⟨rfl, rfl⟩
    | cons c cs ih =>
      obtain ⟨v, vs, rfl⟩ := List.exists_cons_of_length_eq_add_one same.symm
      obtain ⟨names, others⟩ := ih (Nat.succ.inj same)
      exact ⟨congrArg (c :: ·) names, congrArg ((v.name, v.value) :: ·) others⟩
  · rintro ⟨rfl, same⟩
    have length := congrArg List.length same
    simp only [List.length_map] at length ⊢
    refine ⟨length, ?_⟩
    induction ms generalizing values with
    | nil => rfl
    | cons m ms ih =>
      obtain ⟨v, vs, rfl⟩ := List.exists_cons_of_length_eq_add_one length.symm
      obtain ⟨own, others⟩ := List.cons.inj same
      obtain ⟨binary, value⟩ := Prod.mk.inj own
      have head : m = ⟨m.logicalName, v.name, v.value⟩ := by rw [← binary, ← value]
      exact congrArg₂ List.cons head (ih others (Nat.succ.inj length))

theorem pairing?_eq_some_iff :
    pairing? owner name constants b = some d ↔ PairsWith owner name constants b d := by
  rw [pairing?_eq_some]
  constructor
  · rintro ⟨same, rfl⟩
    obtain ⟨names, values⟩ := eq_members_iff.mp ⟨same, rfl⟩
    exact ⟨rfl, rfl, rfl, rfl, rfl, names, values⟩
  · rintro ⟨rfl, containing, full, binary, flags, names, values⟩
    obtain ⟨same, made⟩ := eq_members_iff.mpr ⟨names, values⟩
    refine ⟨same, ?_⟩
    rw [← made, ← containing, ← full, ← binary, ← flags]

end Pairs

section Account

variable {host : Host} {settings : ExtractionSettings} {t : TypeInfo} {owner name : String}

/-- In a type that does not stand for an instance, the account of an enum is its outcome, so there
is exactly one. -/
theorem accounted_iff (notShadow : settings.isShadow t.name = false) {found : Option EnumType}
    {left : Option Unresolved} : Accounted host settings t owner name found left ↔
      found = (enumOutcome host settings t owner name).enum? ∧
        left = (enumOutcome host settings t owner name).unresolved? := by
  unfold enumOutcome
  constructor
  · rintro (absent | ⟨b, first, differs⟩ | ⟨b, d, first, pairs⟩)
    · rw [nestedEnum?_eq_none.mpr absent]
      simp [notShadow, EnumOutcome.enum?, EnumOutcome.unresolved?]
    · rw [nestedEnum?_eq_some.mpr first]
      dsimp only
      rw [pairing?_eq_none.mpr (Ne.symm differs)]
      exact ⟨rfl, rfl⟩
    · rw [nestedEnum?_eq_some.mpr first]
      dsimp only
      rw [pairing?_eq_some_iff.mpr pairs]
      exact ⟨rfl, rfl⟩
  · rintro ⟨rfl, rfl⟩
    cases nested : nestedEnum? settings.enumSuffix t name with
    | none =>
      simp only [notShadow]
      exact .missing (nestedEnum?_eq_none.mp nested)
    | some b =>
      have first := nestedEnum?_eq_some.mp nested
      dsimp only
      cases paired : pairing? owner name (host.enumConstants owner name) b with
      | none => exact .mismatched b first (Ne.symm (pairing?_eq_none.mp paired))
      | some d => exact .paired b d first (pairing?_eq_some_iff.mp paired)

theorem get?_enums (listed : name ∈ host.enumNames owner) :
    (enums (enumOutcomes host settings t owner)).get? name =
      (enumOutcome host settings t owner name).enum? := by
  apply Option.ext
  intro d
  constructor
  · intro kept
    exact (outcome_of_get?_enums kept).2
  · intro outcome
    have named : d.logicalName = name := by
      obtain ⟨b, -, paired⟩ := enum?_enumOutcome.mp outcome
      exact (pairing?_eq_some_iff.mp paired).logicalName
    have contained : (enums (enumOutcomes host settings t owner)).contains name = true := by
      refine SortedMap.contains_ofList.mpr ⟨(d.logicalName, d), List.mem_filterMap.mpr
        ⟨enumOutcome host settings t owner name, List.mem_map_of_mem listed, ?_⟩, named⟩
      rw [outcome]
      rfl
    obtain ⟨e, kept⟩ := Option.isSome_iff_exists.mp contained
    rw [kept, ← (outcome_of_get?_enums kept).2, outcome]

end Account

section Resolve

variable (r : Resolver) {t : TypeInfo} (notEnum : t.isEnum = false) (logicalName : String)

include notEnum

theorem enums_resolve : (r.resolve t logicalName).1.enums =
    enums (enumOutcomes r.host r.settings t logicalName) := by
  simp [Resolver.resolve_eq, notEnum]

theorem unresolved_resolve : (r.resolve t logicalName).2 =
    ((r.host.enumNames logicalName).map fun name =>
      (enumOutcome r.host r.settings t logicalName name).unresolved?).filterMap id ++
        if (constants? r.host t logicalName).isSome then []
        else [.constantsMismatch logicalName t.fullName] := by
  simp [Resolver.resolve_eq, notEnum, enumOutcomes, List.filterMap_map]

end Resolve

/-- Each time the host lists an enum for a type, it is recorded as missing or as counting
differently, or it is kept, and it is just one of these; nothing else is kept, and at most the
constants of the type are recorded behind. -/
theorem host_enums_accounted (r : Resolver) (t : TypeInfo) (logicalName : String)
    (before : Tracker) (notEnum : t.isEnum = false)
    (notShadow : r.settings.isShadow t.name = false) :
    let entry := (r.resolve t logicalName).1
    let names := r.host.enumNames logicalName
    let account := Accounted r.host r.settings t logicalName
    (∃ lefts rest, (before.add (r.resolve t logicalName).2).entries =
        before.entries ++ (lefts.filterMap id ++ rest) ∧
      List.Forall₂ (fun name left => account name (entry.enums.get? name) left) names lefts ∧
      (rest = [] ∨ rest = [.constantsMismatch logicalName t.fullName])) ∧
    (∀ name found left found' left', account name found left → account name found' left' →
      found = found' ∧ left = left') ∧
    ∀ name d, entry.enums.get? name = some d → name ∈ names := by
  intro entry names account
  have kept : entry.enums = _ := enums_resolve r notEnum logicalName
  have left := unresolved_resolve r notEnum logicalName
  refine ⟨⟨_, _, congrArg (before.entries ++ ·) left, ?_, ?_⟩,
    fun name found left found' left' one other => ?_, fun name d found => ?_⟩
  · rw [List.forall₂_map_right_iff, List.forall₂_same]
    intro name listed
    rw [kept, get?_enums listed]
    exact (accounted_iff notShadow).mpr ⟨rfl, rfl⟩
  · split
    · exact .inl rfl
    · exact .inr rfl
  · obtain ⟨rfl, rfl⟩ := (accounted_iff notShadow).mp one
    exact ((accounted_iff notShadow).mp other).imp Eq.symm Eq.symm
  · rw [kept] at found
    exact (outcome_of_get?_enums found).1

theorem host_enums_accounted_four :
    let nested (name : String) (values : List Compiled.EnumValue) : TypeInfo :=
      { name, declaringType := some "Node", isEnum := true, enumValues := values }
    let t : TypeInfo := {
      name := "Node"
      nestedTypes := [nested "Side" [⟨"Left", 0⟩], nested "ModeEnum" [⟨"On", 1⟩]] }
    let host : Host := { classes := .ofList [("Node", {
      enums := [⟨"Mode", ["ON"]⟩, ⟨"Gone", []⟩, ⟨"Side", []⟩, ⟨"Mode", ["ON", "OFF"]⟩]
      integerConstants := ["ON", "MAX"] })] }
    let mode : EnumType := {
      logicalName := "Mode"
      containingType := some "Node"
      binaryFullName := "Node+ModeEnum"
      binaryName := "ModeEnum"
      members := [⟨"ON", "On", 1⟩] }
    let resolved := Resolver.resolve { host } t "Node"
    let before : Tracker := ⟨[.globalEnum "Error" "Error"]⟩
    resolved.1.enums.entries = [("Mode", mode)] ∧
      (before.add resolved.2).entries = [.globalEnum "Error" "Error",
        .enumNotFound "Node" "Node" "Gone", .constantsMismatch "Node" "Node+Side",
        .constantsMismatch "Node" "Node"] ∧
      ∃ lefts rest, (before.add resolved.2).entries =
          before.entries ++ (lefts.filterMap id ++ rest) ∧
        List.Forall₂ (fun name left => Accounted host {} t "Node" name
          (resolved.1.enums.get? name) left) ["Mode", "Gone", "Side", "Mode"] lefts := by
  intro nested t host mode resolved before
  have shadow : ExtractionSettings.isShadow {} "Node" = false := by decide +kernel
  obtain ⟨⟨lefts, rest, recorded, accounts, -⟩, -⟩ :=
    host_enums_accounted { host } t "Node" before rfl shadow
  exact ⟨by decide +kernel, by decide +kernel, lefts, rest, recorded, accounts⟩

end Concordance.Resolution
