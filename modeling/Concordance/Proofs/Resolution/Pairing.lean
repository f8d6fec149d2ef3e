import Concordance.Proofs.SortedMap
import Concordance.Proofs.Text.Segment
import Concordance.Resolution.Pairing
/-!
What becomes of the enums that the host lists for a type. An enum is paired with the first nested
one of either spelling if the two count alike, else that one is recorded as a mismatch. The members
of a paired enum are what the values of the nested enum give as constants under the same names. The
way back, from the binary name to the host's, misses where the host's name has the suffix itself.
-/
namespace Concordance

section Spelling

namespace ExtractionSettings

variable {s : ExtractionSettings} {name binary : String}

/-- A binary name that either spelling of the host's name allows but that is read back as another
name: the host's name with the suffix in it, and the bare suffix for an empty name. -/
def Misreads (s : ExtractionSettings) (name binary : String) : Prop :=
  s.enumSuffix ≠ "" ∧
    ((binary = name ∧ name ≠ s.enumSuffix ∧ Text.endsWith s.enumSuffix name = true) ∨
      (binary = s.enumSuffix ∧ name = ""))

instance (s : ExtractionSettings) (name binary : String) : Decidable (s.Misreads name binary) :=
  inferInstanceAs (Decidable (_ ∧ _))

private theorem withoutEnumSuffix_append (s : ExtractionSettings) (name : String) :
    s.withoutEnumSuffix (name ++ s.enumSuffix) =
      if name = "" then name ++ s.enumSuffix else name := by
  rw [withoutEnumSuffix, Text.stripEnd?_eq_some.mpr rfl]

/-- A nested enum finds the host's name under which its owner finds it, unless it is misread. -/
theorem withoutEnumSuffix_eq_iff (spelled : binary = name ∨ binary = name ++ s.enumSuffix) :
    s.withoutEnumSuffix binary = name ↔ ¬s.Misreads name binary := by
  by_cases unmarked : s.enumSuffix = ""
  · have same : binary = name := by simpa [unmarked] using spelled
    have read := s.withoutEnumSuffix_append name
    rw [unmarked, String.append_empty, ite_self] at read
    simp [Misreads, same, read, unmarked]
  rcases spelled with rfl | rfl
  · cases stripped : Text.stripEnd? s.enumSuffix binary with
    | none =>
      have plain := Text.endsWith_eq_false stripped
      have notBare : ¬(binary = s.enumSuffix ∧ binary = "") := fun ⟨bare, empty⟩ =>
        unmarked (bare.symm.trans empty)
      simp [withoutEnumSuffix, stripped, Misreads, plain, notBare]
    | some rest =>
      obtain rfl := Text.stripEnd?_eq_some.mp stripped
      rw [withoutEnumSuffix_append]
      by_cases bare : rest = ""
      · simp [Misreads, unmarked, bare]
      · have shorter : rest ≠ rest ++ s.enumSuffix := fun same =>
          unmarked (by simpa using same.symm)
        simp [Misreads, unmarked, bare, shorter, Text.endsWith_append]
  · rw [withoutEnumSuffix_append]
    by_cases empty : name = ""
    · simp [Misreads, unmarked, empty]
    · simp [Misreads, unmarked, empty]

end ExtractionSettings

end Spelling

def EnumMember.asConstant (e : EnumMember) (enum : String) : Constant :=
  ⟨e.logicalName, e.binaryName, enum, enum, toString e.value.toInt⟩

namespace Resolution

open Compiled (TypeInfo)

section Pairing

variable {owner name : String} {constants : List String} {binary : TypeInfo} {d : EnumType}

theorem pairing?_eq_some : pairing? owner name constants binary = some d ↔
    constants.length = binary.enumValues.length ∧ d = {
      logicalName := name
      containingType := some owner
      binaryFullName := binary.fullName
      binaryName := binary.name
      isFlags := binary.isFlags
      members := members constants binary.enumValues } := by
  unfold pairing?
  split <;> simp_all [eq_comm]

theorem eq_of_pairing? (h : pairing? owner name constants binary = some d) :
    constants.length = binary.enumValues.length ∧ d.logicalName = name ∧
      d.binaryFullName = binary.fullName ∧ d.binaryName = binary.name ∧
      d.members = members constants binary.enumValues := by
  obtain ⟨same, rfl⟩ := pairing?_eq_some.mp h
  exact ⟨same, rfl, rfl, rfl, rfl⟩

theorem pairing?_eq_none : pairing? owner name constants binary = none ↔
    constants.length ≠ binary.enumValues.length := by
  unfold pairing?
  split <;> simp_all

end Pairing

section Outcomes

variable {host : Host} {settings : ExtractionSettings} {t : TypeInfo} {logicalName name : String}

theorem spelled_of_nestedEnum? {suffix : String} {b : TypeInfo}
    (h : nestedEnum? suffix t name = some b) : b.name = name ∨ b.name = name ++ suffix := by
  have answers := List.find?_some h
  simp only [Bool.and_eq_true, Bool.or_eq_true, decide_eq_true_eq] at answers
  exact answers.2

theorem mem_of_nestedEnum? {suffix : String} {b : TypeInfo}
    (h : nestedEnum? suffix t name = some b) : b ∈ t.nestedTypes.filter (·.isEnum) := by
  have answers := List.find?_some h
  rw [Bool.and_eq_true] at answers
  exact List.mem_filter.mpr ⟨List.mem_of_find?_eq_some h, answers.1⟩

theorem enum?_enumOutcome {d : EnumType} :
    (enumOutcome host settings t logicalName name).enum? = some d ↔
      ∃ b, nestedEnum? settings.enumSuffix t name = some b ∧
        pairing? logicalName name (host.enumConstants logicalName name) b = some d := by
  unfold enumOutcome
  cases found : nestedEnum? settings.enumSuffix t name with
  | none =>
    dsimp only
    split <;> simp [EnumOutcome.enum?]
  | some b =>
    dsimp only
    cases paired : pairing? logicalName name (host.enumConstants logicalName name) b with
    | none => simp [EnumOutcome.enum?, paired]
    | some d => simp [EnumOutcome.enum?, paired]

theorem unresolved?_enumOutcome {logical full : String} :
    (enumOutcome host settings t logicalName name).unresolved? =
        some (.constantsMismatch logical full) ↔
      logical = logicalName ∧ ∃ b, nestedEnum? settings.enumSuffix t name = some b ∧
        b.fullName = full ∧ (host.enumConstants logicalName name).length ≠ b.enumValues.length := by
  unfold enumOutcome
  cases found : nestedEnum? settings.enumSuffix t name with
  | none =>
    dsimp only
    split <;> simp [EnumOutcome.unresolved?]
  | some b =>
    dsimp only
    cases paired : pairing? logicalName name (host.enumConstants logicalName name) b with
    | none =>
      have differs := pairing?_eq_none.mp paired
      constructor
      · rintro ⟨⟩
        exact ⟨rfl, b, rfl, rfl, differs⟩
      · rintro ⟨rfl, _, ⟨⟩, rfl, -⟩
        rfl
    | some d => simp [EnumOutcome.unresolved?, (eq_of_pairing? paired).1]

theorem binaryType_of_unresolved?_enumOutcome {u : Unresolved}
    (h : (enumOutcome host settings t logicalName name).unresolved? = some u) :
    u.binaryType = t.fullName ∨
      ∃ b ∈ t.nestedTypes.filter (·.isEnum), u.binaryType = b.fullName := by
  unfold enumOutcome at h
  cases found : nestedEnum? settings.enumSuffix t name with
  | none =>
    rw [found] at h
    dsimp only at h
    split at h
    · cases h
    · obtain rfl := Option.some.inj h
      exact .inl rfl
  | some b =>
    rw [found] at h
    dsimp only at h
    split at h
    · cases h
    · obtain rfl := Option.some.inj h
      exact .inr ⟨b, mem_of_nestedEnum? found, rfl⟩

theorem outcome_of_get?_enums {d : EnumType}
    (h : (enums (enumOutcomes host settings t logicalName)).get? name = some d) :
    name ∈ host.enumNames logicalName ∧
      (enumOutcome host settings t logicalName name).enum? = some d := by
  obtain ⟨o, ho, listed⟩ := List.mem_filterMap.mp (SortedMap.mem_of_get?_ofList h)
  obtain ⟨n, hn, rfl⟩ := List.mem_map.mp ho
  obtain ⟨e, outcome, pair⟩ := Option.map_eq_some_iff.mp listed
  obtain ⟨rfl, rfl⟩ := Prod.mk.inj pair
  obtain ⟨b, -, paired⟩ := enum?_enumOutcome.mp outcome
  obtain ⟨-, rfl, -⟩ := eq_of_pairing? paired
  exact ⟨hn, outcome⟩

theorem pairing?_of_get?_enums {d : EnumType}
    (h : (enums (enumOutcomes host settings t logicalName)).get? name = some d) :
    ∃ b, nestedEnum? settings.enumSuffix t name = some b ∧
      pairing? logicalName name (host.enumConstants logicalName name) b = some d :=
  enum?_enumOutcome.mp (outcome_of_get?_enums h).2

end Outcomes

theorem get?_enumConstants? {names : List String} {t : TypeInfo}
    (same : names.length = t.enumValues.length) (name : String) :
    ((enumConstants? names t).getD .empty).get? name =
      ((members names t.enumValues).reverse.find? (·.logicalName = name)).map
        (·.asConstant t.fullName) := by
  have pairs : names.zipWith (fun name v =>
      (name, (⟨name, v.name, t.fullName, t.fullName, toString v.value.toInt⟩ : Constant)))
        t.enumValues =
      (members names t.enumValues).map fun e => (e.logicalName, e.asConstant t.fullName) := by
    simp [members, List.map_zipWith, EnumMember.asConstant]
  rw [enumConstants?, if_pos same, Option.getD_some, pairs, SortedMap.get?_ofList,
    ← List.map_reverse, List.find?_map, Option.map_map]
  rfl

private theorem exists_of_get?_zipped {f : String → α → Constant} {names : List String}
    {xs : List α} {name : String} {c : Constant}
    (h : (SortedMap.ofList (names.zipWith (fun n x => (n, f n x)) xs)).get? name = some c) :
    ∃ x ∈ xs, c = f name x := by
  have pair := SortedMap.mem_of_get?_ofList h
  rw [← List.map_uncurry_zip_eq_zipWith, List.mem_map] at pair
  obtain ⟨⟨n, x⟩, zipped, same⟩ := pair
  obtain ⟨rfl, rfl⟩ := Prod.mk.inj same
  exact ⟨x, (List.of_mem_zip zipped).2, rfl⟩

theorem exists_literal_of_get?_constants? {host : Host} {t : TypeInfo} {logicalName name : String}
    {c : Constant} (h : ((constants? host t logicalName).getD .empty).get? name = some c) :
    ∃ l ∈ t.literals, c = ⟨name, l.name, l.type.fullName, t.fullName, l.value⟩ := by
  unfold constants? at h
  dsimp only at h
  split at h
  · exact exists_of_get?_zipped h
  · cases h

theorem exists_value_of_get?_enumConstants? {names : List String} {t : TypeInfo} {name : String}
    {c : Constant} (h : ((enumConstants? names t).getD .empty).get? name = some c) :
    ∃ v ∈ t.enumValues, c = ⟨name, v.name, t.fullName, t.fullName, toString v.value.toInt⟩ := by
  unfold enumConstants? at h
  split at h
  · exact exists_of_get?_zipped h
  · cases h

theorem enumConstants?_eq_none {names : List String} {t : TypeInfo} :
    enumConstants? names t = none ↔ names.length ≠ t.enumValues.length := by
  unfold enumConstants?
  split <;> simp_all

end Resolution
end Concordance
