import Concordance.Proofs.Text.Segment
import Concordance.TypeRef
/-!
The names of arrays in scripts. An array of a packed element type has the name of the packed array
and any other is an `Array`, except that an array of packed arrays is named as the packed array
itself, and an array of generic dictionaries as one of them.
-/
namespace Concordance.TypeRef

open Text

def genericDictionary : String := "Godot.Collections.Dictionary`"

/-- Arrays of `element`, arrays of these arrays, and so on. -/
inductive IsArrayOf (element : String) : String → Prop where
  | single : IsArrayOf element (element ++ "[]")
  | nested (array : IsArrayOf element full) : IsArrayOf element (full ++ "[]")

section Brackets

theorem dropBrackets_append (full : String) : dropBrackets (full ++ "[]") = dropBrackets full := by
  simp [dropBrackets, dropBrackets.go]

theorem dropBrackets_of_isArrayOf {element full : String} (array : IsArrayOf element full) :
    dropBrackets full = dropBrackets element := by
  induction array with
  | single => exact dropBrackets_append element
  | nested _ ih => rw [dropBrackets_append, ih]

theorem dropBrackets_eq_or_isArrayOf (full : String) :
    dropBrackets full = full ∨ IsArrayOf (dropBrackets full) full := by
  -- The brackets are dropped from the end, so the name is run through backwards.
  have backwards (cs : List Char) :
      let rest := String.ofList (dropBrackets.go cs).reverse
      rest = String.ofList cs.reverse ∨ IsArrayOf rest (String.ofList cs.reverse) := by
    intro rest
    fun_induction dropBrackets.go cs with
    | case1 r ih =>
      have behind : String.ofList (']' :: '[' :: r).reverse = String.ofList r.reverse ++ "[]" := by
        simp
      rw [behind]
      right
      rcases ih with same | array
      · rw [← same]
        exact .single
      · exact .nested array
    | case2 => exact .inl rfl
  simpa [dropBrackets] using backwards full.toList.reverse

theorem prefix_of_isArrayOf {element full : String} (array : IsArrayOf element full) :
    element.toList <+: full.toList := by
  induction array with
  | single => simp
  | nested _ ih => exact ih.trans (by simp)

theorem endsWith_of_isArrayOf {element full : String} (array : IsArrayOf element full) :
    endsWith "[]" full = true := by
  cases array <;> exact endsWith_append _ _

theorem prefix_of_dropBrackets (full : String) : (dropBrackets full).toList <+: full.toList := by
  rcases dropBrackets_eq_or_isArrayOf full with same | array
  · rw [same]
  · exact prefix_of_isArrayOf array

end Brackets

section Packed

variable {packed : String × String}

theorem dropBrackets_of_packed (h : packed ∈ packedArrays) : dropBrackets packed.1 = packed.1 := by
  have bare : ∀ p ∈ packedArrays, dropBrackets p.1 = p.1 := by decide +kernel
  exact bare packed h

theorem lookup_of_packed (h : packed ∈ packedArrays) :
    packedArrays.lookup packed.1 = some packed.2 := by
  have distinct : ∀ p ∈ packedArrays, packedArrays.lookup p.1 = some p.2 := by decide +kernel
  exact distinct packed h

theorem ne_array_of_packed (h : packed ∈ packedArrays) : packed.2 ≠ "Array" := by
  have named : ∀ p ∈ packedArrays, p.2 ≠ "Array" := by decide +kernel
  exact named packed h

theorem lookup_eq_none_iff {element : String} :
    packedArrays.lookup element = none ↔ ∀ p ∈ packedArrays, p.1 ≠ element := by
  simp only [List.lookup_eq_none_iff, bne_iff_ne, ne_comm]

/-- No array is a packed element type itself. -/
theorem lookup_of_isArrayOf {element full : String} (array : IsArrayOf element full) :
    packedArrays.lookup full = none := by
  have plain : ∀ p ∈ packedArrays, endsWith "[]" p.1 = false := by decide +kernel
  refine lookup_eq_none_iff.mpr fun p packed same => ?_
  have := plain p packed
  rw [same, endsWith_of_isArrayOf array] at this
  contradiction

theorem lookup_of_startsWith {start full : String}
    (apart : ∀ p ∈ packedArrays, ¬start.toList <+: p.1.toList ∧ ¬p.1.toList <+: start.toList)
    (other : startsWith start full = true) : packedArrays.lookup (dropBrackets full) = none := by
  refine lookup_eq_none_iff.mpr fun p packed same => ?_
  obtain ⟨longer, shorter⟩ := apart p packed
  have rest := prefix_of_dropBrackets full
  rw [← same] at rest
  exact (List.prefix_or_prefix_of_prefix (startsWith_iff.mp other) rest).elim longer shorter

end Packed

section Naming

/-- A start that ends in a backtick does not reach into brackets. -/
theorem startsWith_brackets {start : String} (closed : start.toList.getLast? = some '`')
    (element : String) : startsWith start (element ++ "[]") = startsWith start element := by
  rw [Bool.eq_iff_iff, startsWith_iff, startsWith_iff, String.toList_append]
  change start.toList <+: element.toList ++ ['[', ']'] ↔ _
  rw [List.append_cons, List.prefix_concat_iff, List.prefix_concat_iff]
  constructor
  · rintro (same | same | short)
    · simp [same] at closed
    · simp [same] at closed
    · exact short
  · exact fun short => .inr (.inr short)

theorem logicalName_array (element : String) :
    (ofFullName (element ++ "[]")).logicalName =
      if startsWith genericDictionary element then "Dictionary"
      else (packedArrays.lookup (dropBrackets element)).getD "Array" := by
  have plain : ∀ p ∈ logicalNames, endsWith "[]" p.1 = false := by decide +kernel
  have unlisted : logicalNames.lookup (element ++ "[]") = none := by
    rw [List.lookup_eq_none_iff]
    rintro p listed
    rw [bne_iff_ne]
    rintro same
    have := plain p listed
    simp [← same, endsWith_append] at this
  simp only [logicalName, ofFullName, unlisted, endsWith_append, if_true, dropBrackets_append]
  rw [startsWith_brackets (by decide +kernel), startsWith_brackets (by decide +kernel)]
  split
  · next array =>
    have unmixed : startsWith genericDictionary element = false := by
      rw [Bool.eq_false_iff, ne_eq, startsWith_iff]
      intro dictionary
      have either := List.prefix_or_prefix_of_prefix (startsWith_iff.mp array) dictionary
      exact absurd either (by decide +kernel)
    rw [unmixed, lookup_of_startsWith (by decide +kernel) array]
    rfl
  · rfl

/-- Without brackets at its end, no name is that of a packed array but by its own simple name. -/
theorem logicalName_of_plain {t : TypeRef} (plain : endsWith "[]" t.fullName = false)
    (packed : t.logicalName ∈ packedArrays.map (·.2)) : t.logicalName = t.name := by
  have listed : ∀ p ∈ logicalNames, p.2 ∉ packedArrays.map (·.2) := by decide +kernel
  unfold logicalName at packed ⊢
  split at packed
  · next name found =>
    obtain ⟨before, after, split, -⟩ := List.lookup_eq_some_iff.mp found
    exact absurd packed (listed (t.fullName, name) (by simp [split]))
  · simp only [plain, Bool.false_eq_true, if_false] at packed ⊢
    split at packed
    · exact absurd packed (by decide +kernel)
    · split at packed
      · exact absurd packed (by decide +kernel)
      · simp_all

end Naming

/-- An array of a packed element type has the packed name and any other array is an `Array`, but for
two kinds: arrays of generic dictionaries are named as these, and arrays of packed arrays as the
packed arrays themselves. What is no array has a packed name only if that is its simple name. -/
theorem array_names (element : String) :
    let name := (ofFullName (element ++ "[]")).logicalName
    (name = (packedArrays.lookup element).getD "Array" ↔
      startsWith genericDictionary element = false ∧
        ∀ p ∈ packedArrays, ¬IsArrayOf p.1 element) ∧
    (startsWith genericDictionary element = true → name = "Dictionary") ∧
    (∀ p ∈ packedArrays, IsArrayOf p.1 element → name = p.2) ∧
    ∀ t : TypeRef, endsWith "[]" t.fullName = false →
      t.logicalName ∈ packedArrays.map (·.2) → t.logicalName = t.name := by
  intro name
  have named : name = _ := logicalName_array element
  have generic (start : startsWith genericDictionary element = true) :
      packedArrays.lookup (dropBrackets element) = none :=
    lookup_of_startsWith (by decide +kernel) start
  have dictionary (start : startsWith genericDictionary element = true) : name = "Dictionary" := by
    rw [named, if_pos start]
  have nested : ∀ p ∈ packedArrays, IsArrayOf p.1 element → name = p.2 := by
    intro p packed array
    have innermost : packedArrays.lookup (dropBrackets element) = some p.2 := by
      rw [dropBrackets_of_isArrayOf array, dropBrackets_of_packed packed, lookup_of_packed packed]
    have start : ¬startsWith genericDictionary element = true := fun start => by
      simp [generic start] at innermost
    rw [named, if_neg start, innermost, Option.getD_some]
  refine ⟨⟨fun expected => ⟨?_, ?_⟩, fun ⟨start, others⟩ => ?_⟩, dictionary, nested,
    fun t => logicalName_of_plain⟩
  · rw [Bool.eq_false_iff]
    intro start
    have unpacked : packedArrays.lookup element = none := by
      refine lookup_eq_none_iff.mpr ?_
      rintro p packed rfl
      have := generic start
      rw [dropBrackets_of_packed packed, lookup_of_packed packed] at this
      contradiction
    simp [dictionary start, unpacked] at expected
  · intro p packed array
    rw [nested p packed array, lookup_of_isArrayOf array] at expected
    exact ne_array_of_packed packed expected
  · rw [named, if_neg (by simp [start])]
    rcases dropBrackets_eq_or_isArrayOf element with same | array
    · rw [same]
    · have unpacked : packedArrays.lookup (dropBrackets element) = none :=
        lookup_eq_none_iff.mpr fun p packed same => others p packed (same ▸ array)
      rw [unpacked, lookup_of_isArrayOf array]

theorem array_names_bytes :
    (ofFullName "System.Byte[]").logicalName = "PackedByteArray" ∧
      (ofFullName "System.Byte[][]").logicalName = "PackedByteArray" ∧
      (ofFullName "Godot.Collections.Dictionary`2[]").logicalName = "Dictionary" ∧
      (ofFullName "Godot.PackedByteArray").logicalName = "PackedByteArray" := by
  obtain ⟨regular, -, -, others⟩ := array_names "System.Byte"
  obtain ⟨-, -, nested, -⟩ := array_names "System.Byte[]"
  obtain ⟨-, dictionary, -⟩ := array_names "Godot.Collections.Dictionary`2"
  refine ⟨regular.mpr ⟨by decide, ?_⟩, ?_, dictionary (by decide +kernel), ?_⟩
  · intro p _ array
    exact absurd (endsWith_of_isArrayOf array) (by decide +kernel)
  · exact nested ("System.Byte", "PackedByteArray") (by decide +kernel) .single
  · exact others (ofFullName "Godot.PackedByteArray") (by decide +kernel) (by decide +kernel)

end Concordance.TypeRef
