import Concordance.Text.Segment
import Mathlib.Data.List.Infix
/-!
Prefixes and suffixes as texts that are put together.
-/
namespace Concordance.Text

theorem startsWith_iff {start s : String} :
    startsWith start s = true ↔ start.toList <+: s.toList := by
  simp [startsWith]

theorem stripStart?_append (start rest : String) :
    stripStart? start (start ++ rest) = some rest := by
  have split : start.toList.isPrefixOf? (start ++ rest).toList = some rest.toList := by
    rw [List.isPrefixOf?_eq_some_iff_append_eq, String.toList_append]
  rw [stripStart?, split, Option.map_some, String.ofList_toList]

variable {ending s : String}

theorem stripEnd?_eq_some {rest : String} :
    stripEnd? ending s = some rest ↔ s = rest ++ ending := by
  rw [stripEnd?, Option.map_eq_some_iff]
  simp only [List.isSuffixOf?_eq_some_iff_append_eq]
  constructor
  · rintro ⟨cs, same, rfl⟩
    simp [← String.toList_inj, same]
  · rintro rfl
    exact ⟨rest.toList, by simp, by simp⟩

theorem endsWith_iff : endsWith ending s = true ↔ ∃ rest, s = rest ++ ending := by
  rw [endsWith, List.isSuffixOf_iff_suffix]
  constructor
  · rintro ⟨cs, same⟩
    exact ⟨.ofList cs, by simp [← String.toList_inj, same]⟩
  · rintro ⟨rest, rfl⟩
    exact ⟨rest.toList, by simp⟩

theorem endsWith_append (rest ending : String) : endsWith ending (rest ++ ending) = true :=
  endsWith_iff.mpr ⟨rest, rfl⟩

theorem endsWith_eq_false (h : stripEnd? ending s = none) : endsWith ending s = false := by
  rw [Bool.eq_false_iff, ne_eq, endsWith_iff]
  rintro ⟨rest, same⟩
  rw [stripEnd?_eq_some.mpr same] at h
  cases h

end Concordance.Text
