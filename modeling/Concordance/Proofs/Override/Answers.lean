import Concordance.Proofs.Override.History
import Concordance.Proofs.Registry.Index
/-!
Questions to a registry before and after merges. A merge replaces maps and the whole index, but it
takes no answer away, whatever index the registry had.
-/
namespace Concordance.Registry

/-- Whatever the registry `r` answers, `s` answers too. -/
structure Grows (r s : Registry) : Prop where
  knowsType (n : String) : r.knowsType n = true → s.knowsType n = true
  knowsMethod (type : Option String) (n : String) :
    r.knowsMethod type n = true → s.knowsMethod type n = true
  typesNamed (n : String) : s.typesNamed n = r.typesNamed n
  globalMethods (n : String) : r.globalMethods n <+: s.globalMethods n
  enumsHolding (constant : String) : ∀ e ∈ r.enumsHolding constant, e ∈ s.enumsHolding constant

namespace Grows

theorem refl (r : Registry) : r.Grows r :=
  ⟨fun _ => id, fun _ _ => id, fun _ => rfl, fun _ => List.prefix_refl _, fun _ _ => id⟩

theorem trans {r s t : Registry} (first : r.Grows s) (second : s.Grows t) : r.Grows t where
  knowsType n known := second.knowsType n (first.knowsType n known)
  knowsMethod type n known := second.knowsMethod type n (first.knowsMethod type n known)
  typesNamed n := (second.typesNamed n).trans (first.typesNamed n)
  globalMethods n := (first.globalMethods n).trans (second.globalMethods n)
  enumsHolding c e found := second.enumsHolding c e (first.enumsHolding c e found)

end Grows

variable {r s : Registry} {o : Overrides}

theorem knowsMethod_none_eq (r : Registry) (method : String) :
    r.knowsMethod none method = !(r.globalMethods (methodName method)).isEmpty := by
  unfold knowsMethod hasOverload globalMethods
  cases (r.global.methods.get? (methodName method)).getD [] <;> rfl

/-- An index may list any names, but what it leads to is an enum that has the constant. -/
theorem exists_listAt_of_mem_enumsHolding {constant : String} {e : EnumType}
    (h : e ∈ r.enumsHolding constant) :
    (∃ n, e ∈ r.global.enums.listAt n) ∧ ∃ m ∈ e.members, m.logicalName = constant := by
  obtain ⟨listed, has⟩ := List.mem_filter.mp h
  obtain ⟨n, -, found⟩ := List.mem_flatMap.mp listed
  exact ⟨⟨n, found⟩, EnumType.member?_isSome.mp has⟩

theorem IsIndexedFor.mem_enumsHolding {constant : String} (h : s.IsIndexedFor constant)
    {e : EnumType} {n : String} (listed : e ∈ s.global.enums.listAt n)
    (has : ∃ m ∈ e.members, m.logicalName = constant) : e ∈ s.enumsHolding constant := by
  rw [h.answer, List.mem_filter, List.mem_flatten]
  exact ⟨SortedMap.mem_listAt_iff.mp ⟨n, listed⟩, by simpa using has⟩

namespace IsMergeOf

theorem variants?_eq (h : s.IsMergeOf r o) (n : String) : s.variants? n = r.variants? n := by
  rw [variants?, variants?, h.entries]

theorem typesNamed_eq (h : s.IsMergeOf r o) (n : String) : s.typesNamed n = r.typesNamed n := by
  rw [typesNamed, typesNamed, h.variants?_eq]

theorem contains_types (h : s.IsMergeOf r o) {n : String}
    (known : r.global.types.contains n = true) : s.global.types.contains n = true := by
  rw [SortedMap.contains] at known ⊢
  rw [h.types, Option.isSome_or, known, Bool.or_true]

theorem grows (h : s.IsMergeOf r o) : r.Grows s where
  knowsType n known := by
    rw [knowsType, Bool.or_eq_true] at known ⊢
    rw [h.variants?_eq]
    exact known.imp_right h.contains_types
  knowsMethod type n known := by
    cases type with
    | none =>
      rw [knowsMethod_none_eq, Bool.not_eq_true', List.isEmpty_eq_false_iff] at known ⊢
      intro empty
      exact known (List.prefix_nil.mp (empty ▸ h.methods_prefix (methodName n)))
    | some t =>
      rw [knowsMethod] at known ⊢
      rwa [h.typesNamed_eq]
  typesNamed := h.typesNamed_eq
  globalMethods := h.methods_prefix
  enumsHolding constant e found := by
    obtain ⟨⟨n, listed⟩, has⟩ := exists_listAt_of_mem_enumsHolding found
    have indexed := isIndexedFor_of_indexed h.enumsOfConstant constant
    exact indexed.mem_enumsHolding ((h.enums_prefix n).subset listed) has

end IsMergeOf

theorem grows_mergeAll (r : Registry) (history : List Overrides) :
    r.Grows (r.mergeAll history) := by
  induction history generalizing r with
  | nil => exact .refl r
  | cons o history ih => exact (r.merge_effect o).grows.trans (ih (r.merge o).1)

/-- No merge makes an answer worse, nor does any number of them. -/
theorem merges_keep_answers (r : Registry) :
    (∀ o, r.Grows (r.merge o).1) ∧ ∀ history, r.Grows (r.mergeAll history) :=
  ⟨fun o => (r.merge_effect o).grows, r.grows_mergeAll⟩

-- A stale index leads to one enum twice; the index after a merge leads to it once, and still does.
example :
    let side : EnumType := {
      logicalName := "Side", binaryFullName := "Godot.Side", binaryName := "Side"
      members := [⟨"SIDE_TOP", "Top", 1⟩] }
    let r : Registry := { global := {
      enums := .ofList [("Side", [side])]
      enumsOfConstant := .ofList [("SIDE_TOP", ["Side", "Gone", "Side"])] } }
    (r.enumsHolding "SIDE_TOP").map (·.logicalName) = ["Side", "Side"] ∧
      ((r.merge {}).1.enumsHolding "SIDE_TOP").map (·.logicalName) = ["Side"] := by
  decide +kernel

end Concordance.Registry
