import Mathlib.Data.List.Basic
/-!
Lists without the entries whose key came before. Merges add such entries and scans report them.
-/
namespace Concordance

variable {α κ : Type} {key : α → κ}

theorem mem_keys_snoc {before : List α} {x : α} {k : κ} :
    k ∈ (before ++ [x]).map key ↔ k ∈ before.map key ∨ k = key x := by
  rw [List.map_append, List.mem_append, List.map_singleton, List.mem_singleton]

theorem mem_keys_snoc_of_mem {before : List α} {x : α} (h : key x ∈ before.map key) {k : κ} :
    k ∈ (before ++ [x]).map key ↔ k ∈ before.map key := by
  rw [mem_keys_snoc, or_iff_left_iff_imp]
  rintro rfl
  exact h

variable [DecidableEq κ]

/-- The entries of a list whose key no entry before them has, be it in the list or in `before`. -/
def newcomers (key : α → κ) (before : List α) : List α → List α
  | [] => []
  | x :: xs =>
    (if key x ∈ before.map key then [] else [x]) ++ newcomers key (before ++ [x]) xs

theorem mem_of_mem_newcomers {before xs : List α} {x : α} (h : x ∈ newcomers key before xs) :
    x ∈ xs := by
  induction xs generalizing before with
  | nil => cases h
  | cons y xs ih =>
    rcases List.mem_append.mp h with h | h
    · split at h
      · cases h
      · exact List.mem_singleton.mp h ▸ List.mem_cons_self
    · exact List.mem_cons_of_mem _ (ih h)

theorem newcomers_congr {before before' : List α}
    (h : ∀ k, k ∈ before.map key ↔ k ∈ before'.map key) (xs : List α) :
    newcomers key before xs = newcomers key before' xs := by
  induction xs generalizing before before' with
  | nil => rfl
  | cons x xs ih =>
    have extended : ∀ k, k ∈ (before ++ [x]).map key ↔ k ∈ (before' ++ [x]).map key := by
      intro k
      rw [mem_keys_snoc, mem_keys_snoc, h]
    simp only [newcomers, h, ih extended]

theorem newcomers_append (before xs ys : List α) :
    newcomers key before (xs ++ ys) =
      newcomers key before xs ++ newcomers key (before ++ xs) ys := by
  induction xs generalizing before with
  | nil => simp [newcomers]
  | cons x xs ih => simp [newcomers, ih]

theorem mem_keys_append_newcomers (before xs : List α) (k : κ) :
    k ∈ (before ++ newcomers key before xs).map key ↔ k ∈ (before ++ xs).map key := by
  induction xs generalizing before with
  | nil => rw [newcomers]
  | cons x xs ih =>
    have others := ih (before ++ [x])
    by_cases known : key x ∈ before.map key
    · rw [List.map_append, List.mem_append, mem_keys_snoc_of_mem known, ← List.mem_append,
        ← List.map_append] at others
      rw [newcomers, if_pos known, List.nil_append, others, List.append_cons before x xs]
    · rw [newcomers, if_neg known, ← List.append_assoc, others, List.append_cons before x xs]

theorem newcomers_eq_nil {before xs : List α} (h : ∀ x ∈ xs, key x ∈ before.map key) :
    newcomers key before xs = [] := by
  induction xs generalizing before with
  | nil => rfl
  | cons x xs ih =>
    have rest : ∀ y ∈ xs, key y ∈ (before ++ [x]).map key := by
      intro y hy
      rw [List.map_append]
      exact List.mem_append_left _ (h y (List.mem_cons_of_mem _ hy))
    rw [newcomers, if_pos (h x List.mem_cons_self), ih rest, List.nil_append]

/-- What a second list adds does not depend on whether the first was added or only seen. -/
theorem append_newcomers_append (before xs ys : List α) :
    (before ++ newcomers key before xs) ++ newcomers key (before ++ newcomers key before xs) ys =
      before ++ newcomers key before (xs ++ ys) := by
  rw [newcomers_congr (mem_keys_append_newcomers before xs) ys, newcomers_append,
    List.append_assoc]

end Concordance
