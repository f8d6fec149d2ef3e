import Concordance.Proofs.Override.Merge
/-!
The counts of a merge. A table of lists grows by what is counted as added, and each entry that comes
is counted once, as added or as passed over. This is kept by the merge of one name, whatever table
it finds, and so by a merge of all names and by two merges in a row.
-/
namespace Concordance

def SortedMap.total (table : NameMap (List α)) : Nat := table.values.flatten.length

theorem SortedMap.total_eq_erase (table : NameMap (List α)) (name : String) :
    table.total = (table.erase name).total + (table.listAt name).length := by
  unfold total listAt
  cases found : table.get? name with
  | none => rw [erase_eq_self found, Option.getD_none, List.length_nil, Nat.add_zero]
  | some xs =>
    have parts := ((perm_entries_erase found).map (·.2)).flatten.length_eq
    rw [List.map_cons, List.flatten_cons, List.length_append, Nat.add_comm] at parts
    exact parts

namespace Override

variable {same : α → α → Bool}

theorem exists_appendNew_eq (same : α → α → Bool) (old incoming : List α) :
    ∃ added, appendNew same old incoming = old ++ added ∧ added.Sublist incoming := by
  unfold appendNew
  induction incoming generalizing old with
  | nil => exact ⟨[], by simp⟩
  | cons x xs ih =>
    rw [List.foldl_cons]
    split
    · obtain ⟨added, grown, came⟩ := ih old
      exact ⟨added, grown, came.cons x⟩
    · obtain ⟨added, grown, came⟩ := ih (old ++ [x])
      exact ⟨x :: added, by rw [grown, List.append_assoc]; rfl, came.cons_cons x⟩

/-- The differences taken for the tally of a name are those of the integers, so none of them falls
below zero. -/
def TalliesExactly (same : α → α → Bool) (table : NameMap (List α)) (name : String)
    (incoming : List α) : Prop :=
  let new := appendNew same (table.listAt name) incoming
  let tally := (mergeName same table name incoming).2
  (tally.added : Int) = new.length - (table.listAt name).length ∧
    (tally.skipped : Int) = incoming.length - tally.added

theorem talliesExactly (same : α → α → Bool) (table : NameMap (List α)) (name : String)
    (incoming : List α) : TalliesExactly same table name incoming := by
  obtain ⟨added, grown, came⟩ := exists_appendNew_eq same (table.listAt name) incoming
  have few := came.length_le
  have length := congrArg List.length grown
  rw [List.length_append] at length
  unfold TalliesExactly mergeName
  unfold SortedMap.listAt at length ⊢
  dsimp only
  omega

theorem total_mergeName (table : NameMap (List α)) (name : String) (incoming : List α) :
    (mergeName same table name incoming).1.total =
      table.total + (mergeName same table name incoming).2.added := by
  have others : (mergeName same table name incoming).1.erase name = table.erase name := by
    apply SortedMap.ext_get?
    intro n
    rw [SortedMap.get?_erase, SortedMap.get?_erase, get?_mergeName]
    split <;> rfl
  have own : (mergeName same table name incoming).1.listAt name =
      appendNew same (table.listAt name) incoming := by
    rw [SortedMap.listAt, get?_mergeName, if_pos rfl, getD_mergeBinding]
    rfl
  obtain ⟨added, -⟩ := talliesExactly same table name incoming
  rw [SortedMap.total_eq_erase _ name, others, own, table.total_eq_erase name]
  omega

/-- A table that has grown from `before` entries by the tally's additions, after so many entries
have come. -/
structure Balanced (before came : Nat) (state : NameMap (List α) × Tally) : Prop where
  grown : state.1.total = before + state.2.added
  counted : state.2.added + state.2.skipped = came

theorem Balanced.mergeName {before came : Nat} {table : NameMap (List α)} {tally : Tally}
    (h : Balanced before came (table, tally)) (same : α → α → Bool) (name : String)
    (incoming : List α) :
    let merged := mergeName same table name incoming
    Balanced before (came + incoming.length)
      (merged.1, ⟨tally.added + merged.2.added, tally.skipped + merged.2.skipped⟩) := by
  obtain ⟨grown, counted⟩ := h
  obtain ⟨-, skipped⟩ := talliesExactly same table name incoming
  constructor
  · rw [total_mergeName, grown, Nat.add_assoc]
  · dsimp only at counted skipped ⊢
    omega

def mergeEntry (same : α → α → Bool) (state : NameMap (List α) × Tally)
    (e : String × List α) : NameMap (List α) × Tally :=
  let merged := mergeName same state.1 e.1 e.2
  (merged.1, ⟨state.2.added + merged.2.added, state.2.skipped + merged.2.skipped⟩)

theorem Balanced.foldl_mergeEntry {before came : Nat} {state : NameMap (List α) × Tally}
    (h : Balanced before came state) (same : α → α → Bool) (es : List (String × List α)) :
    Balanced before (came + (es.map (·.2)).flatten.length)
      (es.foldl (mergeEntry same) state) := by
  induction es generalizing came state with
  | nil => exact h
  | cons e es ih =>
    have all := ih (h.mergeName same e.1 e.2)
    rw [List.map_cons, List.flatten_cons, List.length_append, ← Nat.add_assoc]
    exact all

theorem balanced_mergeTable (same : α → α → Bool) (table incoming : NameMap (List α)) :
    Balanced table.total incoming.total (mergeTable same table incoming) := by
  have start : Balanced table.total 0 (table, ({} : Tally)) := ⟨rfl, rfl⟩
  have whole := start.foldl_mergeEntry same incoming.entries
  rw [Nat.zero_add] at whole
  exact whole

end Override

open Override

/-- The counts of a merge balance: methods and enums grow by what is counted as added, every entry
of the lists of the set is counted as added or as passed over, and no difference taken on the way
falls below zero. -/
theorem Registry.merge_counts_balance (r : Registry) (o : Overrides) :
    let s := (r.merge o).1
    let counts := (r.merge o).2
    s.global.methodCount = r.global.methodCount + (counts.methodsAdded + counts.builtinsAdded) ∧
      s.global.enums.total = r.global.enums.total + counts.enumsAdded ∧
      counts.enumsAdded + counts.methodsAdded + counts.builtinsAdded + counts.duplicatesSkipped =
        o.enums.total + o.methods.total + o.builtins.total ∧
      (∀ table name incoming, TalliesExactly sameEnum table name incoming) ∧
      ∀ table name incoming, TalliesExactly Method.hasShapeOf table name incoming := by
  intro s counts
  let enums := mergeTable sameEnum r.global.enums o.enums
  let methods := mergeTable Method.hasShapeOf r.global.methods o.methods
  let builtins := mergeTable Method.hasShapeOf methods.1 o.builtins
  have enumsBalanced : Balanced r.global.enums.total o.enums.total enums :=
    balanced_mergeTable _ _ _
  have methodsBalanced : Balanced r.global.methods.total o.methods.total methods :=
    balanced_mergeTable _ _ _
  have builtinsBalanced : Balanced methods.1.total o.builtins.total builtins :=
    balanced_mergeTable _ _ _
  have skipped : counts.duplicatesSkipped =
      enums.2.skipped + methods.2.skipped + builtins.2.skipped := rfl
  refine ⟨?_, enumsBalanced.grown, ?_, talliesExactly sameEnum, talliesExactly Method.hasShapeOf⟩
  · calc s.global.methodCount
      _ = methods.1.total + builtins.2.added := builtinsBalanced.grown
      _ = r.global.methods.total + methods.2.added + builtins.2.added := by
        rw [methodsBalanced.grown]
      _ = r.global.methodCount + (counts.methodsAdded + counts.builtinsAdded) := Nat.add_assoc ..
  · rw [skipped, ← enumsBalanced.counted, ← methodsBalanced.counted, ← builtinsBalanced.counted]
    change enums.2.added + methods.2.added + builtins.2.added + _ = _
    omega

end Concordance
