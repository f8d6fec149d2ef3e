import Concordance.Override.Standard
import Concordance.Proofs.Override.Merge
/-!
Merges over a history. A table covers a set of entries once it has an entry of every key of the
set; merging the set establishes this, no later merge undoes it, and a covered set adds nothing.
-/
namespace Concordance

namespace Override

variable {κ : Type} [DecidableEq κ] {key : α → κ} {same : α → α → Bool}

/-- The table has every key of the entries, and no list of their names is kept empty. -/
def Covers (key : α → κ) (table incoming : NameMap (List α)) : Prop :=
  ∀ e ∈ incoming.entries,
    table.get? e.1 ≠ some [] ∧ ∀ x ∈ e.2, key x ∈ (table.listAt e.1).map key

omit [DecidableEq κ] in
theorem Covers.exists_mem {table incoming : NameMap (List α)} (h : Covers key table incoming)
    {name : String} {x : α} (hx : x ∈ incoming.listAt name) :
    ∃ y ∈ table.listAt name, key y = key x := by
  obtain ⟨xs, found, hx⟩ := SortedMap.exists_get?_of_mem_listAt hx
  exact List.mem_map.mp ((h _ (SortedMap.mem_entries_iff.mpr found)).2 x hx)

theorem covers_mergeTable_self (keyed : ∀ a b, same a b = true ↔ key a = key b)
    (table incoming : NameMap (List α)) :
    Covers key (mergeTable same table incoming).1 incoming := by
  rintro ⟨name, xs⟩ mentioned
  have found : incoming.get? name = some xs := SortedMap.mem_entries_iff.mp mentioned
  refine ⟨get?_mergeTable_ne_nil (.inl (by simp [SortedMap.contains, found])), fun x hx => ?_⟩
  have incomingAt : incoming.listAt name = xs := by rw [SortedMap.listAt, found, Option.getD_some]
  rw [listAt_mergeTable keyed, incomingAt, mem_keys_append_newcomers]
  exact List.mem_map_of_mem (List.mem_append_right _ hx)

theorem Covers.mergeTable {table incoming : NameMap (List α)} (h : Covers key table incoming)
    (keyed : ∀ a b, same a b = true ↔ key a = key b) (other : NameMap (List α)) :
    Covers key (mergeTable same table other).1 incoming := by
  intro e he
  obtain ⟨kept, covered⟩ := h e he
  refine ⟨get?_mergeTable_ne_nil (.inr kept), fun x hx => ?_⟩
  rw [listAt_mergeTable keyed, List.map_append]
  exact List.mem_append_left _ (covered x hx)

theorem mergeName_of_covered (keyed : ∀ a b, same a b = true ↔ key a = key b)
    {table : NameMap (List α)} {name : String} {xs : List α} (kept : table.get? name ≠ some [])
    (covered : ∀ x ∈ xs, key x ∈ (table.listAt name).map key) :
    mergeName same table name xs = (table, ⟨0, xs.length⟩) := by
  have stays : appendNew same (table.listAt name) xs = table.listAt name := by
    rw [appendNew_eq keyed, newcomers_eq_nil covered, List.append_nil]
  unfold SortedMap.listAt at stays
  unfold mergeName
  simp only [stays, Nat.sub_self, Nat.sub_zero]
  cases found : table.get? name with
  | none => rw [Option.getD_none, List.isEmpty_nil, if_pos rfl, SortedMap.erase_eq_self found]
  | some ys =>
    have : ¬ys.isEmpty = true := by
      intro empty
      rw [found, List.isEmpty_iff.mp empty] at kept
      exact kept rfl
    rw [Option.getD_some, if_neg this, SortedMap.insert_eq_self found]

theorem mergeTable_of_covers (keyed : ∀ a b, same a b = true ↔ key a = key b)
    {table incoming : NameMap (List α)} (h : Covers key table incoming) :
    mergeTable same table incoming = (table, ⟨0, incoming.values.flatten.length⟩) := by
  -- The tally starts from nothing, and grows from any start.
  have start : (⟨0, incoming.values.flatten.length⟩ : Tally) =
      ⟨Tally.added {}, Tally.skipped {} + incoming.values.flatten.length⟩ := by
    simp
  rw [start]
  unfold mergeTable SortedMap.values
  unfold Covers at h
  generalize ({} : Tally) = tally
  generalize incoming.entries = es at h ⊢
  induction es generalizing tally with
  | nil => rfl
  | cons e es ih =>
    obtain ⟨kept, covered⟩ := h e List.mem_cons_self
    have others (tally : Tally) := ih tally fun d hd => h d (List.mem_cons_of_mem _ hd)
    rw [List.foldl_cons]
    simp only [mergeName_of_covered keyed kept covered]
    rw [others]
    simp [Nat.add_assoc]

end Override

open Override

def Registry.mergeAll (r : Registry) (history : List Overrides) : Registry :=
  history.foldl (fun r o => (r.merge o).1) r

/-- The registry has all that the lists of a set bring, and an index that fits its enums. -/
structure Registry.Covers (r : Registry) (o : Overrides) : Prop where
  enums : Override.Covers EnumType.binaryFullName r.global.enums o.enums
  methods : Override.Covers Method.shape r.global.methods o.methods
  builtins : Override.Covers Method.shape r.global.methods o.builtins
  indexed : r.global.enumsOfConstant = GlobalScope.indexOf r.global.enums

namespace Registry

theorem covers_merge_self (r : Registry) (o : Overrides) : (r.merge o).1.Covers o where
  enums := covers_mergeTable_self sameEnum_iff _ _
  methods := (covers_mergeTable_self Method.hasShapeOf_iff _ _).mergeTable Method.hasShapeOf_iff _
  builtins := covers_mergeTable_self Method.hasShapeOf_iff _ _
  indexed := rfl

theorem Covers.merge {r : Registry} {o : Overrides} (h : r.Covers o) (other : Overrides) :
    (r.merge other).1.Covers o where
  enums := h.enums.mergeTable sameEnum_iff _
  methods :=
    (h.methods.mergeTable Method.hasShapeOf_iff _).mergeTable Method.hasShapeOf_iff _
  builtins :=
    (h.builtins.mergeTable Method.hasShapeOf_iff _).mergeTable Method.hasShapeOf_iff _
  indexed := rfl

theorem Covers.mergeAll {r : Registry} {o : Overrides} (h : r.Covers o)
    (history : List Overrides) : (r.mergeAll history).Covers o := by
  induction history generalizing r with
  | nil => exact h
  | cons other history ih => exact ih (h.merge other)

theorem covers_mergeAll {history : List Overrides} {o : Overrides} (h : o ∈ history)
    (r : Registry) : (r.mergeAll history).Covers o := by
  induction history generalizing r with
  | nil => cases h
  | cons other history ih =>
    rcases List.mem_cons.mp h with rfl | h
    · exact (r.covers_merge_self o).mergeAll history
    · exact ih h (r.merge other).1

/-- All that a merge of a covered set changes are the maps that it replaces key by key. -/
theorem Covers.merge_eq {r : Registry} {o : Overrides} (h : r.Covers o) :
    r.merge o = ({ r with global := { r.global with
        constants := r.global.constants.union o.constants
        types := r.global.types.union o.types
        properties := r.global.properties.union o.properties } },
      { enumsAdded := 0
        methodsAdded := 0
        constantsSet := o.constants.size
        typesSet := o.types.size
        propertiesSet := o.properties.size
        builtinsAdded := 0
        duplicatesSkipped := o.enums.values.flatten.length + o.methods.values.flatten.length +
          o.builtins.values.flatten.length }) := by
  have enums := mergeTable_of_covers sameEnum_iff h.enums
  have methods := mergeTable_of_covers Method.hasShapeOf_iff h.methods
  have builtins := mergeTable_of_covers Method.hasShapeOf_iff h.builtins
  simp only [Registry.merge, GlobalScope.merge, enums, methods, builtins, GlobalScope.reindex,
    ← h.indexed]

end Registry

theorem SortedMap.union_union_self (m n : NameMap α) : (m.union n).union n = m.union n := by
  apply SortedMap.ext_get?
  intro k
  rw [SortedMap.get?_union, SortedMap.get?_union]
  cases n.get? k <;> rfl

namespace Registry

theorem merge_merge (r : Registry) (o : Overrides) :
    ((r.merge o).1.merge o).1 = (r.merge o).1 := by
  rw [(r.covers_merge_self o).merge_eq]
  simp only [merge, GlobalScope.merge, GlobalScope.reindex, SortedMap.union_union_self]

/-- Merging once more a set that was merged at any time before leaves methods, enums and their
index as they are and passes over every entry of its lists; the set that was merged last changes
nothing. -/
theorem merge_again (r : Registry) (history : List Overrides) (o : Overrides) (h : o ∈ history) :
    let merged := r.mergeAll history
    let again := merged.merge o
    again.1.global.methods = merged.global.methods ∧
      again.1.global.enums = merged.global.enums ∧
      again.1.global.enumsOfConstant = merged.global.enumsOfConstant ∧
      again.2.enumsAdded = 0 ∧ again.2.methodsAdded = 0 ∧ again.2.builtinsAdded = 0 ∧
      again.2.duplicatesSkipped = o.enums.values.flatten.length +
        o.methods.values.flatten.length + o.builtins.values.flatten.length ∧
      (history.getLast? = some o → again.1 = merged) := by
  intro merged again
  have effect : again = _ := (covers_mergeAll h r).merge_eq
  rw [effect]
  refine ⟨rfl, rfl, rfl, rfl, rfl, rfl, rfl, fun last => ?_⟩
  obtain ⟨front, rfl⟩ := List.getLast?_eq_some_iff.mp last
  have endsWith : merged = ((r.mergeAll front).merge o).1 := by
    simp only [merged, mergeAll, List.foldl_append, List.foldl_cons, List.foldl_nil]
  have unchanged := (r.mergeAll front).merge_merge o
  rw [← endsWith] at unchanged
  exact effect ▸ unchanged

theorem merge_again_standard :
    ((mergeAll {} [.standard, {}, .standard]).merge .standard).1 =
        mergeAll {} [.standard, {}, .standard] ∧
      ((mergeAll {} [.standard, {}, .standard]).merge .standard).2.duplicatesSkipped = 29 := by
  obtain ⟨-, -, -, -, -, -, skipped, last⟩ :=
    merge_again {} [.standard, {}, .standard] .standard List.mem_cons_self
  have entries : Overrides.standard.enums.values.flatten.length +
      Overrides.standard.methods.values.flatten.length +
      Overrides.standard.builtins.values.flatten.length = 29 := by
    decide +kernel
  exact ⟨last (by simp), skipped.trans entries⟩

end Registry
end Concordance
