import Concordance.Override.Merge
import Concordance.Proofs.Newcomers
import Concordance.Proofs.SortedMap
import Mathlib.Algebra.GroupWithZero.Nat
/-!
What a merge does, name by name. The entries added to a list are those whose key neither the list
nor an earlier entry has; maps are replaced key by key; everything else stays.
-/
namespace Concordance

/-- The list under a name; an absent one counts as empty. -/
def SortedMap.listAt (table : NameMap (List α)) (name : String) : List α :=
  (table.get? name).getD []

theorem SortedMap.exists_get?_of_mem_listAt {table : NameMap (List α)} {name : String} {x : α}
    (h : x ∈ table.listAt name) : ∃ xs, table.get? name = some xs ∧ x ∈ xs := by
  cases found : table.get? name with
  | none => simp [listAt, found] at h
  | some xs =>
    rw [listAt, found, Option.getD_some] at h
    exact ⟨xs, rfl, h⟩

theorem SortedMap.mem_listAt_iff {table : NameMap (List α)} {x : α} :
    (∃ name, x ∈ table.listAt name) ↔ ∃ xs ∈ table.values, x ∈ xs := by
  constructor
  · rintro ⟨name, h⟩
    obtain ⟨xs, found, h⟩ := exists_get?_of_mem_listAt h
    exact ⟨xs, mem_values_iff.mpr ⟨name, found⟩, h⟩
  · rintro ⟨xs, hxs, h⟩
    obtain ⟨name, found⟩ := mem_values_iff.mp hxs
    exact ⟨name, by rwa [listAt, found, Option.getD_some]⟩

theorem SortedMap.get?_eq_of_listAt {m n : NameMap (List α)} {name : String}
    (hm : m.get? name ≠ some []) (hn : n.get? name ≠ some [])
    (same : m.listAt name = n.listAt name) : m.get? name = n.get? name := by
  unfold listAt at same
  cases inM : m.get? name <;> cases inN : n.get? name <;> simp_all

theorem SortedMap.contains_eq_of_ne_nil {table : NameMap (List α)} {name : String}
    (kept : table.get? name ≠ some []) : table.contains name = !(table.listAt name).isEmpty := by
  unfold contains listAt
  cases found : table.get? name with
  | none => rfl
  | some xs =>
    have nonempty : xs ≠ [] := by
      rintro rfl
      exact kept found
    simp [nonempty]

theorem SortedMap.keys_eq_of_perm {m n : NameMap (List α)} (hm : ∀ name, m.get? name ≠ some [])
    (hn : ∀ name, n.get? name ≠ some []) (perm : ∀ name, (m.listAt name).Perm (n.listAt name)) :
    m.keys = n.keys := by
  apply keys_congr
  intro name
  rw [contains_eq_of_ne_nil (hm name), contains_eq_of_ne_nil (hn name), (perm name).isEmpty_eq]

def Tally.total (ts : List Tally) : Tally :=
  ⟨(ts.map (·.added)).sum, (ts.map (·.skipped)).sum⟩

namespace Override

section Keyed

variable {κ : Type} [DecidableEq κ] {key : α → κ} {same : α → α → Bool}

theorem appendNew_eq (keyed : ∀ a b, same a b = true ↔ key a = key b) (old incoming : List α) :
    appendNew same old incoming = old ++ newcomers key old incoming := by
  -- `acc` is the list as it grows, `before` has the entries passed over too.
  have general (acc before : List α) (h : ∀ k, k ∈ acc.map key ↔ k ∈ before.map key) :
      appendNew same acc incoming = acc ++ newcomers key before incoming := by
    induction incoming generalizing acc before with
    | nil => simp [appendNew, newcomers]
    | cons x xs ih =>
      have known : acc.any (same · x) = true ↔ key x ∈ before.map key := by
        rw [← h]
        simp [keyed]
      by_cases hx : key x ∈ before.map key
      · have covers : ∀ k, k ∈ acc.map key ↔ k ∈ (before ++ [x]).map key := by
          intro k
          rw [h, mem_keys_snoc_of_mem hx]
        have rest := ih acc (before ++ [x]) covers
        simp only [appendNew, List.foldl_cons, if_pos (known.mpr hx), newcomers, if_pos hx,
          List.nil_append] at rest ⊢
        exact rest
      · have covers : ∀ k, k ∈ (acc ++ [x]).map key ↔ k ∈ (before ++ [x]).map key := by
          intro k
          rw [mem_keys_snoc, mem_keys_snoc, h]
        have absent : ¬acc.any (same · x) = true := fun h => hx (known.mp h)
        have rest := ih (acc ++ [x]) (before ++ [x]) covers
        simp only [appendNew, List.foldl_cons, if_neg absent, newcomers, if_neg hx] at rest ⊢
        rw [rest, List.append_assoc]
  exact general old old fun _ => Iff.rfl

/-- What a merge makes of the binding of a name that it has entries for. -/
def mergeBinding (same : α → α → Bool) (incoming : List α) (found : Option (List α)) :
    Option (List α) :=
  let new := appendNew same (found.getD []) incoming
  if new.isEmpty then none else some new

theorem getD_mergeBinding (incoming : List α) (found : Option (List α)) :
    (mergeBinding same incoming found).getD [] = appendNew same (found.getD []) incoming := by
  unfold mergeBinding
  dsimp only
  split
  · next empty => rw [Option.getD_none, List.isEmpty_iff.mp empty]
  · rfl

theorem get?_mergeName (table : NameMap (List α)) (name : String) (incoming : List α)
    (n : String) :
    (mergeName same table name incoming).1.get? n =
      if n = name then mergeBinding same incoming (table.get? n) else table.get? n := by
  unfold mergeName mergeBinding
  dsimp only
  by_cases here : n = name
  · subst here
    rw [if_pos rfl]
    split
    · rw [SortedMap.get?_erase, if_pos rfl]
    · rw [SortedMap.get?_insert_self]
  · rw [if_neg here]
    split
    · rw [SortedMap.get?_erase, if_neg here]
    · rw [SortedMap.get?_insert_of_ne here]

theorem mergeTable_fst (table incoming : NameMap (List α)) :
    (mergeTable same table incoming).1 =
      incoming.entries.foldl (fun t e => (mergeName same t e.1 e.2).1) table := by
  unfold mergeTable
  generalize ({} : Tally) = tally
  induction incoming.entries generalizing table tally with
  | nil => rfl
  | cons e es ih => rw [List.foldl_cons, List.foldl_cons, ih]

private theorem get?_mergeTable (table incoming : NameMap (List α)) (n : String) :
    (mergeTable same table incoming).1.get? n =
      (incoming.get? n).elim (table.get? n) fun xs => mergeBinding same xs (table.get? n) := by
  rw [mergeTable_fst]
  exact SortedMap.get?_foldl (mergeBinding same) (fun m e k => get?_mergeName m e.1 e.2 k)
    incoming table n

/-- What a merge makes of a name depends on no other name of the table. -/
theorem get?_mergeTable_congr {t u : NameMap (List α)} {n : String} (agree : t.get? n = u.get? n)
    (incoming : NameMap (List α)) :
    (mergeTable same t incoming).1.get? n = (mergeTable same u incoming).1.get? n := by
  rw [get?_mergeTable, get?_mergeTable, agree]

theorem get?_mergeTable_of_absent {incoming : NameMap (List α)} {n : String}
    (absent : incoming.get? n = none) (table : NameMap (List α)) :
    (mergeTable same table incoming).1.get? n = table.get? n := by
  rw [get?_mergeTable, absent, Option.elim_none]

theorem get?_mergeTable_ne_nil {table incoming : NameMap (List α)} {n : String}
    (h : incoming.contains n = true ∨ table.get? n ≠ some []) :
    (mergeTable same table incoming).1.get? n ≠ some [] := by
  rw [get?_mergeTable]
  cases found : incoming.get? n with
  | none => simpa [SortedMap.contains, found] using h
  | some xs =>
    rw [Option.elim_some, mergeBinding]
    split
    · simp
    · next kept => simpa using kept

theorem listAt_mergeTable (keyed : ∀ a b, same a b = true ↔ key a = key b)
    (table incoming : NameMap (List α)) (n : String) :
    (mergeTable same table incoming).1.listAt n =
      table.listAt n ++ newcomers key (table.listAt n) (incoming.listAt n) := by
  unfold SortedMap.listAt
  rw [get?_mergeTable]
  cases incoming.get? n with
  | none => simp [newcomers]
  | some xs =>
    rw [Option.getD_some, ← appendNew_eq keyed, Option.elim_some, getD_mergeBinding]

def nameTally (key : α → κ) (table : NameMap (List α)) (e : String × List α) : Tally :=
  let added := (newcomers key (table.listAt e.1) e.2).length
  ⟨added, e.2.length - added⟩

theorem mergeName_snd (keyed : ∀ a b, same a b = true ↔ key a = key b)
    (table : NameMap (List α)) (e : String × List α) :
    (mergeName same table e.1 e.2).2 = nameTally key table e := by
  have added : (appendNew same (table.listAt e.1) e.2).length - (table.listAt e.1).length =
      (newcomers key (table.listAt e.1) e.2).length := by
    rw [appendNew_eq keyed, List.length_append, Nat.add_sub_cancel_left]
  rw [nameTally, ← added]
  rfl

/-- The tally of a merge is that of its names, each against the table as it was before. -/
theorem mergeTable_snd (keyed : ∀ a b, same a b = true ↔ key a = key b)
    (table incoming : NameMap (List α)) :
    (mergeTable same table incoming).2 =
      Tally.total (incoming.entries.map (nameTally key table)) := by
  obtain ⟨es, ascending⟩ := incoming
  -- The tally starts from nothing, and grows from any start.
  have start : Tally.total (es.map (nameTally key table)) =
      ⟨Tally.added {} + (Tally.total (es.map (nameTally key table))).added,
        Tally.skipped {} + (Tally.total (es.map (nameTally key table))).skipped⟩ := by
    simp
  unfold mergeTable
  dsimp only
  rw [start]
  generalize ({} : Tally) = tally
  clear start
  induction es generalizing table tally with
  | nil => rfl
  | cons e es ih =>
    obtain ⟨above, rest⟩ := List.pairwise_cons.mp ascending
    -- The names behind are others, so their lists are still those of the table.
    have unchanged : es.map (nameTally key (mergeName same table e.1 e.2).1) =
        es.map (nameTally key table) := by
      refine List.map_congr_left fun d hd => ?_
      have other : d.1 ≠ e.1 := fun own => Std.lt_irrefl (own ▸ above d hd)
      rw [nameTally, nameTally, SortedMap.listAt, SortedMap.listAt, get?_mergeName, if_neg other]
    rw [List.foldl_cons]
    dsimp only
    rw [ih _ rest, unchanged, mergeName_snd keyed]
    simp [Tally.total, Nat.add_assoc]

end Keyed

theorem sameEnum_iff (a b : EnumType) :
    sameEnum a b = true ↔ a.binaryFullName = b.binaryFullName := by
  simp [sameEnum]

end Override

theorem Method.hasShapeOf_iff (a b : Method) : a.hasShapeOf b = true ↔ a.shape = b.shape := by
  simp [hasShapeOf]

open Override

/-- What the registry `s` has of the registry `r` and of the set `o` after their merge. -/
structure Registry.IsMergeOf (s r : Registry) (o : Overrides) : Prop where
  methods (n : String) : s.global.methods.listAt n = r.global.methods.listAt n ++
    newcomers Method.shape (r.global.methods.listAt n) (o.methods.listAt n ++ o.builtins.listAt n)
  enums (n : String) : s.global.enums.listAt n = r.global.enums.listAt n ++
    newcomers EnumType.binaryFullName (r.global.enums.listAt n) (o.enums.listAt n)
  methods_ne_nil (n : String) : o.methods.contains n = true ∨ o.builtins.contains n = true →
    s.global.methods.get? n ≠ some []
  enums_ne_nil (n : String) : o.enums.contains n = true → s.global.enums.get? n ≠ some []
  methods_of_absent (n : String) : o.methods.get? n = none → o.builtins.get? n = none →
    s.global.methods.get? n = r.global.methods.get? n
  enums_of_absent (n : String) : o.enums.get? n = none →
    s.global.enums.get? n = r.global.enums.get? n
  constants (n : String) :
    s.global.constants.get? n = (o.constants.get? n).or (r.global.constants.get? n)
  types (n : String) : s.global.types.get? n = (o.types.get? n).or (r.global.types.get? n)
  properties (n : String) :
    s.global.properties.get? n = (o.properties.get? n).or (r.global.properties.get? n)
  enumsOfConstant : s.global.enumsOfConstant = GlobalScope.indexOf s.global.enums
  metadata : s.metadata = r.metadata
  entries : s.types = r.types

theorem Registry.IsMergeOf.methods_prefix {r s : Registry} {o : Overrides} (h : s.IsMergeOf r o)
    (n : String) : r.global.methods.listAt n <+: s.global.methods.listAt n := by
  rw [h.methods]
  exact List.prefix_append _ _

theorem Registry.IsMergeOf.enums_prefix {r s : Registry} {o : Overrides} (h : s.IsMergeOf r o)
    (n : String) : r.global.enums.listAt n <+: s.global.enums.listAt n := by
  rw [h.enums]
  exact List.prefix_append _ _

section Scope

variable (g : GlobalScope) (o : Overrides)

theorem GlobalScope.merge_methods : (g.merge o).1.methods =
    (mergeTable Method.hasShapeOf (mergeTable Method.hasShapeOf g.methods o.methods).1
      o.builtins).1 := rfl

theorem GlobalScope.listAt_merge_methods (n : String) : (g.merge o).1.methods.listAt n =
    g.methods.listAt n ++ newcomers Method.shape (g.methods.listAt n)
      (o.methods.listAt n ++ o.builtins.listAt n) := by
  rw [merge_methods, listAt_mergeTable Method.hasShapeOf_iff,
    listAt_mergeTable Method.hasShapeOf_iff, append_newcomers_append]

theorem GlobalScope.get?_merge_methods_ne_nil {n : String}
    (h : o.methods.contains n = true ∨ o.builtins.contains n = true) :
    (g.merge o).1.methods.get? n ≠ some [] := by
  rw [merge_methods]
  apply get?_mergeTable_ne_nil
  rcases h with h | h
  · exact .inr (get?_mergeTable_ne_nil (.inl h))
  · exact .inl h

theorem GlobalScope.get?_merge_methods_of_absent {n : String} (methods : o.methods.get? n = none)
    (builtins : o.builtins.get? n = none) : (g.merge o).1.methods.get? n = g.methods.get? n := by
  rw [merge_methods, get?_mergeTable_of_absent builtins, get?_mergeTable_of_absent methods]

theorem GlobalScope.mem_of_mem_merge_methods {ms : List Method}
    (hms : ms ∈ (g.merge o).1.methods.values) {m : Method} (hm : m ∈ ms) :
    (∃ ns ∈ g.methods.values, m ∈ ns) ∨ (∃ ns ∈ o.methods.values, m ∈ ns) ∨
      ∃ ns ∈ o.builtins.values, m ∈ ns := by
  obtain ⟨name, h⟩ := SortedMap.mem_listAt_iff.mpr ⟨ms, hms, hm⟩
  rw [listAt_merge_methods] at h
  simp only [← SortedMap.mem_listAt_iff]
  rcases List.mem_append.mp h with h | h
  · exact .inl ⟨name, h⟩
  · rcases List.mem_append.mp (mem_of_mem_newcomers h) with h | h
    · exact .inr (.inl ⟨name, h⟩)
    · exact .inr (.inr ⟨name, h⟩)

end Scope

theorem Registry.merge_effect (r : Registry) (o : Overrides) : (r.merge o).1.IsMergeOf r o where
  methods := r.global.listAt_merge_methods o
  enums := listAt_mergeTable sameEnum_iff r.global.enums o.enums
  methods_ne_nil _ := r.global.get?_merge_methods_ne_nil o
  enums_ne_nil _ mentioned := get?_mergeTable_ne_nil (.inl mentioned)
  methods_of_absent _ := r.global.get?_merge_methods_of_absent o
  enums_of_absent _ absent := get?_mergeTable_of_absent absent r.global.enums
  constants := SortedMap.get?_union r.global.constants o.constants
  types := SortedMap.get?_union r.global.types o.types
  properties := SortedMap.get?_union r.global.properties o.properties
  enumsOfConstant := rfl
  metadata := rfl
  entries := rfl

/-- A merge has the effect that is described, on every name, and never shortens or reorders what
was there. -/
theorem Registry.merge_isMergeOf (r : Registry) (o : Overrides) :
    (r.merge o).1.IsMergeOf r o ∧
      (∀ n, r.global.methods.listAt n <+: (r.merge o).1.global.methods.listAt n) ∧
      ∀ n, r.global.enums.listAt n <+: (r.merge o).1.global.enums.listAt n := by
  have effect := r.merge_effect o
  exact ⟨effect, effect.methods_prefix, effect.enums_prefix⟩

end Concordance
