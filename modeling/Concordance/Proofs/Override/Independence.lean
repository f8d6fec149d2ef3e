import Concordance.Proofs.Override.History
import Mathlib.Data.List.Pairwise
/-!
Sets of overrides that share no name. What a merge does to a name depends on that name alone, so
such sets may be merged in any order, and each changes as much as it would by itself.
-/
namespace Concordance

theorem SortedMap.get?_eq_none_or {m : NameMap α} {n : NameMap β} (apart : m.keys.Disjoint n.keys)
    (k : String) : m.get? k = none ∨ n.get? k = none := by
  by_contra both
  obtain ⟨left, right⟩ := not_or.mp both
  exact apart (SortedMap.mem_keys_iff.mpr (Option.isSome_iff_ne_none.mpr left))
    (SortedMap.mem_keys_iff.mpr (Option.isSome_iff_ne_none.mpr right))

theorem SortedMap.union_comm_of_disjoint {a b : NameMap α} (apart : a.keys.Disjoint b.keys)
    (m : NameMap α) : (m.union a).union b = (m.union b).union a := by
  apply ext_get?
  intro k
  rw [get?_union, get?_union, get?_union, get?_union]
  rcases get?_eq_none_or apart k with absent | absent <;> simp [absent]

namespace Override

variable {κ : Type} [DecidableEq κ] {key : α → κ} {same : α → α → Bool} {a b : NameMap (List α)}

theorem mergeTable_comm (apart : a.keys.Disjoint b.keys) (table : NameMap (List α)) :
    (mergeTable same (mergeTable same table a).1 b).1 =
      (mergeTable same (mergeTable same table b).1 a).1 := by
  apply SortedMap.ext_get?
  intro n
  rcases SortedMap.get?_eq_none_or apart n with absent | absent
  · have unchanged : (mergeTable same table a).1.get? n = table.get? n :=
      get?_mergeTable_of_absent absent table
    rw [get?_mergeTable_of_absent absent, get?_mergeTable_congr unchanged]
  · have unchanged : (mergeTable same table b).1.get? n = table.get? n :=
      get?_mergeTable_of_absent absent table
    rw [get?_mergeTable_of_absent absent, get?_mergeTable_congr unchanged]

theorem tally_mergeTable_of_disjoint (keyed : ∀ a b, same a b = true ↔ key a = key b)
    (apart : a.keys.Disjoint b.keys) (table : NameMap (List α)) :
    (mergeTable same (mergeTable same table b).1 a).2 = (mergeTable same table a).2 := by
  rw [mergeTable_snd keyed, mergeTable_snd keyed]
  refine congrArg Tally.total (List.map_congr_left fun e he => ?_)
  have named : e.1 ∈ a.keys := List.mem_map_of_mem he
  have absent : b.get? e.1 = none := by
    refine (SortedMap.get?_eq_none_or apart e.1).resolve_left fun none => ?_
    simpa [SortedMap.contains, none] using SortedMap.mem_keys_iff.mp named
  rw [nameTally, nameTally, SortedMap.listAt, get?_mergeTable_of_absent absent, ← SortedMap.listAt]

end Override

namespace Overrides

def methodNames (o : Overrides) : List String := o.methods.keys ++ o.builtins.keys

/-- Two sets that share no name of a kind. -/
structure Independent (a b : Overrides) : Prop where
  enums : a.enums.keys.Disjoint b.enums.keys
  methods : a.methodNames.Disjoint b.methodNames
  constants : a.constants.keys.Disjoint b.constants.keys
  types : a.types.keys.Disjoint b.types.keys
  properties : a.properties.keys.Disjoint b.properties.keys

theorem Independent.symm {a b : Overrides} (h : a.Independent b) : b.Independent a :=
  ⟨List.disjoint_symm h.enums, List.disjoint_symm h.methods, List.disjoint_symm h.constants,
    List.disjoint_symm h.types, List.disjoint_symm h.properties⟩

def Commute (a b : Overrides) : Prop :=
  ∀ r : Registry, ((r.merge a).1.merge b).1 = ((r.merge b).1.merge a).1

theorem Commute.refl (a : Overrides) : a.Commute a := fun _ => rfl

instance : Std.Symm Commute := ⟨fun _ _ h r => (h r).symm⟩

end Overrides

open Override

section Independent

variable {a b : Overrides} (h : a.Independent b)
include h

theorem Overrides.Independent.methodTables : a.methods.keys.Disjoint b.methods.keys ∧
    a.methods.keys.Disjoint b.builtins.keys ∧ a.builtins.keys.Disjoint b.methods.keys ∧
      a.builtins.keys.Disjoint b.builtins.keys := by
  obtain ⟨methods, builtins⟩ := List.disjoint_append_left.mp h.methods
  obtain ⟨mm, mb⟩ := List.disjoint_append_right.mp methods
  obtain ⟨bm, bb⟩ := List.disjoint_append_right.mp builtins
  exact ⟨mm, mb, bm, bb⟩

theorem GlobalScope.merge_methods_comm (g : GlobalScope) :
    ((g.merge a).1.merge b).1.methods = ((g.merge b).1.merge a).1.methods := by
  obtain ⟨mm, mb, bm, bb⟩ := h.methodTables
  simp only [GlobalScope.merge_methods]
  rw [mergeTable_comm bm, mergeTable_comm mm, mergeTable_comm bb, mergeTable_comm mb]

theorem GlobalScope.merge_comm (g : GlobalScope) :
    ((g.merge a).1.merge b).1 = ((g.merge b).1.merge a).1 := by
  have methods := GlobalScope.merge_methods_comm h g
  have enums : (mergeTable sameEnum (mergeTable sameEnum g.enums a.enums).1 b.enums).1 =
      (mergeTable sameEnum (mergeTable sameEnum g.enums b.enums).1 a.enums).1 :=
    mergeTable_comm h.enums g.enums
  have constants := SortedMap.union_comm_of_disjoint h.constants g.constants
  have types := SortedMap.union_comm_of_disjoint h.types g.types
  have properties := SortedMap.union_comm_of_disjoint h.properties g.properties
  simp only [GlobalScope.merge_methods] at methods
  simp only [GlobalScope.merge, GlobalScope.reindex, methods, enums, constants, types, properties]

theorem GlobalScope.mergeCounts_of_independent (g : GlobalScope) :
    ((g.merge b).1.merge a).2 = (g.merge a).2 := by
  obtain ⟨mm, mb, bm, bb⟩ := h.methodTables
  have enums := tally_mergeTable_of_disjoint sameEnum_iff h.enums g.enums
  have methods (t : NameMap (List Method)) :
      (mergeTable Method.hasShapeOf (mergeTable Method.hasShapeOf
        (mergeTable Method.hasShapeOf t b.methods).1 b.builtins).1 a.methods).2 =
      (mergeTable Method.hasShapeOf t a.methods).2 := by
    rw [tally_mergeTable_of_disjoint Method.hasShapeOf_iff mb,
      tally_mergeTable_of_disjoint Method.hasShapeOf_iff mm]
  have builtins (t : NameMap (List Method)) :
      (mergeTable Method.hasShapeOf (mergeTable Method.hasShapeOf (mergeTable Method.hasShapeOf
        (mergeTable Method.hasShapeOf t b.methods).1 b.builtins).1 a.methods).1 a.builtins).2 =
      (mergeTable Method.hasShapeOf (mergeTable Method.hasShapeOf t a.methods).1 a.builtins).2 := by
    rw [← mergeTable_comm mb, ← mergeTable_comm mm,
      tally_mergeTable_of_disjoint Method.hasShapeOf_iff bb,
      tally_mergeTable_of_disjoint Method.hasShapeOf_iff bm]
  simp only [GlobalScope.merge, GlobalScope.reindex, enums, methods, builtins]

theorem Overrides.Independent.commute : a.Commute b := fun r =>
  congrArg (fun global => { r with global }) (GlobalScope.merge_comm h r.global)

end Independent

namespace Registry

theorem mergeAll_perm {history other : List Overrides} (perm : history.Perm other)
    (apart : history.Pairwise Overrides.Independent) (r : Registry) :
    r.mergeAll history = r.mergeAll other := by
  have commute : history.Pairwise Overrides.Commute := apart.imp fun h => h.commute
  have all := commute.forall_of_forall fun a _ => .refl a
  exact perm.foldl_eq' (fun a ha b hb r => all ha hb r) r

/-- Two sets that share no name: their order matters neither to the registry nor to what each of
them is counted to change. -/
theorem merge_comm_of_independent (r : Registry) {a b : Overrides} (h : a.Independent b) :
    ((r.merge a).1.merge b).1 = ((r.merge b).1.merge a).1 ∧
      ((r.merge b).1.merge a).2 = (r.merge a).2 ∧ ((r.merge a).1.merge b).2 = (r.merge b).2 :=
  ⟨h.commute r, GlobalScope.mergeCounts_of_independent h r.global,
    GlobalScope.mergeCounts_of_independent h.symm r.global⟩

theorem merge_comm_of_independent_standard :
    let spawn := Method.ofLogical "spawn" "Game.Spawner"
    let own : Overrides := {
      enums := .ofList [("Nothing", []), ("Team", [(EnumDraft.named "Team" "Game.Team").enum])]
      methods := .ofList [("spawn", [spawn, spawn])]
      builtins := .ofList [("spawn", [spawn, spawn.param "at" "Godot.Vector2"])] }
    let r : Registry := { global := { methods := .ofList [("abs", []), ("spawn", [spawn])] } }
    ((r.merge .standard).1.merge own).1 = ((r.merge own).1.merge .standard).1 ∧
      ((r.merge own).1.merge .standard).2 = (r.merge .standard).2 ∧
      ((r.merge .standard).1.merge own).2 = (r.merge own).2 ∧
      (r.merge own).2.builtinsAdded = 1 ∧ (r.merge own).2.duplicatesSkipped = 3 := by
  intro spawn own r
  have independent : Overrides.standard.Independent own := {
    enums := List.disjoint_left.mpr (by decide +kernel)
    methods := List.disjoint_left.mpr (by decide +kernel)
    constants := List.disjoint_left.mpr (by decide +kernel)
    types := List.disjoint_left.mpr (by decide +kernel)
    properties := List.disjoint_left.mpr (by decide +kernel) }
  obtain ⟨same, standard, counts⟩ := merge_comm_of_independent r independent
  exact ⟨same, standard, counts, by decide +kernel, by decide +kernel⟩

end Registry
end Concordance
