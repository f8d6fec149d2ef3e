import Concordance.Proofs.Extraction.NestedEnum
import Concordance.Proofs.Resolution.Join
import Concordance.Proofs.Resolution.Publishing
/-!
The names that members bear. A table keeps its values under their own logical names, and a type that
is resolved has its own name in all of its members.
-/
namespace Concordance

namespace SortedMap

variable {own : α → String}

def FiledBy (own : α → String) (table : NameMap α) : Prop :=
  ∀ name x, table.get? name = some x → own x = name

def ListsBy (own : α → String) (table : NameMap (List α)) : Prop :=
  ∀ name, ∀ x ∈ table.listAt name, own x = name

theorem FiledBy.empty : FiledBy own .empty := by
  simp [FiledBy]

theorem FiledBy.union {m n : NameMap α} (hm : FiledBy own m) (hn : FiledBy own n) :
    FiledBy own (m.union n) := by
  intro name x found
  rw [get?_union, Option.or_eq_some_iff] at found
  rcases found with found | ⟨-, found⟩
  · exact hn name x found
  · exact hm name x found

theorem filedBy_ofList_map (own : α → String) (xs : List α) :
    FiledBy own (ofList (xs.map fun x => (own x, x))) := by
  intro name x found
  obtain ⟨y, -, same⟩ := List.mem_map.mp (mem_of_get?_ofList found)
  obtain ⟨rfl, rfl⟩ := Prod.mk.inj same
  rfl

theorem ListsBy.empty : ListsBy own .empty := by
  simp [ListsBy, listAt]

theorem ListsBy.appendAt {table : NameMap (List α)} (h : ListsBy own table) {name : String}
    {xs : List α} (named : ∀ x ∈ xs, own x = name) : ListsBy own (table.appendAt name xs) := by
  intro n x hx
  rw [listAt_appendAt] at hx
  rcases List.mem_append.mp hx with hx | hx
  · exact h n x hx
  · split at hx
    · next here => rw [here, named x hx]
    · cases hx

theorem listsBy_groupBy (own : α → String) (xs : List α) : ListsBy own (groupBy own xs) := by
  -- The lists grow from any table that keeps to the names.
  have general (table : NameMap (List α)) (h : ListsBy own table) :
      ListsBy own (xs.foldl (fun m x => m.alter (own x) fun old => old.getD [] ++ [x]) table) := by
    induction xs generalizing table with
    | nil => exact h
    | cons x xs ih =>
      have named : ∀ y ∈ [x], own y = own x := by simp
      rw [List.foldl_cons]
      apply ih
      exact h.appendAt named
  exact general .empty .empty

theorem ListsBy.mergeTable {κ : Type} [DecidableEq κ] {key : α → κ} {same : α → α → Bool}
    {table incoming : NameMap (List α)} (h : ListsBy own table)
    (keyed : ∀ a b, same a b = true ↔ key a = key b) (coming : ListsBy own incoming) :
    ListsBy own (Override.mergeTable same table incoming).1 := by
  intro name x hx
  rw [Override.listAt_mergeTable keyed] at hx
  rcases List.mem_append.mp hx with hx | hx
  · exact h name x hx
  · exact coming name x (mem_of_mem_newcomers hx)

end SortedMap

open SortedMap

namespace TypeEntry

structure Keyed (t : TypeEntry) : Prop where
  methods : t.methods.ListsBy Method.logicalName
  properties : t.properties.FiledBy Property.logicalName
  signals : t.signals.FiledBy Signal.logicalName
  constants : t.constants.FiledBy Constant.logicalName
  enums : t.enums.FiledBy EnumType.logicalName

/-- Members name the type of the entry as theirs, and an enum has none but constants. -/
structure OwnsMembers (t : TypeEntry) : Prop where
  methods : ∀ name, ∀ m ∈ t.methods.listAt name, m.declaringType = t.binaryFullName
  properties : ∀ name p, t.properties.get? name = some p → p.declaringType = t.binaryFullName
  signals : ∀ name s, t.signals.get? name = some s → s.declaringType = t.binaryFullName
  constants : ∀ name c, t.constants.get? name = some c → c.declaringType = t.binaryFullName
  enums : ∀ name e, t.enums.get? name = some e → e.containingType = some t.logicalName
  ofEnum : t.isEnum = true → t.methods = .empty ∧ t.properties = .empty ∧ t.signals = .empty ∧
    t.enums = .empty

end TypeEntry

open Compiled (TypeInfo)
open Resolution

namespace Resolution

variable {t : TypeInfo} {bs : List Binding} {name : String}

theorem names_of_mem_methods {m : Method} (h : m ∈ (methods t bs).listAt name) :
    m.logicalName = name ∧ m.declaringType = t.fullName := by
  obtain ⟨b, -, -, d, -, rfl⟩ := exists_binding_of_mem_methods h
  exact ⟨rfl, rfl⟩

theorem names_of_get?_properties {p : Property} (h : (properties t bs).get? name = some p) :
    p.logicalName = name ∧ p.declaringType = t.fullName := by
  obtain ⟨b, -, -, d, -, rfl⟩ := exists_binding_of_get?_properties h
  exact ⟨rfl, rfl⟩

theorem names_of_get?_signals {s : Signal} (h : (signals t bs).get? name = some s) :
    s.logicalName = name ∧ s.declaringType = t.fullName := by
  obtain ⟨b, -, -, d, -, rfl⟩ := exists_binding_of_get?_signals h
  exact ⟨rfl, rfl⟩

theorem names_of_get?_enums {host : Host} {settings : ExtractionSettings} {logicalName : String}
    {e : EnumType} (h : (enums (enumOutcomes host settings t logicalName)).get? name = some e) :
    e.logicalName = name ∧ e.containingType = some logicalName := by
  obtain ⟨b, -, paired⟩ := pairing?_of_get?_enums h
  obtain ⟨-, rfl⟩ := pairing?_eq_some.mp paired
  exact ⟨rfl, rfl⟩

end Resolution

namespace Resolver

variable (r : Resolver) (t : TypeInfo) (logicalName : String)

variable {t logicalName} in
/-- Constants bear the names they lie under and name the type, be it an enum or not. -/
theorem names_of_get?_constants {name : String} {c : Constant}
    (h : (r.resolve t logicalName).1.constants.get? name = some c) :
    c.logicalName = name ∧ c.declaringType = t.fullName := by
  rw [resolve_eq] at h
  split at h
  · cases declared : t.declaringType with
    | none => simp [resolveEnum, declared] at h
    | some outer =>
      rw [r.resolveEnum_of_declared declared] at h
      obtain ⟨v, -, rfl⟩ := exists_value_of_get?_enumConstants? h
      exact ⟨rfl, rfl⟩
  · obtain ⟨l, -, rfl⟩ := exists_literal_of_get?_constants? h
    exact ⟨rfl, rfl⟩

theorem keyed_resolve : (r.resolve t logicalName).1.Keyed := by
  have constants : (r.resolve t logicalName).1.constants.FiledBy Constant.logicalName :=
    fun _ _ found => (r.names_of_get?_constants found).1
  rw [resolve_eq] at constants ⊢
  split
  · next isEnum =>
    rw [if_pos isEnum] at constants
    exact ⟨.empty, .empty, .empty, constants, .empty⟩
  · next notEnum =>
    rw [if_neg notEnum] at constants
    exact ⟨fun _ _ h => (names_of_mem_methods h).1, fun _ _ h => (names_of_get?_properties h).1,
      fun _ _ h => (names_of_get?_signals h).1, constants, fun _ _ h => (names_of_get?_enums h).1⟩

theorem ownsMembers_resolve : (r.resolve t logicalName).1.OwnsMembers := by
  have full := r.binaryFullName_resolve t logicalName
  have constants : ∀ name c, (r.resolve t logicalName).1.constants.get? name = some c →
      c.declaringType = (r.resolve t logicalName).1.binaryFullName :=
    fun _ _ found => full ▸ (r.names_of_get?_constants found).2
  rw [resolve_eq] at full constants ⊢
  split
  · next isEnum =>
    rw [if_pos isEnum] at constants
    exact ⟨by simp [listAt, bareEntry], by simp [bareEntry], by simp [bareEntry], constants,
      by simp [bareEntry], fun _ => ⟨rfl, rfl, rfl, rfl⟩⟩
  · next notEnum =>
    rw [if_neg notEnum] at full constants
    exact {
      methods := fun _ _ h => full ▸ (names_of_mem_methods h).2
      properties := fun _ _ h => full ▸ (names_of_get?_properties h).2
      signals := fun _ _ h => full ▸ (names_of_get?_signals h).2
      constants
      enums := fun _ _ h => (names_of_get?_enums h).2
      ofEnum := fun isEnum => absurd isEnum notEnum }

end Resolver
end Concordance
