import Concordance.Proofs.Override.Merge
import Concordance.Resolution.Join
/-!
Where joined members come from. A member lies under the logical name of a binding and is one that
the module declares under the bound name, so whatever the bindings are it is one of the module's.
-/
namespace Concordance.Resolution

open Compiled (TypeInfo)

section Joined

variable {α : Type} {answer : Binding → Option α} {bs : List Binding} {name : String} {x : α}

def joined (answer : Binding → Option α) (bs : List Binding) : NameMap α :=
  .ofList (bs.filterMap fun b => (answer b).map fun x => (b.logicalName, x))

private theorem mem_answers {e : String × α} :
    e ∈ bs.filterMap (fun b => (answer b).map fun x => (b.logicalName, x)) ↔
      ∃ b ∈ bs, b.logicalName = e.1 ∧ answer b = some e.2 := by
  simp [List.mem_filterMap, Option.map_eq_some_iff, Prod.ext_iff, and_comm]

theorem exists_binding_of_get?_joined (h : (joined answer bs).get? name = some x) :
    ∃ b ∈ bs, b.logicalName = name ∧ answer b = some x :=
  mem_answers.mp (SortedMap.mem_of_get?_ofList h)

theorem mem_keys_joined : name ∈ (joined answer bs).keys ↔
    ∃ b ∈ bs, b.logicalName = name ∧ (answer b).isSome = true := by
  rw [SortedMap.mem_keys_iff, joined, SortedMap.contains_ofList]
  simp only [mem_answers, Option.isSome_iff_exists]
  constructor
  · rintro ⟨⟨_, x⟩, ⟨b, hb, same, found⟩, rfl⟩
    exact ⟨b, hb, same, x, found⟩
  · rintro ⟨b, hb, rfl, x, found⟩
    exact ⟨(b.logicalName, x), ⟨b, hb, rfl, found⟩, rfl⟩

/-- Where no name is bound twice, no answer is lost under another. -/
theorem get?_joined (distinct : (bs.map (·.logicalName)).Nodup) {b : Binding} (hb : b ∈ bs) :
    (joined answer bs).get? b.logicalName = answer b := by
  have only (x : α) (h : (joined answer bs).get? b.logicalName = some x) : answer b = some x := by
    obtain ⟨c, hc, same, found⟩ := exists_binding_of_get?_joined h
    rwa [← List.inj_on_of_nodup_map distinct hc hb same]
  cases found : (joined answer bs).get? b.logicalName with
  | some x => exact (only x found).symm
  | none =>
    have absent : b.logicalName ∉ (joined answer bs).keys := by
      simp [SortedMap.mem_keys_iff, SortedMap.contains, found]
    cases answered : answer b with
    | none => rfl
    | some x => exact absurd (mem_keys_joined.mpr ⟨b, hb, rfl, by simp [answered]⟩) absent

end Joined

variable {t : TypeInfo} {bs : List Binding} {name : String}

def overloads? (t : TypeInfo) (b : Binding) : Option (List Method) :=
  match t.overloadsOf b.fieldName with
  | [] => none
  | ms => some (ms.map (method b.logicalName t.fullName))

theorem overloads?_eq_some {b : Binding} {ms : List Method} : overloads? t b = some ms ↔
    t.overloadsOf b.fieldName ≠ [] ∧
      (t.overloadsOf b.fieldName).map (method b.logicalName t.fullName) = ms := by
  unfold overloads?
  cases t.overloadsOf b.fieldName with
  | nil => simp
  | cons m others => simp

theorem methods_eq_joined : methods t bs = joined (overloads? t) bs := by
  unfold methods joined overloads?
  congr 2
  funext b
  cases t.overloadsOf b.fieldName <;> rfl

theorem properties_eq_joined : properties t bs = joined
    (fun b => (t.property? b.fieldName).map (property b.logicalName t.fullName)) bs := by
  simp only [properties, joined, Option.map_map]
  rfl

theorem signals_eq_joined : signals t bs = joined
    (fun b => (t.event? b.fieldName).map (signal b.logicalName t.fullName)) bs := by
  simp only [signals, joined, Option.map_map]
  rfl

theorem exists_binding_of_mem_methods {m : Method} (h : m ∈ (methods t bs).listAt name) :
    ∃ b ∈ bs, b.logicalName = name ∧
      ∃ d ∈ t.overloadsOf b.fieldName, m = method name t.fullName d := by
  obtain ⟨ms, found, hm⟩ := SortedMap.exists_get?_of_mem_listAt h
  rw [methods_eq_joined] at found
  obtain ⟨b, hb, rfl, answered⟩ := exists_binding_of_get?_joined found
  obtain ⟨-, rfl⟩ := overloads?_eq_some.mp answered
  obtain ⟨d, hd, rfl⟩ := List.mem_map.mp hm
  exact ⟨b, hb, rfl, d, hd, rfl⟩

theorem exists_binding_of_get?_properties {p : Property}
    (h : (properties t bs).get? name = some p) :
    ∃ b ∈ bs, b.logicalName = name ∧
      ∃ d, t.property? b.fieldName = some d ∧ p = property name t.fullName d := by
  rw [properties_eq_joined] at h
  obtain ⟨b, hb, rfl, answered⟩ := exists_binding_of_get?_joined h
  obtain ⟨d, found, rfl⟩ := Option.map_eq_some_iff.mp answered
  exact ⟨b, hb, rfl, d, found, rfl⟩

theorem exists_binding_of_get?_signals {s : Signal} (h : (signals t bs).get? name = some s) :
    ∃ b ∈ bs, b.logicalName = name ∧
      ∃ d, t.event? b.fieldName = some d ∧ s = signal name t.fullName d := by
  rw [signals_eq_joined] at h
  obtain ⟨b, hb, rfl, answered⟩ := exists_binding_of_get?_joined h
  obtain ⟨d, found, rfl⟩ := Option.map_eq_some_iff.mp answered
  exact ⟨b, hb, rfl, d, found, rfl⟩

theorem get?_methods_ne_nil : (methods t bs).get? name ≠ some [] := by
  intro found
  rw [methods_eq_joined] at found
  obtain ⟨b, -, -, answered⟩ := exists_binding_of_get?_joined found
  obtain ⟨declared, none⟩ := overloads?_eq_some.mp answered
  exact declared (List.map_eq_nil_iff.mp none)

theorem mem_of_mem_methods {ms : List Method} (h : ms ∈ (methods t bs).values) {m : Method}
    (hm : m ∈ ms) : ∃ d ∈ t.methods, ∃ name, m = method name t.fullName d := by
  obtain ⟨name, listed⟩ := SortedMap.mem_listAt_iff.mpr ⟨ms, h, hm⟩
  obtain ⟨b, -, -, d, hd, rfl⟩ := exists_binding_of_mem_methods listed
  exact ⟨d, List.mem_of_mem_filter hd, name, rfl⟩

theorem mem_of_mem_properties {p : Property} (h : p ∈ (properties t bs).values) :
    ∃ d ∈ t.properties, ∃ name, p = property name t.fullName d := by
  obtain ⟨name, found⟩ := SortedMap.mem_values_iff.mp h
  obtain ⟨b, -, -, d, declared, rfl⟩ := exists_binding_of_get?_properties found
  exact ⟨d, List.mem_of_find?_eq_some declared, name, rfl⟩

theorem mem_of_mem_signals {s : Signal} (h : s ∈ (signals t bs).values) :
    ∃ d ∈ t.events, ∃ name, s = signal name t.fullName d := by
  obtain ⟨name, found⟩ := SortedMap.mem_values_iff.mp h
  obtain ⟨b, -, -, d, declared, rfl⟩ := exists_binding_of_get?_signals found
  exact ⟨d, List.mem_of_find?_eq_some declared, name, rfl⟩

end Concordance.Resolution
