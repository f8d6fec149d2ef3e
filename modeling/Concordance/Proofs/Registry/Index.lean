import Concordance.Extraction.Run
import Concordance.Proofs.Override.Merge
import Concordance.Registry.Lookup
/-!
The index of enum constants. For each constant it lists the enums that have it, in ascending order
of name, so a question that goes through the index is answered as by a look at every enum.
-/
namespace Concordance

theorem EnumType.member?_isSome {e : EnumType} {constant : String} :
    (e.member? constant).isSome = true ↔ ∃ m ∈ e.members, m.logicalName = constant := by
  simp [member?, List.find?_isSome]

namespace GlobalScope

def hasConstant (constant : String) (variants : List EnumType) : Bool :=
  variants.any fun e => (e.member? constant).isSome

theorem hasConstant_iff {constant : String} {variants : List EnumType} :
    hasConstant constant variants = true ↔
      ∃ e ∈ variants, ∃ m ∈ e.members, m.logicalName = constant := by
  simp only [hasConstant, List.any_eq_true, EnumType.member?_isSome]

def constantsOf (variants : List EnumType) : List String :=
  variants.flatMap fun e => e.members.map (·.logicalName)

theorem mem_constantsOf {constant : String} {variants : List EnumType} :
    constant ∈ constantsOf variants ↔ hasConstant constant variants = true := by
  simp only [constantsOf, List.mem_flatMap, List.mem_map, hasConstant_iff]

section Owners

variable {owner constant : String} {index : NameMap (List String)}

theorem listAt_addOwner (c : String) :
    (addOwner owner index c).listAt constant =
      if constant = c ∧ owner ∉ index.listAt constant then index.listAt constant ++ [owner]
      else index.listAt constant := by
  unfold addOwner SortedMap.listAt
  rw [SortedMap.get?_alter]
  by_cases here : constant = c
  · subst here
    by_cases known : owner ∈ (index.get? constant).getD [] <;> simp [known]
  · simp [here]

/-- An owner enters the list of each of its constants once. -/
theorem listAt_foldl_addOwner (constants : List String) (index : NameMap (List String)) :
    (constants.foldl (addOwner owner) index).listAt constant =
      if constant ∈ constants ∧ owner ∉ index.listAt constant then
        index.listAt constant ++ [owner]
      else index.listAt constant := by
  induction constants generalizing index with
  | nil => simp
  | cons c cs ih =>
    rw [List.foldl_cons, ih, listAt_addOwner]
    by_cases known : owner ∈ index.listAt constant
    · simp [known]
    · by_cases here : constant = c
      · subst here
        simp [known]
      · simp [here, known]

theorem get?_addOwner_ne_nil (kept : index.get? constant ≠ some []) (c : String) :
    (addOwner owner index c).get? constant ≠ some [] := by
  unfold addOwner
  rw [SortedMap.get?_alter]
  by_cases here : constant = c
  · subst here
    rw [if_pos rfl]
    dsimp only
    split
    · next known => intro empty; rw [Option.some.inj empty] at known; cases known
    · simp
  · rwa [if_neg here]

theorem get?_foldl_addOwner_ne_nil (constants : List String)
    (kept : index.get? constant ≠ some []) :
    (constants.foldl (addOwner owner) index).get? constant ≠ some [] := by
  induction constants generalizing index with
  | nil => exact kept
  | cons c cs ih => exact ih (get?_addOwner_ne_nil kept c)

end Owners

theorem foldl_indexEnum (owner : String) (variants : List EnumType)
    (index : NameMap (List String)) :
    variants.foldl (indexEnum owner) index =
      (constantsOf variants).foldl (addOwner owner) index := by
  induction variants generalizing index with
  | nil => rfl
  | cons e es ih => simp [constantsOf, indexEnum, ih, List.foldl_append]

/-- The names of the enums with the constant, found by a look at every one. -/
def enumNamesWith (constant : String) (es : List (String × List EnumType)) : List String :=
  (es.filter fun e => hasConstant constant e.2).map (·.1)

theorem listAt_foldl_index {constant : String} {es : List (String × List EnumType)}
    (ascending : es.Pairwise fun a b => a.1 < b.1) {index : NameMap (List String)}
    (fresh : ∀ e ∈ es, e.1 ∉ index.listAt constant) :
    (es.foldl (fun index e => e.2.foldl (indexEnum e.1) index) index).listAt constant =
      index.listAt constant ++ enumNamesWith constant es := by
  induction es generalizing index with
  | nil => simp [enumNamesWith]
  | cons e es ih =>
    obtain ⟨above, rest⟩ := List.pairwise_cons.mp ascending
    have entered : (e.2.foldl (indexEnum e.1) index).listAt constant =
        index.listAt constant ++ enumNamesWith constant [e] := by
      rw [foldl_indexEnum, listAt_foldl_addOwner]
      by_cases has : hasConstant constant e.2 = true
      · simp [mem_constantsOf, enumNamesWith, has, fresh e List.mem_cons_self]
      · simp [mem_constantsOf, enumNamesWith, has]
    have stillFresh : ∀ d ∈ es, d.1 ∉ (e.2.foldl (indexEnum e.1) index).listAt constant := by
      intro d hd
      rw [entered, List.mem_append, not_or]
      refine ⟨fresh d (List.mem_cons_of_mem _ hd), fun same => ?_⟩
      obtain ⟨f, hf, key⟩ := List.mem_map.mp same
      obtain rfl := List.mem_singleton.mp (List.mem_of_mem_filter hf)
      exact Std.lt_irrefl (key ▸ above d hd)
    rw [List.foldl_cons, ih rest stillFresh, entered, List.append_assoc]
    simp [enumNamesWith, List.filter_cons]
    split <;> simp

theorem get?_indexOf_ne_nil (enums : NameMap (List EnumType)) (constant : String) :
    (indexOf enums).get? constant ≠ some [] := by
  unfold indexOf
  have start : (SortedMap.empty : NameMap (List String)).get? constant ≠ some [] := by simp
  generalize (SortedMap.empty : NameMap (List String)) = index at start ⊢
  generalize enums.entries = es
  induction es generalizing index with
  | nil => exact start
  | cons e es ih =>
    apply ih
    simp only [foldl_indexEnum]
    exact get?_foldl_addOwner_ne_nil _ start

theorem listAt_indexOf (enums : NameMap (List EnumType)) (constant : String) :
    (indexOf enums).listAt constant = enumNamesWith constant enums.entries := by
  have fresh : ∀ e ∈ enums.entries,
      e.1 ∉ (SortedMap.empty : NameMap (List String)).listAt constant := fun _ _ => List.not_mem_nil
  exact listAt_foldl_index enums.ascending fresh

theorem mem_enumNamesWith {constant name : String} {enums : NameMap (List EnumType)} :
    name ∈ enumNamesWith constant enums.entries ↔
      ∃ variants, enums.get? name = some variants ∧ hasConstant constant variants = true := by
  simp only [enumNamesWith, List.mem_map, List.mem_filter]
  constructor
  · rintro ⟨⟨_, variants⟩, ⟨he, has⟩, rfl⟩
    exact ⟨variants, SortedMap.mem_entries_iff.mp he, has⟩
  · rintro ⟨variants, found, has⟩
    exact ⟨(name, variants), ⟨SortedMap.mem_entries_iff.mpr found, has⟩, rfl⟩

theorem enumNamesWith_eq_filter_keys (constant : String) (enums : NameMap (List EnumType)) :
    enumNamesWith constant enums.entries =
      enums.keys.filter fun name => hasConstant constant (enums.listAt name) := by
  rw [enumNamesWith, SortedMap.keys, List.filter_map]
  refine congrArg _ (List.filter_congr fun e he => ?_)
  rw [Function.comp_apply, SortedMap.listAt, SortedMap.mem_entries_iff.mp he, Option.getD_some]

theorem indexOf_congr {a b : NameMap (List EnumType)} (keys : a.keys = b.keys)
    (variants : ∀ n, (a.listAt n).Perm (b.listAt n)) : indexOf a = indexOf b := by
  apply SortedMap.ext_get?
  intro constant
  apply SortedMap.get?_eq_of_listAt (get?_indexOf_ne_nil a constant) (get?_indexOf_ne_nil b constant)
  rw [listAt_indexOf, listAt_indexOf, enumNamesWith_eq_filter_keys, enumNamesWith_eq_filter_keys,
    keys]
  exact List.filter_congr fun name _ => (variants name).any_eq

theorem flatMap_listAt_enumNamesWith (constant : String) (enums : NameMap (List EnumType)) :
    (enumNamesWith constant enums.entries).flatMap enums.listAt =
      (enums.entries.filter fun e => hasConstant constant e.2).flatMap (·.2) := by
  have found : ∀ e ∈ enums.entries, enums.listAt e.1 = e.2 := by
    intro e he
    rw [SortedMap.listAt, SortedMap.mem_entries_iff.mp he, Option.getD_some]
  rw [enumNamesWith, List.flatMap_map]
  exact List.flatMap_congr fun e he => found e (List.mem_of_mem_filter he)

/-- Enums without the constant can be left out before their variants are looked at. -/
theorem filter_flatMap_variants (constant : String) (es : List (String × List EnumType)) :
    ((es.filter fun e => hasConstant constant e.2).flatMap (·.2)).filter
        (fun e => (e.member? constant).isSome) =
      (es.flatMap (·.2)).filter fun e => (e.member? constant).isSome := by
  induction es with
  | nil => rfl
  | cons e es ih =>
    by_cases has : hasConstant constant e.2 = true
    · simp [has, ih]
    · have none : e.2.filter (fun v => (v.member? constant).isSome) = [] := by
        simpa [hasConstant] using has
      simp [has, ih, none]

end GlobalScope

namespace Registry

/-- What the index says of a constant is what a look at every global enum says. -/
structure IsIndexedFor (r : Registry) (constant : String) : Prop where
  owners : ∀ name, name ∈ r.global.enumsOfConstant.listAt constant ↔
    ∃ variants, r.global.enums.get? name = some variants ∧
      ∃ e ∈ variants, ∃ m ∈ e.members, m.logicalName = constant
  ascending : (r.global.enumsOfConstant.listAt constant).Pairwise (· < ·)
  kept : r.global.enumsOfConstant.get? constant ≠ some []
  /-- A question to the index finds every variant with the constant, by ascending name of enum and
  in the order of each list. -/
  answer : r.enumsHolding constant =
    r.global.enums.values.flatten.filter fun e => e.members.any (·.logicalName = constant)

variable {r : Registry} {constant : String}

theorem enumsHolding_of_owners (owners : r.global.enumsOfConstant.listAt constant =
      GlobalScope.enumNamesWith constant r.global.enums.entries) :
    r.enumsHolding constant =
      r.global.enums.values.flatten.filter fun e => e.members.any (·.logicalName = constant) := by
  have named (e : EnumType) : (e.member? constant).isSome =
      e.members.any (·.logicalName = constant) := by
    rw [Bool.eq_iff_iff, EnumType.member?_isSome]
    simp
  calc r.enumsHolding constant
      = ((r.global.enumsOfConstant.listAt constant).flatMap r.global.enums.listAt).filter
          fun e => (e.member? constant).isSome := rfl
    _ = (r.global.enums.entries.flatMap (·.2)).filter fun e => (e.member? constant).isSome := by
        rw [owners, GlobalScope.flatMap_listAt_enumNamesWith, GlobalScope.filter_flatMap_variants]
    _ = r.global.enums.values.flatten.filter fun e => e.members.any (·.logicalName = constant) := by
        simp only [SortedMap.values, ← List.flatMap_def, named]

theorem isIndexedFor_of_indexed
    (indexed : r.global.enumsOfConstant = GlobalScope.indexOf r.global.enums)
    (constant : String) : r.IsIndexedFor constant := by
  have owners := GlobalScope.listAt_indexOf r.global.enums constant
  rw [← indexed] at owners
  constructor
  case owners =>
    intro name
    simp only [owners, GlobalScope.mem_enumNamesWith, GlobalScope.hasConstant_iff]
  case ascending =>
    rw [owners]
    exact List.pairwise_map.mpr (r.global.enums.ascending.filter _)
  case kept =>
    rw [indexed]
    exact GlobalScope.get?_indexOf_ne_nil _ _
  case answer => exact enumsHolding_of_owners owners

/-- The index answers like a look at every enum, in every extracted registry and in every registry
after a merge, whatever index it had before. -/
theorem index_answers_as_scan (constant : String) :
    (∀ m host settings now,
      (Extraction.ofModule m host settings now).registry.IsIndexedFor constant) ∧
    (∀ (r : Registry) o, (r.merge o).1.IsIndexedFor constant) :=
  ⟨fun _ _ _ _ => isIndexedFor_of_indexed rfl constant,
    fun _ _ => isIndexedFor_of_indexed rfl constant⟩

end Registry
end Concordance
