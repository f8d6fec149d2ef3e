import Concordance.SortedMap
import Mathlib.Data.List.Induction
import Mathlib.Data.List.Nodup
import Mathlib.Data.List.Sort
/-!
Laws of sorted maps. A map is determined by its lookups, so the operations are stated by what they
do to a lookup; equality of maps follows.
-/
namespace Concordance.SortedMap

variable {κ α β : Type} [LT κ]

section Lookup

variable [LE κ] [Std.LawfulOrderLT κ]

theorem eq_of_mem_entries {m : SortedMap κ α} {k : κ} {v w : α} (hv : (k, v) ∈ m.entries)
    (hw : (k, w) ∈ m.entries) : v = w := by
  have ascending := m.ascending
  generalize m.entries = es at *
  induction es with
  | nil => simp at hv
  | cons e es ih =>
    obtain ⟨above, rest⟩ := List.pairwise_cons.mp ascending
    have below (x : α) (hx : (k, x) ∈ es) (head : (k, v) = e ∨ (k, w) = e) : False := by
      have less := above _ hx
      rcases head with rfl | rfl <;> exact Std.lt_irrefl less
    rcases List.mem_cons.mp hv with hv | hv <;> rcases List.mem_cons.mp hw with hw | hw
    · exact (Prod.mk.inj (hv.trans hw.symm)).2
    · exact (below w hw (.inl hv)).elim
    · exact (below v hv (.inr hw)).elim
    · exact ih hv hw rest

theorem nodup_keys (m : SortedMap κ α) : m.keys.Nodup := by
  refine List.pairwise_map.mpr (m.ascending.imp ?_)
  intro a b less same
  exact Std.lt_irrefl (same ▸ less)

variable [DecidableEq κ]

theorem mem_entries_iff {m : SortedMap κ α} {k : κ} {v : α} :
    (k, v) ∈ m.entries ↔ m.get? k = some v := by
  unfold get?
  constructor
  · intro h
    cases found : m.entries.find? (fun e => e.1 = k) with
    | none => simpa using List.find?_eq_none.mp found _ h
    | some e =>
      obtain ⟨l, w⟩ := e
      have key : l = k := by simpa using List.find?_some found
      subst key
      rw [Option.map_some, eq_of_mem_entries h (List.mem_of_find?_eq_some found)]
  · intro h
    obtain ⟨⟨l, w⟩, found, rfl⟩ := Option.map_eq_some_iff.mp h
    have key : l = k := by simpa using List.find?_some found
    exact key ▸ List.mem_of_find?_eq_some found

theorem mem_values_iff {m : SortedMap κ α} {v : α} : v ∈ m.values ↔ ∃ k, m.get? k = some v := by
  constructor
  · intro h
    obtain ⟨⟨k, w⟩, found, rfl⟩ := List.mem_map.mp h
    exact ⟨k, mem_entries_iff.mp found⟩
  · rintro ⟨k, found⟩
    exact List.mem_map.mpr ⟨(k, v), mem_entries_iff.mpr found, rfl⟩

theorem mem_keys_iff {m : SortedMap κ α} {k : κ} : k ∈ m.keys ↔ m.contains k = true := by
  rw [contains, Option.isSome_iff_exists, keys, List.mem_map]
  constructor
  · rintro ⟨e, he, rfl⟩
    exact ⟨e.2, mem_entries_iff.mp he⟩
  · rintro ⟨v, found⟩
    exact ⟨(k, v), mem_entries_iff.mpr found, rfl⟩

theorem isEmpty_eq_false {m : SortedMap κ α} {k : κ} {v : α} (h : m.get? k = some v) :
    m.isEmpty = false := by
  have binding := mem_entries_iff.mpr h
  rw [isEmpty, List.isEmpty_eq_false_iff]
  exact List.ne_nil_of_mem binding

theorem get?_filter (keep : κ → α → Bool) (m : SortedMap κ α) (k : κ) :
    (m.filter keep).get? k = (m.get? k).filter (keep k) := by
  apply Option.ext
  intro v
  rw [← mem_entries_iff, Option.filter_eq_some_iff, ← mem_entries_iff]
  simp [filter]

theorem get?_map (f : κ → α → β) (m : SortedMap κ α) (k : κ) :
    (m.map f).get? k = (m.get? k).map (f k) := by
  apply Option.ext
  intro w
  rw [← mem_entries_iff, Option.map_eq_some_iff]
  simp only [map, List.mem_map, Prod.mk.injEq]
  constructor
  · rintro ⟨⟨l, v⟩, he, rfl, rfl⟩
    exact ⟨v, mem_entries_iff.mp he, rfl⟩
  · rintro ⟨v, found, rfl⟩
    exact ⟨(k, v), mem_entries_iff.mpr found, rfl, rfl⟩

theorem get?_erase (m : SortedMap κ α) (k l : κ) :
    (m.erase k).get? l = if l = k then none else m.get? l := by
  rw [erase, get?_filter]
  split
  · next same => cases m.get? l <;> simp [same]
  · next other => cases m.get? l <;> simp [other]

theorem perm_entries_erase {m : SortedMap κ α} {k : κ} {v : α} (h : m.get? k = some v) :
    m.entries.Perm ((k, v) :: (m.erase k).entries) := by
  have distinct (n : SortedMap κ α) : n.entries.Nodup := n.nodup_keys.of_map
  have gone : (k, v) ∉ (m.erase k).entries := by simp [mem_entries_iff, get?_erase]
  refine (List.perm_ext_iff_of_nodup (distinct m) ((distinct _).cons gone)).mpr ?_
  rintro ⟨l, w⟩
  rw [List.mem_cons, mem_entries_iff, mem_entries_iff, get?_erase, Prod.mk.injEq]
  by_cases same : l = k
  · simp [same, h, eq_comm]
  · simp [same]

/-- A fold that touches each key of an ascending list once acts on the lookups one by one. -/
theorem get?_foldl {γ : Type} {step : SortedMap κ β → κ × γ → SortedMap κ β}
    (act : γ → Option β → Option β)
    (acts : ∀ m e k, (step m e).get? k = if k = e.1 then act e.2 (m.get? k) else m.get? k)
    (n : SortedMap κ γ) (m : SortedMap κ β) (k : κ) :
    (n.entries.foldl step m).get? k =
      (n.get? k).elim (m.get? k) fun c => act c (m.get? k) := by
  obtain ⟨es, ascending⟩ := n
  induction es generalizing m with
  | nil => rfl
  | cons e es ih =>
    obtain ⟨above, rest⟩ := List.pairwise_cons.mp ascending
    rw [List.foldl_cons, ih (step m e) rest, acts]
    by_cases same : e.1 = k
    · have absent : (⟨es, rest⟩ : SortedMap κ γ).get? k = none := by
        rw [Option.eq_none_iff_forall_ne_some]
        intro c hc
        have less := above _ (mem_entries_iff.mpr hc)
        rw [same] at less
        exact Std.lt_irrefl less
      have found : (⟨e :: es, ascending⟩ : SortedMap κ γ).get? k = some e.2 :=
        mem_entries_iff.mp (by simp [← same])
      simp [absent, found, same]
    · have other : (⟨e :: es, ascending⟩ : SortedMap κ γ).get? k =
          (⟨es, rest⟩ : SortedMap κ γ).get? k := by
        simp [get?, same]
      rw [other, if_neg (Ne.symm same)]

variable [Std.IsLinearOrder κ]

omit [DecidableEq κ] in
theorem eq_of_ascending {γ : Type} {key : γ → κ} {as bs : List γ}
    (ha : as.Pairwise fun a b => key a < key b) (hb : bs.Pairwise fun a b => key a < key b)
    (h : ∀ e, e ∈ as ↔ e ∈ bs) : as = bs := by
  have : Std.Irrefl fun a b : γ => key a < key b := ⟨fun a => Std.lt_irrefl⟩
  have : Std.Antisymm fun a b : γ => key a < key b :=
    ⟨fun a b ab ba => (Std.lt_irrefl (Std.lt_trans ab ba)).elim⟩
  exact ha.eq_of_mem_iff hb h

theorem ext_get? {m n : SortedMap κ α} (h : ∀ k, m.get? k = n.get? k) : m = n := by
  apply SortedMap.ext
  refine eq_of_ascending m.ascending n.ascending fun e => ?_
  rw [mem_entries_iff, mem_entries_iff, h]

theorem keys_congr {m : SortedMap κ α} {n : SortedMap κ β}
    (h : ∀ k, m.contains k = n.contains k) : m.keys = n.keys := by
  have ascending {γ : Type} (m : SortedMap κ γ) : m.keys.Pairwise (· < ·) :=
    List.pairwise_map.mpr m.ascending
  refine eq_of_ascending (ascending m) (ascending n) fun k => ?_
  rw [mem_keys_iff, mem_keys_iff, h]

theorem erase_eq_self {m : SortedMap κ α} {k : κ} (h : m.get? k = none) : m.erase k = m := by
  apply ext_get?
  intro l
  rw [get?_erase]
  split
  · next same => rw [same, h]
  · rfl

theorem size_eq_size_erase (m : SortedMap κ α) (k : κ) :
    m.size = (m.erase k).size + if m.contains k then 1 else 0 := by
  cases found : m.get? k with
  | none => simp [contains, found, erase_eq_self found]
  | some v => simpa [contains, found, size] using (perm_entries_erase found).length_eq

end Lookup

section Insertion

variable [DecidableLT κ]

theorem insertEntry_of_above {k : κ} {es : List (κ × α)} (v : α)
    (above : ∀ e ∈ es, e.1 < k ∧ ¬k < e.1) : insertEntry k v es = es ++ [(k, v)] := by
  induction es with
  | nil => rfl
  | cons e es ih =>
    obtain ⟨less, notLess⟩ := above e (by simp)
    rw [insertEntry, if_neg notLess, if_pos less, ih fun d hd => above d (by simp [hd])]
    rfl

variable [LE κ] [Std.IsLinearOrder κ] [Std.LawfulOrderLT κ]

theorem entries_insert_of_above {m : SortedMap κ α} {k : κ} (v : α)
    (above : ∀ e ∈ m.entries, e.1 < k) : (m.insert k v).entries = m.entries ++ [(k, v)] :=
  insertEntry_of_above v fun e he => ⟨above e he, Std.not_lt.mpr (Std.le_of_lt (above e he))⟩

variable [DecidableEq κ]

theorem insert_eq_self {m : SortedMap κ α} {k : κ} {v : α} (h : m.get? k = some v) :
    m.insert k v = m := by
  apply ext_get?
  intro l
  rw [get?_insert]
  split
  · next same => rw [same, h]
  · rfl

theorem get?_union (m n : SortedMap κ α) (k : κ) :
    (m.union n).get? k = (n.get? k).or (m.get? k) := by
  unfold union
  rw [get?_foldl (fun c _ => some c) (fun m e k => get?_insert m e.1 k e.2)]
  cases n.get? k <;> rfl

theorem mem_values_of_insert {m : SortedMap κ α} {k : κ} {v w : α}
    (h : w ∈ (m.insert k v).values) : w = v ∨ w ∈ m.values := by
  obtain ⟨l, found⟩ := mem_values_iff.mp h
  rw [get?_insert] at found
  split at found
  · exact .inl (Option.some.inj found).symm
  · exact .inr (mem_values_iff.mpr ⟨l, found⟩)

theorem mem_values_of_union {m n : SortedMap κ α} {v : α} (h : v ∈ (m.union n).values) :
    v ∈ m.values ∨ v ∈ n.values := by
  obtain ⟨k, found⟩ := mem_values_iff.mp h
  rw [get?_union, Option.or_eq_some_iff] at found
  rcases found with found | ⟨-, found⟩
  · exact .inr (mem_values_iff.mpr ⟨k, found⟩)
  · exact .inl (mem_values_iff.mpr ⟨k, found⟩)

theorem get?_ofList (es : List (κ × α)) (k : κ) :
    (ofList es).get? k = (es.reverse.find? fun e => e.1 = k).map (·.2) := by
  induction es using List.reverseRecOn with
  | nil => rfl
  | append_singleton es e ih =>
    have last : ofList (es ++ [e]) = (ofList es).insert e.1 e.2 := by simp [ofList]
    rw [last, get?_insert, List.reverse_append, List.reverse_singleton, List.singleton_append,
      List.find?_cons]
    by_cases here : e.1 = k
    · simp [here]
    · simp [here, Ne.symm here, ih]

theorem get?_ofList_eq_some_iff_append {es : List (κ × α)} {k : κ} {v : α} :
    (ofList es).get? k = some v ↔
      ∃ front back, es = front ++ (k, v) :: back ∧ ∀ e ∈ back, e.1 ≠ k := by
  rw [get?_ofList, Option.map_eq_some_iff]
  simp only [List.find?_eq_some_iff_append, decide_eq_true_eq, List.reverse_eq_append_iff,
    List.reverse_cons, Bool.not_eq_true', decide_eq_false_iff_not]
  constructor
  · rintro ⟨⟨l, w⟩, ⟨rfl, later, earlier, same, other⟩, rfl⟩
    exact ⟨earlier.reverse, later.reverse, by simpa using same, by simpa using other⟩
  · rintro ⟨front, back, rfl, other⟩
    exact ⟨(k, v), ⟨rfl, back.reverse, front.reverse, by simp, by simpa using other⟩, rfl⟩

theorem mem_of_get?_ofList {es : List (κ × α)} {k : κ} {v : α} (h : (ofList es).get? k = some v) :
    (k, v) ∈ es := by
  obtain ⟨front, back, rfl, -⟩ := get?_ofList_eq_some_iff_append.mp h
  simp

theorem get?_ofList_eq_some {es : List (κ × α)} (distinct : (es.map (·.1)).Nodup) {k : κ} {v : α} :
    (ofList es).get? k = some v ↔ (k, v) ∈ es := by
  constructor
  · exact mem_of_get?_ofList
  · intro he
    rw [get?_ofList, Option.map_eq_some_iff]
    cases found : es.reverse.find? fun e => e.1 = k with
    | none => simpa using List.find?_eq_none.mp found (k, v) (List.mem_reverse.mpr he)
    | some d =>
      have hd := List.mem_reverse.mp (List.mem_of_find?_eq_some found)
      have key : d.1 = k := by simpa using List.find?_some found
      exact ⟨d, rfl, by rw [List.inj_on_of_nodup_map distinct hd he key]⟩

theorem ofList_perm {es fs : List (κ × α)} (p : es.Perm fs) (distinct : (es.map (·.1)).Nodup) :
    ofList es = ofList fs := by
  apply ext_get?
  intro k
  apply Option.ext
  intro v
  rw [get?_ofList_eq_some distinct, get?_ofList_eq_some ((p.map (·.1)).nodup_iff.mp distinct),
    p.mem_iff]

theorem contains_ofList {es : List (κ × α)} {k : κ} :
    (ofList es).contains k = true ↔ ∃ e ∈ es, e.1 = k := by
  rw [contains, get?_ofList, Option.isSome_map, List.find?_isSome]
  simp

end Insertion

end Concordance.SortedMap
