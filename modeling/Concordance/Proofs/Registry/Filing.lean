import Concordance.Registry.Basic
import Concordance.Proofs.SortedMap
/-!
What a registry files. An entry lies under its logical name and its binary full name. Storing one
touches what lies under its own two names, and pruning removes nothing that has both.
-/
namespace Concordance

def TypeEntry.isNamed (t : TypeEntry) : Bool := t.logicalName ≠ "" && t.binaryFullName ≠ ""

namespace Registry

def entryAt? (r : Registry) (logicalName fullName : String) : Option TypeEntry :=
  (r.types.get? logicalName).bind (·.get? fullName)

theorem types_storeType {t : TypeEntry} (named : t.isNamed = true) (r : Registry) :
    (r.storeType t).types = r.types.alter t.logicalName fun vs =>
      (vs.getD .empty).insert t.binaryFullName t := by
  have storable : ¬(t.logicalName = "" ∨ t.binaryFullName = "") := by
    simpa [TypeEntry.isNamed] using named
  rw [storeType, storeType?, if_neg storable, Option.getD_some]

theorem storeType_of_not_isNamed {t : TypeEntry} (unnamed : t.isNamed = false) (r : Registry) :
    r.storeType t = r := by
  have refused : t.logicalName = "" ∨ t.binaryFullName = "" := by
    by_cases logical : t.logicalName = "" <;> simp_all [TypeEntry.isNamed]
  rw [storeType, storeType?, if_pos refused, Option.getD_none]

theorem entryAt?_storeType (r : Registry) {t : TypeEntry} (named : t.isNamed = true)
    (l f : String) : (r.storeType t).entryAt? l f =
      if l = t.logicalName ∧ f = t.binaryFullName then some t else r.entryAt? l f := by
  rw [entryAt?, types_storeType named, SortedMap.get?_alter]
  by_cases logical : l = t.logicalName
  · rw [if_pos logical, Option.bind_some, SortedMap.get?_insert]
    by_cases full : f = t.binaryFullName
    · rw [if_pos full, if_pos ⟨logical, full⟩]
    · rw [if_neg full, if_neg fun both => full both.2, entryAt?, logical]
      cases r.types.get? t.logicalName <;> rfl
  · rw [if_neg logical, if_neg fun both => logical both.1, entryAt?]

theorem entryAt?_of_storeType {r : Registry} {t u : TypeEntry} {l f : String}
    (h : (r.storeType t).entryAt? l f = some u) : u = t ∨ r.entryAt? l f = some u := by
  cases named : t.isNamed with
  | false =>
    rw [storeType_of_not_isNamed named] at h
    exact .inr h
  | true =>
    rw [entryAt?_storeType r named] at h
    split at h
    · exact .inl (Option.some.inj h).symm
    · exact .inr h

theorem entryAt?_of_prune {r : Registry} {t : TypeEntry} {l f : String}
    (h : r.prune.entryAt? l f = some t) : r.entryAt? l f = some t := by
  rw [entryAt?, prune, SortedMap.get?_filter, SortedMap.get?_map] at h
  obtain ⟨vs, group, found⟩ := Option.bind_eq_some_iff.mp h
  obtain ⟨us, own, rfl⟩ := Option.map_eq_some_iff.mp (Option.filter_eq_some_iff.mp group).1
  rw [SortedMap.get?_filter, Option.filter_eq_some_iff] at found
  rw [entryAt?, own, Option.bind_some, found.1]

/-- The registry holds the entries of a list, each under its own two names, and nothing else. -/
structure Files (r : Registry) (es : List TypeEntry) : Prop where
  entryAt : ∀ l f t, r.entryAt? l f = some t ↔ t ∈ es ∧ t.logicalName = l ∧ t.binaryFullName = f
  named : ∀ t ∈ es, t.isNamed = true
  nonempty : ∀ l vs, r.types.get? l = some vs → vs.isEmpty = false

namespace Files

variable {r : Registry} {es : List TypeEntry}

theorem empty (metadata : Metadata) (global : GlobalScope) :
    Files { metadata, global } [] := by
  refine ⟨fun l f t => ?_, by simp, by simp⟩
  simp [entryAt?]

/-- An entry whose full name is new is filed besides those there, if it has both names. -/
theorem storeType (h : r.Files es) {t : TypeEntry}
    (new : ∀ u ∈ es, u.binaryFullName ≠ t.binaryFullName) :
    (r.storeType t).Files (es ++ [t].filter (·.isNamed)) := by
  cases named : t.isNamed with
  | false => simpa [named, storeType_of_not_isNamed named] using h
  | true =>
    rw [List.filter_singleton, named, cond_true]
    refine ⟨fun l f u => ?_, ?_, fun l vs found => ?_⟩
    · rw [entryAt?_storeType r named]
      split
      · next own =>
        obtain ⟨rfl, rfl⟩ := own
        constructor
        · rintro ⟨rfl⟩
          exact ⟨by simp, rfl, rfl⟩
        · rintro ⟨hu, logical, full⟩
          rcases List.mem_append.mp hu with hu | hu
          · exact absurd full (new u hu)
          · rw [List.mem_singleton.mp hu]
      · next other =>
        rw [h.entryAt, List.mem_append, List.mem_singleton]
        constructor
        · exact fun ⟨hu, names⟩ => ⟨.inl hu, names⟩
        · rintro ⟨hu | rfl, logical, full⟩
          · exact ⟨hu, logical, full⟩
          · exact absurd ⟨logical.symm, full.symm⟩ other
    · intro u hu
      rcases List.mem_append.mp hu with hu | hu
      · exact h.named u hu
      · rwa [List.mem_singleton.mp hu]
    · rw [types_storeType named, SortedMap.get?_alter] at found
      split at found
      · have key := SortedMap.get?_insert_self (((r.types.get? t.logicalName).getD .empty))
          t.binaryFullName t
        obtain rfl := Option.some.inj found
        exact SortedMap.isEmpty_eq_false key
      · exact h.nonempty l vs found

theorem names_of_get? (h : r.Files es) {l f : String} {vs : Variants} {t : TypeEntry}
    (group : r.types.get? l = some vs) (found : vs.get? f = some t) :
    t ∈ es ∧ t.logicalName = l ∧ t.binaryFullName = f :=
  (h.entryAt l f t).mp (by rw [entryAt?, group, Option.bind_some, found])

theorem exists_mem_entries (h : r.Files es) {l : String} {vs : Variants}
    (group : r.types.get? l = some vs) : ∃ e, e ∈ vs.entries :=
  List.exists_mem_of_ne_nil _ (List.isEmpty_eq_false_iff.mp (h.nonempty l vs group))

theorem isVisible (h : r.Files es) {l : String} {vs : Variants}
    (group : r.types.get? l = some vs) : Registry.isVisible l vs = true := by
  obtain ⟨⟨f, t⟩, he⟩ := h.exists_mem_entries group
  obtain ⟨ht, rfl, -⟩ := h.names_of_get? group (SortedMap.mem_entries_iff.mp he)
  have named := h.named t ht
  simp only [TypeEntry.isNamed, Bool.and_eq_true] at named
  simp [Registry.isVisible, named.1, h.nonempty _ vs group]

theorem prune_eq (h : r.Files es) : r.prune = r := by
  have kept : (r.types.map fun _ vs => vs.filter fun full _ => full ≠ "").filter
      Registry.isVisible = r.types := by
    apply SortedMap.ext_get?
    intro l
    rw [SortedMap.get?_filter, SortedMap.get?_map]
    cases group : r.types.get? l with
    | none => rfl
    | some vs =>
      have named : (vs.filter fun full _ => full ≠ "") = vs := by
        apply SortedMap.ext
        refine List.filter_eq_self.mpr ?_
        rintro ⟨f, t⟩ he
        obtain ⟨ht, -, rfl⟩ := h.names_of_get? group (SortedMap.mem_entries_iff.mp he)
        have named := h.named t ht
        simp only [TypeEntry.isNamed, Bool.and_eq_true] at named
        exact named.2
      rw [Option.map_some, named, Option.filter_some_pos (h.isVisible group)]
  exact congrArg (fun types => { r with types }) kept

theorem prune (h : r.Files es) : r.prune.Files es := h.prune_eq.symm ▸ h

theorem get?_types_of_files {s : Registry} {fs : List TypeEntry} (h : r.Files es)
    (k : s.Files fs) (same : ∀ t, t ∈ es ↔ t ∈ fs) {l : String} {vs : Variants}
    (group : r.types.get? l = some vs) : s.types.get? l = some vs := by
  have entries (f : String) : r.entryAt? l f = s.entryAt? l f := by
    apply Option.ext
    intro t
    rw [h.entryAt, k.entryAt, same]
  -- The group is not empty, so the other registry has a group of this name as well.
  obtain ⟨e, he⟩ := h.exists_mem_entries group
  have found : r.entryAt? l e.1 = some e.2 :=
    Option.bind_eq_some_iff.mpr ⟨vs, group, SortedMap.mem_entries_iff.mp he⟩
  rw [entries] at found
  obtain ⟨ws, other, -⟩ := Option.bind_eq_some_iff.mp found
  have groups : vs = ws := by
    apply SortedMap.ext_get?
    intro f
    have entry := entries f
    rwa [entryAt?, entryAt?, group, other] at entry
  rw [other, groups]

theorem types_eq {s : Registry} {fs : List TypeEntry} (h : r.Files es) (k : s.Files fs)
    (same : ∀ t, t ∈ es ↔ t ∈ fs) : r.types = s.types := by
  apply SortedMap.ext_get?
  intro l
  apply Option.ext
  intro vs
  exact ⟨h.get?_types_of_files k same, k.get?_types_of_files h fun t => (same t).symm⟩

theorem mem_typeEntries (h : r.Files es) {t : TypeEntry} : t ∈ r.typeEntries ↔ t ∈ es := by
  simp only [typeEntries, List.mem_flatMap, SortedMap.mem_values_iff]
  constructor
  · rintro ⟨vs, ⟨l, group⟩, f, found⟩
    rw [visibleTypes, SortedMap.get?_filter, Option.filter_eq_some_iff] at group
    exact (h.names_of_get? group.1 found).1
  · intro ht
    have filed := (h.entryAt t.logicalName t.binaryFullName t).mpr ⟨ht, rfl, rfl⟩
    obtain ⟨vs, group, found⟩ := Option.bind_eq_some_iff.mp filed
    refine ⟨vs, ⟨t.logicalName, ?_⟩, t.binaryFullName, found⟩
    rw [visibleTypes, SortedMap.get?_filter, group, Option.filter_some_pos (h.isVisible group)]

theorem nodup_values (h : r.Files es) {l : String} {vs : Variants}
    (group : r.types.get? l = some vs) : vs.values.Nodup := by
  have keys : vs.values.map (·.binaryFullName) = vs.keys := by
    rw [SortedMap.values, SortedMap.keys, List.map_map]
    refine List.map_congr_left ?_
    rintro ⟨f, t⟩ he
    exact (h.names_of_get? group (SortedMap.mem_entries_iff.mp he)).2.2
  exact List.Nodup.of_map _ (keys ▸ vs.nodup_keys)

theorem nodup_typeEntries (h : r.Files es) : r.typeEntries.Nodup := by
  have group : ∀ e ∈ r.visibleTypes.entries, r.types.get? e.1 = some e.2 := fun e he =>
    SortedMap.mem_entries_iff.mp (List.mem_of_mem_filter he)
  have logical : ∀ e ∈ r.visibleTypes.entries, ∀ t ∈ e.2.values, t.logicalName = e.1 := by
    intro e he t ht
    obtain ⟨f, found⟩ := SortedMap.mem_values_iff.mp ht
    exact (h.names_of_get? (group e he) found).2.1
  rw [typeEntries, SortedMap.values, List.flatMap_map]
  refine List.nodup_flatMap.mpr ⟨fun e he => h.nodup_values (group e he), ?_⟩
  refine r.visibleTypes.ascending.imp_of_mem fun {a b} ha hb less => ?_
  intro t hta htb
  exact Std.lt_irrefl ((logical a ha t hta).symm.trans (logical b hb t htb) ▸ less)

theorem perm_typeEntries (h : r.Files es) (distinct : es.Nodup) : r.typeEntries.Perm es :=
  (List.perm_ext_iff_of_nodup h.nodup_typeEntries distinct).mpr fun _ => h.mem_typeEntries

end Files

end Registry
end Concordance
