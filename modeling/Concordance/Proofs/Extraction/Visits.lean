import Concordance.Extraction.Visit
import Concordance.Proofs.SortedMap
/-!
The visits of a module. A full name is marked where it is met, so no two visits share one. Every
visit is that of a top-level type under its own name or that of an enum under its owner's, and a
type that is no enum stands behind the visits of its nested enums.
-/
namespace Concordance.Visit

open Compiled (TypeInfo Module)

/-- From one set of marks to the next: the names met are new and pairwise different, and just they
have been marked. -/
structure Marks (old names seen : List String) : Prop where
  distinct : names.Nodup
  fresh : ∀ n ∈ names, n ∉ old
  marked : ∀ n, n ∈ seen ↔ n ∈ old ∨ n ∈ names

namespace Marks

variable {old mid seen names others : List String} {n : String}

theorem none (seen : List String) : Marks seen [] seen := ⟨by simp, by simp, by simp⟩

theorem one (new : n ∉ seen) : Marks seen [n] (n :: seen) :=
  ⟨by simp, by simpa using new, fun k => by simp [or_comm]⟩

theorem append (first : Marks old names mid) (second : Marks mid others seen) :
    Marks old (names ++ others) seen where
  distinct := by
    refine List.nodup_append.mpr ⟨first.distinct, second.distinct, ?_⟩
    rintro a ha b hb rfl
    exact second.fresh a hb ((first.marked a).mpr (.inr ha))
  fresh k hk := by
    rcases List.mem_append.mp hk with hk | hk
    · exact first.fresh k hk
    · exact fun known => second.fresh k hk ((first.marked k).mpr (.inl known))
  marked k := by rw [second.marked, first.marked, List.mem_append, or_assoc]

theorem perm (h : Marks old names seen) (p : names.Perm others) : Marks old others seen where
  distinct := p.nodup_iff.mp h.distinct
  fresh k hk := h.fresh k (p.mem_iff.mpr hk)
  marked k := by rw [h.marked, p.mem_iff]

end Marks

theorem marks_unseen (seen : List String) (ts : List TypeInfo) :
    Marks seen ((unseen seen ts).1.map (·.fullName)) (unseen seen ts).2 := by
  induction ts generalizing seen with
  | nil => exact Marks.none seen
  | cons t ts ih =>
    unfold unseen
    split
    · exact ih seen
    · next new => exact (Marks.one new).append (ih (t.fullName :: seen))

theorem exists_eq_append_of_mem_unseen {seen : List String} {ts : List TypeInfo} {t : TypeInfo}
    (h : t ∈ (unseen seen ts).1) :
    ∃ front back, ts = front ++ t :: back ∧ ∀ u ∈ front, u.fullName ≠ t.fullName := by
  induction ts generalizing seen with
  | nil => cases h
  | cons u ts ih =>
    have behind {seen : List String} (known : u.fullName ∈ seen) (h : t ∈ (unseen seen ts).1) :
        ∃ front back, u :: ts = front ++ t :: back ∧ ∀ w ∈ front, w.fullName ≠ t.fullName := by
      obtain ⟨front, back, rfl, before⟩ := ih h
      have fresh := (marks_unseen seen (front ++ t :: back)).fresh _ (List.mem_map_of_mem h)
      have differs : u.fullName ≠ t.fullName := fun same => fresh (same ▸ known)
      exact ⟨u :: front, back, rfl, List.forall_mem_cons.mpr ⟨differs, before⟩⟩
    unfold unseen at h
    split at h
    · next known => exact behind known h
    · rcases List.mem_cons.mp h with rfl | h
      · exact ⟨[], ts, rfl, by simp⟩
      · exact behind List.mem_cons_self h

theorem mem_of_mem_unseen {seen : List String} {ts : List TypeInfo} {t : TypeInfo}
    (h : t ∈ (unseen seen ts).1) : t ∈ ts := by
  obtain ⟨front, back, rfl, -⟩ := exists_eq_append_of_mem_unseen h
  exact List.mem_append_right _ List.mem_cons_self

theorem fullName_mem_unseen {seen : List String} {ts : List TypeInfo} {t : TypeInfo}
    (h : t ∈ ts) : t.fullName ∈ (unseen seen ts).2 := by
  induction ts generalizing seen with
  | nil => cases h
  | cons u ts ih =>
    unfold unseen
    split
    · next known =>
      rcases List.mem_cons.mp h with rfl | h
      · exact ((marks_unseen seen ts).marked _).mpr (.inl known)
      · exact ih h
    · rcases List.mem_cons.mp h with rfl | h
      · exact ((marks_unseen _ ts).marked _).mpr (.inl List.mem_cons_self)
      · exact ih h

variable {settings : ExtractionSettings} {m : Module}

theorem marks_ofTopLevel (settings : ExtractionSettings) (seen : List String)
    (ts : List TypeInfo) : Marks seen ((ofTopLevel settings seen ts).1.map (·.type.fullName))
      (ofTopLevel settings seen ts).2 := by
  induction ts generalizing seen with
  | nil => exact Marks.none seen
  | cons t ts ih =>
    unfold ofTopLevel
    split
    · exact ih seen
    · next visited =>
      obtain ⟨-, new⟩ : settings.isShadow t.name = false ∧ t.fullName ∉ seen := by
        simpa using visited
      -- A type is marked in front of its enums and visited behind them.
      have block := (Marks.one new).append
        (marks_unseen (t.fullName :: seen) (t.nestedTypes.filter (·.isEnum)))
      have all := block.append (ih _)
      refine all.perm ?_
      simp [ofNestedEnum, Function.comp_def, List.perm_middle.symm]

theorem marks_ofModule (settings : ExtractionSettings) (m : Module) :
    Marks [] ((ofModule settings m).map (·.type.fullName))
      (unseen (ofTopLevel settings [] (m.types.filter (·.declaringType.isNone))).2
        (m.types.filter fun t => t.declaringType.isSome && t.isEnum)).2 := by
  have marks := (marks_ofTopLevel settings []
    (m.types.filter (·.declaringType.isNone))).append (marks_unseen _
      (m.types.filter fun t => t.declaringType.isSome && t.isEnum))
  simpa [ofModule, ofListedEnum, ofNestedEnum, Function.comp_def] using marks

theorem nodup_fullNames (settings : ExtractionSettings) (m : Module) :
    ((ofModule settings m).map (·.type.fullName)).Nodup := (marks_ofModule settings m).distinct

theorem eq_of_fullName_eq {v w : Visit} (hv : v ∈ ofModule settings m)
    (hw : w ∈ ofModule settings m) (same : v.type.fullName = w.type.fullName) : v = w :=
  List.inj_on_of_nodup_map (nodup_fullNames settings m) hv hw same

/-- What is visited among top-level types: one that is no shadow, after which the names of its enums
are marked, or an enum nested in one. -/
theorem ofTopLevel_cases {seen : List String} {ts : List TypeInfo} {v : Visit}
    (h : v ∈ (ofTopLevel settings seen ts).1) :
    (v.type ∈ ts ∧ settings.isShadow v.type.name = false ∧ v.logicalName = v.type.logicalName ∧
        ∀ u ∈ v.type.nestedTypes.filter (·.isEnum),
          u.fullName ∈ (ofTopLevel settings seen ts).2) ∨
      ∃ t ∈ ts, settings.isShadow t.name = false ∧
        ∃ u ∈ t.nestedTypes.filter (·.isEnum), v = ofNestedEnum settings t.logicalName u := by
  induction ts generalizing seen with
  | nil => cases h
  | cons t ts ih =>
    unfold ofTopLevel at h ⊢
    split at h
    · next skipped =>
      rw [if_pos skipped]
      exact (ih h).imp (And.imp_left (List.mem_cons_of_mem _))
        fun ⟨o, listed, source⟩ => ⟨o, List.mem_cons_of_mem _ listed, source⟩
    · next visited =>
      rw [if_neg visited]
      obtain ⟨plain, -⟩ : settings.isShadow t.name = false ∧ t.fullName ∉ seen := by
        simpa using visited
      rcases List.mem_append.mp h with h | h
      · obtain ⟨u, hu, rfl⟩ := List.mem_map.mp h
        exact .inr ⟨t, List.mem_cons_self, plain, u, mem_of_mem_unseen hu, rfl⟩
      · rcases List.mem_cons.mp h with rfl | h
        · refine .inl ⟨List.mem_cons_self, plain, rfl, fun u hu => ?_⟩
          exact ((marks_ofTopLevel settings _ ts).marked _).mpr (.inl (fullName_mem_unseen hu))
        · exact (ih h).imp (And.imp_left (List.mem_cons_of_mem _))
            fun ⟨o, listed, source⟩ => ⟨o, List.mem_cons_of_mem _ listed, source⟩

/-- What is visited: a top-level type of the module under its own logical name, or an enum as a
member of an owner. -/
theorem ofModule_cases {v : Visit} (h : v ∈ ofModule settings m) :
    (v.type ∈ m.types ∧ v.type.declaringType = none ∧ v.logicalName = v.type.logicalName) ∨
      (v.type.isEnum = true ∧ ∃ owner, v = ofNestedEnum settings owner v.type) := by
  rcases List.mem_append.mp h with h | h
  · rcases ofTopLevel_cases h with ⟨listed, -, name, -⟩ | ⟨t, -, -, u, nested, rfl⟩
    · obtain ⟨exported, topLevel⟩ := List.mem_filter.mp listed
      exact .inl ⟨exported, Option.isNone_iff_eq_none.mp topLevel, name⟩
    · exact .inr ⟨(List.mem_filter.mp nested).2, t.logicalName, rfl⟩
  · obtain ⟨t, ht, rfl⟩ := List.mem_map.mp h
    obtain ⟨-, isEnum⟩ := Bool.and_eq_true_iff.mp (List.mem_filter.mp (mem_of_mem_unseen ht)).2
    exact .inr ⟨isEnum, _, rfl⟩

theorem mem_ofModule {v : Visit} (h : v ∈ ofModule settings m) :
    v.type.isEnum = true ∨ v.type ∈ m.types :=
  (ofModule_cases h).symm.imp And.left And.left

theorem get?_ownerNames {v : Visit} (h : v ∈ ofModule settings m)
    (notEnum : v.type.isEnum = false) :
    (ownerNames (ofModule settings m)).get? v.type.fullName = some v.logicalName := by
  unfold ownerNames
  have owners := List.filter_sublist (p := fun v => !v.type.isEnum) (l := ofModule settings m)
  have distinct := (nodup_fullNames settings m).sublist (owners.map (·.type.fullName))
  rw [SortedMap.get?_ofList_eq_some (by simpa [Function.comp_def] using distinct)]
  exact List.mem_map_of_mem (List.mem_filter.mpr ⟨h, by simp [notEnum]⟩)

section Blocks

theorem unseen_congr {seen seen' : List String} (h : ∀ n, n ∈ seen ↔ n ∈ seen')
    (ts : List TypeInfo) : (unseen seen ts).1 = (unseen seen' ts).1 := by
  induction ts generalizing seen seen' with
  | nil => rfl
  | cons t ts ih =>
    unfold unseen
    by_cases known : t.fullName ∈ seen
    · rw [if_pos known, if_pos ((h _).mp known), ih h]
    · have extended : ∀ n, n ∈ t.fullName :: seen ↔ n ∈ t.fullName :: seen' := by simp [h]
      rw [if_neg known, if_neg fun known' => known ((h _).mpr known')]
      simp only [ih extended]

/-- The visits of the enums nested in a type, when the visits `before` have been made: of those with
one full name the first, and none whose name is known. -/
def nestedVisits (settings : ExtractionSettings) (before : List Visit) (t : TypeInfo) :
    List Visit :=
  (unseen (t.fullName :: before.map (·.type.fullName)) (t.nestedTypes.filter (·.isEnum))).1.map
    (ofNestedEnum settings t.logicalName)

theorem mem_nestedTypes_of_mem_nestedVisits {before : List Visit} {t : TypeInfo} {v : Visit}
    (h : v ∈ nestedVisits settings before t) : v.type ∈ t.nestedTypes.filter (·.isEnum) := by
  obtain ⟨u, hu, rfl⟩ := List.mem_map.mp h
  exact mem_of_mem_unseen hu

private theorem exists_ofTopLevel_eq {seen : List String} {ts : List TypeInfo} {v : Visit}
    (h : v ∈ (ofTopLevel settings seen ts).1) {prior : List Visit}
    (marked : ∀ n, n ∈ seen ↔ n ∈ prior.map (·.type.fullName)) :
    ∃ before t after, prior ++ (ofTopLevel settings seen ts).1 =
      before ++ (nestedVisits settings before t ++ ⟨t, t.logicalName⟩ :: after) ∧
        t ∈ ts ∧ settings.isShadow t.name = false ∧
          (v = ⟨t, t.logicalName⟩ ∨ v ∈ nestedVisits settings before t) := by
  induction ts generalizing seen prior with
  | nil => cases h
  | cons t ts ih =>
    have behind {u : TypeInfo} (h : u ∈ ts) : u ∈ t :: ts := List.mem_cons_of_mem _ h
    unfold ofTopLevel at h ⊢
    split at h
    · next skipped =>
      rw [if_pos skipped]
      obtain ⟨before, u, after, same, listed, rest⟩ := ih h marked
      exact ⟨before, u, after, same, behind listed, rest⟩
    · next visited =>
      rw [if_neg visited]
      obtain ⟨plain, -⟩ : settings.isShadow t.name = false ∧ t.fullName ∉ seen := by
        simpa using visited
      have known : ∀ n, n ∈ t.fullName :: seen ↔
          n ∈ t.fullName :: prior.map (·.type.fullName) := by
        simp [marked]
      have marks := marks_unseen (t.fullName :: seen) (t.nestedTypes.filter (·.isEnum))
      rw [unseen_congr known] at marks
      dsimp only at h ⊢
      rw [unseen_congr known] at h ⊢
      let visit : Visit := ⟨t, t.logicalName⟩
      have here (own : v = visit ∨ v ∈ nestedVisits settings prior t) (after : List Visit) :
          ∃ before u after', prior ++ (nestedVisits settings prior t ++ visit :: after) =
            before ++ (nestedVisits settings before u ++ ⟨u, u.logicalName⟩ :: after') ∧
              u ∈ t :: ts ∧ settings.isShadow u.name = false ∧
                (v = ⟨u, u.logicalName⟩ ∨ v ∈ nestedVisits settings before u) :=
        ⟨prior, t, after, rfl, List.mem_cons_self, plain, own⟩
      rcases List.mem_append.mp h with h | h
      · exact here (.inr h) _
      · rcases List.mem_cons.mp h with rfl | h
        · exact here (.inl rfl) _
        · have extended (n : String) :
              n ∈ (unseen (t.fullName :: seen) (t.nestedTypes.filter (·.isEnum))).2 ↔
                n ∈ (prior ++ nestedVisits settings prior t ++ [visit]).map
                  (·.type.fullName) := by
            rw [marks.marked, List.mem_cons, marked]
            simp only [nestedVisits, List.map_append, List.map_map, List.mem_append]
            simp [visit, ofNestedEnum, Function.comp_def, or_assoc, or_comm]
          obtain ⟨before, u, after, same, listed, rest⟩ := ih h extended
          refine ⟨before, u, after, ?_, behind listed, rest⟩
          simpa [nestedVisits, visit] using same

/-- A visit is that of a top-level type, right behind the visits of its nested enums, or it is one
of these, or that of an enum listed by itself whose name none of these has. -/
theorem exists_ofModule_eq_or_listed {v : Visit} (h : v ∈ ofModule settings m) :
    (∃ before t after, ofModule settings m =
        before ++ (nestedVisits settings before t ++ ⟨t, t.logicalName⟩ :: after) ∧
        t ∈ m.types.filter (·.declaringType.isNone) ∧ settings.isShadow t.name = false ∧
          (v = ⟨t, t.logicalName⟩ ∨ v ∈ nestedVisits settings before t)) ∨
      ∃ t ∈ m.types.filter fun t => t.declaringType.isSome && t.isEnum,
        v = ofListedEnum settings t ∧
          t.fullName ∉ (ofTopLevel settings [] (m.types.filter (·.declaringType.isNone))).2 := by
  unfold ofModule at h ⊢
  rcases List.mem_append.mp h with h | h
  · have unmarked : ∀ n, n ∈ [] ↔ n ∈ ([] : List Visit).map (·.type.fullName) := by simp
    obtain ⟨before, t, after, same, rest⟩ := exists_ofTopLevel_eq h unmarked
    rw [List.nil_append] at same
    dsimp only
    rw [same, List.append_assoc, List.append_assoc, List.cons_append]
    exact .inl ⟨before, t, _, rfl, rest⟩
  · obtain ⟨t, ht, rfl⟩ := List.mem_map.mp h
    have fresh := (marks_unseen _ _).fresh t.fullName (List.mem_map_of_mem ht)
    exact .inr ⟨t, mem_of_mem_unseen ht, rfl, fresh⟩

end Blocks

end Concordance.Visit
