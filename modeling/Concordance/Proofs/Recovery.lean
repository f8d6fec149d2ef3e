import Concordance.Binding
import Mathlib.Data.List.Forall2
import Mathlib.Data.List.Induction
/-!
What a scan of instructions recovers, told by the places of stores. A store binds the name that is
loaded by the nearest instruction before it that loads or stores; of the stores of one name the
first counts. The scan is followed from the front, one more instruction at the end each time.
-/
namespace Concordance

def Cil.Instruction.isOther : Cil.Instruction → Bool
  | .other _ => true
  | _ => false

namespace Binding

open Cil

/-- Of the instructions before place `i` that load or store, the nearest loads `name`. -/
def LoadedBefore (is : List Instruction) (i : Nat) (name : String) : Prop :=
  ∃ j < i, is[j]? = some (.loadString name) ∧
    ∀ k, j < k → k < i → ∃ opcode, is[k]? = some (.other opcode)

def StoredAt (is : List Instruction) (i : Nat) (b : Binding) : Prop :=
  is[i]? = some (.storeStaticField b.fieldName) ∧ LoadedBefore is i b.logicalName

def FirstStoredAt (is : List Instruction) (i : Nat) (b : Binding) : Prop :=
  StoredAt is i b ∧ ∀ j c, j < i → StoredAt is j c → c.logicalName ≠ b.logicalName

section Places

variable {is : List Instruction} {x : Instruction} {i : Nat} {name : String} {b : Binding}

theorem StoredAt.lt_length (h : StoredAt is i b) : i < is.length :=
  (List.getElem?_eq_some_iff.mp h.1).1

theorem loadedBefore_snoc (inside : i ≤ is.length) :
    LoadedBefore (is ++ [x]) i name ↔ LoadedBefore is i name := by
  have same (k : Nat) (hk : k < i) : (is ++ [x])[k]? = is[k]? :=
    List.getElem?_append_left (by omega)
  unfold LoadedBefore
  constructor
  · rintro ⟨j, hj, loads, between⟩
    exact ⟨j, hj, same j hj ▸ loads, fun k after before => same k before ▸ between k after before⟩
  · rintro ⟨j, hj, loads, between⟩
    exact ⟨j, hj, (same j hj).symm ▸ loads,
      fun k after before => (same k before).symm ▸ between k after before⟩

theorem loadedBefore_length_snoc : LoadedBefore (is ++ [x]) (is.length + 1) name ↔
    x = .loadString name ∨ x.isOther = true ∧ LoadedBefore is is.length name := by
  have last : (is ++ [x])[is.length]? = some x := List.getElem?_concat_length
  constructor
  · rintro ⟨j, hj, loads, between⟩
    by_cases atEnd : j = is.length
    · subst atEnd
      rw [last] at loads
      exact .inl (Option.some.inj loads)
    · obtain ⟨opcode, other⟩ := between is.length (by omega) (by omega)
      rw [last] at other
      obtain rfl := Option.some.inj other
      refine .inr ⟨rfl, (loadedBefore_snoc (x := .other opcode) (Nat.le_refl _)).mp ?_⟩
      exact ⟨j, by omega, loads, fun k after before => between k after (by omega)⟩
  · rintro (rfl | ⟨other, before⟩)
    · exact ⟨is.length, by omega, last, fun k after before => by omega⟩
    · obtain ⟨j, hj, loads, between⟩ := (loadedBefore_snoc (x := x) (Nat.le_refl _)).mpr before
      refine ⟨j, by omega, loads, fun k after before => ?_⟩
      by_cases atEnd : k = is.length
      · cases x with
        | other opcode => exact ⟨opcode, atEnd ▸ last⟩
        | loadString s => cases other
        | storeStaticField field => cases other
      · exact between k after (by omega)

theorem storedAt_snoc : StoredAt (is ++ [x]) i b ↔ StoredAt is i b ∨
    i = is.length ∧ x = .storeStaticField b.fieldName ∧
      LoadedBefore is is.length b.logicalName := by
  by_cases atEnd : i = is.length
  · subst atEnd
    simp [StoredAt, loadedBefore_snoc]
  · simp only [atEnd, false_and, or_false]
    constructor
    · intro h
      have inside : i < is.length := by
        have bound := h.lt_length
        simp only [List.length_append, List.length_singleton] at bound
        omega
      rw [StoredAt, List.getElem?_append_left inside, loadedBefore_snoc (Nat.le_of_lt inside)] at h
      exact h
    · intro h
      have inside := h.lt_length
      rw [StoredAt, List.getElem?_append_left inside, loadedBefore_snoc (Nat.le_of_lt inside)]
      exact h

end Places

section Scan

def pendingAfter (pending : Option String) : Instruction → Option String
  | .loadString s => some s
  | .storeStaticField _ => none
  | .other _ => pending

theorem foldl_pendingAfter_eq_some {is : List Instruction} {name : String} :
    is.foldl pendingAfter none = some name ↔ LoadedBefore is is.length name := by
  induction is using List.reverseRecOn with
  | nil => simp [LoadedBefore]
  | append_singleton is x ih =>
    rw [List.foldl_append, List.foldl_cons, List.foldl_nil, List.length_append,
      List.length_singleton, loadedBefore_length_snoc]
    cases x with
    | loadString s => simp [pendingAfter, Instruction.isOther]
    | storeStaticField field => simp [pendingAfter, Instruction.isOther]
    | other opcode => simp [pendingAfter, Instruction.isOther, ih]

theorem recoverFrom_append (pending : Option String) (seen : List String)
    (is js : List Instruction) :
    recoverFrom pending seen (is ++ js) = recoverFrom pending seen is ++
      recoverFrom (is.foldl pendingAfter pending)
        (((recoverFrom pending seen is).map (·.logicalName)).reverse ++ seen) js := by
  induction is generalizing pending seen with
  | nil => rfl
  | cons x is ih =>
    cases x with
    | loadString s => exact ih (some s) seen
    | other opcode => exact ih pending seen
    | storeStaticField field =>
      cases pending with
      | none => exact ih none seen
      | some s =>
        by_cases known : s ∈ seen
        · simp [recoverFrom, known, ih, pendingAfter]
        · simp [recoverFrom, known, ih, pendingAfter]

/-- One more instruction binds a name if it stores one that is pending and not bound yet. -/
theorem recover_snoc (is : List Instruction) (x : Instruction) :
    (∃ b : Binding, recover (is ++ [x]) = recover is ++ [b] ∧ x = .storeStaticField b.fieldName ∧
      LoadedBefore is is.length b.logicalName ∧
      b.logicalName ∉ (recover is).map (·.logicalName)) ∨
    (recover (is ++ [x]) = recover is ∧ ∀ b : Binding, x = .storeStaticField b.fieldName →
      LoadedBefore is is.length b.logicalName →
      b.logicalName ∈ (recover is).map (·.logicalName)) := by
  have split : recover (is ++ [x]) = recover is ++ recoverFrom (is.foldl pendingAfter none)
      ((recover is).map (·.logicalName)).reverse [x] := by
    simpa [recover] using recoverFrom_append none [] is [x]
  simp only [split, ← foldl_pendingAfter_eq_some]
  cases x with
  | loadString s => exact .inr ⟨by simp [recoverFrom], by simp⟩
  | other opcode => exact .inr ⟨by simp [recoverFrom], by simp⟩
  | storeStaticField field =>
    cases pending : is.foldl pendingAfter none with
    | none => exact .inr ⟨by simp [recoverFrom], by simp⟩
    | some s =>
      by_cases known : s ∈ (recover is).map (·.logicalName)
      · refine .inr ⟨by simp [recoverFrom, List.mem_reverse, known], ?_⟩
        rintro b - named
        exact Option.some.inj named ▸ known
      · refine .inl ⟨⟨s, field⟩, by simp [recoverFrom, List.mem_reverse, known], rfl, rfl, known⟩

theorem mem_names_recover {is : List Instruction} {name : String} :
    name ∈ (recover is).map (·.logicalName) ↔ ∃ i b, StoredAt is i b ∧ b.logicalName = name := by
  induction is using List.reverseRecOn with
  | nil => simp [recover, recoverFrom, StoredAt]
  | append_singleton is x ih =>
    simp only [storedAt_snoc]
    rcases recover_snoc is x with ⟨b, grown, stores, loaded, -⟩ | ⟨kept, bound⟩
    · rw [grown, List.map_append, List.mem_append, ih, List.map_singleton, List.mem_singleton]
      constructor
      · rintro (⟨i, c, stored, same⟩ | rfl)
        · exact ⟨i, c, .inl stored, same⟩
        · exact ⟨_, b, .inr ⟨rfl, stores, loaded⟩, rfl⟩
      · rintro ⟨i, c, stored | ⟨rfl, -, again⟩, rfl⟩
        · exact .inl ⟨i, c, stored, rfl⟩
        · rw [← foldl_pendingAfter_eq_some] at loaded again
          exact .inr (Option.some.inj (again.symm.trans loaded))
    · rw [kept]
      constructor
      · intro h
        obtain ⟨i, c, stored, same⟩ := ih.mp h
        exact ⟨i, c, .inl stored, same⟩
      · rintro ⟨i, c, stored | ⟨rfl, stores, loaded⟩, rfl⟩
        · exact ih.mpr ⟨i, c, stored, rfl⟩
        · exact bound c stores loaded

theorem firstStoredAt_snoc {is : List Instruction} {x : Instruction} {i : Nat} {b : Binding} :
    FirstStoredAt (is ++ [x]) i b ↔ FirstStoredAt is i b ∨
      i = is.length ∧ x = .storeStaticField b.fieldName ∧
        LoadedBefore is is.length b.logicalName ∧
        b.logicalName ∉ (recover is).map (·.logicalName) := by
  -- A store at the end does not come before any other.
  have before {j k : Nat} {c : Binding} (hj : j < k) (hk : k ≤ is.length) :
      StoredAt (is ++ [x]) j c ↔ StoredAt is j c := by
    rw [storedAt_snoc]
    exact or_iff_left fun atEnd => by omega
  constructor
  · rintro ⟨stored, first⟩
    rcases storedAt_snoc.mp stored with stored | ⟨rfl, stores, loaded⟩
    · exact .inl ⟨stored, fun j c hj hc =>
        first j c hj ((before hj (Nat.le_of_lt stored.lt_length)).mpr hc)⟩
    · refine .inr ⟨rfl, stores, loaded, fun known => ?_⟩
      obtain ⟨j, c, hc, same⟩ := mem_names_recover.mp known
      exact first j c hc.lt_length ((before hc.lt_length (Nat.le_refl _)).mpr hc) same
  · rintro (⟨stored, first⟩ | ⟨rfl, stores, loaded, fresh⟩)
    · exact ⟨storedAt_snoc.mpr (.inl stored), fun j c hj hc =>
        first j c hj ((before hj (Nat.le_of_lt stored.lt_length)).mp hc)⟩
    · refine ⟨storedAt_snoc.mpr (.inr ⟨rfl, stores, loaded⟩), fun j c hj hc same => ?_⟩
      exact fresh (mem_names_recover.mpr ⟨j, c, (before hj (Nat.le_refl _)).mp hc, same⟩)

theorem exists_places (is : List Instruction) : ∃ places : List Nat,
    places.Pairwise (· < ·) ∧ (∀ i, i ∈ places ↔ ∃ b, FirstStoredAt is i b) ∧
      List.Forall₂ (FirstStoredAt is) places (recover is) := by
  induction is using List.reverseRecOn with
  | nil => exact ⟨[], .nil, by simp [FirstStoredAt, StoredAt], .nil⟩
  | append_singleton is x ih =>
    obtain ⟨places, ascending, complete, sound⟩ := ih
    have kept : List.Forall₂ (FirstStoredAt (is ++ [x])) places (recover is) :=
      sound.imp fun i b first => firstStoredAt_snoc.mpr (.inl first)
    rcases recover_snoc is x with ⟨b, grown, new⟩ | ⟨same, bound⟩
    · refine ⟨places ++ [is.length], ?_, fun i => ?_, ?_⟩
      · refine List.pairwise_append.mpr ⟨ascending, List.pairwise_singleton _ _, ?_⟩
        intro i hi j hj
        obtain ⟨c, first⟩ := (complete i).mp hi
        rw [List.mem_singleton.mp hj]
        exact first.1.lt_length
      · rw [List.mem_append, List.mem_singleton, complete]
        simp only [firstStoredAt_snoc, exists_or, exists_and_left]
        exact or_congr_right ⟨fun atEnd => ⟨atEnd, b, new⟩, fun h => h.1⟩
      · rw [grown]
        exact List.rel_append kept (.cons (firstStoredAt_snoc.mpr (.inr ⟨rfl, new⟩)) .nil)
    · refine ⟨places, ascending, fun i => ?_, same ▸ kept⟩
      rw [complete]
      simp only [firstStoredAt_snoc, exists_or]
      refine (or_iff_left ?_).symm
      rintro ⟨b, -, stores, loaded, fresh⟩
      exact fresh (bound b stores loaded)

theorem nodup_names_recover (is : List Instruction) :
    ((recover is).map (·.logicalName)).Nodup := by
  induction is using List.reverseRecOn with
  | nil => exact .nil
  | append_singleton is x ih =>
    rcases recover_snoc is x with ⟨b, grown, -, -, fresh⟩ | ⟨same, -⟩
    · rw [grown, List.map_append, List.map_singleton]
      refine List.nodup_append.mpr ⟨ih, by simp, ?_⟩
      intro s hs c hc same
      rw [List.mem_singleton.mp hc] at same
      exact fresh (same ▸ hs)
    · rw [same]
      exact ih

theorem recoverFrom_filter (pending : Option String) (seen : List String)
    (is : List Instruction) :
    recoverFrom pending seen (is.filter fun x => !x.isOther) = recoverFrom pending seen is := by
  induction is generalizing pending seen with
  | nil => rfl
  | cons x is ih =>
    cases x with
    | loadString s => exact ih (some s) seen
    | other opcode => exact ih pending seen
    | storeStaticField field =>
      rw [List.filter_cons_of_pos rfl]
      cases pending with
      | none => exact ih none seen
      | some s => simp only [recoverFrom, ih]

end Scan

/-- Recovery yields one binding for each first store of a loaded name, in program order, and no
other. So no name comes twice, and instructions that neither load nor store make no difference. -/
theorem recover_exact (is : List Instruction) :
    (∃ places : List Nat, places.Pairwise (· < ·) ∧
      (∀ i, i ∈ places ↔ ∃ b, FirstStoredAt is i b) ∧
      List.Forall₂ (FirstStoredAt is) places (recover is)) ∧
    ((recover is).map (·.logicalName)).Nodup ∧
    ∀ js : List Instruction, js.filter (!·.isOther) = is.filter (!·.isOther) →
      recover js = recover is := by
  refine ⟨exists_places is, nodup_names_recover is, fun js same => ?_⟩
  calc recover js = recover (js.filter (!·.isOther)) := (recoverFrom_filter none [] js).symm
    _ = recover (is.filter (!·.isOther)) := by rw [same]
    _ = recover is := recoverFrom_filter none [] is

theorem recover_exact_six :
    let loadsAndStores : List Instruction := [.storeStaticField "Orphan", .loadString "stale",
      .loadString "ready", .storeStaticField "Ready", .loadString "ready",
      .storeStaticField "Again"]
    let noisy : List Instruction := [.storeStaticField "Orphan", .loadString "stale", .other 0x28,
      .loadString "ready", .other 0x28, .storeStaticField "Ready", .other 0x25,
      .loadString "ready", .storeStaticField "Again", .other 0x2A]
    noisy.filter (!·.isOther) = loadsAndStores.filter (!·.isOther) ∧
      recover noisy = recover loadsAndStores ∧ recover loadsAndStores = [⟨"ready", "Ready"⟩] := by
  intro loadsAndStores noisy
  have same : noisy.filter (!·.isOther) = loadsAndStores.filter (!·.isOther) := by decide +kernel
  exact ⟨same, (recover_exact loadsAndStores).2.2 noisy same, by decide +kernel⟩

end Binding
end Concordance
