/-!
Finite maps kept as association lists in strictly ascending key order. The order is part of
the type, so two maps with the same bindings are equal and a map is written out in one way.
-/
namespace Concordance

structure SortedMap (κ α : Type) [LT κ] where
  entries : List (κ × α) := []
  ascending : entries.Pairwise (fun a b => a.1 < b.1) := by exact List.Pairwise.nil

namespace SortedMap

variable {κ α β : Type} [LT κ]

@[ext] theorem ext {m n : SortedMap κ α} (h : m.entries = n.entries) : m = n := by
  cases m; cases n; cases h; rfl

def empty : SortedMap κ α := {}

instance : EmptyCollection (SortedMap κ α) := ⟨empty⟩
instance : Inhabited (SortedMap κ α) := ⟨empty⟩

def keys (m : SortedMap κ α) : List κ := m.entries.map (·.1)
def values (m : SortedMap κ α) : List α := m.entries.map (·.2)
def size (m : SortedMap κ α) : Nat := m.entries.length
def isEmpty (m : SortedMap κ α) : Bool := m.entries.isEmpty

def get? [DecidableEq κ] (m : SortedMap κ α) (k : κ) : Option α :=
  (m.entries.find? (fun e => e.1 = k)).map (·.2)

def contains [DecidableEq κ] (m : SortedMap κ α) (k : κ) : Bool := (m.get? k).isSome

@[simp] theorem get?_empty [DecidableEq κ] (k : κ) : (empty : SortedMap κ α).get? k = none := rfl

def filter (keep : κ → α → Bool) (m : SortedMap κ α) : SortedMap κ α where
  entries := m.entries.filter fun e => keep e.1 e.2
  ascending := m.ascending.filter _

def erase [DecidableEq κ] (m : SortedMap κ α) (k : κ) : SortedMap κ α :=
  m.filter fun l _ => l ≠ k

def map (f : κ → α → β) (m : SortedMap κ α) : SortedMap κ β where
  entries := m.entries.map fun e => (e.1, f e.1 e.2)
  ascending := List.pairwise_map.mpr m.ascending

section Insertion

variable [DecidableLT κ]

/-- Put a binding at its place in an ascending list, over an earlier one of the same key. -/
def insertEntry (k : κ) (v : α) : List (κ × α) → List (κ × α)
  | [] => [(k, v)]
  | e :: es =>
    if k < e.1 then (k, v) :: e :: es
    else if e.1 < k then e :: insertEntry k v es
    else (k, v) :: es

theorem mem_insertEntry {k : κ} {v : α} {e : κ × α} {es : List (κ × α)}
    (h : e ∈ insertEntry k v es) : e = (k, v) ∨ e ∈ es := by
  induction es with
  | nil => simpa [insertEntry] using h
  | cons d es ih =>
    unfold insertEntry at h
    split at h
    · simpa using h
    · split at h
      · rcases List.mem_cons.mp h with h | h
        · exact .inr (h ▸ List.mem_cons_self)
        · exact (ih h).imp_right (List.mem_cons_of_mem _)
      · rcases List.mem_cons.mp h with h | h
        · exact .inl h
        · exact .inr (List.mem_cons_of_mem _ h)

variable [LE κ] [Std.IsLinearOrder κ] [Std.LawfulOrderLT κ]

theorem ascending_insertEntry (k : κ) (v : α) {es : List (κ × α)}
    (h : es.Pairwise fun a b => a.1 < b.1) :
    (insertEntry k v es).Pairwise fun a b => a.1 < b.1 := by
  induction es with
  | nil => simp [insertEntry]
  | cons e es ih =>
    obtain ⟨above, rest⟩ := List.pairwise_cons.mp h
    unfold insertEntry
    split
    · next below =>
      refine List.pairwise_cons.mpr ⟨fun d hd => ?_, h⟩
      rcases List.mem_cons.mp hd with rfl | hd
      · exact below
      · exact Std.lt_trans below (above d hd)
    · split
      · next greater =>
        refine List.pairwise_cons.mpr ⟨fun d hd => ?_, ih rest⟩
        rcases mem_insertEntry hd with rfl | hd
        · exact greater
        · exact above d hd
      · next notBelow notAbove =>
        have same : k = e.1 :=
          Std.le_antisymm (Std.not_lt.mp notAbove) (Std.not_lt.mp notBelow)
        exact List.pairwise_cons.mpr ⟨fun d hd => same ▸ above d hd, rest⟩

def insert (m : SortedMap κ α) (k : κ) (v : α) : SortedMap κ α where
  entries := insertEntry k v m.entries
  ascending := ascending_insertEntry k v m.ascending

/-- Of two pairs with one key the later counts. -/
def ofList (es : List (κ × α)) : SortedMap κ α :=
  es.foldl (fun m e => m.insert e.1 e.2) empty

/-- Insert every binding of `n` into `m`; on a shared key `n` wins. -/
def union (m n : SortedMap κ α) : SortedMap κ α :=
  n.entries.foldl (fun m e => m.insert e.1 e.2) m

variable [DecidableEq κ]

def alter (m : SortedMap κ α) (k : κ) (f : Option α → α) : SortedMap κ α :=
  m.insert k (f (m.get? k))

omit [Std.IsLinearOrder κ] in
theorem find?_insertEntry_self (k : κ) (v : α) (es : List (κ × α)) :
    (insertEntry k v es).find? (fun e => e.1 = k) = some (k, v) := by
  induction es with
  | nil => simp [insertEntry]
  | cons e es ih =>
    unfold insertEntry
    split
    · simp
    · split
      · next greater =>
        have : e.1 ≠ k := fun same => Std.lt_irrefl (same ▸ greater)
        simp [this, ih]
      · simp

theorem find?_insertEntry_of_ne {k l : κ} (h : l ≠ k) (v : α) (es : List (κ × α)) :
    (insertEntry k v es).find? (fun e => e.1 = l) = es.find? (fun e => e.1 = l) := by
  induction es with
  | nil => simp [insertEntry, h.symm]
  | cons e es ih =>
    unfold insertEntry
    split
    · simp [h.symm]
    · split
      · by_cases hl : e.1 = l <;> simp [hl, ih]
      · next notBelow notAbove =>
        have same : k = e.1 :=
          Std.le_antisymm (Std.not_lt.mp notAbove) (Std.not_lt.mp notBelow)
        simp [h.symm, ← same]

@[simp] theorem get?_insert_self (m : SortedMap κ α) (k : κ) (v : α) :
    (m.insert k v).get? k = some v := by
  simp [get?, insert, find?_insertEntry_self]

theorem get?_insert_of_ne {k l : κ} (h : l ≠ k) (m : SortedMap κ α) (v : α) :
    (m.insert k v).get? l = m.get? l := by
  simp [get?, insert, find?_insertEntry_of_ne h]

theorem get?_insert (m : SortedMap κ α) (k l : κ) (v : α) :
    (m.insert k v).get? l = if l = k then some v else m.get? l := by
  split
  · next h => simp [h]
  · next h => exact get?_insert_of_ne h m v

def groupBy (key : α → κ) (xs : List α) : SortedMap κ (List α) :=
  xs.foldl (fun m x => m.alter (key x) fun old => old.getD [] ++ [x]) empty

theorem get?_alter (m : SortedMap κ α) (k l : κ) (f : Option α → α) :
    (m.alter k f).get? l = if l = k then some (f (m.get? k)) else m.get? l :=
  get?_insert m k l _

end Insertion

end SortedMap

/-- Maps from names. Names are ordered by code point. -/
abbrev NameMap (α : Type) := SortedMap String α

end Concordance
