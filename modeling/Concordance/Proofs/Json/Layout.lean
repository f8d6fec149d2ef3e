import Concordance.Proofs.Json.Codec
/-!
Laws of records. The members that are written for a record fill a draft that finishes as the
record, as long as no two fields share a name; fields that are left out come back as their
defaults.
-/
namespace Concordance.Json.Layout

def Ignores (l : Layout δ ρ) (key : String) : Prop :=
  ∀ depth node draft, l.put key depth node draft = none

/-- Every name is unknown to one of two groups of fields. -/
def Disjoint (a : Layout δ ρ) (b : Layout ε σ) : Prop := ∀ key, a.Ignores key ∨ b.Ignores key

/-- The members of `p` read back as `p` with `depth` levels left, unless one nests deeper. -/
structure Reads (l : Layout δ ρ) (depth : Nat) (p : ρ) : Prop where
  known : ∀ m ∈ l.members p, ¬l.Ignores m.1
  fills : ∃ draft, l.finish draft = .ok p ∧
    l.fill depth l.start (nodeMembers (l.members p)) =
      if depthMembers (l.members p) ≤ depth then .ok draft else .error .malformed

section Names

variable {name key : String} {c : Codec α} {default : Option α} {omitted : α → Bool}

@[simp] theorem ignores_single : (single name c default omitted).Ignores key ↔ key ≠ name := by
  constructor
  · intro h same
    have := h 0 .null none
    simp [single, same] at this
  · intro other depth node draft
    simp [single, other]

@[simp] theorem ignores_and {a : Layout δ ρ} {b : Layout ε σ} :
    (a.and b).Ignores key ↔ a.Ignores key ∧ b.Ignores key := by
  constructor
  · intro h
    constructor
    · intro depth node draft
      have := h depth node (draft, b.start)
      cases put : a.put key depth node draft <;> simp_all [Layout.and]
    · intro depth node draft
      have := h depth node (a.start, draft)
      cases put : a.put key depth node a.start <;> simp_all [Layout.and]
  · rintro ⟨ha, hb⟩ depth node draft
    simp [Layout.and, ha depth node draft.1, hb depth node draft.2]

theorem disjoint_of_ignores {a : Layout δ ρ} {b : Layout ε σ}
    (ha : ∀ key, key ≠ name → a.Ignores key) (hb : b.Ignores name) : a.Disjoint b := fun key => by
  by_cases same : key = name
  · exact .inr (same ▸ hb)
  · exact .inl (ha key same)

end Names

section Filling

variable {a : Layout δ ρ} {b : Layout ε σ} {depth : Nat}

theorem fill_append (l : Layout δ ρ) (draft : δ) (ms ns : List (Node × Node)) :
    l.fill depth draft (ms ++ ns) = l.fill depth draft ms >>= (l.fill depth · ns) := by
  induction ms generalizing draft with
  | nil => rfl
  | cons m ms ih =>
    simp only [List.cons_append, fill]
    cases m.1.key with
    | error e => rfl
    | ok name =>
      simp only [bind, Except.bind]
      cases l.put name depth m.2 draft with
      | none => cases m.2.skim with
        | error e => rfl
        | ok _ => exact ih draft
      | some r => cases r with
        | error e => rfl
        | ok draft => exact ih draft

theorem fill_and_left {ms : List (String × Json)} (other : ∀ m ∈ ms, b.Ignores m.1) (x : δ)
    (y : ε) : (a.and b).fill depth (x, y) (nodeMembers ms) =
      (a.fill depth x (nodeMembers ms)).map (·, y) := by
  induction ms generalizing x with
  | nil => rfl
  | cons m ms ih =>
    have ignored := other m (by simp) depth m.2.node y
    have others := ih fun m hm => other m (by simp [hm])
    simp only [nodeMembers, fill, Node.key, QuotedText.ofString, Layout.and, bind, Except.bind]
    cases a.put m.1 depth m.2.node x with
    | none =>
      simp only [ignored, Option.map_none]
      cases m.2.node.skim with
      | error e => rfl
      | ok _ => exact others x
    | some r => cases r with
      | error e => rfl
      | ok x => exact others x

theorem fill_and_right {ms : List (String × Json)} (other : ∀ m ∈ ms, a.Ignores m.1) (x : δ)
    (y : ε) : (a.and b).fill depth (x, y) (nodeMembers ms) =
      (b.fill depth y (nodeMembers ms)).map (x, ·) := by
  induction ms generalizing y with
  | nil => rfl
  | cons m ms ih =>
    have ignored := other m (by simp) depth m.2.node x
    have others := ih fun m hm => other m (by simp [hm])
    simp only [nodeMembers, fill, Node.key, QuotedText.ofString, Layout.and, ignored, bind,
      Except.bind]
    cases b.put m.1 depth m.2.node y with
    | none =>
      simp only [Option.map_none]
      cases m.2.node.skim with
      | error e => rfl
      | ok _ => exact others y
    | some r => cases r with
      | error e => rfl
      | ok y => exact others y

end Filling

section Fields

variable {depth : Nat}

/-- A field that is left out has to have its value as default. -/
theorem reads_single {name : String} {c : Codec α} {default : Option α} {omitted : α → Bool}
    {a : α} (read : c.decode.Reads depth (c.encode a) a)
    (given : omitted a = true → default = some a) :
    (single name c default omitted).Reads depth a where
  known := by
    intro m hm
    have member : m = (name, c.encode a) := by
      by_cases left : omitted a = true
      · simp [single, left] at hm
      · simpa [single, left] using hm
    simp [member]
  fills := by
    by_cases left : omitted a = true
    · refine ⟨none, ?_, ?_⟩
      · simp [single, given left]
      · simp [single, left, nodeMembers, fill, depthMembers]
    · have members : (single name c default omitted).members a = [(name, c.encode a)] :=
        if_neg left
      have put : (single name c default omitted).put name depth (c.encode a).node none =
          some ((c.decode depth (c.encode a).node).map some) := by simp [single]
      have read : c.decode depth (c.encode a).node = _ := read
      have start : (single name c default omitted).start = none := rfl
      refine ⟨some a, rfl, ?_⟩
      simp only [members, nodeMembers, fill, Node.key, QuotedText.ofString, start, put, read,
        depthMembers, Nat.max_zero, bind, Except.bind]
      by_cases fits : (c.encode a).depth ≤ depth <;> simp [fits, Except.map]

theorem reads_required {name : String} {c : Codec α} {a : α} (h : c.RoundTrips a) :
    (required name c).Reads depth a :=
  reads_single (h depth) (by simp)

theorem reads_optional {name : String} {c : Codec α} {default a : α} (h : c.RoundTrips a) :
    (optional name c default).Reads depth a :=
  reads_single (h depth) (by simp)

theorem reads_flag {name : String} (b : Bool) : (flag name).Reads depth b :=
  reads_single (Codec.roundTrips_bool b depth) (by simp)

theorem reads_omittable {name : String} {c : Codec (Option α)} {o : Option α}
    (h : c.RoundTrips o) : (omittable name c).Reads depth o :=
  reads_single (h depth) (by cases o <;> simp)

theorem Reads.and {a : Layout δ ρ} {b : Layout ε σ} {p : ρ} {q : σ} (ha : a.Reads depth p)
    (disjoint : a.Disjoint b) (hb : b.Reads depth q) : (a.and b).Reads depth (p, q) where
  known := by
    intro m hm
    rcases List.mem_append.mp hm with hm | hm
    · exact fun h => ha.known m hm (ignores_and.mp h).1
    · exact fun h => hb.known m hm (ignores_and.mp h).2
  fills := by
    obtain ⟨x, finishA, fillA⟩ := ha.fills
    obtain ⟨y, finishB, fillB⟩ := hb.fills
    have left : (a.and b).fill depth (a.start, b.start) (nodeMembers (a.members p)) = _ :=
      fill_and_left (fun m hm => (disjoint m.1).resolve_left (ha.known m hm)) _ _
    have right : (a.and b).fill depth (x, b.start) (nodeMembers (b.members q)) = _ :=
      fill_and_right (fun m hm => (disjoint m.1).resolve_right (hb.known m hm)) _ _
    refine ⟨(x, y), ?_, ?_⟩
    · simp [Layout.and, finishA, finishB, bind, Except.bind, pure, Except.pure]
    · have start : (a.and b).start = (a.start, b.start) := rfl
      have members : (a.and b).members (p, q) = a.members p ++ b.members q := rfl
      rw [start, members, nodeMembers_append, depthMembers_append, fill_append, left, fillA]
      by_cases fitsA : depthMembers (a.members p) ≤ depth
      · simp only [fitsA, if_true, Except.map, bind, Except.bind, right, fillB, Nat.max_le,
          true_and]
        by_cases fitsB : depthMembers (b.members q) ≤ depth <;> simp [fitsB]
      · simp [fitsA, Except.map, bind, Except.bind]

/-- Fields that have these names, one each, read back by themselves. So they do together if no name
is used twice. -/
structure ReadsFields (l : Layout δ ρ) (names : List String) (depth : Nat) (p : ρ) : Prop where
  ignores : ∀ key, key ∉ names → l.Ignores key
  reads : names.Nodup → l.Reads depth p

namespace ReadsFields

variable {name : String} {names : List String} {c : Codec α} {default : Option α}
  {omitted : α → Bool} {a : α}

theorem last (only : (single name c default omitted).Reads depth a) :
    ReadsFields (single name c default omitted) [name] depth a where
  ignores _ other := ignores_single.mpr (List.ne_of_not_mem_cons other)
  reads _ := only

theorem field {b : Layout ε σ} {q : σ} (first : (single name c default omitted).Reads depth a)
    (others : ReadsFields b names depth q) :
    ReadsFields ((single name c default omitted).and b) (name :: names) depth (a, q) where
  ignores key other := by
    obtain ⟨here, there⟩ : key ≠ name ∧ key ∉ names := by simpa using other
    exact ignores_and.mpr ⟨ignores_single.mpr here, others.ignores key there⟩
  reads distinct := by
    obtain ⟨fresh, rest⟩ := List.nodup_cons.mp distinct
    have disjoint : (single name c default omitted).Disjoint b :=
      disjoint_of_ignores (fun _ => ignores_single.mpr) (others.ignores name fresh)
    exact first.and disjoint (others.reads rest)

end ReadsFields

end Fields

section Records

theorem reads_object {l : Layout δ ρ} {depth : Nat} {p : ρ} (h : ∀ k < depth, l.Reads k p) :
    l.decode.Reads depth (.object (l.members p)) p := by
  cases depth with
  | zero => simp [Decoder.Reads, decode, node, Json.depth]
  | succ k =>
    obtain ⟨draft, finish, fill⟩ := (h k (Nat.lt_succ_self k)).fills
    simp only [Decoder.Reads, decode, node, Json.depth, fill, Nat.add_le_add_iff_right]
    by_cases fits : depthMembers (l.members p) ≤ k
    · simp [fits, Ending.check, Ending.stop?, finish, bind, Except.bind]
    · simp [fits, bind, Except.bind]

theorem roundTrips_codec {l : Layout δ ρ} {names : List String} {pack : ρ → α} {unpack : α → ρ}
    {a : α} (distinct : names.Nodup) (packed : pack (unpack a) = a)
    (fields : ∀ depth, ReadsFields l names depth (unpack a)) :
    (l.codec pack unpack).RoundTrips a := fun depth => by
  have read := (reads_object fun k (_ : k < depth) => (fields k).reads distinct).map pack
  rwa [packed] at read

end Records

end Concordance.Json.Layout
