import Concordance.Json.Codec
import Concordance.Proofs.Json.Tree
import Concordance.Proofs.SortedMap
/-!
Laws of codecs, one value at a time: what is written for a value reads back as the value if the
levels left are enough, and as a fault of form if they are not. The laws lift through lists, maps
and records; the fields of a record must have different names.
-/
namespace Concordance.Json

/-- Reading the tree of `j` with `depth` levels left gives `a`, unless `j` nests deeper. -/
def Decoder.Reads (d : Decoder α) (depth : Nat) (j : Json) (a : α) : Prop :=
  d depth j.node = if j.depth ≤ depth then .ok a else .error .malformed

def Codec.RoundTrips (c : Codec α) (a : α) : Prop :=
  ∀ depth, c.decode.Reads depth (c.encode a) a

theorem Codec.RoundTrips.parse_toText {c : Codec α} {a : α} (h : c.RoundTrips a) :
    c.decode.parse (c.encode a).toText =
      if (c.encode a).depth ≤ maxDepth then .ok a else .error .malformed := by
  have read : c.decode maxDepth (c.encode a).node = _ := h maxDepth
  simp only [Decoder.parse, scan_toText, read]
  split <;> rfl

section Scalars

theorem node_ne_null {j : Json} (h : j ≠ .null) : j.node ≠ .null := by
  cases j <;> simp_all [node]

theorem Decoder.Reads.map {d : Decoder α} {depth : Nat} {j : Json} {a : α}
    (h : d.Reads depth j a) (f : α → β) : (d.map f).Reads depth j (f a) := by
  unfold Reads at *
  rw [Decoder.map, h]
  split <;> rfl

theorem Codec.roundTrips_string (s : String) : Codec.string.RoundTrips s := fun _ => by
  simp [Decoder.Reads, string, Decoder.string, node, depth, QuotedText.ofString]

theorem Codec.roundTrips_bool (b : Bool) : Codec.bool.RoundTrips b := fun _ => by
  simp [Decoder.Reads, bool, Decoder.bool, node, depth]

theorem Decoder.reads_intWithin {lo hi n : Int} (h : lo ≤ n ∧ n ≤ hi) (depth : Nat) :
    (intWithin lo hi).Reads depth (.int n) n := by
  simp [Decoder.Reads, intWithin, node, Json.depth, h]

theorem Codec.roundTrips_word {toNat : α → Nat} {ofNat : Nat → α} {size : Nat} {a : α}
    (bounded : toNat a < size) (inverse : ofNat (toNat a) = a) :
    Codec.RoundTrips ⟨(Decoder.natBelow size).map ofNat, fun a => .int (toNat a)⟩ a := by
  intro depth
  have within : (0 : Int) ≤ toNat a ∧ (toNat a : Int) ≤ size - 1 := by omega
  have read := ((Decoder.reads_intWithin within depth).map Int.toNat).map ofNat
  rwa [Int.toNat_natCast, inverse] at read

theorem Codec.roundTrips_uint8 (n : UInt8) : Codec.uint8.RoundTrips n :=
  roundTrips_word n.toNat_lt UInt8.ofNat_toNat

theorem Codec.roundTrips_uint16 (n : UInt16) : Codec.uint16.RoundTrips n :=
  roundTrips_word n.toNat_lt UInt16.ofNat_toNat

theorem Codec.roundTrips_uint32 (n : UInt32) : Codec.uint32.RoundTrips n :=
  roundTrips_word n.toNat_lt UInt32.ofNat_toNat

theorem Codec.roundTrips_uint64 (n : UInt64) : Codec.uint64.RoundTrips n :=
  roundTrips_word n.toNat_lt UInt64.ofNat_toNat

theorem Codec.roundTrips_int64 (n : Int64) : Codec.int64.RoundTrips n := fun depth => by
  have range : Int64.minValue.toInt ≤ n.toInt ∧ n.toInt ≤ Int64.maxValue.toInt :=
    ⟨n.minValue_le_toInt, n.toInt_le⟩
  have read := (Decoder.reads_intWithin range depth).map Int64.ofInt
  rwa [Int64.ofInt_toInt] at read

/-- An optional value is told apart from a missing one if it is not written as `null`. -/
theorem Decoder.Reads.some {d : Decoder α} {depth : Nat} {j : Json} {a : α}
    (h : d.Reads depth j a) (present : j ≠ .null) : (Decoder.option d).Reads depth j (some a) := by
  have read : Except.map Option.some (d depth j.node) = _ := h.map Option.some
  unfold Reads Decoder.option
  rw [← read]
  split
  · next missing => exact absurd missing (node_ne_null present)
  · rfl

theorem Codec.roundTrips_option {c : Codec α} {o : Option α}
    (h : ∀ a ∈ o, c.RoundTrips a ∧ c.encode a ≠ .null) : c.option.RoundTrips o := fun n => by
  cases o with
  | none => simp [Decoder.Reads, option, Decoder.option, node, depth]
  | some a =>
    obtain ⟨trips, present⟩ := h a rfl
    exact (trips n).some present

theorem Codec.roundTrips_option_string (o : Option String) :
    (Codec.option .string).RoundTrips o :=
  roundTrips_option fun s _ => ⟨roundTrips_string s, by simp [string]⟩

end Scalars

section Variants

variable {cases : List (String × Variant α)} {name : String}

theorem Decoder.reads_plain {a : α} (h : cases.lookup name = some (.plain a)) (depth : Nat) :
    (Decoder.variant cases).Reads depth (.string name) a := by
  simp [Decoder.Reads, variant, node, Json.depth, Node.key, QuotedText.ofString, h, bind,
    Except.bind, pure, Except.pure]

theorem Decoder.reads_carrying {d : Decoder α} {depth : Nat} {j : Json} {a : α}
    (h : cases.lookup name = some (.carrying d)) (read : ∀ k < depth, d.Reads k j a) :
    (Decoder.variant cases).Reads depth (.object [(name, j)]) a := by
  cases depth with
  | zero => simp [Decoder.Reads, variant, node, Json.depth]
  | succ k =>
    have payload : d k j.node = _ := read k (Nat.lt_succ_self k)
    simp only [Decoder.Reads, variant, node, nodeMembers, Json.depth, depthMembers, Node.key,
      QuotedText.ofString, h, payload, Nat.max_zero, Nat.add_le_add_iff_right, bind, Except.bind,
      pure, Except.pure]
    by_cases fits : j.depth ≤ k <;> simp [fits]

end Variants

section Collections

theorem Decoder.items_eq {d : Decoder α} {depth : Nat} (f : α → Json) {as : List α}
    (h : ∀ a ∈ as, d.Reads depth (f a) a) :
    items (d depth) (as.map fun a => (f a).node) =
      if depthItems (as.map f) ≤ depth then .ok as else .error .malformed := by
  induction as with
  | nil => simp [items, depthItems]
  | cons a as ih =>
    have first : d depth (f a).node = _ := h a (by simp)
    have others := ih fun b hb => h b (by simp [hb])
    simp only [List.map_cons, items, depthItems, first, others, Nat.max_le]
    by_cases fits : (f a).depth ≤ depth
    · by_cases rest : depthItems (as.map f) ≤ depth
      · simp [fits, rest, bind, Except.bind, pure, Except.pure]
      · simp [fits, rest, bind, Except.bind]
    · simp [fits, bind, Except.bind]

theorem Decoder.reads_list {d : Decoder α} {depth : Nat} (f : α → Json) {as : List α}
    (h : ∀ k < depth, ∀ a ∈ as, d.Reads k (f a) a) :
    (Decoder.list d).Reads depth (.array (as.map f)) as := by
  cases depth with
  | zero => simp [Decoder.Reads, list, node, Json.depth]
  | succ k =>
    have read := items_eq f (h k (Nat.lt_succ_self k))
    simp only [Decoder.Reads, list, node, Json.depth, nodeItems_map, read, Nat.add_le_add_iff_right]
    split <;> rfl

theorem Codec.roundTrips_list {c : Codec α} {as : List α} (h : ∀ a ∈ as, c.RoundTrips a) :
    c.list.RoundTrips as :=
  fun _ => Decoder.reads_list c.encode fun k _ a ha => h a ha k

section Maps

variable {κ : Type} [LT κ] [DecidableLT κ] [LE κ] [Std.IsLinearOrder κ] [Std.LawfulOrderLT κ]
  {key : Node → Except Fault κ} {text : κ → String}

theorem Decoder.members_eq
    (spelled : ∀ k, key (.string (QuotedText.ofString (text k))) = .ok k) {d : Decoder α}
    {depth : Nat} (f : α → Json) {es : List (κ × α)} {m n : SortedMap κ α}
    (all : n.entries = m.entries ++ es) (h : ∀ e ∈ es, d.Reads depth (f e.2) e.2) :
    members key (d depth) m (nodeMembers (es.map fun e => (text e.1, f e.2))) =
      if depthMembers (es.map fun e => (text e.1, f e.2)) ≤ depth then .ok n
      else .error .malformed := by
  induction es generalizing m with
  | nil =>
    have : m = n := SortedMap.ext (by simpa using all.symm)
    simp [members, nodeMembers, depthMembers, this]
  | cons e es ih =>
    have above : ∀ b ∈ m.entries, b.1 < e.1 := by
      have ascending := n.ascending
      rw [all] at ascending
      exact fun b hb => (List.pairwise_append.mp ascending).2.2 b hb e (by simp)
    have first : d depth (f e.2).node = _ := h e (by simp)
    have others := ih (m := m.insert e.1 e.2)
      (by simp [SortedMap.entries_insert_of_above e.2 above, all])
      fun b hb => h b (by simp [hb])
    simp only [List.map_cons, nodeMembers, members, spelled, depthMembers, first, Nat.max_le, bind,
      Except.bind]
    by_cases fits : (f e.2).depth ≤ depth
    · simpa [fits] using others
    · simp [fits]

theorem Decoder.reads_mapWith
    (spelled : ∀ k, key (.string (QuotedText.ofString (text k))) = .ok k) {d : Decoder α}
    {depth : Nat} (f : α → Json) {m : SortedMap κ α}
    (h : ∀ k < depth, ∀ a ∈ m.values, d.Reads k (f a) a) :
    (mapWith key d).Reads depth (.object (m.entries.map fun e => (text e.1, f e.2))) m := by
  cases depth with
  | zero => simp [Decoder.Reads, mapWith, node, Json.depth]
  | succ k =>
    have read := members_eq (m := .empty) spelled f rfl fun e he =>
      h k (Nat.lt_succ_self k) e.2 (List.mem_map_of_mem he)
    simp only [Decoder.Reads, mapWith, node, Json.depth, read, Nat.add_le_add_iff_right]
    split <;> rfl

end Maps

theorem Codec.roundTrips_nameMap {c : Codec α} {m : NameMap α}
    (h : ∀ a ∈ m.values, c.RoundTrips a) : c.nameMap.RoundTrips m := by
  intro depth
  have spelled : ∀ k, Node.key (.string (QuotedText.ofString (id k))) = .ok k := fun _ => rfl
  exact Decoder.reads_mapWith spelled c.encode fun k _ a ha => h a ha k

theorem Decoder.tokenKey_digits (n : UInt32) : tokenKey
    (.string (QuotedText.ofString (String.ofList (Numeral.digits n.toNat)))) = .ok n := by
  obtain ⟨c, cs, first⟩ := List.exists_cons_of_ne_nil (Numeral.digits_ne_nil n.toNat)
  have digit : c.isDigit = true :=
    Numeral.isDigit_of_mem_digits (n := n.toNat) (by rw [first]; exact List.mem_cons_self)
  have plain : Quoted.escapeAll (Numeral.digits n.toNat) = Numeral.digits n.toNat :=
    Quoted.escapeAll_of_isDigit fun _ => Numeral.isDigit_of_mem_digits
  have stop : Numeral.StopsAt ['"'] := Numeral.stopsAt_cons (by decide)
  have read := Numeral.read_renderInt n.toNat stop
  have bounded : n.toNat < 10 ^ 20 := Nat.lt_trans n.toNat_lt (by decide)
  rw [Numeral.renderInt_natCast, first, List.cons_append] at read
  simp only [tokenKey, QuotedText.ofString, String.toList_ofList, plain]
  rw [first, List.cons_append, readToken]
  simp [digit, read, Numeral.overflows_ofInt_of_lt bounded, n.toNat_lt]

theorem Codec.roundTrips_tokenMap {c : Codec α} {m : SortedMap UInt32 α}
    (h : ∀ a ∈ m.values, c.RoundTrips a) : c.tokenMap.RoundTrips m :=
  fun _ => Decoder.reads_mapWith Decoder.tokenKey_digits c.encode fun k _ a ha => h a ha k

end Collections

/-- A decoder that is defined in terms of itself reads what each unfolding reads, if the values
inside are read with fewer levels left. -/
theorem Decoder.reads_fix {step : Decoder α → Decoder α} {f : α → Json}
    (h : ∀ (self : Decoder α) (depth : Nat), (∀ k < depth, ∀ a, self.Reads k (f a) a) →
      ∀ a, (step self).Reads depth (f a) a) (depth : Nat) (a : α) :
    (Decoder.fix step).Reads depth (f a) a := by
  -- As many unfoldings as levels are left, and one more, read everything.
  have unfolded (n : Nat) : ∀ k < n, ∀ a, (Decoder.fix.go step n).Reads k (f a) a := by
    induction n with
    | zero => intro k hk; omega
    | succ n ih => exact fun k hk => h _ k fun i hi => ih i (by omega)
  exact unfolded (depth + 1) depth (Nat.lt_succ_self depth) a

end Concordance.Json
