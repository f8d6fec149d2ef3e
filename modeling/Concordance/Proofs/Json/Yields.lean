import Concordance.Json.Codec
import Mathlib.Tactic.Choose
/-!
What decoders yield. A property of everything that is read with so many levels left is shown for
one field after the other; fields that do not matter are skipped.
-/
namespace Concordance.Json

/-- Everything that is read with `depth` levels left satisfies `p depth`. -/
def Decoder.Yields (d : Decoder α) (p : Nat → α → Prop) : Prop :=
  ∀ ⦃depth node a⦄, d depth node = .ok a → p depth a

/-- All records that are put together with `depth` levels left satisfy `p`. The draft keeps an
invariant until it is finished. -/
structure Layout.Yields (l : Layout δ ρ) (depth : Nat) (p : ρ → Prop) : Prop where
  fills : ∃ kept : δ → Prop, kept l.start ∧
    (∀ key node draft draft', kept draft → l.put key depth node draft = some (.ok draft') →
      kept draft') ∧
    ∀ draft r, kept draft → l.finish draft = .ok r → p r
  takes : ∀ ending ns r rest, l.take depth ending ns = .ok (r, rest) → p r

section Success

theorem ok_of_bind {x : Except ε α} {f : α → Except ε β} {b : β} (h : x >>= f = .ok b) :
    ∃ a, x = .ok a ∧ f a = .ok b := by
  cases x with
  | error e => cases h
  | ok a => exact ⟨a, rfl, h⟩

theorem ok_of_map {x : Except ε α} {f : α → β} {b : β} (h : x.map f = .ok b) :
    ∃ a, x = .ok a ∧ f a = b := by
  cases x with
  | error e => cases h
  | ok a => exact ⟨a, rfl, Except.ok.inj h⟩

end Success

namespace Decoder

theorem Yields.mono {d : Decoder α} {p q : Nat → α → Prop} (h : d.Yields p)
    (imp : ∀ depth a, p depth a → q depth a) : d.Yields q :=
  fun depth _ a read => imp depth a (h read)

theorem Yields.map {d : Decoder α} {p : Nat → α → Prop} {q : Nat → β → Prop} {f : α → β}
    (h : d.Yields p) (imp : ∀ depth a, p depth a → q depth (f a)) : (d.map f).Yields q := by
  intro depth node b read
  obtain ⟨a, found, rfl⟩ := ok_of_map read
  exact imp depth a (h found)

theorem Yields.option {d : Decoder α} {p : Nat → α → Prop} (h : d.Yields p) :
    d.option.Yields fun depth o => ∀ a ∈ o, p depth a := by
  intro depth node o read
  unfold Decoder.option at read
  split at read
  · obtain rfl := Except.ok.inj read
    simp
  · obtain ⟨a, found, rfl⟩ := ok_of_map read
    rintro _ ⟨⟩
    exact h found

private theorem items_yield {d : Node → Except Fault α} {p : α → Prop}
    (h : ∀ ⦃node a⦄, d node = .ok a → p a) {ns : List Node} {as : List α}
    (read : items d ns = .ok as) : ∀ a ∈ as, p a := by
  induction ns generalizing as with
  | nil =>
    obtain rfl := Except.ok.inj read
    simp
  | cons n ns ih =>
    obtain ⟨a, first, read⟩ := ok_of_bind read
    obtain ⟨others, rest, read⟩ := ok_of_bind read
    obtain rfl := Except.ok.inj read
    intro b hb
    rcases List.mem_cons.mp hb with rfl | hb
    · exact h first
    · exact ih rest b hb

theorem Yields.list {d : Decoder α} {p : Nat → α → Prop} (h : d.Yields p) :
    d.list.Yields fun depth as => ∀ a ∈ as, ∃ k, depth = k + 1 ∧ p k a := by
  intro depth node as read
  unfold Decoder.list at read
  split at read
  · split at read
    · cases read
    · next k =>
      obtain ⟨as', items, read⟩ := ok_of_bind read
      obtain ⟨_, _, read⟩ := ok_of_bind read
      obtain rfl := Except.ok.inj read
      exact fun a ha => ⟨k, rfl, items_yield (fun _ _ found => h found) items a ha⟩
  · cases read

/-- A decoder that is defined in terms of itself yields what every unfolding hands on. -/
theorem yields_fix {step : Decoder α → Decoder α} {p : Nat → α → Prop}
    (h : ∀ self : Decoder α, self.Yields p → (step self).Yields p) :
    (Decoder.fix step).Yields p := by
  have unfolded (n : Nat) : (Decoder.fix.go step n).Yields p := by
    induction n with
    | zero =>
      intro depth node a read
      cases read
    | succ n ih => exact h _ ih
  exact fun depth node a read => unfolded (depth + 1) read

theorem Yields.parse {d : Decoder α} {p : Nat → α → Prop} (h : d.Yields p) {text : String} {a : α}
    (read : d.parse text = .ok a) : p maxDepth a := by
  unfold Decoder.parse at read
  split at read
  next node rest _ =>
    obtain ⟨b, decoded, read⟩ := ok_of_bind read
    have same : b = a := by
      split at read
      · cases read
      · split at read
        · exact Except.ok.inj read
        · cases read
    exact same ▸ h decoded

end Decoder

namespace Layout

variable {l : Layout δ ρ} {b : Layout ε σ} {depth : Nat}

theorem Yields.and_also {p q : ρ → Prop} (hp : l.Yields depth p) (hq : l.Yields depth q) :
    l.Yields depth fun r => p r ∧ q r where
  fills := by
    obtain ⟨keptP, startP, putP, finishP⟩ := hp.fills
    obtain ⟨keptQ, startQ, putQ, finishQ⟩ := hq.fills
    refine ⟨fun draft => keptP draft ∧ keptQ draft, ⟨startP, startQ⟩, ?_, ?_⟩
    · rintro key node draft draft' ⟨hp, hq⟩ put
      exact ⟨putP key node draft draft' hp put, putQ key node draft draft' hq put⟩
    · rintro draft r ⟨hp, hq⟩ finish
      exact ⟨finishP draft r hp finish, finishQ draft r hq finish⟩
  takes ending ns r rest take := ⟨hp.takes ending ns r rest take, hq.takes ending ns r rest take⟩

section Fields

variable {name : String} {c : Codec α} {default : Option α} {omitted : α → Bool}

theorem yields_single {p : α → Prop} {q : Nat → α → Prop} (read : c.decode.Yields q)
    (missing : ∀ a ∈ default, q depth a) (imp : ∀ a, q depth a → p a) :
    (single name c default omitted).Yields depth p where
  fills := by
    refine ⟨fun draft => ∀ a ∈ draft, p a, by simp [single], ?_, ?_⟩
    · intro key node draft draft' kept put
      simp only [single] at put
      split at put
      · split at put
        · cases put
        · obtain ⟨a, found, rfl⟩ := ok_of_map (Option.some.inj put)
          rintro _ ⟨⟩
          exact imp a (read found)
      · cases put
    · intro draft a kept finish
      cases draft with
      | some b =>
        obtain rfl := Except.ok.inj finish
        exact kept b rfl
      | none =>
        cases default with
        | none => cases finish
        | some given =>
          obtain rfl := Except.ok.inj finish
          exact imp given (missing given rfl)
  takes := by
    intro ending ns a rest take
    cases ns with
    | nil =>
      obtain ⟨_, _, take⟩ := ok_of_bind take
      cases default with
      | none => cases take
      | some given =>
        obtain ⟨rfl, -⟩ := Prod.mk.inj (Except.ok.inj take)
        exact imp given (missing given rfl)
    | cons n ns =>
      obtain ⟨b, found, same⟩ := ok_of_map take
      obtain ⟨rfl, -⟩ := Prod.mk.inj same
      exact imp b (read found)

theorem Yields.left {p : ρ × σ → Prop} (h : l.Yields depth fun x => ∀ y, p (x, y)) :
    (l.and b).Yields depth p where
  fills := by
    obtain ⟨kept, start, put, finish⟩ := h.fills
    refine ⟨fun draft => kept draft.1, start, ?_, ?_⟩
    · intro key node draft draft' known written
      simp only [Layout.and] at written
      split at written
      · next r found =>
        obtain ⟨x, rfl, rfl⟩ := ok_of_map (Option.some.inj written)
        exact put key node draft.1 x known found
      · obtain ⟨r, _, written⟩ := Option.map_eq_some_iff.mp written
        obtain ⟨y, -, rfl⟩ := ok_of_map written
        exact known
    · intro draft r known finished
      obtain ⟨x, first, finished⟩ := ok_of_bind finished
      obtain ⟨y, -, finished⟩ := ok_of_bind finished
      obtain rfl := Except.ok.inj finished
      exact finish draft.1 x known first y
  takes := by
    intro ending ns r rest take
    obtain ⟨⟨x, ns'⟩, first, take⟩ := ok_of_bind take
    obtain ⟨⟨y, ns''⟩, -, take⟩ := ok_of_bind take
    obtain ⟨rfl, -⟩ := Prod.mk.inj (Except.ok.inj take)
    exact h.takes ending ns x ns' first y

theorem Yields.skip {p : ρ × σ → Prop} (h : ∀ x, b.Yields depth fun y => p (x, y)) :
    (l.and b).Yields depth p where
  fills := by
    choose kept start put finish using fun x => (h x).fills
    refine ⟨fun draft => ∀ x, kept x draft.2, start, ?_, ?_⟩
    · intro key node draft draft' known written
      simp only [Layout.and] at written
      split at written
      · obtain ⟨x, -, rfl⟩ := ok_of_map (Option.some.inj written)
        exact known
      · obtain ⟨r, found, written⟩ := Option.map_eq_some_iff.mp written
        obtain ⟨y, rfl, rfl⟩ := ok_of_map written
        exact fun x => put x key node draft.2 y (known x) found
    · intro draft r known finished
      obtain ⟨x, -, finished⟩ := ok_of_bind finished
      obtain ⟨y, second, finished⟩ := ok_of_bind finished
      obtain rfl := Except.ok.inj finished
      exact finish x draft.2 y (known x) second
  takes := by
    intro ending ns r rest take
    obtain ⟨⟨x, ns'⟩, -, take⟩ := ok_of_bind take
    obtain ⟨⟨y, ns''⟩, second, take⟩ := ok_of_bind take
    obtain ⟨rfl, -⟩ := Prod.mk.inj (Except.ok.inj take)
    exact (h x).takes ending ns' y ns'' second

theorem Yields.here {p : α × σ → Prop} {q : Nat → α → Prop} (read : c.decode.Yields q)
    (missing : ∀ a ∈ default, q depth a) (imp : ∀ a s, q depth a → p (a, s)) :
    ((single name c default omitted).and b).Yields depth p :=
  .left (yields_single read missing fun a ha s => imp a s ha)

end Fields

private theorem fill_yields {kept : δ → Prop}
    (put : ∀ key node draft draft', kept draft → l.put key depth node draft = some (.ok draft') →
      kept draft') {ms : List (Node × Node)} {draft draft' : δ} (start : kept draft)
    (filled : l.fill depth draft ms = .ok draft') : kept draft' := by
  induction ms generalizing draft with
  | nil =>
    obtain rfl := Except.ok.inj filled
    exact start
  | cons m ms ih =>
    obtain ⟨key, node⟩ := m
    obtain ⟨name, _, filled⟩ := ok_of_bind filled
    split at filled
    · next r found =>
      obtain ⟨next, rfl, filled⟩ := ok_of_bind filled
      exact ih (put name node draft next start found) filled
    · obtain ⟨_, _, filled⟩ := ok_of_bind filled
      exact ih start filled

theorem yields_decode {p : Nat → ρ → Prop} (h : ∀ k, l.Yields k (p k)) :
    l.decode.Yields fun depth r => ∃ k, depth = k + 1 ∧ p k r := by
  intro depth node r read
  unfold decode at read
  split at read
  · split at read
    · cases read
    · next k =>
      obtain ⟨draft, filled, read⟩ := ok_of_bind read
      obtain ⟨_, _, read⟩ := ok_of_bind read
      obtain ⟨kept, start, put, finish⟩ := (h k).fills
      exact ⟨k, rfl, finish draft r (fill_yields put start filled) read⟩
  · split at read
    · cases read
    · next k =>
      obtain ⟨⟨r', extra⟩, taken, read⟩ := ok_of_bind read
      have same : r' = r := by
        dsimp only at read
        split at read
        · exact Except.ok.inj read
        · cases read
        · cases read
      exact ⟨k, rfl, same ▸ (h k).takes _ _ _ _ taken⟩
  · cases read

theorem yields_codec {pack : ρ → α} {unpack : α → ρ} {p : Nat → ρ → Prop} {q : Nat → α → Prop}
    (h : ∀ k, l.Yields k (p k)) (imp : ∀ k r, p k r → q (k + 1) (pack r)) :
    (l.codec pack unpack).decode.Yields q :=
  (yields_decode h).map fun depth r => by
    rintro ⟨k, rfl, hr⟩
    exact imp k r hr

end Layout

end Concordance.Json
