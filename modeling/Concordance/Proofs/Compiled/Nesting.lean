import Concordance.Compiled
import Concordance.Proofs.Member.Nesting
/-!
How deep the members of a compiled module nest. A document is read with a limit, so whatever a
module holds had room within it.
-/
namespace Concordance.Compiled

open Json Json.Layout

theorem Parameter.decode_yields :
    codec.decode.Yields fun depth p => 2 * p.type.nesting + 2 ≤ depth :=
  yields_codec (p := fun k r => 2 * r.2.2.1.nesting + 1 ≤ k)
    (fun _ => .skip fun _ => .skip fun _ =>
      .here TypeRef.decode_yields (by simp) fun _ _ fits => fits)
    fun _ _ fits => Nat.succ_le_succ fits

/-- The types in the signature of a method have room in a document with `depth` levels left. -/
def Method.FitsIn (depth : Nat) (m : Method) : Prop :=
  2 * m.returnType.nesting + 2 ≤ depth ∧ ∀ p ∈ m.parameters, 2 * p.type.nesting + 4 ≤ depth

theorem Method.decode_yields : codec.decode.Yields FitsIn := by
  have parameters : (Decoder.list Parameter.codec.decode).Yields fun depth ps =>
      ∀ p ∈ ps, 2 * p.type.nesting + 3 ≤ depth :=
    Parameter.decode_yields.list.mono fun depth ps fits p hp => by
      obtain ⟨k, rfl, room⟩ := fits p hp
      exact Nat.succ_le_succ room
  have fields (k : Nat) : layout.Yields k fun r =>
      2 * r.2.1.nesting + 1 ≤ k ∧ ∀ p ∈ r.2.2.2.1, 2 * p.type.nesting + 3 ≤ k :=
    .and_also
      (.skip fun _ => .here TypeRef.decode_yields (by simp) fun _ _ fits => fits)
      (.skip fun _ => .skip fun _ => .skip fun _ =>
        .here parameters (by simp) fun _ _ fits => fits)
  exact yields_codec fields fun k r fits =>
    ⟨Nat.succ_le_succ fits.1, fun p hp => Nat.succ_le_succ (fits.2 p hp)⟩

theorem Property.decode_yields :
    codec.decode.Yields fun depth p => 2 * p.type.nesting + 2 ≤ depth :=
  yields_codec (p := fun k r => 2 * r.2.1.nesting + 1 ≤ k)
    (fun _ => .skip fun _ => .here TypeRef.decode_yields (by simp) fun _ _ fits => fits)
    fun _ _ fits => Nat.succ_le_succ fits

def Signature.FitsIn (depth : Nat) (s : Signature) : Prop :=
  2 * s.returnType.nesting + 2 ≤ depth ∧ ∀ t ∈ s.parameterTypes, 2 * t.nesting + 3 ≤ depth

theorem Signature.decode_yields : codec.decode.Yields FitsIn := by
  have types : (Decoder.list TypeRef.codec.decode).Yields fun depth ts =>
      ∀ t ∈ ts, 2 * t.nesting + 2 ≤ depth :=
    TypeRef.decode_yields.list.mono fun depth ts fits t ht => by
      obtain ⟨k, rfl, room⟩ := fits t ht
      exact Nat.succ_le_succ room
  have fields (k : Nat) : layout.Yields k fun r =>
      2 * r.1.nesting + 1 ≤ k ∧ ∀ t ∈ r.2, 2 * t.nesting + 2 ≤ k :=
    .and_also
      (.here TypeRef.decode_yields (by simp) fun _ _ fits => fits)
      (.skip fun _ => yields_single types (by simp) fun _ fits => fits)
  exact yields_codec fields fun k r fits =>
    ⟨Nat.succ_le_succ fits.1, fun t ht => Nat.succ_le_succ (fits.2 t ht)⟩

theorem Event.decode_yields :
    codec.decode.Yields fun depth e => ∀ s ∈ e.invoke, ∃ k, depth = k + 1 ∧ s.FitsIn k :=
  yields_codec (p := fun k r => ∀ s ∈ r.2.2, s.FitsIn k)
    (fun _ => .skip fun _ => .skip fun _ =>
      yields_single Signature.decode_yields.option (by simp) fun _ fits => fits)
    fun k _ fits s hs => ⟨k, rfl, fits s hs⟩

structure TypeInfo.FitsIn (depth : Nat) (t : TypeInfo) : Prop where
  methods : ∀ m ∈ t.methods, m.FitsIn (depth - 2)
  properties : ∀ p ∈ t.properties, 2 * p.type.nesting + 2 ≤ depth - 2
  events : ∀ e ∈ t.events, ∀ s ∈ e.invoke, s.FitsIn (depth - 3)

theorem TypeInfo.decode_yields : decode.Yields FitsIn := by
  apply Decoder.yields_fix
  intro self _
  have methods : (Decoder.list Method.codec.decode).Yields fun depth ms =>
      ∀ m ∈ ms, m.FitsIn (depth - 1) :=
    Method.decode_yields.list.mono fun depth ms fits m hm => by
      obtain ⟨k, rfl, room⟩ := fits m hm
      exact room
  have properties : (Decoder.list Property.codec.decode).Yields fun depth ps =>
      ∀ p ∈ ps, 2 * p.type.nesting + 2 ≤ depth - 1 :=
    Property.decode_yields.list.mono fun depth ps fits p hp => by
      obtain ⟨k, rfl, room⟩ := fits p hp
      exact room
  have events : (Decoder.list Event.codec.decode).Yields fun depth es =>
      ∀ e ∈ es, ∀ s ∈ e.invoke, s.FitsIn (depth - 2) :=
    Event.decode_yields.list.mono fun depth es fits e he s hs => by
      obtain ⟨k, rfl, invoke⟩ := fits e he
      obtain ⟨i, rfl, room⟩ := invoke s hs
      exact room
  have fields (k : Nat) : (layout self).Yields k fun r =>
      (∀ m ∈ r.2.2.2.2.2.2.2.2.2.1, m.FitsIn (k - 1)) ∧
        (∀ p ∈ r.2.2.2.2.2.2.2.2.2.2.1, 2 * p.type.nesting + 2 ≤ k - 1) ∧
        ∀ e ∈ r.2.2.2.2.2.2.2.2.2.2.2.1, ∀ s ∈ e.invoke, s.FitsIn (k - 2) :=
    .skip fun _ => .skip fun _ => .skip fun _ => .skip fun _ => .skip fun _ => .skip fun _ =>
      .skip fun _ => .skip fun _ => .skip fun _ =>
        .and_also (.here methods (by simp) fun _ _ fits => fits) <|
        .and_also (.skip fun _ => .here properties (by simp) fun _ _ fits => fits) <|
        .skip fun _ => .skip fun _ => .here events (by simp) fun _ _ fits => fits
  refine (yields_decode fields).map fun depth r => ?_
  rintro ⟨k, rfl, methods, properties, events⟩
  exact ⟨methods, properties, events⟩

theorem Module.decode_yields :
    codec.decode.Yields fun depth m => ∀ t ∈ m.types, t.FitsIn (depth - 2) := by
  have types : (Decoder.list TypeInfo.decode).Yields fun depth ts =>
      ∀ t ∈ ts, t.FitsIn (depth - 1) :=
    TypeInfo.decode_yields.list.mono fun depth ts fits t ht => by
      obtain ⟨k, rfl, room⟩ := fits t ht
      exact room
  have fields (k : Nat) : layout.Yields k fun r => ∀ t ∈ r.2.2, t.FitsIn (k - 1) :=
    .skip fun _ => .skip fun _ => yields_single types (by simp) fun _ fits => fits
  exact yields_codec fields fun k r fits => fits

end Concordance.Compiled
