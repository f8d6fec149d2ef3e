import Concordance.Proofs.Json.Depth
import Concordance.Proofs.Json.Yields
import Concordance.Proofs.Member.Format
/-!
How deep members nest. Only references to generic types nest without bound, and each level of
generic arguments takes two levels of the written form.
-/
namespace Concordance

open Json Json.Layout

namespace TypeRef

mutual

def nesting : TypeRef → Nat
  | ⟨_, _, []⟩ => 0
  | ⟨_, _, a :: as⟩ => max a.nesting (nestingOf as) + 1

def nestingOf : List TypeRef → Nat
  | [] => 0
  | a :: as => max a.nesting (nestingOf as)

end

mutual

theorem depth_encode (t : TypeRef) : t.encode.depth = 2 * t.nesting + 1 := by
  obtain ⟨name, fullName, args⟩ := t
  cases args with
  | nil => rfl
  | cons a as =>
    have first := a.depth_encode
    rcases depthItems_encodeList as with rfl | others
    · simp only [encode, nesting, nestingOf, encodeList, Json.depth, depthMembers_append,
        depthMembers, depthItems, first]
      omega
    · simp only [encode, nesting, Json.depth, depthMembers_append, depthMembers, depthItems, first,
        others]
      omega

private theorem depthItems_encodeList (as : List TypeRef) :
    as = [] ∨ depthItems (encodeList as) = 2 * nestingOf as + 1 := by
  cases as with
  | nil => exact .inl rfl
  | cons a as =>
    have first := a.depth_encode
    right
    rcases depthItems_encodeList as with rfl | others
    · simp only [encodeList, nestingOf, depthItems, first]
      omega
    · simp only [encodeList, nestingOf, depthItems, first, others]
      omega

end

private theorem nestingOf_le_iff {as : List TypeRef} {n : Nat} :
    nestingOf as ≤ n ↔ ∀ a ∈ as, a.nesting ≤ n := by
  induction as with
  | nil => simp [nestingOf]
  | cons a as ih => simp [nestingOf, ih]

theorem nesting_le_iff {t : TypeRef} {n : Nat} :
    t.nesting ≤ n ↔ ∀ a ∈ t.genericArguments, a.nesting < n := by
  obtain ⟨name, fullName, args⟩ := t
  cases args with
  | nil => simp [nesting]
  | cons a as =>
    have inner : max a.nesting (nestingOf as) = nestingOf (a :: as) := rfl
    rw [nesting, inner]
    constructor
    · intro h b hb
      exact Nat.lt_of_le_of_lt (nestingOf_le_iff.mp (Nat.le_refl _) b hb) h
    · intro h
      have room : 0 < n := Nat.zero_lt_of_lt (h a List.mem_cons_self)
      have fits : nestingOf (a :: as) ≤ n - 1 :=
        nestingOf_le_iff.mpr fun b hb => Nat.le_sub_one_of_lt (h b hb)
      omega

/-- A reference that is read with `depth` levels left nests at most half as deep. -/
theorem decode_yields : decode.Yields fun depth t => 2 * t.nesting + 1 ≤ depth := by
  apply Decoder.yields_fix
  intro self nested
  have arguments : (Decoder.list self).Yields fun depth as => ∀ a ∈ as, 2 * a.nesting + 2 ≤ depth :=
    nested.list.mono fun depth as fits a ha => by
      obtain ⟨k, rfl, fits⟩ := fits a ha
      omega
  have fields (k : Nat) : (layout self).Yields k fun r => ∀ a ∈ r.2.2, 2 * a.nesting + 2 ≤ k :=
    .skip fun _ => .skip fun _ => yields_single arguments (by simp) fun _ fits => fits
  refine (yields_decode fields).map fun depth ⟨name, fullName, args⟩ ⟨k, here, fits⟩ => ?_
  have shallow : (TypeRef.mk name fullName args).nesting ≤ k / 2 := by
    rw [nesting_le_iff]
    intro a ha
    have := fits a ha
    omega
  dsimp only
  omega

end TypeRef

section Written

variable {n : Nat}

theorem Parameter.depth_encode_le {p : Parameter} :
    (codec.encode p).depth ≤ n + 1 ↔ 2 * p.binaryType.nesting + 1 ≤ n := by
  rw [codec, depth_codec_le]
  simp [layout, TypeRef.codec, TypeRef.depth_encode]

theorem Method.depth_encode_le {m : Method} : (codec.encode m).depth ≤ n + 3 ↔
    2 * m.returnType.nesting + 1 ≤ n + 2 ∧
      ∀ p ∈ m.parameters, 2 * p.binaryType.nesting + 1 ≤ n := by
  rw [codec, depth_codec_le]
  simp [layout, TypeRef.codec, TypeRef.depth_encode, Codec.depth_list_le,
    Parameter.depth_encode_le]

theorem Property.depth_encode_le {p : Property} :
    (codec.encode p).depth ≤ n + 1 ↔ 2 * p.binaryType.nesting + 1 ≤ n := by
  rw [codec, depth_codec_le]
  simp [layout, TypeRef.codec, TypeRef.depth_encode]

theorem Signal.depth_encode_le {s : Signal} : (codec.encode s).depth ≤ n + 2 ↔
    2 * s.returnType.nesting + 1 ≤ n + 1 ∧ ∀ t ∈ s.parameterTypes, 2 * t.nesting + 1 ≤ n := by
  rw [codec, depth_codec_le]
  simp [layout, TypeRef.codec, TypeRef.depth_encode, Codec.depth_list_le]

theorem Constant.depth_encode_le (c : Constant) : (codec.encode c).depth ≤ n + 1 := by
  rw [codec, depth_codec_le]
  simp [layout]

theorem EnumMember.depth_encode_le (m : EnumMember) : (codec.encode m).depth ≤ n + 1 := by
  rw [codec, depth_codec_le]
  simp [layout]

theorem EnumType.depth_encode_le (e : EnumType) : (codec.encode e).depth ≤ n + 3 := by
  rw [codec, depth_codec_le]
  simp [layout, Codec.depth_list_le, EnumMember.depth_encode_le]

theorem TypeProxy.depth_encode_le (p : TypeProxy) : (codec.encode p).depth ≤ n + 1 := by
  rw [codec, depth_codec_le]
  simp [layout]

end Written

end Concordance
