import Concordance.Proofs.Member.Nesting
import Concordance.Registry.Basic
/-!
How deep a registry nests in its written form. The members of stored types lie two levels deeper
than those of the global scope.
-/
namespace Concordance

open Json Json.Layout

/-- The types in the signature of a method have room in a written form. Parameters lie two levels
deeper than the return type; `depth` is what a parameter's type may nest. -/
def Method.FitsIn (depth : Nat) (m : Method) : Prop :=
  2 * m.returnType.nesting + 1 ≤ depth + 2 ∧
    ∀ p ∈ m.parameters, 2 * p.binaryType.nesting + 1 ≤ depth

instance (depth : Nat) (m : Method) : Decidable (m.FitsIn depth) :=
  inferInstanceAs (Decidable (_ ∧ _))

def TypeEntry.MethodsFitIn (depth : Nat) (t : TypeEntry) : Prop :=
  ∀ ms ∈ t.methods.values, ∀ m ∈ ms, m.FitsIn depth

structure TypeEntry.OthersFitIn (depth : Nat) (t : TypeEntry) : Prop where
  properties : ∀ p ∈ t.properties.values, 2 * p.binaryType.nesting + 1 ≤ depth + 3
  signals : ∀ s ∈ t.signals.values, 2 * s.returnType.nesting + 1 ≤ depth + 3 ∧
    ∀ u ∈ s.parameterTypes, 2 * u.nesting + 1 ≤ depth + 2

structure GlobalScope.FitsIn (depth : Nat) (g : GlobalScope) : Prop where
  methods : ∀ ms ∈ g.methods.values, ∀ m ∈ ms, m.FitsIn depth
  properties : ∀ p ∈ g.properties.values, 2 * p.binaryType.nesting + 1 ≤ depth + 3

section Written

variable {n : Nat}

theorem TypeEntry.depth_encode_le {t : TypeEntry} :
    (codec.encode t).depth ≤ n + 6 ↔ t.MethodsFitIn n ∧ t.OthersFitIn n := by
  rw [codec, depth_codec_le]
  simp only [layout, depthMembers_and, depthMembers_required, depthMembers_optional,
    depthMembers_omittable, depthMembers_flag, Codec.depth_string, Nat.max_le, Nat.zero_le,
    true_and, Codec.depth_nameMap_le, Codec.depth_list_le, Method.depth_encode_le,
    Property.depth_encode_le, Signal.depth_encode_le, Constant.depth_encode_le,
    EnumType.depth_encode_le, implies_true, and_true]
  exact ⟨fun ⟨methods, properties, signals⟩ => ⟨methods, properties, signals⟩,
    fun ⟨methods, properties, signals⟩ => ⟨methods, properties, signals⟩⟩

theorem GlobalScope.depth_encode_le {g : GlobalScope} :
    (codec.encode g).depth ≤ n + 6 ↔ g.FitsIn n := by
  rw [codec, depth_codec_le]
  simp only [layout, depthMembers_and, depthMembers_optional, Codec.depth_string, Nat.max_le,
    Nat.zero_le, Codec.depth_nameMap_le, Codec.depth_list_le, Method.depth_encode_le,
    Property.depth_encode_le, Constant.depth_encode_le, EnumType.depth_encode_le,
    TypeProxy.depth_encode_le, implies_true, and_true]
  exact ⟨fun ⟨methods, properties⟩ => ⟨methods, properties⟩,
    fun ⟨methods, properties⟩ => ⟨methods, properties⟩⟩

theorem Metadata.depth_encode_le (m : Metadata) : (codec.encode m).depth ≤ n + 1 := by
  rw [codec, depth_codec_le]
  simp [layout, instant, Origin.codec, Json.depth]

theorem Registry.depth_encode_le {r : Registry} : (codec.encode r).depth ≤ n + 9 ↔
    r.global.FitsIn (n + 2) ∧ ∀ t ∈ r.typeEntries, t.MethodsFitIn n ∧ t.OthersFitIn n := by
  rw [codec, depth_codec_le]
  simp only [layout, depthMembers_and, depthMembers_required, depthMembers_optional,
    Metadata.depth_encode_le, GlobalScope.depth_encode_le, typesCodec, Codec.depth_nameMap_le,
    TypeEntry.depth_encode_le, Nat.max_le, true_and, typeEntries, visibleTypes, List.mem_flatMap]
  constructor
  · rintro ⟨global, types⟩
    refine ⟨global, ?_⟩
    rintro t ⟨vs, hvs, ht⟩
    exact types vs hvs t ht
  · rintro ⟨global, types⟩
    exact ⟨global, fun vs hvs t ht => types t ⟨vs, hvs, ht⟩⟩

end Written

end Concordance
