import Concordance.Proofs.Json.Layout
/-!
How deep written values nest. A record nests one level more than its fields, a collection one more
than its values.
-/
namespace Concordance.Json

namespace Codec

theorem depth_list_le {c : Codec α} {as : List α} {n : Nat} :
    (c.list.encode as).depth ≤ n + 1 ↔ ∀ a ∈ as, (c.encode a).depth ≤ n := by
  simp [list, depth, depthItems_le_iff]

theorem depth_nameMap_le {c : Codec α} {m : NameMap α} {n : Nat} :
    (c.nameMap.encode m).depth ≤ n + 1 ↔ ∀ a ∈ m.values, (c.encode a).depth ≤ n := by
  simp only [nameMap, depth, Nat.add_le_add_iff_right, depthMembers_le_iff, SortedMap.values,
    List.forall_mem_map]

@[simp] theorem depth_string (s : String) : (string.encode s).depth = 0 := rfl

@[simp] theorem depth_uint32 (n : UInt32) : (uint32.encode n).depth = 0 := rfl

@[simp] theorem depth_uint64 (n : UInt64) : (uint64.encode n).depth = 0 := rfl

@[simp] theorem depth_int64 (n : Int64) : (int64.encode n).depth = 0 := rfl

end Codec

namespace Layout

theorem depth_codec_le {l : Layout δ ρ} {pack : ρ → α} {unpack : α → ρ} {a : α} {n : Nat} :
    ((l.codec pack unpack).encode a).depth ≤ n + 1 ↔ depthMembers (l.members (unpack a)) ≤ n :=
  Nat.add_le_add_iff_right

@[simp] theorem depthMembers_and {a : Layout δ ρ} {b : Layout ε σ} (p : ρ × σ) :
    depthMembers ((a.and b).members p) =
      max (depthMembers (a.members p.1)) (depthMembers (b.members p.2)) :=
  depthMembers_append _ _

@[simp] theorem depthMembers_required {name : String} {c : Codec α} (a : α) :
    depthMembers ((required name c).members a) = (c.encode a).depth :=
  Nat.max_zero _

@[simp] theorem depthMembers_optional {name : String} {c : Codec α} {default : α} (a : α) :
    depthMembers ((optional name c default).members a) = (c.encode a).depth :=
  Nat.max_zero _

@[simp] theorem depthMembers_flag {name : String} (b : Bool) :
    depthMembers ((flag name).members b) = 0 := rfl

@[simp] theorem depthMembers_omittable {name : String} (o : Option String) :
    depthMembers ((omittable name (.option .string)).members o) = 0 := by
  cases o <;> rfl

end Layout

end Concordance.Json
