import Concordance.Proofs.Registry.Format
import Concordance.Registry.Counts
/-!
What the written form of a registry keeps. All of it reads back but the logical names that do not
count, and these count in no question and no text.
-/
namespace Concordance.Registry

open Json

def visible (r : Registry) : Registry := { r with types := r.visibleTypes }

theorem get?_visibleTypes (r : Registry) (name : String) (vs : Variants) :
    r.visibleTypes.get? name = some vs ↔
      r.types.get? name = some vs ∧ name ≠ "" ∧ vs.isEmpty = false := by
  rw [visibleTypes, SortedMap.get?_filter, Option.filter_eq_some_iff]
  simp [isVisible]

theorem allVisible_visible (r : Registry) : AllVisible r.visible.types := by
  apply SortedMap.ext
  simp [visible, visibleTypes, SortedMap.filter]

theorem visibleTypes_visible (r : Registry) : r.visible.visibleTypes = r.visibleTypes :=
  r.allVisible_visible

theorem encode_visible (r : Registry) : codec.encode r.visible = codec.encode r := by
  have types : typesCodec.encode r.visible.types = typesCodec.encode r.types :=
    congrArg (Codec.nameMap (.nameMap TypeEntry.codec)).encode r.visibleTypes_visible
  unfold codec Layout.codec layout
  simp only [Layout.and, Layout.optional, Layout.single, types]
  rfl

theorem counts_visible (r : Registry) : RegistryCounts.of r.visible = RegistryCounts.of r := by
  unfold RegistryCounts.of typeEntries typeCount
  rw [visibleTypes_visible]
  rfl

/-- The text of a registry reads back as the registry without the logical names that are empty or
have no variants. The counts do not change, nor does the text if it is written once more. -/
theorem parse_toText_eq_visible (r : Registry)
    (instant : Instant.parse? r.metadata.extractedAt.toText = some r.metadata.extractedAt) :
    codec.decode.parse (codec.encode r).toText =
        (if (codec.encode r).depth ≤ maxDepth then .ok r.visible else .error .malformed) ∧
      (∀ name vs, r.visible.types.get? name = some vs ↔
        r.types.get? name = some vs ∧ name ≠ "" ∧ vs.isEmpty = false) ∧
      RegistryCounts.of r.visible = RegistryCounts.of r ∧
      (codec.encode r.visible).toText = (codec.encode r).toText := by
  have trips : codec.RoundTrips r.visible := roundTrips instant r.allVisible_visible
  have read := trips.parse_toText
  rw [encode_visible] at read ⊢
  exact ⟨read, r.get?_visibleTypes, r.counts_visible, rfl⟩

theorem parse_toText_eq_visible_node :
    let node : TypeEntry := { logicalName := "Node", binaryName := "Node" }
    let r : Registry := {
      metadata := { extractedAt := ⟨20000, 3661, 120000000⟩ }
      types := .ofList [("", .ofList [("Node", node)]), ("Ghost", .empty),
        ("Node", .ofList [("Node", node)])] }
    codec.decode.parse (codec.encode r).toText = .ok r.visible ∧
      r.visible.types.keys = ["Node"] ∧ r.types.keys = ["", "Ghost", "Node"] := by
  intro node r
  have instant : Instant.parse? r.metadata.extractedAt.toText = some r.metadata.extractedAt := by
    decide +kernel
  have shallow : (codec.encode r).depth ≤ maxDepth := by decide +kernel
  obtain ⟨read, -⟩ := parse_toText_eq_visible r instant
  rw [if_pos shallow] at read
  exact ⟨read, by decide +kernel, by decide +kernel⟩

end Concordance.Registry
