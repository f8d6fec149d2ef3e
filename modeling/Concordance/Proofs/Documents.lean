import Concordance.Host
import Concordance.Override.Merge
import Concordance.Proofs.Compiled.Format
import Concordance.Proofs.Json.Tagged
import Concordance.Resolution.Tracker
/-!
The documents that go in and out beside a registry: modules, hosts, overrides, unresolved entries
and single initializers. Each reads back as what was written.
-/
namespace Concordance

open Json Json.Codec Json.Layout

theorem HostEnum.roundTrips (e : HostEnum) : codec.RoundTrips e :=
  roundTrips_codec (by simp) rfl fun _ =>
    .field (reads_required (roundTrips_string _)) <|
    .last (reads_optional (roundTrips_list fun s _ => roundTrips_string s))

theorem HostClass.roundTrips (c : HostClass) : codec.RoundTrips c :=
  roundTrips_codec (by simp) rfl fun _ =>
    .field (reads_optional (roundTrips_list fun e _ => e.roundTrips)) <|
    .field (reads_optional (roundTrips_list fun s _ => roundTrips_string s)) <|
    .last (reads_optional (roundTrips_list fun s _ => roundTrips_string s))

theorem Host.roundTrips (h : Host) : codec.RoundTrips h :=
  roundTrips_codec (by simp) rfl fun _ =>
    .field (reads_required (roundTrips_string _)) <|
    .last (reads_optional (roundTrips_nameMap fun c _ => c.roundTrips))

theorem Overrides.roundTrips (o : Overrides) : codec.RoundTrips o :=
  roundTrips_codec (by simp) rfl fun _ =>
    .field (reads_optional (roundTrips_nameMap fun _ _ =>
      roundTrips_list fun e _ => e.roundTrips)) <|
    .field (reads_optional (roundTrips_nameMap fun _ _ =>
      roundTrips_list fun m _ => m.roundTrips)) <|
    .field (reads_optional (roundTrips_nameMap fun c _ => c.roundTrips)) <|
    .field (reads_optional (roundTrips_nameMap fun p _ => p.roundTrips)) <|
    .field (reads_optional (roundTrips_nameMap fun p _ => p.roundTrips)) <|
    .last (reads_optional (roundTrips_nameMap fun _ _ => roundTrips_list fun m _ => m.roundTrips))

namespace Unresolved

private theorem reads_typesLayout (p : String × String) (depth : Nat) :
    typesLayout.Reads depth p := by
  have fields : typesLayout.ReadsFields _ depth p :=
    .field (reads_required (roundTrips_string p.1)) <|
    .last (reads_required (roundTrips_string p.2))
  exact fields.reads (by simp)

private theorem reads_enumLayout (p : String × String × String) (depth : Nat) :
    enumLayout.Reads depth p := by
  have fields : enumLayout.ReadsFields _ depth p :=
    .field (reads_required (roundTrips_string p.1)) <|
    .field (reads_required (roundTrips_string p.2.1)) <|
    .last (reads_required (roundTrips_string p.2.2))
  exact fields.reads (by simp)

private theorem texts_typesLayout (p : String × String) :
    ∀ m ∈ typesLayout.members p, m.1 ≠ tagged.tag ∧ ∃ s, m.2 = .string s := by
  simp [typesLayout, Layout.and, required, single, tagged, Codec.string]

private theorem texts_enumLayout (p : String × String × String) :
    ∀ m ∈ enumLayout.members p, m.1 ≠ tagged.tag ∧ ∃ s, m.2 = .string s := by
  simp [enumLayout, Layout.and, required, single, tagged, Codec.string]

theorem roundTrips (u : Unresolved) : codec.RoundTrips u := by
  cases u with
  | constantsMismatch l b =>
    have variant : tagged.cases.lookup Kind.constantsMismatch.name =
        some (Tagged.case Kind.constantsMismatch.name typesLayout fun p =>
          .constantsMismatch p.1 p.2).2 := rfl
    exact Tagged.reads_object variant (texts_typesLayout (l, b)) (reads_typesLayout (l, b) _)
  | enumNotFound l b e =>
    have variant : tagged.cases.lookup Kind.enumNotFound.name =
        some (Tagged.case Kind.enumNotFound.name enumLayout fun p =>
          .enumNotFound p.1 p.2.1 p.2.2).2 := rfl
    exact Tagged.reads_object variant (texts_enumLayout (l, b, e)) (reads_enumLayout (l, b, e) _)
  | globalEnum l b =>
    have variant : tagged.cases.lookup Kind.globalEnum.name =
        some (Tagged.case Kind.globalEnum.name typesLayout fun p => .globalEnum p.1 p.2).2 := rfl
    exact Tagged.reads_object variant (texts_typesLayout (l, b)) (reads_typesLayout (l, b) _)

end Unresolved

theorem Tracker.roundTrips (t : Tracker) : codec.RoundTrips t :=
  roundTrips_codec (by simp) rfl fun _ =>
    .last (reads_required (roundTrips_list fun u _ => u.roundTrips))

/-- Every value reads back from its compact text, unless that nests too deeply for any reader. -/
def Json.Codec.Lossless (c : Codec α) : Prop :=
  ∀ a, c.decode.parse (c.encode a).toText =
    if (c.encode a).depth ≤ maxDepth then .ok a else .error .malformed

/-- Modules, hosts, overrides, unresolved entries and initializers read back as they were written. -/
theorem documents_lossless :
    Compiled.Module.codec.Lossless ∧ Host.codec.Lossless ∧ Overrides.codec.Lossless ∧
      Tracker.codec.Lossless ∧ Cil.Initializer.codec.Lossless :=
  ⟨fun m => m.roundTrips.parse_toText, fun h => h.roundTrips.parse_toText,
    fun o => o.roundTrips.parse_toText, fun t => t.roundTrips.parse_toText,
    fun i => i.roundTrips.parse_toText⟩

end Concordance
