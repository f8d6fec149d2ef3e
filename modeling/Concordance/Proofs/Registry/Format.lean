import Concordance.Proofs.Member.Format
import Concordance.Registry.Basic
/-!
The written form of a registry reads back. What the form cannot tell apart stays a condition here:
an instant whose text is no text of it, and logical names that are left out because they do not
count.
-/
namespace Concordance

open Json Json.Codec Json.Layout

theorem TypeEntry.roundTrips (t : TypeEntry) : codec.RoundTrips t :=
  roundTrips_codec (by simp) rfl fun _ =>
    .field (reads_required (roundTrips_string _)) <|
    .field (reads_required (roundTrips_string _)) <|
    .field (reads_optional (roundTrips_string _)) <|
    .field (reads_omittable (roundTrips_option_string _)) <|
    .field (reads_omittable (roundTrips_option_string _)) <|
    .field (reads_flag _) <|
    .field (reads_flag _) <|
    .field (reads_flag _) <|
    .field (reads_optional (roundTrips_nameMap fun _ _ =>
      roundTrips_list fun m _ => m.roundTrips)) <|
    .field (reads_optional (roundTrips_nameMap fun p _ => p.roundTrips)) <|
    .field (reads_optional (roundTrips_nameMap fun s _ => s.roundTrips)) <|
    .field (reads_optional (roundTrips_nameMap fun c _ => c.roundTrips)) <|
    .last (reads_optional (roundTrips_nameMap fun e _ => e.roundTrips))

theorem Origin.roundTrips (o : Origin) : codec.RoundTrips o :=
  fun depth => Decoder.reads_plain (by cases o <;> rfl) depth

theorem Metadata.roundTrips_instant {t : Instant} (h : Instant.parse? t.toText = some t) :
    instant.RoundTrips t := fun depth => by
  have read : Decoder.string depth (Json.string t.toText).node = _ :=
    roundTrips_string t.toText depth
  simp only [Decoder.Reads, instant, read]
  simp [h, Codec.string, Json.depth, bind, Except.bind, pure, Except.pure]

theorem Metadata.roundTrips {m : Metadata}
    (h : Instant.parse? m.extractedAt.toText = some m.extractedAt) : codec.RoundTrips m :=
  roundTrips_codec (by simp) rfl fun _ =>
    .field (reads_required (roundTrips_string _)) <|
    .field (reads_required (roundTrips_uint32 _)) <|
    .field (reads_required (roundTrips_instant h)) <|
    .field (reads_required (Origin.roundTrips _)) <|
    .last (reads_omittable (roundTrips_option_string _))

theorem GlobalScope.roundTrips (g : GlobalScope) : codec.RoundTrips g :=
  roundTrips_codec (by simp) rfl fun _ =>
    .field (reads_optional (roundTrips_nameMap fun _ _ =>
      roundTrips_list fun m _ => m.roundTrips)) <|
    .field (reads_optional (roundTrips_nameMap fun p _ => p.roundTrips)) <|
    .field (reads_optional (roundTrips_nameMap fun c _ => c.roundTrips)) <|
    .field (reads_optional (roundTrips_nameMap fun _ _ =>
      roundTrips_list fun e _ => e.roundTrips)) <|
    .field (reads_optional (roundTrips_nameMap fun _ _ =>
      roundTrips_list fun s _ => roundTrips_string s)) <|
    .last (reads_optional (roundTrips_nameMap fun p _ => p.roundTrips))

namespace Registry

/-- Every logical name counts, so none is left out of the written form. -/
def AllVisible (types : NameMap Variants) : Prop := types.filter isVisible = types

theorem roundTrips_types {types : NameMap Variants} (h : AllVisible types) :
    typesCodec.RoundTrips types := fun depth => by
  have read := roundTrips_nameMap (c := .nameMap TypeEntry.codec) (m := types)
    (fun _ _ => roundTrips_nameMap fun t _ => t.roundTrips) depth
  have encoded : typesCodec.encode types =
      (Codec.nameMap (.nameMap TypeEntry.codec)).encode types :=
    congrArg (Codec.nameMap (.nameMap TypeEntry.codec)).encode h
  rw [encoded]
  exact read

theorem roundTrips {r : Registry}
    (instant : Instant.parse? r.metadata.extractedAt.toText = some r.metadata.extractedAt)
    (visible : AllVisible r.types) : codec.RoundTrips r :=
  roundTrips_codec (by simp) rfl fun _ =>
    .field (reads_required (Metadata.roundTrips instant)) <|
    .field (reads_optional (GlobalScope.roundTrips _)) <|
    .last (reads_optional (roundTrips_types visible))

end Registry

end Concordance
