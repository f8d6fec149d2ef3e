import Concordance.Member.Basic
import Concordance.Proofs.Json.Layout
/-!
The written forms of references and members read back. A reference calls itself for its generic
arguments, each of which lies two levels deeper.
-/
namespace Concordance

open Json Json.Codec Json.Layout

namespace TypeRef

theorem encodeList_eq_map (as : List TypeRef) : encodeList as = as.map encode := by
  induction as with
  | nil => rfl
  | cons a as ih => simp [encodeList, ih]

theorem encode_eq_object (t : TypeRef) (self : Decoder TypeRef) :
    t.encode = .object ((layout self).members (t.name, t.fullName, t.genericArguments)) := by
  obtain ⟨name, fullName, args⟩ := t
  cases args <;> rfl

private theorem reads_layout {self : Decoder TypeRef} {depth : Nat} (t : TypeRef)
    (read : ∀ k < depth, ∀ a ∈ t.genericArguments, self.Reads k a.encode a) :
    (layout self).Reads depth (t.name, t.fullName, t.genericArguments) := by
  have arguments : (Decoder.list self).Reads depth (.array (encodeList t.genericArguments))
      t.genericArguments := by
    rw [encodeList_eq_map]
    exact Decoder.reads_list encode read
  have fields : (layout self).ReadsFields _ depth (t.name, t.fullName, t.genericArguments) :=
    .field (reads_required (roundTrips_string _)) <|
    .field (reads_required (roundTrips_string _)) <|
    .last (reads_single arguments (by simp))
  exact fields.reads (by simp)

private theorem reads_decodeStep (self : Decoder TypeRef) (depth : Nat)
    (read : ∀ k < depth, ∀ t : TypeRef, self.Reads k t.encode t) (t : TypeRef) :
    (decodeStep self).Reads depth t.encode t := by
  obtain ⟨name, fullName, args⟩ := t
  rw [encode_eq_object _ self]
  have fields : (layout self).decode.Reads depth _ _ := reads_object fun k hk =>
    reads_layout ⟨name, fullName, args⟩ fun i hi a _ => read i (by omega) a
  exact fields.map _

theorem roundTrips (t : TypeRef) : codec.RoundTrips t := fun depth =>
  Decoder.reads_fix reads_decodeStep depth t

end TypeRef

theorem Parameter.roundTrips (p : Parameter) : codec.RoundTrips p :=
  roundTrips_codec (by simp) rfl fun _ =>
    .field (reads_required (roundTrips_uint64 _)) <|
    .field (reads_required (roundTrips_string _)) <|
    .field (reads_required (roundTrips_string _)) <|
    .field (reads_required (TypeRef.roundTrips _)) <|
    .field (reads_flag _) <|
    .field (reads_omittable (roundTrips_option_string _)) <|
    .field (reads_flag _) <|
    .field (reads_flag _) <|
    .field (reads_flag _) <|
    .field (reads_flag _) <|
    .last (reads_flag _)

theorem Method.roundTrips (m : Method) : codec.RoundTrips m :=
  roundTrips_codec (by simp) rfl fun _ =>
    .field (reads_required (roundTrips_string _)) <|
    .field (reads_required (roundTrips_string _)) <|
    .field (reads_required (TypeRef.roundTrips _)) <|
    .field (reads_required (roundTrips_string _)) <|
    .field (reads_optional (roundTrips_list fun p _ => p.roundTrips)) <|
    .field (reads_flag _) <|
    .field (reads_flag _) <|
    .field (reads_flag _) <|
    .field (reads_flag _) <|
    .field (reads_flag _) <|
    .field (reads_flag _) <|
    .last (reads_required (roundTrips_string _))

theorem Property.roundTrips (p : Property) : codec.RoundTrips p :=
  roundTrips_codec (by simp) rfl fun _ =>
    .field (reads_required (roundTrips_string _)) <|
    .field (reads_required (roundTrips_string _)) <|
    .field (reads_required (roundTrips_string _)) <|
    .field (reads_required (TypeRef.roundTrips _)) <|
    .field (reads_flag _) <|
    .field (reads_flag _) <|
    .field (reads_flag _) <|
    .last (reads_required (roundTrips_string _))

theorem Signal.roundTrips (s : Signal) : codec.RoundTrips s :=
  roundTrips_codec (by simp) rfl fun _ =>
    .field (reads_required (roundTrips_string _)) <|
    .field (reads_required (roundTrips_string _)) <|
    .field (reads_required (TypeRef.roundTrips _)) <|
    .field (reads_optional (roundTrips_list fun t _ => t.roundTrips)) <|
    .last (reads_required (roundTrips_string _))

theorem Constant.roundTrips (c : Constant) : codec.RoundTrips c :=
  roundTrips_codec (by simp) rfl fun _ =>
    .field (reads_required (roundTrips_string _)) <|
    .field (reads_required (roundTrips_string _)) <|
    .field (reads_required (roundTrips_string _)) <|
    .field (reads_required (roundTrips_string _)) <|
    .last (reads_required (roundTrips_string _))

theorem EnumMember.roundTrips (m : EnumMember) : codec.RoundTrips m :=
  roundTrips_codec (by simp) rfl fun _ =>
    .field (reads_required (roundTrips_string _)) <|
    .field (reads_required (roundTrips_string _)) <|
    .last (reads_required (roundTrips_int64 _))

theorem EnumType.roundTrips (e : EnumType) : codec.RoundTrips e :=
  roundTrips_codec (by simp) rfl fun _ =>
    .field (reads_required (roundTrips_string _)) <|
    .field (reads_omittable (roundTrips_option_string _)) <|
    .field (reads_required (roundTrips_string _)) <|
    .field (reads_required (roundTrips_string _)) <|
    .field (reads_flag _) <|
    .last (reads_optional (roundTrips_list fun m _ => m.roundTrips))

theorem TypeProxy.roundTrips (p : TypeProxy) : codec.RoundTrips p :=
  roundTrips_codec (by simp) rfl fun _ =>
    .field (reads_required (roundTrips_string _)) <|
    .last (reads_required (roundTrips_string _))

end Concordance
