import Concordance.Compiled
import Concordance.Proofs.Cil.Format
import Concordance.Proofs.Member.Format
/-!
The written forms of compiled types and modules read back. A type calls itself for the types nested
in it.
-/
namespace Concordance.Compiled

open Json Json.Codec Json.Layout

theorem Parameter.roundTrips (p : Parameter) : codec.RoundTrips p :=
  roundTrips_codec (by simp) rfl fun _ =>
    .field (reads_required (roundTrips_string _)) <|
    .field (reads_required (roundTrips_uint64 _)) <|
    .field (reads_required (TypeRef.roundTrips _)) <|
    .field (reads_flag _) <|
    .field (reads_optional (roundTrips_option_string _)) <|
    .field (reads_flag _) <|
    .field (reads_flag _) <|
    .field (reads_flag _) <|
    .field (reads_flag _) <|
    .last (reads_flag _)

theorem Method.roundTrips (m : Method) : codec.RoundTrips m :=
  roundTrips_codec (by simp) rfl fun _ =>
    .field (reads_required (roundTrips_string _)) <|
    .field (reads_required (TypeRef.roundTrips _)) <|
    .field (reads_flag _) <|
    .field (reads_optional (roundTrips_list fun p _ => p.roundTrips)) <|
    .field (reads_flag _) <|
    .field (reads_flag _) <|
    .field (reads_flag _) <|
    .last (reads_flag _)

theorem Property.roundTrips (p : Property) : codec.RoundTrips p :=
  roundTrips_codec (by simp) rfl fun _ =>
    .field (reads_required (roundTrips_string _)) <|
    .field (reads_required (TypeRef.roundTrips _)) <|
    .field (reads_flag _) <|
    .field (reads_flag _) <|
    .last (reads_flag _)

theorem Signature.roundTrips (s : Signature) : codec.RoundTrips s :=
  roundTrips_codec (by simp) rfl fun _ =>
    .field (reads_required (TypeRef.roundTrips _)) <|
    .last (reads_optional (roundTrips_list fun t _ => t.roundTrips))

theorem Event.roundTrips (e : Event) : codec.RoundTrips e := by
  have invoke : (Codec.option Signature.codec).RoundTrips e.invoke :=
    roundTrips_option fun s _ => ⟨s.roundTrips, by simp [Signature.codec, Layout.codec]⟩
  exact roundTrips_codec (by simp) rfl fun _ =>
    .field (reads_required (roundTrips_string _)) <|
    .field (reads_required (TypeRef.roundTrips _)) <|
    .last (reads_optional invoke)

theorem Literal.roundTrips (l : Literal) : codec.RoundTrips l :=
  roundTrips_codec (by simp) rfl fun _ =>
    .field (reads_required (roundTrips_string _)) <|
    .field (reads_required (TypeRef.roundTrips _)) <|
    .last (reads_required (roundTrips_string _))

theorem EnumValue.roundTrips (v : EnumValue) : codec.RoundTrips v :=
  roundTrips_codec (by simp) rfl fun _ =>
    .field (reads_required (roundTrips_string _)) <|
    .last (reads_required (roundTrips_int64 _))

namespace TypeInfo

theorem encodeList_eq_map (ts : List TypeInfo) : encodeList ts = ts.map encode := by
  induction ts with
  | nil => rfl
  | cons t ts ih => simp [encodeList, ih]

def contents (t : TypeInfo) :=
  (t.name, t.namespaceName, t.baseType, t.declaringType, t.annotation, t.isEnum, t.isFlags,
    t.isStatic, t.isValueType, t.methods, t.properties, t.events, t.literals, t.enumValues,
    t.nestedTypes, t.initializer)

theorem encode_eq_object (t : TypeInfo) (self : Decoder TypeInfo) :
    t.encode = .object ((layout self).members t.contents) := by
  cases t
  rfl

private theorem reads_layout {self : Decoder TypeInfo} {depth : Nat} (t : TypeInfo)
    (read : ∀ k < depth, ∀ u : TypeInfo, self.Reads k u.encode u) :
    (layout self).Reads depth t.contents := by
  have nested : (Decoder.list self).Reads depth (.array (encodeList t.nestedTypes))
      t.nestedTypes := by
    rw [encodeList_eq_map]
    exact Decoder.reads_list encode fun k hk u _ => read k hk u
  have initializer : (Codec.option Cil.Initializer.codec).RoundTrips t.initializer :=
    roundTrips_option fun i _ => ⟨i.roundTrips, by cases i <;> simp [Cil.Initializer.codec]⟩
  have fields : (layout self).ReadsFields _ depth t.contents :=
    .field (reads_required (roundTrips_string _)) <|
    .field (reads_optional (roundTrips_string _)) <|
    .field (reads_optional (roundTrips_option_string _)) <|
    .field (reads_optional (roundTrips_option_string _)) <|
    .field (reads_optional (roundTrips_option_string _)) <|
    .field (reads_flag _) <|
    .field (reads_flag _) <|
    .field (reads_flag _) <|
    .field (reads_flag _) <|
    .field (reads_optional (roundTrips_list fun m _ => m.roundTrips)) <|
    .field (reads_optional (roundTrips_list fun p _ => p.roundTrips)) <|
    .field (reads_optional (roundTrips_list fun e _ => e.roundTrips)) <|
    .field (reads_optional (roundTrips_list fun l _ => l.roundTrips)) <|
    .field (reads_optional (roundTrips_list fun v _ => v.roundTrips)) <|
    .field (reads_single nested (by simp)) <|
    .last (reads_optional initializer)
  exact fields.reads (by simp)

theorem reads_decode (depth : Nat) (t : TypeInfo) : decode.Reads depth t.encode t := by
  unfold decode
  refine Decoder.reads_fix (fun self depth read t => ?_) depth t
  have fields : (layout self).decode.Reads depth _ t.contents := reads_object fun k hk =>
    reads_layout t fun i hi u => read i (by omega) u
  rw [encode_eq_object t self]
  cases t
  exact fields.map _

theorem roundTrips (t : TypeInfo) : codec.RoundTrips t := fun depth => reads_decode depth t

end TypeInfo

theorem Module.roundTrips (m : Module) : codec.RoundTrips m :=
  roundTrips_codec (by simp) rfl fun _ =>
    .field (reads_optional (roundTrips_string _)) <|
    .field (reads_optional (roundTrips_option_string _)) <|
    .last (reads_optional (roundTrips_list fun t _ => t.roundTrips))

end Concordance.Compiled
