import Concordance.Cil.Code
import Concordance.Proofs.Json.Layout
/-!
The written forms of instructions, of code with its token tables, and of initializers read back.
-/
namespace Concordance.Cil

open Json Json.Codec Json.Layout

theorem Instruction.roundTrips (i : Instruction) : codec.RoundTrips i := fun _ => by
  cases i with
  | loadString s => exact Decoder.reads_carrying rfl fun k _ => (roundTrips_string s k).map _
  | storeStaticField name =>
    exact Decoder.reads_carrying rfl fun k _ => (roundTrips_string name k).map _
  | other opcode => exact Decoder.reads_carrying rfl fun k _ => (roundTrips_uint16 opcode k).map _

theorem Body.roundTrips (b : Body) : codec.RoundTrips b :=
  roundTrips_codec (by simp) rfl fun _ =>
    .field (reads_required (roundTrips_list fun n _ => roundTrips_uint8 n)) <|
    .field (reads_optional (roundTrips_tokenMap fun s _ => roundTrips_string s)) <|
    .last (reads_optional (roundTrips_tokenMap fun s _ => roundTrips_string s))

theorem Initializer.roundTrips (i : Initializer) : codec.RoundTrips i := fun _ => by
  cases i with
  | instructions is =>
    have list : (Codec.list Instruction.codec).RoundTrips is :=
      roundTrips_list fun i _ => i.roundTrips
    exact Decoder.reads_carrying rfl fun k _ => (list k).map _
  | code b => exact Decoder.reads_carrying rfl fun k _ => (b.roundTrips k).map _

end Concordance.Cil
