import Concordance.Json.Codec
/-!
Instructions, reduced to what the recovery of names needs.
-/
namespace Concordance.Cil

open Json

inductive Instruction where
  | loadString (s : String)
  | storeStaticField (name : String)
  | other (opcode : UInt16)
deriving DecidableEq, Repr

def Instruction.codec : Codec Instruction where
  decode := Decoder.variant [
    ("LoadString", .carrying (Decoder.string.map .loadString)),
    ("StoreStaticField", .carrying (Decoder.string.map .storeStaticField)),
    ("Other", .carrying (Decoder.uint16.map .other))]
  encode
    | .loadString s => .object [("LoadString", .string s)]
    | .storeStaticField name => .object [("StoreStaticField", .string name)]
    | .other opcode => .object [("Other", .int opcode.toNat)]

end Concordance.Cil
