/-!
The opcodes of the common intermediate language with the width of the operand each carries.
-/
namespace Concordance.Cil

/-- An operand by its size in bits; the table of a switch has its own length in front. -/
inductive Operand where
  | none
  | u8
  | u16
  | u32
  | u64
  | switch
deriving DecidableEq, Repr

def Operand.width? : Operand → Option Nat
  | .none => some 0
  | .u8 => some 1
  | .u16 => some 2
  | .u32 => some 4
  | .u64 => some 8
  | .switch => Option.none

def prefixByte : UInt8 := 0xFE

def loadStringByte : UInt8 := 0x72

def storeStaticFieldByte : UInt8 := 0x80

/-- Opcodes from `first` to `last` carry `operand`. -/
structure OpcodeRun where
  first : UInt8
  last : UInt8
  operand : Operand

def operandIn (runs : List OpcodeRun) (byte : UInt8) : Option Operand :=
  (runs.find? fun r => r.first ≤ byte && byte ≤ r.last).map (·.operand)

def oneByteRuns : List OpcodeRun := [
  ⟨0x00, 0x0D, .none⟩, ⟨0x0E, 0x13, .u8⟩, ⟨0x14, 0x1E, .none⟩, ⟨0x1F, 0x1F, .u8⟩,
  ⟨0x20, 0x20, .u32⟩, ⟨0x21, 0x21, .u64⟩, ⟨0x22, 0x22, .u32⟩, ⟨0x23, 0x23, .u64⟩,
  ⟨0x25, 0x26, .none⟩, ⟨0x27, 0x29, .u32⟩, ⟨0x2A, 0x2A, .none⟩, ⟨0x2B, 0x37, .u8⟩,
  ⟨0x38, 0x44, .u32⟩, ⟨0x45, 0x45, .switch⟩, ⟨0x46, 0x6E, .none⟩, ⟨0x6F, 0x75, .u32⟩,
  ⟨0x76, 0x76, .none⟩, ⟨0x79, 0x79, .u32⟩, ⟨0x7A, 0x7A, .none⟩, ⟨0x7B, 0x81, .u32⟩,
  ⟨0x82, 0x8B, .none⟩, ⟨0x8C, 0x8D, .u32⟩, ⟨0x8E, 0x8E, .none⟩, ⟨0x8F, 0x8F, .u32⟩,
  ⟨0x90, 0xA2, .none⟩, ⟨0xA3, 0xA5, .u32⟩, ⟨0xB3, 0xBA, .none⟩, ⟨0xC2, 0xC2, .u32⟩,
  ⟨0xC3, 0xC3, .none⟩, ⟨0xC6, 0xC6, .u32⟩, ⟨0xD0, 0xD0, .u32⟩, ⟨0xD1, 0xDC, .none⟩,
  ⟨0xDD, 0xDD, .u32⟩, ⟨0xDE, 0xDE, .u8⟩, ⟨0xDF, 0xE0, .none⟩]

def prefixedRuns : List OpcodeRun := [
  ⟨0x00, 0x05, .none⟩, ⟨0x06, 0x07, .u32⟩, ⟨0x09, 0x0E, .u16⟩, ⟨0x0F, 0x0F, .none⟩,
  ⟨0x11, 0x11, .none⟩, ⟨0x12, 0x12, .u8⟩, ⟨0x13, 0x14, .none⟩, ⟨0x15, 0x16, .u32⟩,
  ⟨0x17, 0x18, .none⟩, ⟨0x19, 0x19, .u8⟩, ⟨0x1A, 0x1A, .none⟩, ⟨0x1C, 0x1C, .u32⟩,
  ⟨0x1D, 0x1E, .none⟩]

def operand? (byte : UInt8) : Option Operand := operandIn oneByteRuns byte

def prefixedOperand? (second : UInt8) : Option Operand := operandIn prefixedRuns second

end Concordance.Cil
