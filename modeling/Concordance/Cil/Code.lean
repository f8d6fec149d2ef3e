import Concordance.Cil.Opcode
import Concordance.Cil.Instruction
import Concordance.Text.Hex
/-!
Code bytes and their decoding. Offsets of faults count from the start of the code that is decoded;
decoding the rest of a code yields the same faults, nearer by what was cut off.
-/
namespace Concordance.Cil

open Json

inductive HeaderFault where
  | empty
  | shortFatHeader (found : Nat)
  | unknownFormat (bits : Nat)
deriving DecidableEq, Repr

def HeaderFault.message : HeaderFault → String
  | .empty => "empty method body"
  | .shortFatHeader found => "fat header needs 12 bytes, found " ++ toString found
  | .unknownFormat bits => "unknown header format 0x" ++ Text.hex 1 bits

inductive CodeFault where
  | unknownOpcode (offset : Nat) (opcode : UInt16)
  | truncated (offset : Nat)
  | unresolvedToken (offset : Nat) (token : UInt32)
  | invalidHeader (cause : HeaderFault)
deriving DecidableEq, Repr

namespace CodeFault

def message : CodeFault → String
  | unknownOpcode offset opcode =>
    "unknown opcode 0x" ++ Text.hex 4 opcode.toNat ++ " at offset " ++ toString offset
  | truncated offset => "instruction stream truncated at offset " ++ toString offset
  | unresolvedToken offset token =>
    "token 0x" ++ Text.hex 8 token.toNat ++ " at offset " ++ toString offset ++
      " does not resolve"
  | invalidHeader cause => "invalid method header: " ++ cause.message

/-- The fault as seen from `n` bytes before. -/
def shift (n : Nat) : CodeFault → CodeFault
  | unknownOpcode offset opcode => unknownOpcode (n + offset) opcode
  | truncated offset => truncated (n + offset)
  | unresolvedToken offset token => unresolvedToken (n + offset) token
  | invalidHeader cause => invalidHeader cause

end CodeFault

structure Tokens where
  userStrings : SortedMap UInt32 String := .empty
  fields : SortedMap UInt32 String := .empty

/-- The four bytes in front as a number, lowest byte first. -/
def word? : List UInt8 → Option UInt32
  | a :: b :: c :: d :: _ =>
    some (a.toUInt32 ||| b.toUInt32 <<< 8 ||| c.toUInt32 <<< 16 ||| d.toUInt32 <<< 24)
  | _ => none

def operandSize (operand : Operand) (offset : Nat) (rest : List UInt8) : Except CodeFault Nat :=
  match operand.width? with
  | some width => if width ≤ rest.length then .ok width else .error (.truncated offset)
  | none =>
    match word? rest with
    | none => .error (.truncated offset)
    | some count =>
      if 4 + 4 * count.toNat ≤ rest.length then .ok (4 + 4 * count.toNat)
      else .error (.truncated (offset + 4))

def resolve (table : SortedMap UInt32 String) (rest : List UInt8) : Except CodeFault String :=
  match word? rest with
  | none => .error (.truncated 1)
  | some token =>
    match table.get? token with
    | none => .error (.unresolvedToken 0 token)
    | some s => .ok s

/-- The instruction that starts with the byte `first`, and the number of bytes it takes of the
bytes that follow. -/
def step (tokens : Tokens) (first : UInt8) (rest : List UInt8) :
    Except CodeFault (Instruction × Nat) :=
  if first = prefixByte then
    match rest with
    | [] => .error (.truncated 1)
    | second :: rest =>
      let opcode := 0xFE00 ||| second.toUInt16
      match prefixedOperand? second with
      | none => .error (.unknownOpcode 0 opcode)
      | some operand => (operandSize operand 2 rest).map (.other opcode, · + 1)
  else
    match operand? first with
    | none => .error (.unknownOpcode 0 first.toUInt16)
    | some operand =>
      if first = loadStringByte then (resolve tokens.userStrings rest).map (.loadString ·, 4)
      else if first = storeStaticFieldByte then
        (resolve tokens.fields rest).map (.storeStaticField ·, 4)
      else (operandSize operand 1 rest).map (.other first.toUInt16, ·)

def decode (tokens : Tokens) : List UInt8 → Except CodeFault (List Instruction)
  | [] => .ok []
  | first :: rest =>
    match step tokens first rest with
    | .error e => .error e
    | .ok (i, n) =>
      match decode tokens (rest.drop n) with
      | .error e => .error (e.shift (n + 1))
      | .ok is => .ok (i :: is)
termination_by code => code.length
decreasing_by simp only [List.length_drop, List.length_cons]; omega

/-- A method's code without its header, with the tables for its tokens. -/
structure Body where
  code : List UInt8
  tokens : Tokens := {}

namespace Body

def decode (b : Body) : Except CodeFault (List Instruction) := Cil.decode b.tokens b.code

def headerAndCodeSize (raw : List UInt8) : Except CodeFault (Nat × Nat) :=
  match raw with
  | [] => .error (.invalidHeader .empty)
  | first :: _ =>
    let format := first.toNat % 4
    if format = 2 then .ok (1, first.toNat / 4)
    else if format = 3 then
      match raw with
      | _ :: flags :: _ :: _ :: size =>
        match word? size with
        | some size =>
          if raw.length < 12 then .error (.invalidHeader (.shortFatHeader raw.length))
          else .ok (flags.toNat / 16 * 4, size.toNat)
        | none => .error (.invalidHeader (.shortFatHeader raw.length))
      | _ => .error (.invalidHeader (.shortFatHeader raw.length))
    else .error (.invalidHeader (.unknownFormat format))

def ofMethod (raw : List UInt8) : Except CodeFault Body :=
  match headerAndCodeSize raw with
  | .error e => .error e
  | .ok (header, size) =>
    if header + size ≤ raw.length then .ok { code := (raw.drop header).take size }
    else .error (.truncated raw.length)

def layout :=
  (Layout.required "Code" (.list .uint8)).and <|
  (Layout.optional "UserStrings" (.tokenMap .string) .empty).and <|
  Layout.optional "Fields" (.tokenMap .string) .empty

def codec : Codec Body :=
  layout.codec
    (fun (code, userStrings, fields) => { code, tokens := { userStrings, fields } })
    (fun b => (b.code, b.tokens.userStrings, b.tokens.fields))

end Body

/-- The body of a static initializer, decoded already or not. -/
inductive Initializer where
  | instructions (is : List Instruction)
  | code (b : Body)

namespace Initializer

def instructions? : Initializer → Except CodeFault (List Instruction)
  | .instructions is => .ok is
  | .code b => b.decode

def codec : Codec Initializer where
  decode := Decoder.variant [
    ("Instructions", .carrying ((Codec.list Instruction.codec).decode.map .instructions)),
    ("Cil", .carrying (Body.codec.decode.map .code))]
  encode
    | .instructions is => .object [("Instructions", (Codec.list Instruction.codec).encode is)]
    | .code b => .object [("Cil", Body.codec.encode b)]

end Initializer
end Concordance.Cil
