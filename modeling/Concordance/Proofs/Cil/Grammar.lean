import Concordance.Cil.Code
import Mathlib.Data.List.Basic
/-!
The bytes of instructions, and their decoding. A code that is put together from well-formed
instructions decodes to these instructions, whatever their operands look like.
-/
namespace Concordance.Cil

def wordBytes (w : UInt32) : List UInt8 :=
  [w.toUInt8, (w >>> 8).toUInt8, (w >>> 16).toUInt8, (w >>> 24).toUInt8]

@[simp] theorem length_wordBytes (w : UInt32) : (wordBytes w).length = 4 := rfl

private theorem join_wordBytes (w : UInt32) :
    w.toUInt8.toUInt32 ||| (w >>> 8).toUInt8.toUInt32 <<< 8 |||
      (w >>> 16).toUInt8.toUInt32 <<< 16 ||| (w >>> 24).toUInt8.toUInt32 <<< 24 = w := by
  apply UInt32.eq_of_toBitVec_eq
  ext i hi
  simp only [UInt32.toBitVec_or, UInt32.toBitVec_shiftLeft, UInt8.toBitVec_toUInt32,
    UInt32.toBitVec_toUInt8, UInt32.toBitVec_shiftRight]
  simp
  grind

@[simp] theorem word?_wordBytes_append (w : UInt32) (rest : List UInt8) :
    word? (wordBytes w ++ rest) = some w := by
  simp only [wordBytes, List.cons_append, List.nil_append, word?, join_wordBytes]

inductive IsOperand : Operand → List UInt8 → Prop
  | fixed {operand : Operand} {bytes : List UInt8} (width : operand.width? = some bytes.length) :
    IsOperand operand bytes
  | switch {count : UInt32} {targets : List UInt8} (length : targets.length = 4 * count.toNat) :
    IsOperand .switch (wordBytes count ++ targets)

inductive IsOther : List UInt8 → UInt16 → Prop
  | oneByte {first : UInt8} {operand : Operand} {bytes : List UInt8}
    (notLoad : first ≠ loadStringByte) (notStore : first ≠ storeStaticFieldByte)
    (known : operand? first = some operand) (carried : IsOperand operand bytes) :
    IsOther (first :: bytes) first.toUInt16
  | twoBytes {second : UInt8} {operand : Operand} {bytes : List UInt8}
    (known : prefixedOperand? second = some operand) (carried : IsOperand operand bytes) :
    IsOther (prefixByte :: second :: bytes) (0xFE00 ||| second.toUInt16)

/-- The bytes that an instruction may have. -/
inductive Encodes (tokens : Tokens) : List UInt8 → Instruction → Prop
  | loadString {token : UInt32} {s : String} (found : tokens.userStrings.get? token = some s) :
    Encodes tokens (loadStringByte :: wordBytes token) (.loadString s)
  | storeStaticField {token : UInt32} {name : String}
    (found : tokens.fields.get? token = some name) :
    Encodes tokens (storeStaticFieldByte :: wordBytes token) (.storeStaticField name)
  | other {bytes : List UInt8} {opcode : UInt16} (h : IsOther bytes opcode) :
    Encodes tokens bytes (.other opcode)

inductive EncodesAll (tokens : Tokens) : List UInt8 → List Instruction → Prop
  | nil : EncodesAll tokens [] []
  | cons {bytes code : List UInt8} {i : Instruction} {is : List Instruction}
    (head : Encodes tokens bytes i) (tail : EncodesAll tokens code is) :
    EncodesAll tokens (bytes ++ code) (i :: is)

theorem EncodesAll.append {tokens : Tokens} {a b : List UInt8} {is js : List Instruction}
    (ha : EncodesAll tokens a is) (hb : EncodesAll tokens b js) :
    EncodesAll tokens (a ++ b) (is ++ js) := by
  induction ha with
  | nil => exact hb
  | cons head tail ih =>
    rw [List.append_assoc]
    exact .cons head ih

theorem IsOperand.operandSize {operand : Operand} {bytes : List UInt8}
    (h : IsOperand operand bytes) (offset : Nat) (rest : List UInt8) :
    operandSize operand offset (bytes ++ rest) = .ok bytes.length := by
  unfold Cil.operandSize
  cases h with
  | fixed width => simp [width]
  | @switch count targets length =>
    rw [List.append_assoc, word?_wordBytes_append]
    simp [Operand.width?, length]

theorem ne_prefixByte_of_operand? {first : UInt8} {operand : Operand}
    (known : operand? first = some operand) : first ≠ prefixByte := by
  rintro rfl
  revert known
  decide +revert

theorem resolve_wordBytes {table : SortedMap UInt32 String} {token : UInt32} {s : String}
    (found : table.get? token = some s) (rest : List UInt8) :
    resolve table (wordBytes token ++ rest) = .ok s := by
  simp only [resolve, word?_wordBytes_append, found]

/-- One step takes exactly the bytes of an instruction. -/
theorem Encodes.step {tokens : Tokens} {bytes : List UInt8} {i : Instruction}
    (h : Encodes tokens bytes i) (rest : List UInt8) :
    ∃ first operand, bytes = first :: operand ∧
      Cil.step tokens first (operand ++ rest) = .ok (i, operand.length) := by
  cases h with
  | loadString found =>
    refine ⟨_, _, rfl, ?_⟩
    unfold Cil.step
    rw [if_neg (by decide), resolve_wordBytes found]
    rfl
  | storeStaticField found =>
    refine ⟨_, _, rfl, ?_⟩
    unfold Cil.step
    rw [if_neg (by decide), resolve_wordBytes found]
    rfl
  | other h =>
    cases h with
    | oneByte notLoad notStore known carried =>
      refine ⟨_, _, rfl, ?_⟩
      unfold Cil.step
      rw [if_neg (ne_prefixByte_of_operand? known), known]
      simp only [if_neg notLoad, if_neg notStore, carried.operandSize, Except.map]
    | twoBytes known carried =>
      refine ⟨_, _, rfl, ?_⟩
      unfold Cil.step
      rw [if_pos rfl, List.cons_append]
      simp only [known, carried.operandSize, Except.map, List.length_cons]

theorem EncodesAll.decode {tokens : Tokens} {code : List UInt8} {is : List Instruction}
    (h : EncodesAll tokens code is) : Cil.decode tokens code = .ok is := by
  induction h with
  | nil => rw [Cil.decode]
  | @cons bytes code i is head tail ih =>
    obtain ⟨first, operand, rfl, taken⟩ := head.step code
    rw [List.cons_append, Cil.decode]
    simp only [taken, List.drop_left, ih]

end Concordance.Cil
