import Concordance.Proofs.Cil.Step
import Mathlib.Algebra.GroupWithZero.Nat
/-!
Decoding by position, with every sum and product checked against 64 bits and with a limit on the
number of instructions. No code in memory takes half of the positions, so no check fails, whatever
sizes the switches in it claim; and a limit of one instruction for each byte is never reached.
-/
namespace Concordance.Cil

namespace Cursor

inductive Halt where
  | fault (cause : CodeFault)
  | overflow
  | limit

def checked (n : Nat) : Except Halt Nat := if n < 2 ^ 64 then .ok n else .error .overflow

def advance (code : List UInt8) (pos n : Nat) : Except Halt Nat := do
  let stop ← checked (pos + n)
  if stop ≤ code.length then .ok stop else .error (.fault (.truncated pos))

def byte (code : List UInt8) (pos : Nat) : Except Halt (UInt8 × Nat) := do
  let stop ← advance code pos 1
  return (code.getD pos 0, stop)

def word (code : List UInt8) (pos : Nat) : Except Halt (UInt32 × Nat) := do
  let stop ← advance code pos 4
  return ((word? (code.drop pos)).getD 0, stop)

def skip (code : List UInt8) (pos : Nat) (operand : Operand) : Except Halt Nat :=
  match operand.width? with
  | some width => advance code pos width
  | none => do
    let (count, next) ← word code pos
    let size ← checked (4 * count.toNat)
    advance code next size

def named (table : SortedMap UInt32 String) (code : List UInt8) (start pos : Nat) :
    Except Halt (String × Nat) := do
  let (token, next) ← word code pos
  match table.get? token with
  | none => .error (.fault (.unresolvedToken start token))
  | some s => .ok (s, next)

def instruction (tokens : Tokens) (code : List UInt8) (pos : Nat) :
    Except Halt (Instruction × Nat) := do
  let (first, next) ← byte code pos
  if first = prefixByte then
    let (second, next) ← byte code next
    let opcode := 0xFE00 ||| second.toUInt16
    match prefixedOperand? second with
    | none => .error (.fault (.unknownOpcode pos opcode))
    | some operand => (skip code next operand).map (.other opcode, ·)
  else
    match operand? first with
    | none => .error (.fault (.unknownOpcode pos first.toUInt16))
    | some operand =>
      if first = loadStringByte then
        (named tokens.userStrings code pos next).map fun (s, next) => (.loadString s, next)
      else if first = storeStaticFieldByte then
        (named tokens.fields code pos next).map fun (s, next) => (.storeStaticField s, next)
      else (skip code next operand).map (.other first.toUInt16, ·)

/-- The instructions from a position on, if there are no more than `limit`. -/
def run (tokens : Tokens) (code : List UInt8) : (limit pos : Nat) → Except Halt (List Instruction)
  | 0, pos => if code.length ≤ pos then .ok [] else .error .limit
  | limit + 1, pos =>
    if code.length ≤ pos then .ok []
    else do
      let (i, next) ← instruction tokens code pos
      let is ← run tokens code limit next
      return i :: is

/-- What is left of the code from a position inside it. -/
structure RestAt (code : List UInt8) (pos : Nat) (rest : List UInt8) : Prop where
  drop : code.drop pos = rest
  inside : pos ≤ code.length

section Steps

variable {code rest : List UInt8} {pos : Nat}

theorem RestAt.length (here : RestAt code pos rest) : pos + rest.length = code.length := by
  have inside := here.inside
  rw [← here.drop, List.length_drop]
  omega

theorem RestAt.append {bytes : List UInt8} (here : RestAt code pos (bytes ++ rest)) :
    RestAt code (pos + bytes.length) rest := by
  have length := here.length
  rw [List.length_append] at length
  refine ⟨?_, by omega⟩
  rw [← List.drop_drop, here.drop, List.drop_left]

theorem RestAt.tail {b : UInt8} (here : RestAt code pos (b :: rest)) :
    RestAt code (pos + 1) rest := by
  have split : RestAt code pos ([b] ++ rest) := here
  exact split.append

theorem advance_eq (here : RestAt code pos rest) {n : Nat} (room : pos + n < 2 ^ 64) :
    advance code pos n =
      if n ≤ rest.length then .ok (pos + n) else .error (.fault (.truncated pos)) := by
  have length := here.length
  have same : pos + n ≤ code.length ↔ n ≤ rest.length := by omega
  simp only [advance, checked, if_pos room, bind, Except.bind, same]

variable (small : code.length < 2 ^ 63)

include small

theorem byte_eq (here : RestAt code pos rest) : byte code pos = match rest with
    | [] => .error (.fault (.truncated pos))
    | b :: _ => .ok (b, pos + 1) := by
  have inside := here.inside
  rw [byte, advance_eq here (by omega)]
  cases rest with
  | nil => rfl
  | cons b rest =>
    have found : code.getD pos 0 = b := by
      rw [List.getD_eq_getElem?_getD, ← List.head?_drop, here.drop, List.head?_cons,
        Option.getD_some]
    rw [if_pos (by simp), found]
    rfl

theorem word_eq (here : RestAt code pos rest) : word code pos = match word? rest with
    | none => .error (.fault (.truncated pos))
    | some w => .ok (w, pos + 4) := by
  have inside := here.inside
  rw [word, advance_eq here (by omega), here.drop]
  cases read : word? rest with
  | none =>
    have short := length_of_word?_eq_none read
    rw [if_neg (by omega)]
    rfl
  | some w =>
    obtain ⟨back, rfl⟩ := exists_wordBytes_of_word? read
    rw [if_pos (by simp)]
    rfl

theorem skip_eq {k : Nat} (here : RestAt code (pos + k) rest) (operand : Operand) :
    skip code (pos + k) operand = match operandSize operand k rest with
      | .ok n => .ok (pos + k + n)
      | .error e => .error (.fault (e.shift pos)) := by
  have inside := here.inside
  unfold skip operandSize
  cases fixed : operand.width? with
  | some width =>
    have narrow : width ≤ 8 := by
      cases operand <;> cases fixed <;> decide
    dsimp only
    rw [advance_eq here (by omega)]
    split <;> rfl
  | none =>
    dsimp only
    rw [word_eq small here]
    cases read : word? rest with
    | none => rfl
    | some count =>
      have counted := count.toNat_lt
      obtain ⟨back, rfl⟩ := exists_wordBytes_of_word? read
      have table := here.append
      rw [length_wordBytes] at table
      have fits : checked (4 * count.toNat) = .ok (4 * count.toNat) := if_pos (by omega)
      have targets := advance_eq table (n := 4 * count.toNat) (by omega)
      simp only [bind, Except.bind, fits, targets, List.length_append, length_wordBytes,
        Nat.add_le_add_iff_left]
      split
      · rw [Nat.add_assoc]
      · rfl

theorem named_eq (here : RestAt code (pos + 1) rest) (table : SortedMap UInt32 String) :
    named table code pos (pos + 1) = match resolve table rest with
      | .ok s => .ok (s, pos + 1 + 4)
      | .error e => .error (.fault (e.shift pos)) := by
  rw [named, word_eq small here, resolve]
  cases word? rest with
  | none => rfl
  | some token =>
    simp only [bind, Except.bind]
    cases table.get? token <;> rfl

theorem instruction_eq {first : UInt8} (here : RestAt code pos (first :: rest)) (tokens : Tokens) :
    instruction tokens code pos = match step tokens first rest with
      | .ok (i, n) => .ok (i, pos + 1 + n)
      | .error e => .error (.fault (e.shift pos)) := by
  have behind := here.tail
  rw [instruction, byte_eq small here]
  simp only [bind, Except.bind, step]
  by_cases isPrefix : first = prefixByte
  · rw [if_pos isPrefix, if_pos isPrefix, byte_eq small behind]
    cases rest with
    | nil => rfl
    | cons second rest =>
      dsimp only
      cases prefixedOperand? second with
      | none => rfl
      | some operand =>
        dsimp only
        rw [skip_eq small (k := 2) behind.tail]
        cases operandSize operand 2 rest with
        | error e => rfl
        | ok n =>
          have sum : pos + 2 + n = pos + 1 + (n + 1) := by omega
          exact congrArg (fun stop => Except.ok (Instruction.other _, stop)) sum
  · rw [if_neg isPrefix, if_neg isPrefix]
    cases operand? first with
    | none => rfl
    | some operand =>
      dsimp only
      rw [skip_eq small behind, named_eq small behind, named_eq small behind]
      split
      · cases resolve tokens.userStrings rest <;> rfl
      · split
        · cases resolve tokens.fields rest <;> rfl
        · cases operandSize operand 1 rest <;> rfl

theorem run_eq (tokens : Tokens) {limit : Nat} (here : RestAt code pos rest)
    (enough : rest.length ≤ limit) : run tokens code limit pos =
      (decode tokens rest).mapError fun e => .fault (e.shift pos) := by
  induction limit generalizing pos rest with
  | zero =>
    obtain rfl := List.length_eq_zero_iff.mp (Nat.le_zero.mp enough)
    have length := here.length
    rw [List.length_nil] at length
    rw [run, if_pos (by omega), decode]
    rfl
  | succ limit ih =>
    have length := here.length
    cases rest with
    | nil =>
      rw [List.length_nil] at length
      rw [run, if_pos (by omega), decode]
      rfl
    | cons first rest =>
      rw [List.length_cons] at length enough
      rw [run, if_neg (by omega), instruction_eq small here, decode]
      have outcome := stepped tokens first rest
      generalize step tokens first rest = result at outcome
      cases outcome with
      | failed fault => rfl
      | @taken bytes back i head =>
        rw [List.length_append] at enough
        have tail := ih here.tail.append (by omega)
        dsimp only [bind, Except.bind]
        rw [List.drop_left, tail]
        cases decode tokens back with
        | ok is => rfl
        | error e =>
          have shifted : (e.shift (bytes.length + 1)).shift pos =
              e.shift (pos + 1 + bytes.length) := by
            rw [CodeFault.shift_shift]
            congr 1
            omega
          exact congrArg (fun e => Except.error (Halt.fault e)) shifted.symm

end Steps

end Cursor
end Concordance.Cil
