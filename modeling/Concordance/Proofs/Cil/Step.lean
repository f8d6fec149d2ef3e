import Concordance.Proofs.Cil.Grammar
/-!
What one step of decoding can do. Either the code starts with the bytes of an instruction, and the
step takes just these, or the fault tells what is wrong there: an opcode that is none, a token that
stands for nothing, or a part that runs past the end of the code, with the place where it starts.
-/
namespace Concordance.Cil

section Words

private theorem wordBytes_join (a b c d : UInt8) :
    wordBytes (a.toUInt32 ||| b.toUInt32 <<< 8 ||| c.toUInt32 <<< 16 ||| d.toUInt32 <<< 24) =
      [a, b, c, d] := by
  simp only [wordBytes, List.cons.injEq, and_true]
  refine ⟨?_, ?_, ?_, ?_⟩
  all_goals
    apply UInt8.eq_of_toBitVec_eq
    ext i hi
    simp only [UInt32.toBitVec_or, UInt32.toBitVec_shiftLeft, UInt8.toBitVec_toUInt32,
      UInt32.toBitVec_toUInt8, UInt32.toBitVec_shiftRight]
    simp
  all_goals grind

theorem exists_wordBytes_of_word? {code : List UInt8} {w : UInt32} (h : word? code = some w) :
    ∃ rest, code = wordBytes w ++ rest := by
  unfold word? at h
  split at h
  · obtain rfl := Option.some.inj h
    exact ⟨_, by rw [wordBytes_join]; rfl⟩
  · cases h

theorem length_of_word?_eq_none {code : List UInt8} (h : word? code = none) : code.length < 4 := by
  rcases code with _ | ⟨a, _ | ⟨b, _ | ⟨c, _ | ⟨d, rest⟩⟩⟩⟩ <;> simp [word?] at h ⊢

end Words

namespace CodeFault

@[simp] theorem shift_zero (e : CodeFault) : e.shift 0 = e := by
  cases e <;> simp [shift]

theorem shift_shift (e : CodeFault) (m n : Nat) : (e.shift m).shift n = e.shift (n + m) := by
  cases e <;> simp [shift, Nat.add_assoc]

end CodeFault

inductive IsOpcode : List UInt8 → Operand → Prop
  | oneByte {first : UInt8} {operand : Operand} (known : operand? first = some operand) :
    IsOpcode [first] operand
  | twoBytes {second : UInt8} {operand : Operand} (known : prefixedOperand? second = some operand) :
    IsOpcode [prefixByte, second] operand

/-- What starts at the offset into the instruction at the front runs past the end of the code. -/
inductive RunsOut : List UInt8 → Nat → Prop
  | opcode : RunsOut [prefixByte] 1
  /-- Of the operand of a switch the number of targets comes first. -/
  | operand {opcode rest : List UInt8} {operand : Operand} (known : IsOpcode opcode operand)
    (short : rest.length < operand.width?.getD 4) : RunsOut (opcode ++ rest) opcode.length
  | table {opcode rest : List UInt8} {count : UInt32} (known : IsOpcode opcode .switch)
    (short : rest.length < 4 * count.toNat) :
    RunsOut (opcode ++ (wordBytes count ++ rest)) (opcode.length + 4)

/-- The fault of a code in which no instruction starts, as seen from `place` bytes before. -/
inductive FailsAt (tokens : Tokens) (place : Nat) : List UInt8 → CodeFault → Prop
  | unknownOpcode {first : UInt8} {rest : List UInt8} (notPrefix : first ≠ prefixByte)
    (unknown : operand? first = none) :
    FailsAt tokens place (first :: rest) (.unknownOpcode place first.toUInt16)
  | unknownPrefixed {second : UInt8} {rest : List UInt8}
    (unknown : prefixedOperand? second = none) :
    FailsAt tokens place (prefixByte :: second :: rest)
      (.unknownOpcode place (0xFE00 ||| second.toUInt16))
  | unresolvedString {token : UInt32} {rest : List UInt8}
    (unresolved : tokens.userStrings.get? token = none) :
    FailsAt tokens place (loadStringByte :: (wordBytes token ++ rest))
      (.unresolvedToken place token)
  | unresolvedField {token : UInt32} {rest : List UInt8}
    (unresolved : tokens.fields.get? token = none) :
    FailsAt tokens place (storeStaticFieldByte :: (wordBytes token ++ rest))
      (.unresolvedToken place token)
  | truncated {code : List UInt8} {offset : Nat} (cut : RunsOut code offset) :
    FailsAt tokens place code (.truncated (place + offset))

/-- What may come of a step: an instruction whose bytes it takes, or the fault. -/
inductive Stepped (tokens : Tokens) (first : UInt8) :
    List UInt8 → Except CodeFault (Instruction × Nat) → Prop
  | taken {bytes back : List UInt8} {i : Instruction} (head : Encodes tokens (first :: bytes) i) :
    Stepped tokens first (bytes ++ back) (.ok (i, bytes.length))
  | failed {rest : List UInt8} {e : CodeFault} (fault : FailsAt tokens 0 (first :: rest) e) :
    Stepped tokens first rest (.error e)

theorem RunsOut.bounds {code : List UInt8} {offset : Nat} (h : RunsOut code offset) :
    0 < offset ∧ offset ≤ code.length := by
  have opcodeBytes {opcode : List UInt8} {operand : Operand} (h : IsOpcode opcode operand) :
      0 < opcode.length := by
    cases h <;> simp
  cases h with
  | opcode => decide
  | operand known short =>
    have length := opcodeBytes known
    rw [List.length_append]
    omega
  | table known short =>
    rw [List.length_append, List.length_append, length_wordBytes]
    omega

theorem FailsAt.shift {tokens : Tokens} {place : Nat} {code : List UInt8} {e : CodeFault}
    (h : FailsAt tokens place code e) (n : Nat) : FailsAt tokens (n + place) code (e.shift n) := by
  cases h with
  | unknownOpcode notPrefix unknown => exact .unknownOpcode notPrefix unknown
  | unknownPrefixed unknown => exact .unknownPrefixed unknown
  | unresolvedString unresolved => exact .unresolvedString unresolved
  | unresolvedField unresolved => exact .unresolvedField unresolved
  | truncated cut =>
    have moved : FailsAt tokens (n + place) code _ := .truncated cut
    rwa [Nat.add_assoc] at moved

theorem RunsOut.failsAt {code : List UInt8} {offset : Nat} (h : RunsOut code offset)
    (tokens : Tokens) : FailsAt tokens 0 code (.truncated offset) := by
  have failed : FailsAt tokens 0 code _ := .truncated h
  rwa [Nat.zero_add] at failed

theorem FailsAt.bounds {tokens : Tokens} {place offset : Nat} {code : List UInt8}
    (h : FailsAt tokens place code (.truncated offset)) :
    place < offset ∧ offset ≤ place + code.length := by
  cases h with
  | truncated cut =>
    have bounds := cut.bounds
    omega

section Cases

variable {tokens : Tokens} {first : UInt8}

theorem operandSize_cases {opcode : List UInt8} {operand : Operand}
    (known : IsOpcode opcode operand) (rest : List UInt8) :
    (∃ bytes back, rest = bytes ++ back ∧ IsOperand operand bytes ∧
      operandSize operand opcode.length rest = .ok bytes.length) ∨
    ∃ offset, RunsOut (opcode ++ rest) offset ∧
      operandSize operand opcode.length rest = .error (.truncated offset) := by
  unfold operandSize
  cases fixed : operand.width? with
  | some width =>
    by_cases enough : width ≤ rest.length
    · have length : (rest.take width).length = width := List.length_take_of_le enough
      refine .inl ⟨rest.take width, rest.drop width, (List.take_append_drop _ _).symm,
        .fixed (fixed.trans (congrArg some length.symm)), ?_⟩
      simp only [if_pos enough, length]
    · refine .inr ⟨opcode.length, .operand known ?_, by simp only [if_neg enough]⟩
      rw [fixed, Option.getD_some]
      omega
  | none =>
    obtain rfl : operand = .switch := by
      cases operand with
      | switch => rfl
      | _ => cases fixed
    cases counted : word? rest with
    | none =>
      refine .inr ⟨opcode.length, .operand known ?_, rfl⟩
      exact length_of_word?_eq_none counted
    | some count =>
      obtain ⟨behind, rfl⟩ := exists_wordBytes_of_word? counted
      rw [List.length_append, length_wordBytes]
      by_cases enough : 4 + 4 * count.toNat ≤ 4 + behind.length
      · have length : (behind.take (4 * count.toNat)).length = 4 * count.toNat :=
          List.length_take_of_le (by omega)
        refine .inl ⟨wordBytes count ++ behind.take (4 * count.toNat),
          behind.drop (4 * count.toNat), ?_, .switch length, ?_⟩
        · rw [List.append_assoc, List.take_append_drop]
        · simp only [if_pos enough, List.length_append, length_wordBytes, length]
      · refine .inr ⟨opcode.length + 4, .table known (by omega), by simp only [if_neg enough]⟩

theorem resolve_cases (rest : List UInt8) (table : SortedMap UInt32 String) :
    (∃ token back s, rest = wordBytes token ++ back ∧ table.get? token = some s ∧
      resolve table rest = .ok s) ∨
    (∃ token back, rest = wordBytes token ++ back ∧ table.get? token = none ∧
      resolve table rest = .error (.unresolvedToken 0 token)) ∨
    (rest.length < 4 ∧ resolve table rest = .error (.truncated 1)) := by
  unfold resolve
  cases read : word? rest with
  | none => exact .inr (.inr ⟨length_of_word?_eq_none read, rfl⟩)
  | some token =>
    obtain ⟨back, rfl⟩ := exists_wordBytes_of_word? read
    cases found : table.get? token with
    | none => exact .inr (.inl ⟨token, back, rfl, found, by simp only [found]⟩)
    | some s => exact .inl ⟨token, back, s, rfl, found, by simp only [found]⟩

theorem stepped_other (more : List UInt8) {operand : Operand} {opcode : UInt16}
    (known : IsOpcode (first :: more) operand)
    (encodes : ∀ bytes, IsOperand operand bytes → IsOther (first :: (more ++ bytes)) opcode)
    (rest : List UInt8) :
    Stepped tokens first (more ++ rest)
      ((operandSize operand (more.length + 1) rest).map (.other opcode, · + more.length)) := by
  rw [← List.length_cons (a := first)]
  rcases operandSize_cases known rest with
    ⟨bytes, back, rfl, carried, size⟩ | ⟨offset, cut, size⟩
  · have taken : Stepped tokens first (more ++ bytes ++ back) _ :=
      .taken (.other (encodes bytes carried))
    rw [List.append_assoc, List.length_append, Nat.add_comm] at taken
    rw [size]
    exact taken
  · rw [size]
    exact .failed (cut.failsAt tokens)

theorem stepped_token {table : SortedMap UInt32 String} (make : String → Instruction)
    (known : operand? first = some .u32)
    (encodes : ∀ token s, table.get? token = some s →
      Encodes tokens (first :: wordBytes token) (make s))
    (fails : ∀ token back, table.get? token = none →
      FailsAt tokens 0 (first :: (wordBytes token ++ back)) (.unresolvedToken 0 token))
    (rest : List UInt8) : Stepped tokens first rest ((resolve table rest).map (make ·, 4)) := by
  rcases resolve_cases rest table with
    ⟨token, back, s, rfl, found, resolved⟩ | ⟨token, back, rfl, found, resolved⟩ | ⟨short, resolved⟩
  · rw [resolved]
    exact .taken (encodes token s found)
  · rw [resolved]
    exact .failed (fails token back found)
  · have cut : RunsOut (first :: rest) 1 := .operand (.oneByte known) short
    rw [resolved]
    exact .failed (cut.failsAt tokens)

/-- A step takes the bytes of an instruction off the code, or it tells what is wrong there. -/
theorem stepped (tokens : Tokens) (first : UInt8) (rest : List UInt8) :
    Stepped tokens first rest (step tokens first rest) := by
  unfold step
  by_cases isPrefix : first = prefixByte
  · subst isPrefix
    rw [if_pos rfl]
    cases rest with
    | nil => exact .failed (RunsOut.opcode.failsAt tokens)
    | cons second rest =>
      dsimp only
      cases known : prefixedOperand? second with
      | none => exact .failed (.unknownPrefixed known)
      | some operand =>
        have encodes (bytes : List UInt8) (carried : IsOperand operand bytes) :
            IsOther (prefixByte :: ([second] ++ bytes)) (0xFE00 ||| second.toUInt16) :=
          .twoBytes known carried
        exact stepped_other [second] (.twoBytes known) encodes rest
  · rw [if_neg isPrefix]
    cases known : operand? first with
    | none => exact .failed (.unknownOpcode isPrefix known)
    | some operand =>
      by_cases isLoad : first = loadStringByte
      · subst isLoad
        simp only [if_pos]
        exact stepped_token .loadString rfl (fun _ _ found => .loadString found)
          (fun _ _ missing => .unresolvedString missing) rest
      · by_cases isStore : first = storeStaticFieldByte
        · subst isStore
          simp only [if_pos, if_neg isLoad]
          exact stepped_token .storeStaticField rfl (fun _ _ found => .storeStaticField found)
            (fun _ _ missing => .unresolvedField missing) rest
        · simp only [if_neg isLoad, if_neg isStore]
          have encodes (bytes : List UInt8) (carried : IsOperand operand bytes) :
              IsOther (first :: ([] ++ bytes)) first.toUInt16 :=
            .oneByte isLoad isStore known carried
          exact stepped_other [] (.oneByte known) encodes rest

end Cases

end Concordance.Cil
