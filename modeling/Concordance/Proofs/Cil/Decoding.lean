import Concordance.Proofs.Cil.Cursor
/-!
Decoding accepts just the codes that are put together from well-formed instructions, and a code can
be put together in one way at most. Any code is as many instructions as decode, up to its end or to
a place where none starts.
-/
namespace Concordance.Cil

@[ext]
structure Chunk (tokens : Tokens) where
  bytes : List UInt8
  instruction : Instruction
  encodes : Encodes tokens bytes instruction

variable {tokens : Tokens}

namespace Encodes

variable {bytes bytes' rest rest' : List UInt8} {i i' : Instruction}

theorem length_pos (h : Encodes tokens bytes i) : 0 < bytes.length := by
  obtain ⟨first, operand, rfl, -⟩ := h.step []
  exact Nat.zero_lt_succ _

/-- The bytes of an instruction are not the front of another's. -/
theorem unique (h : Encodes tokens bytes i) (h' : Encodes tokens bytes' i')
    (same : bytes ++ rest = bytes' ++ rest') : bytes = bytes' ∧ i = i' ∧ rest = rest' := by
  obtain ⟨first, operand, rfl, taken⟩ := h.step rest
  obtain ⟨first', operand', rfl, taken'⟩ := h'.step rest'
  rw [List.cons_append, List.cons_append] at same
  obtain ⟨rfl, behind⟩ := List.cons.inj same
  rw [behind, taken'] at taken
  obtain ⟨rfl, length⟩ := Prod.mk.inj (Except.ok.inj taken)
  obtain ⟨rfl, rfl⟩ := List.append_inj behind length.symm
  exact ⟨rfl, rfl, rfl⟩

end Encodes

namespace Chunk

def codeOf (cs : List (Chunk tokens)) : List UInt8 := cs.flatMap (·.bytes)

def instructionsOf (cs : List (Chunk tokens)) : List Instruction := cs.map (·.instruction)

theorem length_le (cs : List (Chunk tokens)) : cs.length ≤ (codeOf cs).length := by
  induction cs with
  | nil => exact Nat.zero_le _
  | cons c cs ih =>
    have own := c.encodes.length_pos
    simp only [codeOf, List.flatMap_cons, List.length_cons, List.length_append] at ih ⊢
    omega

end Chunk

open Chunk

def NoStart (tokens : Tokens) (code : List UInt8) : Prop :=
  ∀ bytes rest i, code = bytes ++ rest → ¬Encodes tokens bytes i

theorem noStart_nil : NoStart tokens [] := by
  intro bytes rest i same encodes
  obtain ⟨rfl, -⟩ := List.append_eq_nil_iff.mp same.symm
  exact Nat.lt_irrefl _ encodes.length_pos

theorem noStart_of_step {first : UInt8} {rest : List UInt8} {e : CodeFault}
    (fails : step tokens first rest = .error e) : NoStart tokens (first :: rest) := by
  intro bytes back i same encodes
  obtain ⟨first, operand, rfl, taken⟩ := encodes.step back
  rw [List.cons_append] at same
  obtain ⟨rfl, rfl⟩ := List.cons.inj same
  rw [taken] at fails
  cases fails

theorem front_unique {cs ds : List (Chunk tokens)} {rest rest' : List UInt8}
    (stops : NoStart tokens rest) (stops' : NoStart tokens rest')
    (same : codeOf cs ++ rest = codeOf ds ++ rest') : cs = ds ∧ rest = rest' := by
  induction cs generalizing ds with
  | nil =>
    cases ds with
    | nil => exact ⟨rfl, same⟩
    | cons d ds =>
      rw [codeOf, codeOf, List.flatMap_cons, List.append_assoc] at same
      exact absurd d.encodes (stops _ _ _ same)
  | cons c cs ih =>
    rw [codeOf, List.flatMap_cons, List.append_assoc] at same
    cases ds with
    | nil => exact absurd c.encodes (stops' _ _ _ same.symm)
    | cons d ds =>
      rw [codeOf, List.flatMap_cons, List.append_assoc] at same
      obtain ⟨bytes, instruction, behind⟩ := c.encodes.unique d.encodes same
      obtain ⟨rfl, rfl⟩ := ih behind
      exact ⟨congrArg (· :: cs) (Chunk.ext bytes instruction), rfl⟩

/-- A code is made of instructions up to its end, or up to a place where none starts. -/
theorem exists_front (tokens : Tokens) (code : List UInt8) :
    ∃ (cs : List (Chunk tokens)) (rest : List UInt8), code = codeOf cs ++ rest ∧
      (rest = [] ∨ NoStart tokens rest ∧
        ∃ e, FailsAt tokens 0 rest e ∧ decode tokens rest = .error e) := by
  induction length : code.length using Nat.strongRecOn generalizing code with
  | ind n ih =>
    cases code with
    | nil => exact ⟨[], [], rfl, .inl rfl⟩
    | cons first rest =>
      have outcome := stepped tokens first rest
      cases stepResult : step tokens first rest with
      | error e =>
        rw [stepResult] at outcome
        have failed : FailsAt tokens 0 (first :: rest) e := by
          cases outcome with
          | failed fault => exact fault
        refine ⟨[], first :: rest, rfl, .inr ⟨noStart_of_step stepResult, e, failed, ?_⟩⟩
        rw [decode, stepResult]
      | ok taken =>
        rw [stepResult] at outcome
        cases outcome with
        | @taken bytes back i head =>
          rw [List.length_cons, List.length_append] at length
          obtain ⟨cs, rest, rfl, stops⟩ := ih back.length (by omega) back rfl
          exact ⟨⟨first :: bytes, i, head⟩ :: cs, rest, by simp [codeOf], stops⟩

theorem decode_codeOf_append (cs : List (Chunk tokens)) (rest : List UInt8) :
    decode tokens (codeOf cs ++ rest) = match decode tokens rest with
      | .ok is => .ok (instructionsOf cs ++ is)
      | .error e => .error (e.shift (codeOf cs).length) := by
  induction cs with
  | nil => cases h : decode tokens rest <;> simp [codeOf, instructionsOf, h]
  | cons c cs ih =>
    obtain ⟨first, operand, bytes, taken⟩ := c.encodes.step (codeOf cs ++ rest)
    rw [codeOf, List.flatMap_cons, List.append_assoc, ← codeOf, bytes, List.cons_append, decode,
      taken]
    simp only [List.drop_left, ih]
    cases decode tokens rest with
    | ok is => rfl
    | error e =>
      have length : (first :: operand ++ codeOf cs).length =
          operand.length + 1 + (codeOf cs).length := by
        rw [List.length_append, List.length_cons]
      simp only [CodeFault.shift_shift, length]

theorem decode_codeOf (cs : List (Chunk tokens)) :
    decode tokens (codeOf cs) = .ok (instructionsOf cs) := by
  have whole := decode_codeOf_append cs []
  rw [List.append_nil, decode] at whole
  simpa using whole

theorem decode_eq_ok {code : List UInt8} {is : List Instruction} : decode tokens code = .ok is ↔
    ∃ cs : List (Chunk tokens), codeOf cs = code ∧ instructionsOf cs = is := by
  constructor
  · intro decodes
    obtain ⟨cs, rest, rfl, rfl | ⟨-, e, -, fails⟩⟩ := exists_front tokens code
    · rw [List.append_nil, decode_codeOf] at decodes
      exact ⟨cs, (List.append_nil _).symm, Except.ok.inj decodes⟩
    · rw [decode_codeOf_append, fails] at decodes
      cases decodes
  · rintro ⟨cs, rfl, rfl⟩
    exact decode_codeOf cs

/-- Decoding accepts the codes that are put together from well-formed instructions, which can be
done in one way at most, and no others. It takes at most as many steps as there are bytes, and its
positions fit 64 bits in any code that fits into memory. -/
theorem Body.decode_grammar (b : Body) :
    (∀ is, b.decode = .ok is ↔
      ∃ cs : List (Chunk b.tokens), codeOf cs = b.code ∧ instructionsOf cs = is) ∧
    (∀ cs ds : List (Chunk b.tokens), codeOf cs = codeOf ds → cs = ds) ∧
    (∀ is, b.decode = .ok is → is.length ≤ b.code.length) ∧
    (b.code.length < 2 ^ 63 →
      Cursor.run b.tokens b.code b.code.length 0 = b.decode.mapError .fault) := by
  refine ⟨fun is => decode_eq_ok, fun cs ds same => ?_, fun is decodes => ?_, fun small => ?_⟩
  · have ends : codeOf cs ++ [] = codeOf ds ++ [] := by rw [same]
    exact (front_unique noStart_nil noStart_nil ends).1
  · obtain ⟨cs, code, rfl⟩ := decode_eq_ok.mp decodes
    rw [← code, instructionsOf, List.length_map]
    exact length_le cs
  · have start : Cursor.RestAt b.code 0 b.code := ⟨List.drop_zero, Nat.zero_le _⟩
    rw [Cursor.run_eq small b.tokens start (Nat.le_refl _)]
    simp only [CodeFault.shift_zero]
    rfl

theorem Body.decode_grammar_switch :
    let b : Body := {
      code := [0x72, 0x01, 0x00, 0x00, 0x70, 0x45, 0x02, 0x00, 0x00, 0x00, 0x80, 0x80, 0x80, 0x80,
        0x80, 0x80, 0x80, 0x80, 0xFE, 0x0C, 0x01, 0x00]
      tokens := { userStrings := .ofList [(0x70000001, "add_child")] } }
    let is : List Instruction := [.loadString "add_child", .other 0x45, .other 0xFE0C]
    b.code.length < 2 ^ 63 ∧ b.decode = .ok is ∧ is.length ≤ b.code.length ∧
      Cursor.run b.tokens b.code 22 0 = b.decode.mapError .fault := by
  intro b is
  have small : b.code.length < 2 ^ 63 := by decide
  let load : Chunk b.tokens := {
    bytes := loadStringByte :: wordBytes 0x70000001
    instruction := .loadString "add_child"
    encodes := .loadString (by decide +kernel) }
  let switch : Chunk b.tokens := {
    bytes := 0x45 :: (wordBytes 2 ++ [0x80, 0x80, 0x80, 0x80, 0x80, 0x80, 0x80, 0x80])
    instruction := .other 0x45
    encodes := .other (.oneByte (by decide) (by decide) rfl (.switch rfl)) }
  let loadLocal : Chunk b.tokens := {
    bytes := [prefixByte, 0x0C, 0x01, 0x00]
    instruction := .other 0xFE0C
    encodes := .other (.twoBytes rfl (.fixed rfl)) }
  obtain ⟨accepts, -, bounded, run⟩ := Body.decode_grammar b
  have decodes : b.decode = .ok is := (accepts is).mpr ⟨[load, switch, loadLocal], rfl, rfl⟩
  exact ⟨small, decodes, bounded is decodes, run small⟩

end Concordance.Cil
