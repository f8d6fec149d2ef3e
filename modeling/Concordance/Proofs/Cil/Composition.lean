import Concordance.Proofs.Cil.Decoding
/-!
Decoding a code in pieces. A code behind one that decodes yields what it yields alone, with the
places of its faults moved. So the fault of a code is that of the instruction behind the longest
part that decodes, and what it tells is the place of that instruction or of the part that is cut.
-/
namespace Concordance.Cil

open Chunk

variable {tokens : Tokens} {code : List UInt8}

/-- The code decodes up to `place`, and no instruction starts there. -/
def BreaksAt (tokens : Tokens) (code : List UInt8) (place : Nat) : Prop :=
  place < code.length ∧ (∃ is, decode tokens (code.take place) = .ok is) ∧
    NoStart tokens (code.drop place)

theorem BreaksAt.unique {p q : Nat} (hp : BreaksAt tokens code p) (hq : BreaksAt tokens code q) :
    p = q := by
  obtain ⟨insideP, ⟨is, decodesP⟩, stopsP⟩ := hp
  obtain ⟨insideQ, ⟨js, decodesQ⟩, stopsQ⟩ := hq
  obtain ⟨cs, frontP, -⟩ := decode_eq_ok.mp decodesP
  obtain ⟨ds, frontQ, -⟩ := decode_eq_ok.mp decodesQ
  have same : codeOf cs ++ code.drop p = codeOf ds ++ code.drop q := by
    rw [frontP, frontQ, List.take_append_drop, List.take_append_drop]
  obtain ⟨rfl, -⟩ := front_unique stopsP stopsQ same
  have length := congrArg List.length (frontP.symm.trans frontQ)
  rw [List.length_take, List.length_take] at length
  omega

theorem decode_append {a : List UInt8} {is : List Instruction} (decodes : decode tokens a = .ok is)
    (b : List UInt8) : decode tokens (a ++ b) = match decode tokens b with
      | .ok js => .ok (is ++ js)
      | .error e => .error (e.shift a.length) := by
  obtain ⟨cs, rfl, rfl⟩ := decode_eq_ok.mp decodes
  exact decode_codeOf_append cs b

theorem exists_breaksAt {e : CodeFault} (fails : decode tokens code = .error e) :
    ∃ place, BreaksAt tokens code place ∧ FailsAt tokens place (code.drop place) e := by
  obtain ⟨cs, rest, rfl, rfl | ⟨stops, e', fault, failsThere⟩⟩ := exists_front tokens code
  · rw [List.append_nil, decode_codeOf] at fails
    cases fails
  · rw [decode_codeOf_append, failsThere] at fails
    obtain rfl := Except.error.inj fails
    have nonempty : 0 < rest.length := by
      cases rest with
      | nil =>
        rw [decode] at failsThere
        cases failsThere
      | cons first rest => exact Nat.zero_lt_succ _
    refine ⟨(codeOf cs).length, ⟨?_, ⟨instructionsOf cs, ?_⟩, ?_⟩, ?_⟩
    · rw [List.length_append]
      omega
    · rw [List.take_left, decode_codeOf]
    · rwa [List.drop_left]
    · rw [List.drop_left]
      exact fault.shift _

/-- A code behind one that decodes yields its own instructions or its own fault, moved. And any
fault is that of the one instruction where the code breaks: its place, or for a part that is cut
the place of that part. -/
theorem decode_composes (tokens : Tokens) :
    (∀ a b is, decode tokens a = .ok is →
      (∀ js, decode tokens b = .ok js → decode tokens (a ++ b) = .ok (is ++ js)) ∧
      ∀ e, decode tokens b = .error e → decode tokens (a ++ b) = .error (e.shift a.length)) ∧
    ∀ code e, decode tokens code = .error e → ∃ place,
      BreaksAt tokens code place ∧ (∀ other, BreaksAt tokens code other → other = place) ∧
      FailsAt tokens place (code.drop place) e ∧
      ∀ offset, e = .truncated offset → place < offset ∧ offset ≤ code.length := by
  refine ⟨fun a b is decodes => ⟨fun js behind => ?_, fun e behind => ?_⟩, fun code e fails => ?_⟩
  · rw [decode_append decodes, behind]
  · rw [decode_append decodes, behind]
  · obtain ⟨place, breaks, fault⟩ := exists_breaksAt fails
    refine ⟨place, breaks, fun other also => also.unique breaks, fault, ?_⟩
    rintro offset rfl
    have inside := breaks.1
    have bounds := fault.bounds
    rw [List.length_drop] at bounds
    omega

theorem decode_composes_cut :
    let ret : List UInt8 := [0x2A]
    let cut : List UInt8 := [0x45, 0x02, 0x00, 0x00, 0x00, 0x00, 0x00, 0x00, 0x00, 0x04]
    decode {} ret = .ok [.other 0x2A] ∧ decode {} cut = .error (.truncated 5) ∧
      decode {} (ret ++ ret) = .ok [.other 0x2A, .other 0x2A] ∧
      decode {} (ret ++ cut) = .error (.truncated 6) ∧
      ∃ place, BreaksAt {} (ret ++ cut) place ∧
        FailsAt {} place ((ret ++ cut).drop place) (.truncated 6) ∧ place < 6 ∧
        6 ≤ (ret ++ cut).length := by
  intro ret cut
  have decodes : decode {} ret = .ok [.other 0x2A] := by cbv
  have fails : decode {} cut = .error (.truncated 5) := by cbv
  obtain ⟨composes, breaks⟩ := decode_composes {}
  have behind := (composes ret cut _ decodes).2 _ fails
  obtain ⟨place, breaksThere, -, fault, bounds⟩ := breaks (ret ++ cut) _ behind
  exact ⟨decodes, fails, (composes ret ret _ decodes).1 _ decodes, behind, place, breaksThere,
    fault, bounds 6 rfl⟩

end Concordance.Cil
