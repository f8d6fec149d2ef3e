import Concordance.Binding
import Concordance.Proofs.Cil.Header
import Concordance.Proofs.Newcomers
/-!
Recovery of the name tables that a compiler writes. Each row of a table loads a name and stores it
into a field; what else the initializer does leaves no trace.
-/
namespace Concordance.Binding

open Cil

/-- An instruction that neither loads a string nor stores into a field, with its bytes. -/
structure Filler where
  bytes : List UInt8
  opcode : UInt16
  wellFormed : IsOther bytes opcode

namespace Filler

def codeOf (fillers : List Filler) : List UInt8 := fillers.flatMap (·.bytes)

def instructionsOf (fillers : List Filler) : List Instruction := fillers.map (.other ·.opcode)

theorem encodesAll (tokens : Tokens) (fillers : List Filler) :
    EncodesAll tokens (codeOf fillers) (instructionsOf fillers) := by
  induction fillers with
  | nil => exact .nil
  | cons f fs ih => exact .cons (.other f.wellFormed) ih

theorem recoverFrom_append (fillers : List Filler) (pending : Option String) (seen : List String)
    (is : List Instruction) :
    recoverFrom pending seen (instructionsOf fillers ++ is) = recoverFrom pending seen is := by
  induction fillers with
  | nil => rfl
  | cons f fs ih => exact ih

end Filler

/-- A binding as an initializer writes it, among other instructions. -/
structure Row where
  binding : Binding
  stringToken : UInt32
  fieldToken : UInt32
  before : List Filler := []
  inside : List Filler := []
  after : List Filler := []

namespace Row

def Resolves (tokens : Tokens) (r : Row) : Prop :=
  tokens.userStrings.get? r.stringToken = some r.binding.logicalName ∧
    tokens.fields.get? r.fieldToken = some r.binding.fieldName

def code (r : Row) : List UInt8 :=
  Filler.codeOf r.before ++ ((loadStringByte :: wordBytes r.stringToken) ++
    (Filler.codeOf r.inside ++ ((storeStaticFieldByte :: wordBytes r.fieldToken) ++
      Filler.codeOf r.after)))

def instructions (r : Row) : List Instruction :=
  Filler.instructionsOf r.before ++ .loadString r.binding.logicalName ::
    (Filler.instructionsOf r.inside ++ .storeStaticField r.binding.fieldName ::
      Filler.instructionsOf r.after)

theorem encodesAll {tokens : Tokens} {r : Row} (h : r.Resolves tokens) :
    EncodesAll tokens r.code r.instructions := by
  obtain ⟨name, field⟩ := h
  have stored := EncodesAll.cons (.storeStaticField field) (Filler.encodesAll tokens r.after)
  have loaded := EncodesAll.cons (.loadString name)
    ((Filler.encodesAll tokens r.inside).append stored)
  exact (Filler.encodesAll tokens r.before).append loaded

/-- A row binds its name, unless that is bound already, and leaves none pending. -/
theorem recoverFrom_append (r : Row) (pending : Option String) (seen : List String)
    (is : List Instruction) :
    recoverFrom pending seen (r.instructions ++ is) =
      if r.binding.logicalName ∈ seen then recoverFrom none seen is
      else r.binding :: recoverFrom none (r.binding.logicalName :: seen) is := by
  simp only [instructions, List.append_assoc, List.cons_append, Filler.recoverFrom_append,
    recoverFrom]

end Row

def codeOf (rows : List Row) : List UInt8 := rows.flatMap (·.code)

def instructionsOf (rows : List Row) : List Instruction := rows.flatMap (·.instructions)

theorem encodesAll_codeOf {tokens : Tokens} {rows : List Row}
    (h : ∀ r ∈ rows, r.Resolves tokens) :
    EncodesAll tokens (codeOf rows) (instructionsOf rows) := by
  induction rows with
  | nil => exact .nil
  | cons r rows ih =>
    exact (Row.encodesAll (h r List.mem_cons_self)).append
      (ih fun q hq => h q (List.mem_cons_of_mem _ hq))

/-- The rows of a table yield the bindings whose logical name no binding before them has. -/
theorem recoverFrom_instructionsOf (rows : List Row) {seen : List String} {before : List Binding}
    (h : ∀ s, s ∈ seen ↔ s ∈ before.map (·.logicalName)) :
    recoverFrom none seen (instructionsOf rows) =
      newcomers (·.logicalName) before (rows.map (·.binding)) := by
  induction rows generalizing seen before with
  | nil => rfl
  | cons r rows ih =>
    have step := r.recoverFrom_append none seen (instructionsOf rows)
    rw [instructionsOf, List.flatMap_cons, ← instructionsOf, step, List.map_cons, newcomers]
    by_cases known : r.binding.logicalName ∈ seen
    · have covers : ∀ s, s ∈ seen ↔ s ∈ (before ++ [r.binding]).map (·.logicalName) := by
        intro s
        rw [h, mem_keys_snoc_of_mem ((h _).mp known)]
      rw [if_pos known, if_pos ((h _).mp known), List.nil_append, ih covers]
    · have covers : ∀ s, s ∈ r.binding.logicalName :: seen ↔
          s ∈ (before ++ [r.binding]).map (·.logicalName) := by
        intro s
        rw [List.mem_cons, h, mem_keys_snoc, or_comm]
      rw [if_neg known, if_neg fun hs => known ((h _).mpr hs), List.singleton_append, ih covers]

def ofMethod (tokens : Tokens) (raw : List UInt8) : Except CodeFault (List Binding) :=
  (Body.ofMethod raw).bind fun body => ofInitializer (.code { body with tokens })

/-- A name table survives the trip through the bytes of a method: every pair is recovered in
order, up to those whose logical name came before. -/
theorem ofMethod_codeOf (header : Header) (tokens : Tokens) (rows : List Row) (tail : List UInt8)
    (resolves : ∀ r ∈ rows, r.Resolves tokens) (fits : (codeOf rows).length < header.limit) :
    ofMethod tokens (header.bytes (codeOf rows).length ++ codeOf rows ++ tail) =
      .ok (newcomers (·.logicalName) [] (rows.map (·.binding))) := by
  have decoded := (encodesAll_codeOf resolves).decode
  have recovered : recoverFrom none [] (instructionsOf rows) =
      newcomers (·.logicalName) [] (rows.map (·.binding)) :=
    recoverFrom_instructionsOf rows fun _ => Iff.rfl
  rw [ofMethod, Body.ofMethod_bytes fits tail, Except.bind]
  simp only [ofInitializer, Initializer.instructions?, Body.decode, decoded, Except.map, recover,
    recovered]

theorem ofMethod_codeOf_repeated :
    let tokens : Tokens := {
      userStrings := .ofList [(0x70000001, "add_child")]
      fields := .ofList [(0x04000001, "AddChild"), (0x04000002, "AddOther")] }
    let call : Filler := {
      bytes := [0x28, 0x72, 0x01, 0x00, 0x70]
      opcode := 0x28
      wellFormed := .oneByte (by decide) (by decide) rfl (.fixed rfl) }
    let rows : List Row := [
      { binding := ⟨"add_child", "AddChild"⟩
        stringToken := 0x70000001
        fieldToken := 0x04000001
        inside := [call] },
      { binding := ⟨"add_child", "AddOther"⟩
        stringToken := 0x70000001
        fieldToken := 0x04000002 }]
    ofMethod tokens (Header.tiny.bytes (codeOf rows).length ++ codeOf rows ++ [0x2A]) =
      .ok [⟨"add_child", "AddChild"⟩] := by
  intro tokens call rows
  have resolves : ∀ r ∈ rows, r.Resolves tokens := by
    intro r hr
    simp only [rows, List.mem_cons, List.not_mem_nil, or_false] at hr
    rcases hr with rfl | rfl <;> exact ⟨by decide +kernel, by decide +kernel⟩
  exact ofMethod_codeOf .tiny tokens rows [0x2A] resolves (by decide)

end Concordance.Binding
