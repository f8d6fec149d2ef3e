import Concordance.Json.Node
import Concordance.SortedMap
/-!
Reading a scanned tree for a typed value, and writing it. A decoder is given the number of levels
that arrays and objects may still nest. A record's fields are listed once, as a layout; from it come
the object form, the array form (fields in order), the checks for missing and repeated fields, and
the written members.
-/
namespace Concordance.Json

def maxDepth : Nat := 127

abbrev Decoder (α : Type) := Nat → Node → Except Fault α

structure Codec (α : Type) where
  decode : Decoder α
  encode : α → Json

def Decoder.parse (d : Decoder α) (text : String) : Except Fault α :=
  match scan text with
  | (node, rest) => do
    let a ← d maxDepth node
    match rest with
    | none => throw .malformed
    | some s => if (skipSpace s).isEmpty then return a else throw .malformed

/-- The decoder that `step` defines in terms of itself. Each level of nesting uses one unfolding,
so as many unfoldings as levels are left are enough. -/
def Decoder.fix (step : Decoder α → Decoder α) : Decoder α := fun depth =>
  go (depth + 1) depth
where
  go : Nat → Decoder α
    | 0 => fun _ _ => .error .malformed
    | n + 1 => step (go n)

namespace Decoder

def map (f : α → β) (d : Decoder α) : Decoder β := fun depth node => (d depth node).map f

def string : Decoder String := fun _ node =>
  match node with
  | .string q =>
    match q.value with
    | .ok s => .ok s
    | .error s => .error s.fault
  | _ => .error node.refusal

def bool : Decoder Bool := fun _ node =>
  match node with
  | .bool b => .ok b
  | _ => .error node.refusal

def intWithin (lo hi : Int) : Decoder Int := fun _ node =>
  match node with
  | .number n =>
    match n.int? with
    | some i => if lo ≤ i ∧ i ≤ hi then .ok i else .error node.refusal
    | none => .error node.refusal
  | _ => .error node.refusal

def natBelow (size : Nat) : Decoder Nat := (intWithin 0 (Int.ofNat size - 1)).map Int.toNat

def uint8 : Decoder UInt8 := (natBelow UInt8.size).map UInt8.ofNat
def uint16 : Decoder UInt16 := (natBelow UInt16.size).map UInt16.ofNat
def uint32 : Decoder UInt32 := (natBelow UInt32.size).map UInt32.ofNat
def uint64 : Decoder UInt64 := (natBelow UInt64.size).map UInt64.ofNat
def int64 : Decoder Int64 :=
  (intWithin Int64.minValue.toInt Int64.maxValue.toInt).map Int64.ofInt

def option (d : Decoder α) : Decoder (Option α) := fun depth node =>
  match node with
  | .null => .ok none
  | _ => (d depth node).map some

def items (d : Node → Except Fault α) : List Node → Except Fault (List α)
  | [] => .ok []
  | n :: ns => do
    let a ← d n
    let as ← items d ns
    return a :: as

def list (d : Decoder α) : Decoder (List α) := fun depth node =>
  match node with
  | .array ns ending =>
    match depth with
    | 0 => .error .malformed
    | depth + 1 => do
      let as ← items (d depth) ns
      ending.check
      return as
  | _ => .error node.refusal

/-- Decode the members in order; a repeated key keeps its last value. -/
def members [LT κ] [DecidableLT κ] [LE κ] [Std.IsLinearOrder κ] [Std.LawfulOrderLT κ]
    (key : Node → Except Fault κ) (d : Node → Except Fault α) :
    SortedMap κ α → List (Node × Node) → Except Fault (SortedMap κ α)
  | m, [] => .ok m
  | m, (k, n) :: rest => do
    let k ← key k
    let a ← d n
    members key d (m.insert k a) rest

def mapWith [LT κ] [DecidableLT κ] [LE κ] [Std.IsLinearOrder κ] [Std.LawfulOrderLT κ]
    (key : Node → Except Fault κ) (d : Decoder α) : Decoder (SortedMap κ α) := fun depth node =>
  match node with
  | .object ms ending =>
    match depth with
    | 0 => .error .malformed
    | depth + 1 => do
      let m ← members key (d depth) .empty ms
      ending.check
      return m
  | _ => .error node.refusal

def nameMap (d : Decoder α) : Decoder (NameMap α) := mapWith Node.key d

def tokenKey : Node → Except Fault UInt32
  | .string q => q.token
  | _ => .error .malformed

def tokenMap (d : Decoder α) : Decoder (SortedMap UInt32 α) := mapWith tokenKey d

end Decoder

inductive Variant (α : Type) where
  | plain (a : α)
  | carrying (d : Decoder α)

/-- One of several named variants: its name alone if it carries nothing, else an object with one
member. -/
def Decoder.variant (cases : List (String × Variant α)) : Decoder α := fun depth node =>
  let find (name : String) : Except Fault (Variant α) :=
    match cases.lookup name with
    | some v => .ok v
    | none => .error (.unknownVariant name (cases.map (·.1)))
  match node with
  | .string _ => do
    match ← find (← node.key) with
    | .plain a => return a
    | .carrying _ => throw .unsuitable
  | .object ms ending =>
    match depth with
    | 0 => .error .malformed
    | depth + 1 =>
      match ms with
      | [] => .error (if ending = .cut then .endOfText else .malformed)
      | (key, payload) :: others => do
        let name ← match key with
          | .string _ => key.key
          | _ => throw key.refusal
        let a ← match ← find name with
          | .plain a =>
            match payload with
            | .null => pure a
            | _ => throw payload.refusal
          | .carrying d => d depth payload
        match others, ending with
        | [], .closed => return a
        | [], .cut => throw .endOfText
        | _, _ => throw .malformed
  | .absent s => .error s.fault
  | _ => .error .malformed

/-- The fields of a record. `δ` is the record while it is being read, `ρ` its contents. -/
structure Layout (δ ρ : Type) where
  start : δ
  /-- Read a field into the draft; `none` if the record has no field of this name. -/
  put : String → (depth : Nat) → Node → δ → Option (Except Fault δ)
  finish : δ → Except Fault ρ
  /-- Read the fields from consecutive items; the items left over are returned. -/
  take : (depth : Nat) → Ending → List Node → Except Fault (ρ × List Node)
  members : ρ → List (String × Json)

namespace Layout

/-- A single field. `default` is its value where it is missing, and it is left out of the written
form where `omitted` holds. -/
def single (name : String) (c : Codec α) (default : Option α) (omitted : α → Bool) :
    Layout (Option α) α where
  start := none
  put key depth node draft :=
    if key = name then
      some (if draft.isSome then .error (.duplicateField name) else (c.decode depth node).map some)
    else none
  finish
    | some a => .ok a
    | none =>
      match default with
      | some a => .ok a
      | none => .error (.missingField name)
  take depth ending
    | n :: ns => (c.decode depth n).map (·, ns)
    | [] => do
      ending.check
      match default with
      | some a => return (a, [])
      | none => throw .unsuitable
  members a := if omitted a then [] else [(name, c.encode a)]

def required (name : String) (c : Codec α) : Layout (Option α) α :=
  single name c none fun _ => false

def optional (name : String) (c : Codec α) (default : α) : Layout (Option α) α :=
  single name c (some default) fun _ => false

def flag (name : String) : Layout (Option Bool) Bool :=
  single name ⟨Decoder.bool, .bool⟩ (some false) fun _ => false

def omittable (name : String) (c : Codec (Option α)) : Layout (Option (Option α)) (Option α) :=
  single name c (some none) Option.isNone

def and (a : Layout δ ρ) (b : Layout ε σ) : Layout (δ × ε) (ρ × σ) where
  start := (a.start, b.start)
  put key depth node draft :=
    match a.put key depth node draft.1 with
    | some r => some (r.map (·, draft.2))
    | none => (b.put key depth node draft.2).map (·.map (draft.1, ·))
  finish draft := do
    let x ← a.finish draft.1
    let y ← b.finish draft.2
    return (x, y)
  take depth ending ns := do
    let (x, ns) ← a.take depth ending ns
    let (y, ns) ← b.take depth ending ns
    return ((x, y), ns)
  members p := a.members p.1 ++ b.members p.2

/-- Read the members of an object into a draft; unknown fields are passed over. -/
def fill (l : Layout δ ρ) (depth : Nat) : δ → List (Node × Node) → Except Fault δ
  | draft, [] => .ok draft
  | draft, (key, node) :: rest => do
    let name ← key.key
    match l.put name depth node draft with
    | some r => do fill l depth (← r) rest
    | none => do
      node.skim
      fill l depth draft rest

def decode (l : Layout δ ρ) : Decoder ρ := fun depth node =>
  match node with
  | .object ms ending =>
    match depth with
    | 0 => .error .malformed
    | depth + 1 => do
      let draft ← l.fill depth l.start ms
      ending.check
      l.finish draft
  | .array ns ending =>
    match depth with
    | 0 => .error .malformed
    | depth + 1 => do
      let (r, extra) ← l.take depth ending ns
      match extra, ending with
      | [], .closed => return r
      | [], .cut => throw .endOfText
      | _, _ => throw .malformed
  | _ => .error node.refusal

def codec (l : Layout δ ρ) (pack : ρ → α) (unpack : α → ρ) : Codec α where
  decode := l.decode.map pack
  encode a := .object (l.members (unpack a))

end Layout

/-- A record whose field `tag` names its variant; the other fields are those of the variant. -/
structure Tagged (α : Type) where
  tag : String
  /-- For each variant its name, and how its fields are read from an object's members or from an
  array's items. -/
  cases : List (String × (List (String × Node) → Except Fault α) × (List Node → Except Fault α))

namespace Tagged

def fromMembers (l : Layout δ ρ) (pack : ρ → α) (depth : Nat) (ms : List (String × Node)) :
    Except Fault α := do
  let rec go : δ → List (String × Node) → Except Fault δ
    | draft, [] => .ok draft
    | draft, (name, node) :: rest => do
      match l.put name depth node draft with
      | some r => go (← r) rest
      | none => go draft rest
  return pack (← l.finish (← go l.start ms))

def fromItems (l : Layout δ ρ) (pack : ρ → α) (depth : Nat) (ns : List Node) :
    Except Fault α := do
  let (r, extra) ← l.take depth .closed ns
  if extra.isEmpty then return pack r else throw .unsuitable

def case (name : String) (l : Layout δ ρ) (pack : ρ → α) :
    String × (List (String × Node) → Except Fault α) × (List Node → Except Fault α) :=
  (name, fromMembers l pack maxDepth, fromItems l pack maxDepth)

def find (t : Tagged α) (name : String) :
    Except Fault ((List (String × Node) → Except Fault α) × (List Node → Except Fault α)) :=
  match t.cases.lookup name with
  | some c => .ok c
  | none => .error (.unknownVariant name (t.cases.map (·.1)))

/-- Read all members: the variant where the tag stands, the others for later. -/
def collect (t : Tagged α) (depth : Nat) :
    Option ((List (String × Node) → Except Fault α) × (List Node → Except Fault α)) →
    List (Node × Node) →
    Except Fault (Option ((List (String × Node) → Except Fault α) × (List Node → Except Fault α)) ×
      List (String × Node))
  | found, [] => .ok (found, [])
  | found, (key, node) :: rest => do
    let name ← key.key
    if name = t.tag then
      if found.isSome then throw (.duplicateField t.tag)
      let c ← t.find (← Decoder.string depth node)
      collect t depth (some c) rest
    else
      node.readAny depth
      let (found, ms) ← collect t depth found rest
      return (found, (name, node) :: ms)

def decode (t : Tagged α) : Decoder α := fun depth node =>
  match node with
  | .object ms ending =>
    match depth with
    | 0 => .error .malformed
    | depth + 1 => do
      let (found, ms) ← t.collect depth none ms
      ending.check
      match found with
      | some c => c.1 ms
      | none => throw (.missingField t.tag)
  | .array ns ending =>
    match depth with
    | 0 => .error .malformed
    | depth + 1 =>
      match ns with
      | [] => do
        ending.check
        throw (.missingField t.tag)
      | n :: ns => do
        let c ← t.find (← Decoder.string depth n)
        readAnyItems depth ns
        ending.check
        c.2 ns
  | _ => .error node.refusal

end Tagged

namespace Codec

def string : Codec String := ⟨Decoder.string, .string⟩
def bool : Codec Bool := ⟨Decoder.bool, .bool⟩
def uint8 : Codec UInt8 := ⟨Decoder.uint8, fun n => .int n.toNat⟩
def uint16 : Codec UInt16 := ⟨Decoder.uint16, fun n => .int n.toNat⟩
def uint32 : Codec UInt32 := ⟨Decoder.uint32, fun n => .int n.toNat⟩
def uint64 : Codec UInt64 := ⟨Decoder.uint64, fun n => .int n.toNat⟩
def int64 : Codec Int64 := ⟨Decoder.int64, fun n => .int n.toInt⟩

def option (c : Codec α) : Codec (Option α) where
  decode := Decoder.option c.decode
  encode
    | none => .null
    | some a => c.encode a

def list (c : Codec α) : Codec (List α) where
  decode := Decoder.list c.decode
  encode as := .array (as.map c.encode)

def nameMap (c : Codec α) : Codec (NameMap α) where
  decode := Decoder.nameMap c.decode
  encode m := .object (m.entries.map fun e => (e.1, c.encode e.2))

def tokenMap (c : Codec α) : Codec (SortedMap UInt32 α) where
  decode := Decoder.tokenMap c.decode
  encode m := .object (m.entries.map fun e =>
    (String.ofList (Numeral.digits e.1.toNat), c.encode e.2))

end Codec
end Concordance.Json
