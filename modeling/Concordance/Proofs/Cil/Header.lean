import Concordance.Proofs.Cil.Step
/-!
Method headers. The code behind a header is taken out whole, whatever the header has room for and
whatever follows the code. A method whose header gives itself fewer bytes than are read of it is not
refused, and then the code starts inside the header; this is the only way in which it can.
-/
namespace Concordance.Cil

/-- A header of several dwords. Besides its own size and that of the code it holds flags and
fields that are not read. -/
structure FatHeader where
  flags : UInt8
  /-- The size of the header in dwords, above four bits of flags. -/
  sizeAndFlags : UInt8
  stackLow : UInt8
  stackHigh : UInt8
  fields : List UInt8
  isFat : flags.toNat % 4 = 3
  least : 3 ≤ sizeAndFlags.toNat / 16
  fills : 8 + fields.length = sizeAndFlags.toNat / 16 * 4

inductive Header where
  | tiny
  | fat (h : FatHeader)

/-- The bytes at the front give their header and the code behind it these sizes. -/
inductive Declares : List UInt8 → Nat → Nat → Prop
  | tiny {first : UInt8} {rest : List UInt8} (format : first.toNat % 4 = 2) :
    Declares (first :: rest) 1 (first.toNat / 4)
  | fat {flags sizeAndFlags stackLow stackHigh : UInt8} {size : UInt32} {rest : List UInt8}
    (format : flags.toNat % 4 = 3) (complete : 4 ≤ rest.length) :
    Declares (flags :: sizeAndFlags :: stackLow :: stackHigh :: (wordBytes size ++ rest))
      (sizeAndFlags.toNat / 16 * 4) size.toNat

inductive Malformed : List UInt8 → HeaderFault → Prop
  | empty : Malformed [] .empty
  | unknownFormat {first : UInt8} {rest : List UInt8} (notTiny : first.toNat % 4 ≠ 2)
    (notFat : first.toNat % 4 ≠ 3) :
    Malformed (first :: rest) (.unknownFormat (first.toNat % 4))
  | shortFatHeader {first : UInt8} {rest : List UInt8} (format : first.toNat % 4 = 3)
    (short : (first :: rest).length < 12) :
    Malformed (first :: rest) (.shortFatHeader (first :: rest).length)

/-- A fat header that gives itself fewer than its three dwords. -/
def Undersized : List UInt8 → Prop
  | flags :: sizeAndFlags :: _ => flags.toNat % 4 = 3 ∧ sizeAndFlags.toNat / 16 < 3
  | _ => False

section Sizes

variable {raw : List UInt8} {header size : Nat} {cause : HeaderFault}

theorem Declares.headerAndCodeSize (h : Declares raw header size) :
    Body.headerAndCodeSize raw = .ok (header, size) := by
  cases h with
  | tiny format => simp only [Body.headerAndCodeSize, if_pos format]
  | @fat flags sizeAndFlags stackLow stackHigh size rest format complete =>
    have long : ¬(flags :: sizeAndFlags :: stackLow :: stackHigh ::
        (wordBytes size ++ rest)).length < 12 := by
      simp only [List.length_cons, List.length_append, length_wordBytes]
      omega
    simp only [Body.headerAndCodeSize, format, word?_wordBytes_append, if_neg long]
    rw [if_neg (by decide), if_pos trivial]

theorem Malformed.headerAndCodeSize (h : Malformed raw cause) :
    Body.headerAndCodeSize raw = .error (.invalidHeader cause) := by
  cases h with
  | empty => rfl
  | unknownFormat notTiny notFat =>
    simp only [Body.headerAndCodeSize, if_neg notTiny, if_neg notFat]
  | @shortFatHeader first rest format short =>
    simp only [Body.headerAndCodeSize, format, short, if_pos]
    rw [if_neg (by decide)]
    split
    · split <;> rfl
    · rfl

theorem declares_or_malformed (raw : List UInt8) :
    (∃ header size, Declares raw header size) ∨ ∃ cause, Malformed raw cause := by
  cases raw with
  | nil => exact .inr ⟨_, .empty⟩
  | cons first rest =>
    by_cases tiny : first.toNat % 4 = 2
    · exact .inl ⟨_, _, .tiny tiny⟩
    by_cases fat : first.toNat % 4 = 3
    · by_cases short : (first :: rest).length < 12
      · exact .inr ⟨_, .shortFatHeader fat short⟩
      · -- Twelve bytes hold the size of the code, and four more behind it.
        simp only [List.length_cons] at short
        obtain _ | ⟨sizeAndFlags, _ | ⟨low, _ | ⟨high, behind⟩⟩⟩ := rest
        all_goals simp only [List.length_nil, List.length_cons] at short
        · omega
        · omega
        · omega
        · cases read : word? behind with
          | none =>
            have few := length_of_word?_eq_none read
            omega
          | some size =>
            obtain ⟨fields, rfl⟩ := exists_wordBytes_of_word? read
            rw [List.length_append, length_wordBytes] at short
            exact .inl ⟨_, _, .fat fat (by omega)⟩
    · exact .inr ⟨_, .unknownFormat tiny fat⟩

theorem headerAndCodeSize_eq_ok_iff :
    Body.headerAndCodeSize raw = .ok (header, size) ↔ Declares raw header size := by
  refine ⟨fun read => ?_, Declares.headerAndCodeSize⟩
  rcases declares_or_malformed raw with ⟨h, n, declared⟩ | ⟨cause, malformed⟩
  · rw [declared.headerAndCodeSize] at read
    obtain ⟨rfl, rfl⟩ := Prod.mk.inj (Except.ok.inj read)
    exact declared
  · rw [malformed.headerAndCodeSize] at read
    cases read

theorem Declares.undersized_iff (h : Declares raw header size) :
    Undersized raw ↔ header ≠ 1 ∧ header < 12 := by
  cases h with
  | @tiny first rest format => cases rest <;> simp [Undersized, format]
  | fat format complete =>
    simp only [Undersized, format, true_and]
    omega

theorem Declares.sum_lt (h : Declares raw header size) : header + size < UInt64.size := by
  have wide : UInt64.size = 2 ^ 64 := rfl
  cases h with
  | @tiny first rest format =>
    have byte := first.toNat_lt
    omega
  | @fat flags sizeAndFlags stackLow stackHigh size rest format complete =>
    have byte := sizeAndFlags.toNat_lt
    have dword := size.toNat_lt
    omega

end Sizes

namespace Header

def limit : Header → Nat
  | tiny => 64
  | fat _ => UInt32.size

def bytes (size : Nat) : Header → List UInt8
  | tiny => [UInt8.ofNat (size * 4 + 2)]
  | fat h => h.flags :: h.sizeAndFlags :: h.stackLow :: h.stackHigh ::
      (wordBytes (UInt32.ofNat size) ++ h.fields)

theorem length_bytes_fat (size : Nat) (h : FatHeader) :
    (bytes size (fat h)).length = h.sizeAndFlags.toNat / 16 * 4 := by
  have fills := h.fills
  simp only [bytes, List.length_cons, List.length_append, length_wordBytes]
  omega

theorem length_bytes (header : Header) (size : Nat) :
    (header.bytes size).length = 1 ∨ 12 ≤ (header.bytes size).length := by
  cases header with
  | tiny => exact .inl rfl
  | fat h =>
    have least := h.least
    rw [length_bytes_fat]
    omega

/-- A header gives the sizes of itself and of its code, whatever follows it. -/
theorem declares_bytes {header : Header} {size : Nat} (fits : size < header.limit)
    (rest : List UInt8) :
    Declares (header.bytes size ++ rest) (header.bytes size).length size := by
  cases header with
  | tiny =>
    simp only [limit] at fits
    have first : (UInt8.ofNat (size * 4 + 2)).toNat = size * 4 + 2 := by
      rw [UInt8.toNat_ofNat']
      omega
    have codeSize : (size * 4 + 2) / 4 = size := by omega
    have declared : Declares (bytes size tiny ++ rest) 1 _ := .tiny (by omega)
    rwa [first, codeSize] at declared
  | fat h =>
    simp only [limit] at fits
    have least := h.least
    have fills := h.fills
    have declared : Declares (bytes size (fat h) ++ rest) (h.sizeAndFlags.toNat / 16 * 4)
        (UInt32.ofNat size).toNat := by
      rw [bytes, List.cons_append, List.cons_append, List.cons_append, List.cons_append,
        List.append_assoc]
      exact .fat h.isFat (by rw [List.length_append]; omega)
    rwa [UInt32.toNat_ofNat_of_lt' fits, ← length_bytes_fat size h] at declared

end Header

/-- Bytes that are not undersized start with the whole header whose sizes they give. -/
theorem Declares.exists_bytes {raw : List UInt8} {header size : Nat}
    (h : Declares raw header size) (whole : ¬Undersized raw) (inside : header ≤ raw.length) :
    ∃ front : Header, size < front.limit ∧ raw.take header = front.bytes size := by
  rw [h.undersized_iff] at whole
  cases h with
  | @tiny first rest format =>
    have byte := first.toNat_lt
    have spelled : first.toNat / 4 * 4 + 2 = first.toNat := by omega
    refine ⟨.tiny, by simp only [Header.limit]; omega, ?_⟩
    rw [Header.bytes, spelled, UInt8.ofNat_toNat]
    rfl
  | @fat flags sizeAndFlags stackLow stackHigh size rest format complete =>
    obtain ⟨k, dwords⟩ : ∃ k, sizeAndFlags.toNat / 16 * 4 = 8 + k :=
      Nat.exists_eq_add_of_le (by omega)
    simp only [List.length_cons, List.length_append, length_wordBytes] at inside
    have length : (rest.take k).length = k := List.length_take_of_le (by omega)
    let front : FatHeader :=
      { flags, sizeAndFlags, stackLow, stackHigh
        fields := rest.take k
        isFat := format
        least := by omega
        fills := by rw [length, dwords] }
    refine ⟨.fat front, size.toNat_lt, ?_⟩
    rw [Header.bytes, UInt32.ofNat_toNat, dwords]
    let read := [flags, sizeAndFlags, stackLow, stackHigh] ++ wordBytes size
    have whole : (read ++ rest).take (read.length + k) = read ++ rest.take k :=
      List.take_length_add_append k
    exact whole

namespace Body

variable {raw : List UInt8}

theorem ofMethod_eq_ok_iff {b : Body} :
    ofMethod raw = .ok b ↔ b.tokens = {} ∧ ∃ front tail, raw = front ++ b.code ++ tail ∧
      Declares raw front.length b.code.length := by
  constructor
  · intro taken
    unfold ofMethod at taken
    split at taken
    · cases taken
    · next header size sizes =>
      split at taken
      · next inside =>
        obtain rfl := Except.ok.inj taken
        have front : (raw.take header).length = header := List.length_take_of_le (by omega)
        have code : ((raw.drop header).take size).length = size := by
          rw [List.length_take_of_le]
          rw [List.length_drop]
          omega
        refine ⟨rfl, raw.take header, (raw.drop header).drop size, ?_, ?_⟩
        · rw [List.append_assoc, List.take_append_drop, List.take_append_drop]
        · rw [front, code]
          exact headerAndCodeSize_eq_ok_iff.mp sizes
      · cases taken
  · rintro ⟨tokens, front, tail, split, declared⟩
    have inside : front.length + b.code.length ≤ raw.length := by
      rw [split]
      simp only [List.length_append]
      omega
    obtain ⟨code, _⟩ := b
    obtain rfl := tokens
    simp only [ofMethod, declared.headerAndCodeSize, if_pos inside]
    rw [split, List.append_assoc, List.drop_left, List.take_left]

theorem ofMethod_eq_error_iff {e : CodeFault} :
    ofMethod raw = .error e ↔ (∃ cause, e = .invalidHeader cause ∧ Malformed raw cause) ∨
      e = .truncated raw.length ∧ ∃ header size, Declares raw header size ∧
        raw.length < header + size := by
  constructor
  · intro refused
    rcases declares_or_malformed raw with ⟨header, size, declared⟩ | ⟨cause, malformed⟩
    · simp only [ofMethod, declared.headerAndCodeSize] at refused
      split at refused
      · cases refused
      · next outside =>
        obtain rfl := Except.error.inj refused
        exact .inr ⟨rfl, header, size, declared, Nat.lt_of_not_le outside⟩
    · simp only [ofMethod, malformed.headerAndCodeSize] at refused
      exact .inl ⟨cause, (Except.error.inj refused).symm, malformed⟩
  · rintro (⟨cause, rfl, malformed⟩ | ⟨rfl, header, size, declared, short⟩)
    · simp only [ofMethod, malformed.headerAndCodeSize]
    · simp only [ofMethod, declared.headerAndCodeSize, if_neg (Nat.not_le_of_lt short)]

theorem ofMethod_bytes {header : Header} {code : List UInt8}
    (fits : code.length < header.limit) (tail : List UInt8) :
    ofMethod (header.bytes code.length ++ code ++ tail) = .ok { code } := by
  refine ofMethod_eq_ok_iff.mpr ⟨rfl, header.bytes code.length, tail, rfl, ?_⟩
  rw [List.append_assoc]
  exact Header.declares_bytes fits (code ++ tail)

/-- A method's code is the slice of the size declared right behind the bytes of the size declared,
or else the method is refused, for what is wrong with its header or because it ends too early. If
the header is not undersized, then these bytes are the whole header, and each header is read so. The
sizes are no larger than what 64 bits add up. -/
theorem code_behind_header (raw : List UInt8) :
    (∀ b, ofMethod raw = .ok b ↔ b.tokens = {} ∧ ∃ front tail, raw = front ++ b.code ++ tail ∧
        Declares raw front.length b.code.length) ∧
      (∀ b, ofMethod raw = .ok b ∧ ¬Undersized raw ↔ b.tokens = {} ∧
        ∃ (header : Header) (tail : List UInt8), b.code.length < header.limit ∧
          raw = header.bytes b.code.length ++ b.code ++ tail) ∧
      (∀ e, ofMethod raw = .error e ↔
        (∃ cause, e = .invalidHeader cause ∧ Malformed raw cause) ∨
          e = .truncated raw.length ∧ ∃ header size, Declares raw header size ∧
            raw.length < header + size) ∧
      ∀ header size, headerAndCodeSize raw = .ok (header, size) →
        header + size < UInt64.size := by
  refine ⟨fun b => ofMethod_eq_ok_iff, fun b => ⟨?_, ?_⟩, fun e => ofMethod_eq_error_iff,
    fun header size sizes => (headerAndCodeSize_eq_ok_iff.mp sizes).sum_lt⟩
  · rintro ⟨taken, whole⟩
    obtain ⟨tokens, front, tail, split, declared⟩ := ofMethod_eq_ok_iff.mp taken
    have inside : front.length ≤ raw.length := by
      rw [split, List.append_assoc, List.length_append]
      exact Nat.le_add_right _ _
    obtain ⟨header, fits, bytes⟩ := declared.exists_bytes whole inside
    have own : raw.take front.length = front := by
      rw [split, List.append_assoc, List.take_left]
    exact ⟨tokens, header, tail, fits, by rw [← bytes, own]; exact split⟩
  · rintro ⟨tokens, header, tail, fits, split⟩
    have bare : b = { code := b.code } := by rw [← tokens]
    have declared := Header.declares_bytes fits (b.code ++ tail)
    have length := header.length_bytes b.code.length
    rw [← List.append_assoc, ← split] at declared
    refine ⟨by rw [bare, split]; exact ofMethod_bytes fits tail, ?_⟩
    rw [declared.undersized_iff]
    omega

theorem code_behind_header_four_dwords :
    let raw : List UInt8 :=
      [0x13, 0x40, 8, 0, 2, 0, 0, 0, 1, 0, 0, 0x11, 0, 0, 0, 0, 0x00, 0x2A, 0xFF]
    ¬Undersized raw ∧ headerAndCodeSize raw = .ok (16, 2) ∧ 16 + 2 < UInt64.size ∧
      ∃ (header : Header) (tail : List UInt8), 2 < header.limit ∧
        raw = header.bytes 2 ++ [0x00, 0x2A] ++ tail := by
  intro raw
  have whole : ¬Undersized raw := by simp [Undersized, raw]
  have sizes : headerAndCodeSize raw = .ok (16, 2) := rfl
  have taken : ofMethod raw = .ok { code := [0x00, 0x2A] } := rfl
  obtain ⟨-, headers, -, bound⟩ := code_behind_header raw
  obtain ⟨-, behind⟩ := (headers _).mp ⟨taken, whole⟩
  exact ⟨whole, sizes, bound 16 2 sizes, behind⟩

-- A header that gives itself no bytes, and nothing behind it: all of it is taken for code.
example : (ofMethod [3, 0, 8, 0, 12, 0, 0, 0, 0, 0, 0, 0]).toOption.map (·.code) =
    some [3, 0, 8, 0, 12, 0, 0, 0, 0, 0, 0, 0] := rfl

end Body

end Concordance.Cil
