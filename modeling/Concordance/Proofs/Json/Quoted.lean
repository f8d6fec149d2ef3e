import Concordance.Json.Quoted
/-!
Quoted strings. What stands between the quotes of a written string reads back as the string, and a
reader who skips it stops behind the same quote.
-/
namespace Concordance.Json.Quoted

private theorem hexValue?_digitChar : ∀ n < 16, hexValue? (Nat.digitChar n) = some n := by decide

theorem hexValue?_hexDigit (n : Nat) : hexValue? (hexDigit n) = some (n % 16) :=
  hexValue?_digitChar _ (Nat.mod_lt _ (by decide))

theorem unit?_control {c : Char} (control : c.toNat < 32) :
    unit? '0' '0' (hexDigit (c.toNat / 16)) (hexDigit c.toNat) = some c.toNat := by
  have value : c.toNat / 16 % 16 * 16 + c.toNat % 16 = c.toNat := by omega
  simp [unit?, hexValue?_hexDigit, value, show hexValue? '0' = some 0 from rfl]

/-- What one written character is: itself, or a backslash before a letter or a unit. -/
private theorem escape_cases (c : Char) :
    (escape c = [c] ∧ c ≠ '"' ∧ c ≠ '\\' ∧ ¬c.toNat < 32) ∨
    (∃ d, escape c = ['\\', d] ∧ d ≠ 'u' ∧ shortEscape? d = some c) ∨
    (escape c = ['\\', 'u', '0', '0', hexDigit (c.toNat / 16), hexDigit c.toNat] ∧
      c.toNat < 32) := by
  unfold escape
  by_cases h : c = '"'; · exact .inr (.inl ⟨'"', by simp [h, shortEscape?]⟩)
  by_cases h : c = '\\'; · exact .inr (.inl ⟨'\\', by simp [h, shortEscape?]⟩)
  by_cases h : c = '\n'; · exact .inr (.inl ⟨'n', by simp [h, shortEscape?]⟩)
  by_cases h : c = '\t'; · exact .inr (.inl ⟨'t', by simp [h, shortEscape?]⟩)
  by_cases h : c = '\r'; · exact .inr (.inl ⟨'r', by simp [h, shortEscape?]⟩)
  by_cases h : c = '\x08'; · exact .inr (.inl ⟨'b', by simp [h, shortEscape?]⟩)
  by_cases h : c = '\x0c'; · exact .inr (.inl ⟨'f', by simp [h, shortEscape?]⟩)
  by_cases control : c.toNat < 32
  · exact .inr (.inr (by simp [*]))
  · exact .inl (by simp [*])

theorem escape_of_isDigit {c : Char} (digit : c.isDigit = true) : escape c = [c] := by
  have differs : ∀ d : Char, d.isDigit = false → c ≠ d := by
    rintro d other rfl
    exact absurd digit (by simp [other])
  have printable : ¬c.toNat < 32 := by
    have range : 48 ≤ c.toNat ∧ c.toNat ≤ 57 := by
      simpa [Char.isDigit, UInt32.le_iff_toNat_le] using digit
    omega
  unfold escape
  rw [if_neg (differs _ (by decide)), if_neg (differs _ (by decide)),
    if_neg (differs _ (by decide)), if_neg (differs _ (by decide)),
    if_neg (differs _ (by decide)), if_neg (differs _ (by decide)),
    if_neg (differs _ (by decide)), if_neg printable]

theorem escapeAll_of_isDigit {cs : List Char} (h : ∀ c ∈ cs, c.isDigit = true) :
    escapeAll cs = cs := by
  induction cs with
  | nil => rfl
  | cons c cs ih =>
    have digit := h c List.mem_cons_self
    have others := ih fun d hd => h d (List.mem_cons_of_mem _ hd)
    rw [escapeAll, List.flatMap_cons, escape_of_isDigit digit, ← escapeAll, others]
    rfl

theorem read_escape (c : Char) (rest : List Char) :
    read (escape c ++ rest) = prepend c (read rest) := by
  rcases escape_cases c with ⟨h, quote, slash, plain⟩ | ⟨d, h, unit, short⟩ | ⟨h, control⟩
  · rw [h, List.singleton_append, read]
    simp [quote, slash, plain]
  · rw [h, List.cons_append, List.singleton_append, read, if_neg (by decide), if_pos rfl,
      readEscape.eq_def]
    simp only [if_neg unit, short]
  · have trail : isTrail c.toNat = false := by simp [isTrail]; omega
    have lead : isLead c.toNat = false := by simp [isLead]; omega
    simp [h, read, readEscape, unit?_control control, trail, lead]

theorem skim_escape (c : Char) (rest : List Char) : skim (escape c ++ rest) = skim rest := by
  rcases escape_cases c with ⟨h, quote, slash, plain⟩ | ⟨d, h, unit, short⟩ | ⟨h, control⟩
  · rw [h, List.singleton_append, skim.eq_def]
    simp [quote, slash, plain]
  · rw [h]
    simp [skim.eq_def ('\\' :: _), unit, short]
  · rw [h]
    simp [skim.eq_def ('\\' :: _), unit?_control control]

theorem read_escapeAll (cs rest : List Char) :
    read (escapeAll cs ++ '"' :: rest) = .ok (cs, rest) := by
  induction cs with
  | nil => simp [escapeAll, read]
  | cons c cs ih =>
    have := read_escape c (escapeAll cs ++ '"' :: rest)
    rw [ih] at this
    simpa [escapeAll, prepend] using this

theorem skim_escapeAll (cs rest : List Char) :
    skim (escapeAll cs ++ '"' :: rest) = .ok rest := by
  induction cs with
  | nil => simp [escapeAll, skim.eq_def]
  | cons c cs ih =>
    have := skim_escape c (escapeAll cs ++ '"' :: rest)
    rw [ih] at this
    simpa [escapeAll] using this

end Concordance.Json.Quoted
