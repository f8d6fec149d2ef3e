import Concordance.Json.Numeral
import Mathlib.Data.Nat.Digits.Defs
/-!
Decimal numerals. What is written for an integer reads back as that integer, wherever the text
behind it cannot extend the numeral.
-/
namespace Concordance.Json.Numeral

def ofInt (n : Int) : Numeral := { negative := decide (n < 0), whole := digits n.natAbs }

def StopsAt (rest : List Char) : Prop :=
  ∀ c ∈ rest.head?, c.isDigit = false ∧ c ≠ '.' ∧ c ≠ 'e' ∧ c ≠ 'E'

theorem stopsAt_nil : StopsAt [] := by simp [StopsAt]

theorem stopsAt_cons {c : Char} {rest : List Char}
    (h : c.isDigit = false ∧ c ≠ '.' ∧ c ≠ 'e' ∧ c ≠ 'E') : StopsAt (c :: rest) := by
  rintro _ ⟨⟩
  exact h

theorem natOfDigits_eq_ofDigitChars (ds : List Char) :
    natOfDigits ds = Nat.ofDigitChars 10 ds 0 := by
  have step (n : Nat) : ds.foldl (fun n d => n * 10 + (d.toNat - 48)) n =
      ds.foldl (fun n d => 10 * n + (d.toNat - '0'.toNat)) n := by
    congr 1
    funext n d
    rw [Nat.mul_comm]
    rfl
  exact step 0

@[simp] theorem natOfDigits_digits (n : Nat) : natOfDigits (digits n) = n := by
  rw [natOfDigits_eq_ofDigitChars]
  exact Nat.ofDigitChars_ten_toDigits

theorem isDigit_of_mem_digits {n : Nat} {c : Char} (h : c ∈ digits n) : c.isDigit = true :=
  Nat.isDigit_of_mem_toDigits (by decide) (by decide) h

theorem digits_ne_nil (n : Nat) : digits n ≠ [] := Nat.toDigits_ne_nil

theorem eq_zero_of_head?_digits {n : Nat} (h : (digits n).head? = some '0') : n = 0 := by
  induction n using Nat.strongRecOn with
  | ind n ih =>
    unfold digits at h ih
    by_cases small : n < 10
    · rw [Nat.toDigits_of_lt_base small] at h
      simpa using h
    · rw [Nat.toDigits_of_base_le (by decide) (by omega), List.head?_append,
        Option.or_of_isSome (by simp)] at h
      have := ih (n / 10) (by omega) h
      omega

@[simp] theorem int?_ofInt (n : Int) : (ofInt n).int? = some n := by
  have whole : (ofInt n).int? = if n < 0 then
      (if n.natAbs = 0 then none else some (-(n.natAbs : Int))) else some (n.natAbs : Int) := by
    simp only [int?, ofInt, natOfDigits_digits, decide_eq_true_eq]
    rfl
  rw [whole]
  split
  · rw [if_neg (by omega), Option.some_inj]
    omega
  · rw [Option.some_inj]
    omega

theorem renderInt_natCast (n : Nat) : renderInt n = digits n := by
  unfold renderInt
  rw [if_neg (by omega), Int.natAbs_natCast]

/-- A word has too few digits to be beyond every double. -/
theorem overflows_ofInt_of_lt {n : Nat} (small : n < 10 ^ 20) : (ofInt n).overflows = false := by
  have short : (digits n).length ≤ 20 := Nat.toDigits_length 10 n 20 (by decide) small
  unfold overflows ofInt
  simp only [Int.natAbs_natCast, Option.getD_none, List.append_nil, natOfDigits_digits,
    List.length_nil]
  split
  · rfl
  · exact if_pos (by omega)

theorem takeDigits_append {ds rest : List Char} (nonempty : ds ≠ [])
    (digit : ∀ c ∈ ds, c.isDigit = true) (stop : ∀ c ∈ rest.head?, c.isDigit = false) :
    takeDigits (ds ++ rest) = .ok (ds, rest) := by
  have taken : rest.takeWhile (·.isDigit) = [] := by
    cases rest with
    | nil => rfl
    | cons c rest => simp [stop c (by simp)]
  have dropped : rest.dropWhile (·.isDigit) = rest := by
    cases rest with
    | nil => rfl
    | cons c rest => simp [stop c (by simp)]
  unfold takeDigits
  rw [List.takeWhile_append_of_pos digit, List.dropWhile_append_of_pos digit, taken, dropped]
  simp [nonempty]

theorem takeWhole_digits (n : Nat) {rest : List Char}
    (stop : ∀ c ∈ rest.head?, c.isDigit = false) :
    takeWhole (digits n ++ rest) = .ok (digits n, rest) := by
  have canonical : ¬((digits n).head? = some '0' ∧ 1 < (digits n).length) := by
    rintro ⟨zero, long⟩
    rw [eq_zero_of_head?_digits zero] at long
    simp [digits] at long
  unfold takeWhole
  rw [takeDigits_append (digits_ne_nil n) (fun _ => isDigit_of_mem_digits) stop]
  simp only [bind, Except.bind]
  rw [if_neg canonical]

private theorem takeTail_of_stopsAt {rest : List Char} (stop : StopsAt rest) :
    takeFraction rest = .ok (none, rest) ∧ takeExponent rest = .ok (none, rest) := by
  cases rest with
  | nil => exact ⟨rfl, rfl⟩
  | cons c rest =>
    obtain ⟨-, point, small, capital⟩ := stop c (by simp)
    constructor
    · unfold takeFraction
      split
      · next h => exact absurd (List.cons.inj h).1 point
      · rfl
    · simp [takeExponent, small, capital]

theorem read_renderInt (n : Int) {rest : List Char} (stop : StopsAt rest) :
    read (renderInt n ++ rest) = .ok (ofInt n, rest) := by
  have whole := takeWhole_digits n.natAbs fun c hc => (stop c hc).1
  obtain ⟨fraction, exponent⟩ := takeTail_of_stopsAt stop
  by_cases negative : n < 0
  · simp [read, renderInt, negative, whole, fraction, exponent, ofInt, bind, Except.bind, pure,
      Except.pure]
  · have unsigned : ∀ r, digits n.natAbs ++ rest ≠ '-' :: r := by
      intro r h
      obtain ⟨d, ds, hd⟩ := List.exists_cons_of_ne_nil (digits_ne_nil n.natAbs)
      have digit := isDigit_of_mem_digits (n := n.natAbs) (c := d) (by simp [hd])
      rw [hd, List.cons_append, List.cons.injEq] at h
      rw [h.1] at digit
      exact absurd digit (by decide)
    simp [read, renderInt, negative, whole, fraction, exponent, ofInt, bind,
      Except.bind, pure, Except.pure]

/-! A numeral that is read inside quotes does not see what stands behind the closing one. -/

/-- What `f` does in front of a quote does not depend on the text behind it. -/
def StaysInside (f : List Char → Except Stop (α × List Char)) : Prop :=
  ∀ front, (∃ e, ∀ rest, f (front ++ '"' :: rest) = .error e) ∨
    ∃ a front', ∀ rest, f (front ++ '"' :: rest) = .ok (a, front' ++ '"' :: rest)

theorem StaysInside.bind {α β : Type} {f : List Char → Except Stop (α × List Char)}
    {g : α → List Char → Except Stop (β × List Char)} (hf : StaysInside f)
    (hg : ∀ a, StaysInside (g a)) : StaysInside fun s => f s >>= fun r => g r.1 r.2 := by
  intro front
  rcases hf front with ⟨e, h⟩ | ⟨a, front', h⟩
  · exact .inl ⟨e, fun rest => congrArg (· >>= fun r => g r.1 r.2) (h rest)⟩
  · have passed (rest : List Char) := congrArg (· >>= fun r => g r.1 r.2) (h rest)
    rcases hg a front' with ⟨e, h'⟩ | ⟨b, front'', h'⟩
    · exact .inl ⟨e, fun rest => (passed rest).trans (h' rest)⟩
    · exact .inr ⟨b, front'', fun rest => (passed rest).trans (h' rest)⟩

theorem staysInside_pure (a : α) : StaysInside fun s => .ok (a, s) :=
  fun front => .inr ⟨a, front, fun _ => rfl⟩

private theorem takeWhile_inside (front rest : List Char) :
    (front ++ '"' :: rest).takeWhile (·.isDigit) = front.takeWhile (·.isDigit) ∧
      (front ++ '"' :: rest).dropWhile (·.isDigit) =
        front.dropWhile (·.isDigit) ++ '"' :: rest := by
  induction front with
  | nil => simp
  | cons c front ih => by_cases digit : c.isDigit <;> simp [digit, ih]

theorem staysInside_takeDigits : StaysInside takeDigits := by
  intro front
  by_cases none : (front.takeWhile (·.isDigit)).isEmpty
  · exact .inl ⟨.malformed, fun rest => by simp [takeDigits, takeWhile_inside, none]⟩
  · exact .inr ⟨front.takeWhile (·.isDigit), front.dropWhile (·.isDigit), fun rest => by
      simp [takeDigits, takeWhile_inside, none]⟩

theorem staysInside_takeWhole : StaysInside takeWhole := by
  refine staysInside_takeDigits.bind (g := fun ds s =>
    if ds.head? = some '0' ∧ 1 < ds.length then .error .malformed else .ok (ds, s)) fun ds => ?_
  by_cases zero : ds.head? = some '0' ∧ 1 < ds.length
  · exact fun front => .inl ⟨.malformed, fun rest => if_pos zero⟩
  · exact fun front => .inr ⟨ds, front, fun rest => if_neg zero⟩

theorem staysInside_takeFraction : StaysInside takeFraction := by
  intro front
  match front with
  | [] => exact .inr ⟨none, [], fun rest => rfl⟩
  | c :: front =>
    by_cases point : c = '.'
    · subst point
      exact (staysInside_takeDigits.bind fun ds => staysInside_pure (some ds)) front
    · exact .inr ⟨none, c :: front, fun rest => by
        unfold takeFraction
        split
        · next h => exact absurd (List.cons.inj h).1 point
        · rfl⟩

private theorem takeSign_inside (front rest : List Char) :
    takeSign (front ++ '"' :: rest) = ((takeSign front).1, (takeSign front).2 ++ '"' :: rest) := by
  match front with
  | [] => rfl
  | c :: front =>
    by_cases minus : c = '-'
    · subst minus; rfl
    by_cases plus : c = '+'
    · subst plus; rfl
    simp [takeSign, minus, plus]

theorem staysInside_takeExponent : StaysInside takeExponent := by
  intro front
  match front with
  | [] => exact .inr ⟨none, [], fun rest => rfl⟩
  | c :: front =>
    by_cases mark : c = 'e' ∨ c = 'E'
    · simp only [takeExponent, List.cons_append, if_pos mark, takeSign_inside]
      exact (staysInside_takeDigits.bind fun ds =>
        staysInside_pure (some ((takeSign front).1, ds))) (takeSign front).2
    · exact .inr ⟨none, c :: front, fun rest => if_neg mark⟩

theorem staysInside_read : StaysInside read := by
  have behindSign (negative : Bool) : StaysInside fun s => takeWhole s >>= fun r =>
      takeFraction r.2 >>= fun r' => takeExponent r'.2 >>= fun r'' =>
        .ok (Numeral.mk negative r.1 r'.1 r''.1, r''.2) :=
    staysInside_takeWhole.bind fun whole => staysInside_takeFraction.bind fun fraction =>
      staysInside_takeExponent.bind fun exponent =>
        staysInside_pure (Numeral.mk negative whole fraction exponent)
  intro front
  match front with
  | [] => exact behindSign false []
  | c :: front =>
    by_cases minus : c = '-'
    · subst minus; exact behindSign true front
    · simpa [read, minus, -bind_pure_comp, pure, Except.pure] using behindSign false (c :: front)

end Concordance.Json.Numeral
