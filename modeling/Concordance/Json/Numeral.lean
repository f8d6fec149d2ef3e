import Concordance.Json.Basic
/-!
Numerals of the JSON grammar, kept as they are spelled: only one without fraction and exponent is
an integer, and one whose magnitude no double can hold is no numeral a reader accepts.
-/
namespace Concordance.Json

structure Numeral where
  negative : Bool
  whole : List Char
  fraction : Option (List Char) := none
  /-- Whether the exponent is negative, and its digits. -/
  exponent : Option (Bool × List Char) := none
deriving DecidableEq

namespace Numeral

def natOfDigits (ds : List Char) : Nat := ds.foldl (fun n d => n * 10 + (d.toNat - 48)) 0

def digits (n : Nat) : List Char := Nat.toDigits 10 n

def renderInt (n : Int) : List Char :=
  if n < 0 then '-' :: digits n.natAbs else digits n.natAbs

/-- An integer must be spelled as one; minus zero is spelled as a float. -/
def int? (n : Numeral) : Option Int :=
  if n.fraction.isSome || n.exponent.isSome then none
  else
    let m := natOfDigits n.whole
    if n.negative then (if m = 0 then none else some (-(m : Int))) else some m

/-- The least magnitude that rounds to infinity as a double. -/
def doubleLimit : Nat := Nat.pow 2 1024 - Nat.pow 2 970

/-- Whether the magnitude exceeds every double. The number of digits decides all but the values
near the limit, so no huge power is taken. -/
def overflows (n : Numeral) : Bool :=
  let ds := n.whole ++ n.fraction.getD []
  let m := natOfDigits ds
  let e : Int :=
    (match n.exponent with
      | none => 0
      | some (true, es) => -(natOfDigits es : Int)
      | some (false, es) => natOfDigits es) - ((n.fraction.getD []).length : Int)
  if m = 0 then false
  else
    let size : Int := (digits m).length + e
    if size < 300 then false
    else if 320 < size then true
    else if 0 ≤ e then doubleLimit ≤ m * Nat.pow 10 e.toNat
    else doubleLimit * Nat.pow 10 (-e).toNat ≤ m

def takeDigits (s : List Char) : Except Stop (List Char × List Char) :=
  let ds := s.takeWhile (·.isDigit)
  let r := s.dropWhile (·.isDigit)
  if ds.isEmpty then .error (if r.isEmpty then .endOfText else .malformed) else .ok (ds, r)

def takeWhole (s : List Char) : Except Stop (List Char × List Char) := do
  let (ds, r) ← takeDigits s
  if ds.head? = some '0' ∧ 1 < ds.length then .error .malformed else .ok (ds, r)

def takeFraction (s : List Char) : Except Stop (Option (List Char) × List Char) :=
  match s with
  | '.' :: r => do
    let (ds, r) ← takeDigits r
    return (some ds, r)
  | _ => .ok (none, s)

def takeSign : List Char → Bool × List Char
  | '-' :: r => (true, r)
  | '+' :: r => (false, r)
  | r => (false, r)

def takeExponent (s : List Char) : Except Stop (Option (Bool × List Char) × List Char) :=
  match s with
  | c :: r =>
    if c = 'e' ∨ c = 'E' then do
      let (negative, r) := takeSign r
      let (ds, r) ← takeDigits r
      return (some (negative, ds), r)
    else .ok (none, s)
  | [] => .ok (none, s)

def read (s : List Char) : Except Stop (Numeral × List Char) := do
  let (negative, s) := match s with
    | '-' :: r => (true, r)
    | r => (false, r)
  let (whole, s) ← takeWhole s
  let (fraction, s) ← takeFraction s
  let (exponent, s) ← takeExponent s
  return ({ negative, whole, fraction, exponent }, s)

end Numeral
end Concordance.Json
