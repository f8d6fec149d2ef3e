import Concordance.Instant
import Concordance.Json.Quoted
import Concordance.Toml.Value
/-!
Values that are written as one word: numbers, truth values, dates and times.
-/
namespace Concordance.Toml.Scalar

open Json (Numeral)

def digits? (isDigit : Char → Bool) (cs : List Char) : Option (List Char) :=
  let groups := cs.splitOn '_'
  if groups.all fun g => !g.isEmpty && g.all isDigit then some groups.flatten else none

/-- Decimal digits of a whole number: only a zero that stands alone comes first. -/
def whole? (cs : List Char) : Option (List Char) := do
  let ds ← digits? Char.isDigit cs
  if ds.head? = some '0' ∧ 1 < ds.length then none else some ds

def digitValue (c : Char) : Nat := (Json.Quoted.hexValue? c).getD 0

def inBase? (base : Nat) (cs : List Char) : Option Nat := do
  let ds ← digits? (fun c => (Json.Quoted.hexValue? c).any (· < base)) cs
  return ds.foldl (fun n d => n * base + digitValue d) 0

def sign : List Char → Bool × List Char
  | '-' :: r => (true, r)
  | '+' :: r => (false, r)
  | r => (false, r)

/-- Only a decimal number may have a sign. -/
def integer? (cs : List Char) : Option Int :=
  match cs with
  | '0' :: 'x' :: r => (inBase? 16 r).map Int.ofNat
  | '0' :: 'o' :: r => (inBase? 8 r).map Int.ofNat
  | '0' :: 'b' :: r => (inBase? 2 r).map Int.ofNat
  | _ =>
    let (negative, r) := sign cs
    (whole? r).map fun ds =>
      let n : Int := Numeral.natOfDigits ds
      if negative then -n else n

def exponent? (cs : List Char) : Option (Bool × List Char) :=
  let (negative, r) := sign cs
  (digits? Char.isDigit r).map (negative, ·)

def float? (cs : List Char) : Option Numeral := do
  let (negative, r) := sign cs
  let isMark (c : Char) : Bool := c = 'e' || c = 'E'
  let mantissa := r.takeWhile fun c => !isMark c
  let whole ← whole? (mantissa.takeWhile (· ≠ '.'))
  let fraction ← match mantissa.dropWhile (· ≠ '.') with
    | [] => some none
    | _ :: ds => (digits? Char.isDigit ds).map some
  let exponent ← match r.dropWhile fun c => !isMark c with
    | [] => some none
    | _ :: es => (exponent? es).map some
  if fraction.isNone && exponent.isNone then none
  else some { negative, whole, fraction, exponent }

def field? (width most : Nat) (cs : List Char) : Option (Nat × List Char) :=
  let ds := cs.take width
  let n := Numeral.natOfDigits ds
  if ds.length = width && ds.all Char.isDigit && n ≤ most then some (n, cs.drop width) else none

def mark? (c : Char) : List Char → Option (List Char)
  | d :: r => if d = c then some r else none
  | [] => none

def date? (cs : List Char) : Option (List Char) := do
  let (y, cs) ← field? 4 9999 cs
  let (m, cs) ← field? 2 12 (← mark? '-' cs)
  let (d, cs) ← field? 2 31 (← mark? '-' cs)
  guard (1 ≤ m && 1 ≤ d && d ≤ Instant.daysInMonth y m)
  return cs

/-- Pass over a time of day; the seconds and their fraction may be left out. -/
def time? (cs : List Char) : Option (List Char) := do
  let (_, cs) ← field? 2 23 cs
  let (_, cs) ← field? 2 59 (← mark? ':' cs)
  match cs with
  | ':' :: cs =>
    let (_, cs) ← field? 2 60 cs
    match cs with
    | '.' :: c :: r => if c.isDigit then some (r.dropWhile Char.isDigit) else none
    | _ => some cs
  | _ => some cs

def isOffset (cs : List Char) : Bool :=
  match cs with
  | ['Z'] | ['z'] => true
  | '+' :: r | '-' :: r =>
    match do let (_, r) ← field? 2 23 r; let (_, r) ← field? 2 59 (← mark? ':' r); return r with
    | some r => r.isEmpty
    | none => false
  | _ => false

def isMoment (cs : List Char) : Bool :=
  match date? cs with
  | some [] => true
  | some (c :: r) =>
    (c = 'T' || c = 't' || c = ' ') &&
      match time? r with
      | some r => r.isEmpty || isOffset r
      | none => false
  | none => time? cs = some []

def isWordEnd (c : Char) : Bool :=
  c = ' ' || c = '\t' || c = '\n' || c = '\r' || c = ',' || c = '=' || c = '#' || c = '[' ||
    c = ']' || c = '\x7b' || c = '\x7d' || c = '"' || c = '\''

/-- The word in front. A date and a time of day behind one blank are a single word. -/
def word (cs : List Char) : List Char × List Char :=
  let w := cs.takeWhile fun c => !isWordEnd c
  let r := cs.drop w.length
  match r with
  | ' ' :: c :: r' =>
    if date? w = some [] && c.isDigit then
      let w' := (c :: r').takeWhile fun c => !isWordEnd c
      (w ++ ' ' :: w', (c :: r').drop w'.length)
    else (w, r)
  | _ => (w, r)

def isNonfinite (cs : List Char) : Bool :=
  let r := (sign cs).2
  r = ['i', 'n', 'f'] || r = ['n', 'a', 'n']

def ofWord? (w : List Char) : Option Value :=
  if w = ['t', 'r', 'u', 'e'] then some (.bool true)
  else if w = ['f', 'a', 'l', 's', 'e'] then some (.bool false)
  else if isNonfinite w then some .nonfinite
  else if isMoment w then some (.moment w)
  else
    match integer? w with
    | some n => some (.integer n)
    | none => (float? w).map .float

end Concordance.Toml.Scalar
