import Concordance.Text.Blank
/-!
Instants of time in UTC and their text, a date and a time of day with an offset. Reading allows
blanks between the parts and single digits; writing gives the fewest of 0, 3, 6 or 9 decimal
places that hold the fraction.
-/
namespace Concordance

structure Instant where
  /-- Days since 1970-01-01. -/
  day : Int
  second : Nat
  /-- At least `nanosPerSecond` within a leap second, which is part of the second before it. -/
  nanosecond : Nat
deriving DecidableEq

namespace Instant

def nanosPerSecond : Nat := 1000000000

def epoch : Instant := ⟨0, 0, 0⟩

def ofSeconds (seconds : Int) (nanosecond : Nat) : Instant :=
  ⟨seconds.fdiv 86400, (seconds.fmod 86400).toNat, nanosecond⟩

instance : Inhabited Instant := ⟨epoch⟩

def isLeapYear (y : Int) : Bool := y % 4 == 0 && (y % 100 != 0 || y % 400 == 0)

def daysInMonth (y : Int) (m : Nat) : Nat :=
  if m = 2 then (if isLeapYear y then 29 else 28)
  else if m = 4 ∨ m = 6 ∨ m = 9 ∨ m = 11 then 30
  else 31

/-- Days from 1970-01-01 to a date. Years are counted from March, so that the leap day is the last
day of a year, in eras of 400 years. -/
def dayOfDate (y : Int) (m d : Nat) : Int :=
  let y := if m ≤ 2 then y - 1 else y
  let era := y.fdiv 400
  let yearOfEra := y - era * 400
  let month : Int := if 2 < m then (m : Int) - 3 else (m : Int) + 9
  let dayOfYear := (153 * month + 2).fdiv 5 + d - 1
  let dayOfEra := yearOfEra * 365 + yearOfEra.fdiv 4 - yearOfEra.fdiv 100 + dayOfYear
  era * 146097 + dayOfEra - 719468

def dateOfDay (day : Int) : Int × Nat × Nat :=
  let z := day + 719468
  let era := z.fdiv 146097
  let dayOfEra := (z - era * 146097).toNat
  let yearOfEra := (dayOfEra - dayOfEra / 1460 + dayOfEra / 36524 - dayOfEra / 146096) / 365
  let dayOfYear := dayOfEra - (365 * yearOfEra + yearOfEra / 4 - yearOfEra / 100)
  let month := (5 * dayOfYear + 2) / 153
  let d := dayOfYear - (153 * month + 2) / 5 + 1
  let m := if month < 10 then month + 3 else month - 9
  let y := (yearOfEra : Int) + era * 400
  (if m ≤ 2 then y + 1 else y, m, d)

def firstYear : Int := -262143
def lastYear : Int := 262142

def inRange (day : Int) : Bool := dayOfDate firstYear 1 1 ≤ day && day ≤ dayOfDate lastYear 12 31

section Reading

open Text

def takeNumber (most : Option Nat) (s : List Char) : Option (Nat × List Char) :=
  let front := match most with
    | some n => s.take n
    | none => s
  let ds := front.takeWhile (·.isDigit)
  if ds.isEmpty then none
  else some (ds.foldl (fun n d => n * 10 + (d.toNat - 48)) 0, s.drop ds.length)

/-- A year: four digits at most, any number of them behind a sign. -/
def takeYear (s : List Char) : Option (Int × List Char) :=
  match trimStart s with
  | '-' :: r => (takeNumber none r).map fun (n, r) => (-(n : Int), r)
  | '+' :: r => (takeNumber none r).map fun (n, r) => ((n : Int), r)
  | r => (takeNumber (some 4) r).map fun (n, r) => ((n : Int), r)

def takePart (s : List Char) : Option (Nat × List Char) := takeNumber (some 2) (trimStart s)

def takeMark (c : Char) (s : List Char) : Option (List Char) :=
  match trimStart s with
  | d :: r => if d = c then some r else none
  | [] => none

/-- The fraction of a second in nanoseconds; digits beyond the ninth are dropped. -/
def takeNanosecond : List Char → Option (Nat × List Char)
  | '.' :: r =>
    match takeNumber (some 9) r with
    | some (n, r') =>
      some (n * Nat.pow 10 (9 - (r.length - r'.length)), r'.dropWhile (·.isDigit))
    | none => none
  | r => some (0, r)

def takeHoursMinutes (s : List Char) : Option (Nat × List Char) :=
  match s with
  | h₁ :: h₂ :: r =>
    match r.dropWhile (fun c => c = ':' || isBlank c) with
    | m₁ :: m₂ :: r =>
      if h₁.isDigit && h₂.isDigit && m₁.isDigit && m₂.isDigit && m₁.toNat < 54 then
        let value (c : Char) : Nat := c.toNat - 48
        some ((value h₁ * 10 + value h₂) * 60 + value m₁ * 10 + value m₂, r)
      else none
    | _ => none
  | _ => none

def takeOffset (s : List Char) : Option (Int × List Char) :=
  match s with
  | 'Z' :: r | 'z' :: r => some (0, r)
  | '+' :: r => (takeHoursMinutes r).map fun (n, r) => ((n : Int), r)
  | '-' :: r | '−' :: r => (takeHoursMinutes r).map fun (n, r) => (-(n : Int), r)
  | u :: t :: c :: r =>
    if u.toUpper = 'U' ∧ t.toUpper = 'T' ∧ c.toUpper = 'C' then some (0, r) else none
  | _ => none

def parse? (text : String) : Option Instant := do
  let (y, s) ← takeYear text.toList
  let (m, s) ← takePart (← takeMark '-' s)
  let (d, s) ← takePart (← takeMark '-' s)
  let s ← match s with
    | 'T' :: r | 't' :: r | ' ' :: r => some r
    | _ => none
  let (hour, s) ← takePart s
  let (minute, s) ← takePart (← takeMark ':' s)
  let (second, s) ← takePart (← takeMark ':' s)
  let (nano, s) ← takeNanosecond s
  let (offset, s) ← takeOffset (trimStart s)
  guard (trimStart s).isEmpty
  guard (firstYear ≤ y && y ≤ lastYear)
  guard (1 ≤ m && m ≤ 12 && 1 ≤ d && d ≤ daysInMonth y m)
  guard (hour < 24 && minute < 60 && second ≤ 60)
  guard (offset.natAbs < 24 * 60)
  let (second, nano) := if second = 60 then (59, nano + nanosPerSecond) else (second, nano)
  let seconds : Int := (hour * 3600 + minute * 60 + second : Nat) - offset * 60
  let day := dayOfDate y m d + seconds.fdiv 86400
  guard (inRange day)
  return ⟨day, (seconds.fmod 86400).toNat, nano⟩

end Reading

section Writing

def padded (width n : Nat) : String :=
  let ds := Nat.toDigits 10 n
  String.ofList (List.replicate (width - ds.length) '0' ++ ds)

def yearText (y : Int) : String :=
  if 0 ≤ y ∧ y ≤ 9999 then padded 4 y.toNat
  else (if y < 0 then "-" else "+") ++ padded 4 y.natAbs

def fractionText (nano : Nat) : String :=
  if nano = 0 then ""
  else if nano % 1000000 = 0 then "." ++ padded 3 (nano / 1000000)
  else if nano % 1000 = 0 then "." ++ padded 6 (nano / 1000)
  else "." ++ padded 9 nano

def render (utc : String) (t : Instant) : String :=
  let (y, m, d) := dateOfDay t.day
  let leap := nanosPerSecond ≤ t.nanosecond
  let second := t.second % 60 + if leap then 1 else 0
  let nano := if leap then t.nanosecond - nanosPerSecond else t.nanosecond
  yearText y ++ "-" ++ padded 2 m ++ "-" ++ padded 2 d ++ "T" ++
    padded 2 (t.second / 3600) ++ ":" ++ padded 2 (t.second / 60 % 60) ++ ":" ++
    padded 2 second ++ fractionText nano ++ utc

def toText (t : Instant) : String := t.render "Z"

def toOffsetText (t : Instant) : String := t.render "+00:00"

end Writing

end Instant
end Concordance
