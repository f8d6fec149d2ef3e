import Concordance.Json.Numeral
/-!
TOML values. A table knows how it was made, since that decides who may still add to it, and a
structure is taken from a table by the names of its fields or from an array by their places.
-/
namespace Concordance.Toml

inductive Making where
  | header
  /-- As a table above one that has a header. -/
  | implied
  /-- By a key with dots. -/
  | dotted
  | braced
deriving DecidableEq, Repr

inductive Value where
  | text (s : String)
  | integer (n : Int)
  | float (n : Json.Numeral)
  /-- An infinity, or no number at all. -/
  | nonfinite
  | bool (b : Bool)
  | moment (spelling : List Char)
  | array (items : List Value)
  /-- Tables under one header that is repeated for each. -/
  | tables (elements : List (List (String × Value)))
  | table (making : Making) (entries : List (String × Value))

abbrev Entries := List (String × Value)

namespace Value

def leastInteger : Int := -0x80000000000000000000000000000000

def greatestInteger : Int := 0xffffffffffffffffffffffffffffffff

mutual

/-- Whether every number in a value is within the ranges that a reader of any value accepts: 128
bits for an integer, signed or not, and that of a double. -/
def isReadable : Value → Bool
  | .integer n => leastInteger ≤ n && n ≤ greatestInteger
  | .float n => !n.overflows
  | .array items => areReadable items
  | .tables elements => areReadableElements elements
  | .table _ entries => areReadableEntries entries
  | _ => true

def areReadable : List Value → Bool
  | [] => true
  | v :: vs => v.isReadable && areReadable vs

def areReadableEntries : List (String × Value) → Bool
  | [] => true
  | (_, v) :: es => v.isReadable && areReadableEntries es

def areReadableElements : List (List (String × Value)) → Bool
  | [] => true
  | es :: rest => areReadableEntries es && areReadableElements rest

end

def text? : Value → Option String
  | .text s => some s
  | _ => none

def texts? : Value → Option (List String)
  | .array items => items.mapM text?
  | _ => none

/-- The fields of a structure with these names. A moment has none of them, and what stands under
other names only has to be readable. -/
def fields? (names : List String) : Value → Option (String → Option Value)
  | .table _ entries =>
    if entries.all fun (k, v) => k ∈ names || v.isReadable then some (entries.lookup ·) else none
  | .array items => some fun n => items[names.idxOf n]?
  | .tables elements => some fun n => (elements[names.idxOf n]?).map (.table .header)
  | .moment _ => some fun _ => none
  | _ => none

end Value
end Concordance.Toml
