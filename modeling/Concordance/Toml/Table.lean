import Concordance.Toml.Value
/-!
How the lines of a document fill a table. Every key gets a value once; a table is opened by a header
once, may have been implied by headers below it before, and is closed to everyone else when it was
made by a key with dots or between braces.
-/
namespace Concordance.Toml

def alter (key : String) (f : Option Value → Option Value) : Entries → Option Entries
  | [] => (f none).map fun v => [(key, v)]
  | (k, v) :: es =>
    if k = key then (f (some v)).map fun v => (k, v) :: es
    else (alter key f es).map ((k, v) :: ·)

def onLast (f : Entries → Option Entries) : List Entries → Option (List Entries)
  | [] => none
  | [es] => (f es).map ([·])
  | es :: rest => (onLast f rest).map (es :: ·)

/-- Give a key with dots a value. The table that gets it must be one that such keys made, unless the
key has no dots. -/
def assign (v : Value) : (above : List String) → (key : String) → Entries → Option Entries
  | [], key => alter key fun
    | none => some v
    | some _ => none
  | k :: above, key => alter k fun
    | none => (assign v above key []).map (.table .dotted)
    | some (.table .dotted es) => (assign v above key es).map (.table .dotted)
    | some (.table .implied es) =>
      if above = [] then none else (assign v above key es).map (.table .implied)
    | some (.tables elements) =>
      if above = [] then none else (onLast (assign v above key) elements).map .tables
    | some _ => none

/-- Change the table that the path of a header leads to. Of repeated tables it is the last. -/
def within (f : Entries → Option Entries) : (path : List String) → Entries → Option Entries
  | [] => f
  | k :: path => alter k fun
    | none => (within f path []).map (.table .implied)
    | some (.table making es) =>
      if making = .braced then none else (within f path es).map (.table making)
    | some (.tables elements) => (onLast (within f path) elements).map .tables
    | some _ => none

inductive Line where
  | header (repeated : Bool) (above : List String) (key : String)
  | assignment (above : List String) (key : String) (v : Value)

def openTable (repeated : Bool) (above : List String) (key : String) :
    Entries → Option Entries :=
  within (alter key fun
    | none => some (if repeated then .tables [[]] else .table .header [])
    | some (.table .implied es) => if repeated then none else some (.table .header es)
    | some (.tables elements) => if repeated then some (.tables (elements ++ [[]])) else none
    | some _ => none) above

/-- Fill a table line by line; `current` is the path of the last header. -/
def fill : (current : List String) → List Line → Entries → Option Entries
  | _, [], es => some es
  | _, .header repeated above key :: lines, es =>
    (openTable repeated above key es).bind (fill (above ++ [key]) lines)
  | current, .assignment above key v :: lines, es =>
    (within (assign v above key) current es).bind (fill current lines)

end Concordance.Toml
