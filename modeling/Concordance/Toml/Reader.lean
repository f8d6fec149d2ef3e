import Concordance.Toml.Quoted
import Concordance.Toml.Scalar
import Concordance.Toml.Table
/-!
Reading a TOML document: lines, each a header or a key with a value, and comments.
-/
namespace Concordance.Toml

def dropBlanks (cs : List Char) : List Char := cs.dropWhile fun c => c = ' ' || c = '\t'

def isComment (c : Char) : Bool := Quoted.isPlain c || c = '\r'

def skip : (comment : Bool) → List Char → Option (List Char)
  | _, [] => some []
  | comment, c :: r =>
    if c = '\n' then skip false r
    else if comment then (if isComment c then skip true r else none)
    else if c = '#' then skip true r
    else if c = ' ' || c = '\t' || c = '\r' then skip false r
    else some (c :: r)

def endLine : (comment : Bool) → List Char → Option (List Char)
  | _, [] => some []
  | comment, c :: r =>
    if c = '\n' then some r
    else if comment then (if isComment c then endLine true r else none)
    else if c = '#' then endLine true r
    else if c = ' ' || c = '\t' || c = '\r' then endLine false r
    else none

def isBare (c : Char) : Bool := c.isAlphanum || c = '_' || c = '-'

def name? (cs : List Char) : Option (String × List Char) :=
  match Quoted.line? cs with
  | some (s, r) => some (String.ofList s, r)
  | none =>
    let s := cs.takeWhile isBare
    if s.isEmpty then none else some (String.ofList s, cs.drop s.length)

def key? (dots : Nat) (cs : List Char) : Option ((List String × String) × List Char) := do
  let (k, r) ← name? cs
  match dropBlanks r with
  | '.' :: r =>
    match dots with
    | 0 => none
    | dots + 1 =>
      let ((above, key), r) ← key? dots (dropBlanks r)
      return ((k :: above, key), r)
  | r => return (([], k), r)

def mostDots : Nat := 80

def assignment? (read : List Char → Option (Value × List Char)) (cs : List Char) :
    Option (Line × List Char) := do
  let ((above, key), r) ← key? mostDots cs
  match r with
  | '=' :: r =>
    let (v, r) ← read (dropBlanks r)
    return (.assignment above key v, r)
  | _ => none

/-- Items with commas between them up to `close`; a comma may follow the last. -/
def items? (read : List Char → Option (α × List Char)) (close : Char) :
    (fuel : Nat) → List Char → Option (List α × List Char)
  | 0, _ => none
  | fuel + 1, cs => do
    match ← skip false cs with
    | [] => none
    | c :: r =>
      if c = close then return ([], r)
      else
        let (a, r) ← read (c :: r)
        match ← skip false r with
        | ',' :: r =>
          let (as, r) ← items? read close fuel r
          return (a :: as, r)
        | c :: r => if c = close then return ([a], r) else none
        | [] => none

/-- A value in which brackets and braces nest at most `depth` deep. -/
def value? : (depth : Nat) → List Char → Option (Value × List Char)
  | _, '"' :: r => ofText ('"' :: r)
  | _, '\'' :: r => ofText ('\'' :: r)
  | depth + 1, '[' :: r => do
    let (items, r) ← items? (value? depth) ']' (r.length + 1) r
    return (.array items, r)
  | depth + 1, '\x7b' :: r => do
    let (lines, r) ← items? (assignment? (value? depth)) '\x7d' (r.length + 1) r
    return (.table .braced (← fill [] lines []), r)
  | _, cs => do
    let (w, r) := Scalar.word cs
    return (← Scalar.ofWord? w, r)
where
  ofText (cs : List Char) : Option (Value × List Char) :=
    (Quoted.read? cs).map fun (s, r) => (.text (String.ofList s), r)

def deepest : Nat := 80

def header? : List Char → Option (Line × List Char)
  | '[' :: '[' :: r => do
    let ((above, key), r) ← key? mostDots (dropBlanks r)
    match r with
    | ']' :: ']' :: r => return (.header true above key, r)
    | _ => none
  | '[' :: r => do
    let ((above, key), r) ← key? mostDots (dropBlanks r)
    match r with
    | ']' :: r => return (.header false above key, r)
    | _ => none
  | _ => none

def line? (cs : List Char) : Option (Line × List Char) :=
  match cs with
  | '[' :: _ => header? cs
  | _ => assignment? (value? deepest) cs

def lines? : (fuel : Nat) → List Char → Option (List Line)
  | 0, _ => none
  | fuel + 1, cs => do
    match ← skip false cs with
    | [] => return []
    | cs =>
      let (line, r) ← line? cs
      return line :: (← lines? fuel (← endLine false r))

def endsLinesWell : List Char → Bool
  | [] => true
  | c :: r => (c ≠ '\r' || r.head? = some '\n') && endsLinesWell r

def dropMark : List Char → List Char
  | '\ufeff' :: r => r
  | r => r

def read? (text : String) : Option Entries := do
  let cs := dropMark text.toList
  guard (endsLinesWell cs)
  fill [] (← lines? (cs.length + 1) cs) []

end Concordance.Toml
