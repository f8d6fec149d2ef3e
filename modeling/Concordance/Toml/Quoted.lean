import Concordance.Json.Quoted
/-!
Quoted text. Double quotes allow escapes, single ones do not; either stands once around one line or
three times around several. Line ends inside are kept as they are, except one at the very front.
The text has no carriage return but in front of a line feed.
-/
namespace Concordance.Toml.Quoted

def isPlain (c : Char) : Bool := c = '\t' || (' ' ≤ c && c ≠ '\x7f')

def isLineEnd (c : Char) : Bool := c = '\n' || c = '\r'

def shortEscape? (c : Char) : Option Char :=
  if c = '"' ∨ c = '\\' then some c
  else if c = 'n' then some '\n'
  else if c = 't' then some '\t'
  else if c = 'r' then some '\r'
  else if c = 'b' then some '\x08'
  else if c = 'f' then some '\x0c'
  else if c = 'e' then some '\x1b'
  else none

def escapeWidth? (c : Char) : Option Nat :=
  if c = 'x' then some 2
  else if c = 'u' then some 4
  else if c = 'U' then some 8
  else none

/-- What the reader of a text is in the middle of. -/
inductive Place where
  | text
  | escape
  /-- In the digits of an escape: how many are to come, and the number so far. -/
  | number (digits value : Nat)
  /-- In the blanks behind a backslash that joins lines, and whether a line has ended. -/
  | join (ended : Bool)
deriving DecidableEq

def Place.next (c : Char) : Place → Place
  | .join true => if c = ' ' || c = '\t' || isLineEnd c then .join true else .text
  | p => p

def prepend (c : Char) (result : Option (List Char × List Char)) :
    Option (List Char × List Char) :=
  result.map fun (cs, r) => (c :: cs, r)

/-- Behind three closing quotes: up to two more belong to the text. -/
def close (quote : Char) (r : List Char) : List Char × List Char :=
  let extra := (r.take 2).takeWhile (· = quote)
  (extra, r.drop extra.length)

/-- Text in double quotes, up to its end. -/
def basic (lines : Bool) : Place → List Char → Option (List Char × List Char)
  | _, [] => none
  | place, c :: r =>
    match place.next c with
    | .text =>
      if c = '\\' then basic lines .escape r
      else if c = '"' then
        if lines then
          match r with
          | '"' :: '"' :: r' => some (close '"' r')
          | _ => prepend c (basic lines .text r)
        else some ([], r)
      else if isPlain c || (lines && isLineEnd c) then prepend c (basic lines .text r)
      else none
    | .escape =>
      match escapeWidth? c, shortEscape? c with
      | some n, _ => basic lines (.number n 0) r
      | none, some e => prepend e (basic lines .text r)
      | none, none =>
        if lines && (c = ' ' || c = '\t' || isLineEnd c) then basic lines (.join (c = '\n')) r
        else none
    | .number digits value =>
      match Json.Quoted.hexValue? c with
      | none => none
      | some d =>
        let value := value * 16 + d
        if 1 < digits then basic lines (.number (digits - 1) value) r
        else if value.isValidChar then prepend (Char.ofNat value) (basic lines .text r)
        else none
    | .join ended =>
      if c = '\n' then basic lines (.join true) r
      else if c = ' ' || c = '\t' || c = '\r' then basic lines (.join ended) r
      else none

/-- Text in single quotes, up to its end. -/
def literal (lines : Bool) : List Char → Option (List Char × List Char)
  | [] => none
  | c :: r =>
    if c = '\'' then
      if lines then
        match r with
        | '\'' :: '\'' :: r' => some (close '\'' r')
        | _ => prepend c (literal lines r)
      else some ([], r)
    else if isPlain c || (lines && isLineEnd c) then prepend c (literal lines r)
    else none

def dropLineEnd : List Char → List Char
  | '\n' :: r => r
  | '\r' :: '\n' :: r => r
  | r => r

def line? : List Char → Option (List Char × List Char)
  | '"' :: '"' :: '"' :: _ => none
  | '\'' :: '\'' :: '\'' :: _ => none
  | '"' :: r => basic false .text r
  | '\'' :: r => literal false r
  | _ => none

def read? : List Char → Option (List Char × List Char)
  | '"' :: '"' :: '"' :: r => basic true .text (dropLineEnd r)
  | '\'' :: '\'' :: '\'' :: r => literal true (dropLineEnd r)
  | cs => line? cs

end Concordance.Toml.Quoted
