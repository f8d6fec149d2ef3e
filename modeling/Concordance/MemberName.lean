import Concordance.Text.Casing
/-!
The two spellings of a member's name: words joined by underscores on the logical side, capitalised
and run together on the binary side.
-/
namespace Concordance.MemberName

open Text

/-- Drop the underscores and capitalise what follows one; `fresh` says that a word starts here. -/
def pascalFrom (fresh : Bool) : List Char → List Char
  | [] => []
  | c :: cs =>
    if c = '_' then pascalFrom true cs
    else (if fresh then upper c else [c]) ++ pascalFrom false cs

def toPascal (s : String) : String := String.ofList (pascalFrom true s.toList)

/-- Whether a capital starts a word: behind a small letter, or between a capital and a small
letter. -/
def startsWord (previous next : Option Char) : Bool :=
  match previous with
  | none => false
  | some p => isLower p || (isUpper p && next.any isLower)

def snakeAfter (previous : Option Char) : List Char → List Char
  | [] => []
  | c :: cs =>
    (if isUpper c then
      if startsWord previous cs.head? then '_' :: lower c else lower c
    else [c]) ++ snakeAfter (some c) cs

/-- `AddChild` becomes `add_child` and `GetRID` becomes `get_rid`. -/
def toSnake (s : String) : String := String.ofList (snakeAfter none s.toList)

end Concordance.MemberName
