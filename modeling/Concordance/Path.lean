import Concordance.Text.Segment
/-!
Textual paths with `/` between names. Joining an absolute path replaces the base; the parent of a
path ignores repeated and trailing slashes and inner dots.
-/
namespace Concordance.Path

def join (base rest : String) : String :=
  if Text.startsWith "/" rest then rest
  else if base = "" ∨ Text.endsWith "/" base then base ++ rest
  else base ++ "/" ++ rest

def withoutEndSlashes (path : String) : String :=
  String.ofList (path.toList.reverse.dropWhile (· = '/')).reverse

/-- Whether a part between slashes names nothing. -/
def isFiller (part : List Char) : Bool := part = [] || part = ['.']

/-- What marks the start of a path, and the rest: the root, or a leading dot. -/
def splitHead (cs : List Char) : List Char × List Char :=
  match cs with
  | '/' :: r => (['/'], r)
  | ['.'] => (['.'], [])
  | '.' :: '/' :: r => (['.'], '/' :: r)
  | _ => ([], cs)

/-- The path up to its last name; the root and the empty path have none. -/
def parent? (path : String) : Option String :=
  let (head, body) := splitHead path.toList
  match ((body.splitOn '/').reverse.dropWhile isFiller) with
  | [] => if head = ['.'] then some "" else none
  | _ :: before =>
    some (String.ofList
      (head ++ ['/'].intercalate (before.dropWhile isFiller).reverse))

def ancestors : (most : Nat) → String → List String
  | 0, _ => []
  | n + 1, path =>
    path :: match parent? path with
      | some p => ancestors n p
      | none => []

end Concordance.Path
