import Concordance.Json.Quoted
import Concordance.Json.Numeral
/-!
The two written forms of a value: compact, without any space, and indented, with one item or
member to a line and two spaces a level.
-/
namespace Concordance.Json

mutual

def render : Json → List Char
  | .null => "null".toList
  | .bool true => "true".toList
  | .bool false => "false".toList
  | .int n => Numeral.renderInt n
  | .string s => Quoted.render s
  | .array items => '[' :: renderItems items
  | .object members => '{' :: renderMembers members

def renderItems : List Json → List Char
  | [] => [']']
  | j :: js => render j ++ renderMoreItems js

def renderMoreItems : List Json → List Char
  | [] => [']']
  | j :: js => ',' :: (render j ++ renderMoreItems js)

def renderMembers : List (String × Json) → List Char
  | [] => ['}']
  | (k, j) :: ms => Quoted.render k ++ ':' :: (render j ++ renderMoreMembers ms)

def renderMoreMembers : List (String × Json) → List Char
  | [] => ['}']
  | (k, j) :: ms => ',' :: (Quoted.render k ++ ':' :: (render j ++ renderMoreMembers ms))

end

def toText (j : Json) : String := String.ofList j.render

def newLine (level : Nat) : List Char := '\n' :: List.replicate (2 * level) ' '

mutual

/-- `level` is the depth of the line on which the value starts. -/
def renderIndented (level : Nat) : Json → List Char
  | .array [] => ['[', ']']
  | .object [] => ['{', '}']
  | .array (j :: js) =>
    '[' :: newLine (level + 1) ++ renderIndented (level + 1) j ++
      renderIndentedItems level js
  | .object ((k, j) :: ms) =>
    '{' :: newLine (level + 1) ++ Quoted.render k ++ ':' :: ' ' ::
      renderIndented (level + 1) j ++ renderIndentedMembers level ms
  | .null => "null".toList
  | .bool true => "true".toList
  | .bool false => "false".toList
  | .int n => Numeral.renderInt n
  | .string s => Quoted.render s

def renderIndentedItems (level : Nat) : List Json → List Char
  | [] => newLine level ++ [']']
  | j :: js =>
    ',' :: newLine (level + 1) ++ renderIndented (level + 1) j ++ renderIndentedItems level js

def renderIndentedMembers (level : Nat) : List (String × Json) → List Char
  | [] => newLine level ++ ['}']
  | (k, j) :: ms =>
    ',' :: newLine (level + 1) ++ Quoted.render k ++ ':' :: ' ' ::
      renderIndented (level + 1) j ++ renderIndentedMembers level ms

end

def toIndentedText (j : Json) : String := String.ofList (j.renderIndented 0)

end Concordance.Json
