/-!
JSON values as they are written, and the faults met when a text is read for a value. A reader goes
through the text once, front to back, so the first fault is the one reported.
-/
namespace Concordance

/-- Objects keep their members in the order in which they are written. -/
inductive Json where
  | null
  | bool (b : Bool)
  | int (n : Int)
  | string (s : String)
  | array (items : List Json)
  | object (members : List (String × Json))
deriving Inhabited

namespace Json

inductive Stop where
  | endOfText
  | malformed
deriving DecidableEq, Repr

inductive Fault where
  /-- The text ends inside a value. -/
  | endOfText
  /-- The text is not JSON, or nests too deeply. -/
  | malformed
  /-- JSON, but not of the type or range wanted. -/
  | unsuitable
  | missingField (name : String)
  | duplicateField (name : String)
  | unknownVariant (name : String) (known : List String)
deriving DecidableEq, Repr

def Stop.fault : Stop → Fault
  | .endOfText => .endOfText
  | .malformed => .malformed

def quoteName (name : String) : String := "`" ++ name ++ "`"

def oneOf : List String → String
  | [] => "there are no variants"
  | [a] => "expected " ++ quoteName a
  | [a, b] => "expected " ++ quoteName a ++ " or " ++ quoteName b
  | names => "expected one of " ++ ", ".intercalate (names.map quoteName)

def Fault.message? : Fault → Option String
  | .endOfText | .malformed | .unsuitable => none
  | .missingField name => some ("missing field " ++ quoteName name)
  | .duplicateField name => some ("duplicate field " ++ quoteName name)
  | .unknownVariant name known =>
    some ("unknown variant " ++ quoteName name ++ ", " ++ oneOf known)

end Json
end Concordance
