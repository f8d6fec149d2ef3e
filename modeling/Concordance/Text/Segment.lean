/-!
Prefixes, suffixes and the last segment of a separated text.
-/
namespace Concordance.Text

/-- What follows the last separator, or all of `s` if it has none. -/
def lastSegment (isSeparator : Char → Bool) (s : String) : String :=
  String.ofList (s.toList.reverse.takeWhile (fun c => !isSeparator c)).reverse

def startsWith (start s : String) : Bool := start.toList.isPrefixOf s.toList

def endsWith (ending s : String) : Bool := ending.toList.isSuffixOf s.toList

def stripStart? (start s : String) : Option String :=
  (start.toList.isPrefixOf? s.toList).map String.ofList

def stripEnd? (ending s : String) : Option String :=
  (ending.toList.isSuffixOf? s.toList).map String.ofList

end Concordance.Text
