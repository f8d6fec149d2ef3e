import Concordance.Text.CaseTable
/-!
Letter case of single characters and of whole texts. ASCII is decided without the tables; a small
sigma takes its final form only when a whole text is lowered, where its neighbours are known.
-/
namespace Concordance.Text

def isUpper (c : Char) : Bool :=
  if c.toNat < 128 then c.isUpper else uppercaseRuns.any (·.has c.toNat)

def isLower (c : Char) : Bool :=
  if c.toNat < 128 then c.isLower else lowercaseRuns.any (·.has c.toNat)

def isTitle (c : Char) : Bool := titlecaseRuns.any (·.has c.toNat)

def isCased (c : Char) : Bool := isUpper c || isLower c || isTitle c

/-- Marks that the search for a neighbouring letter passes over. -/
def isCaseIgnorable (c : Char) : Bool := caseIgnorableRuns.any (·.has c.toNat)

/-- Look a character up: first among the sequences, then among the runs, else itself. -/
def mapCase (sequences : List (Nat × List Nat)) (runs : List CaseRun) (c : Char) : List Char :=
  match sequences.lookup c.toNat with
  | some cs => cs.map Char.ofNat
  | none =>
    match runs.find? (·.run.has c.toNat) with
    | some r => [Char.ofNat (r.apply c.toNat)]
    | none => [c]

def upper (c : Char) : List Char :=
  if c.toNat < 128 then [c.toUpper] else mapCase toUpperSequences toUpperRuns c

def lower (c : Char) : List Char :=
  if c.toNat < 128 then [c.toLower] else mapCase toLowerSequences toLowerRuns c

def meetsCased (cs : List Char) : Bool :=
  match cs.dropWhile isCaseIgnorable with
  | [] => false
  | c :: _ => isCased c

/-- Lower `cs`, where `before` are the characters already passed, nearest first. -/
def lowerAfter (before : List Char) : List Char → List Char
  | [] => []
  | c :: cs =>
    (if c = 'Σ' then
      if meetsCased before && !meetsCased cs then ['ς'] else ['σ']
    else lower c) ++ lowerAfter (c :: before) cs

/-- A whole text in lower case; a capital sigma that ends a word becomes a final sigma. -/
def lowerText (s : String) : String := String.ofList (lowerAfter [] s.toList)

@[simp] theorem upper_ascii {c : Char} (h : c.toNat < 128) : upper c = [c.toUpper] := by
  simp [upper, h]

@[simp] theorem lower_ascii {c : Char} (h : c.toNat < 128) : lower c = [c.toLower] := by
  simp [lower, h]

theorem isUpper_ascii {c : Char} (h : c.toNat < 128) : isUpper c = c.isUpper := by
  simp [isUpper, h]

theorem isLower_ascii {c : Char} (h : c.toNat < 128) : isLower c = c.isLower := by
  simp [isLower, h]

end Concordance.Text
