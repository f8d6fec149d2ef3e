import Concordance.Json.Quoted
import Concordance.Json.Numeral
/-!
The tree of a scanned text. A fault stays in the tree at the place where scanning met it, so a
reader that walks the tree front to back meets faults of form and faults of content in the order
of the text, and passes over the faults that only a value it does not want would have.
-/
namespace Concordance.Json

structure QuotedText where
  value : Except Stop String
  /-- The fault that even a reader who skips it meets. -/
  skimmed : Option Stop
  /-- Its value as a map key that is a token number, which is read as it is spelled. -/
  token : Except Fault UInt32

/-- How the items of an array or the members of an object end. -/
inductive Ending where
  | closed
  /-- The text ends where a comma or the closing bracket is due. -/
  | cut
  | cutAfterComma
  | stray
deriving DecidableEq

def Ending.stop? : Ending → Option Stop
  | .closed => none
  | .cut | .cutAfterComma => some .endOfText
  | .stray => some .malformed

def Ending.check (e : Ending) : Except Fault Unit :=
  match e.stop? with
  | none => .ok ()
  | some s => .error s.fault

inductive Node where
  | null
  | bool (b : Bool)
  | number (n : Numeral)
  /-- A numeral that the end of the text cuts. -/
  | cutNumber
  | string (q : QuotedText)
  | array (items : List Node) (ending : Ending)
  /-- A member's key is a string unless the text is at fault. -/
  | object (members : List (Node × Node)) (ending : Ending)
  /-- No value starts here. -/
  | absent (s : Stop)
  /-- A value starts here, but its spelling is broken. -/
  | damaged (s : Stop)

def isSpace (c : Char) : Bool := c = ' ' || c = '\n' || c = '\t' || c = '\r'

def skipSpace (s : List Char) : List Char := s.dropWhile isSpace

def scanWord (node : Node) : List Char → List Char → Node × Option (List Char)
  | [], s => (node, some s)
  | _ :: _, [] => (.damaged .endOfText, none)
  | w :: ws, c :: s => if w = c then scanWord node ws s else (.damaged .malformed, none)

/-- A map key that is a token number: a numeral directly between the quotes. -/
def readToken (s : List Char) : Except Fault UInt32 :=
  match s with
  | c :: _ =>
    if c = '-' || c.isDigit then
      match Numeral.read s with
      | .error stop => .error stop.fault
      | .ok (n, r) =>
        if n.overflows then .error .malformed
        else match n.int? with
          | some (.ofNat m) =>
            if m < UInt32.size then
              if r.head? = some '"' then .ok (UInt32.ofNat m) else .error .malformed
            else .error .unsuitable
          | _ => .error .unsuitable
    else .error .malformed
  | [] => .error .malformed

def scanQuoted (s : List Char) : Node × Option (List Char) :=
  let value := (Quoted.read s).map fun r => String.ofList r.1
  match Quoted.skim s with
  | .ok rest => (.string { value, skimmed := none, token := readToken s }, some rest)
  | .error stop => (.string { value, skimmed := some stop, token := readToken s }, none)

def scanNumber (s : List Char) : Node × Option (List Char) :=
  match Numeral.read s with
  | .ok (n, rest) => (.number n, some rest)
  | .error .endOfText => (.cutNumber, none)
  | .error .malformed => (.damaged .malformed, none)

mutual

/-- Scan one value; nothing remains to be scanned behind a fault. -/
def scanValue : Nat → List Char → Node × Option (List Char)
  | 0, _ => (.absent .malformed, none)
  | fuel + 1, s =>
    match skipSpace s with
    | [] => (.absent .endOfText, none)
    | c :: r =>
      if c = 'n' then scanWord .null ['u', 'l', 'l'] r
      else if c = 't' then scanWord (.bool true) ['r', 'u', 'e'] r
      else if c = 'f' then scanWord (.bool false) ['a', 'l', 's', 'e'] r
      else if c = '"' then scanQuoted r
      else if c = '-' || c.isDigit then scanNumber (c :: r)
      else if c = '[' then
        match scanItems fuel true r with
        | (items, ending, rest) => (.array items ending, rest)
      else if c = '{' then
        match scanMembers fuel true r with
        | (members, ending, rest) => (.object members ending, rest)
      else (.absent .malformed, none)

/-- Scan the items of an array up to its end; `first` says that no item precedes. -/
def scanItems : Nat → Bool → List Char → List Node × Ending × Option (List Char)
  | 0, _, _ => ([], .stray, none)
  | fuel + 1, first, s =>
    match skipSpace s with
    | [] => ([], .cut, none)
    | c :: r =>
      if c = ']' then ([], .closed, some r)
      else if first then scanItem fuel (c :: r)
      else if c = ',' then
        match skipSpace r with
        | [] => ([], .cutAfterComma, none)
        | d :: r' => if d = ']' then ([], .stray, none) else scanItem fuel (d :: r')
      else ([], .stray, none)

def scanItem : Nat → List Char → List Node × Ending × Option (List Char)
  | 0, _ => ([], .stray, none)
  | fuel + 1, s =>
    match scanValue fuel s with
    | (node, none) => ([node], .stray, none)
    | (node, some rest) =>
      match scanItems fuel false rest with
      | (items, ending, rest) => (node :: items, ending, rest)

def scanMembers : Nat → Bool → List Char → List (Node × Node) × Ending × Option (List Char)
  | 0, _, _ => ([], .stray, none)
  | fuel + 1, first, s =>
    match skipSpace s with
    | [] => ([], .cut, none)
    | c :: r =>
      if c = '}' then ([], .closed, some r)
      else if first then scanMember fuel (c :: r)
      else if c = ',' then
        match skipSpace r with
        | [] => ([], .cutAfterComma, none)
        | d :: r' => if d = '}' then ([], .stray, none) else scanMember fuel (d :: r')
      else ([], .stray, none)

def scanMember : Nat → List Char → List (Node × Node) × Ending × Option (List Char)
  | 0, _ => ([], .stray, none)
  | fuel + 1, s =>
    match scanValue fuel s with
    | (key, none) => ([(key, .absent .malformed)], .stray, none)
    | (key, some rest) =>
      match key with
      | .string _ =>
        match skipSpace rest with
        | [] => ([(key, .absent .endOfText)], .stray, none)
        | c :: r =>
          if c = ':' then
            match scanValue fuel r with
            | (node, none) => ([(key, node)], .stray, none)
            | (node, some rest) =>
              match scanMembers fuel false rest with
              | (members, ending, rest) => ((key, node) :: members, ending, rest)
          else ([(key, .absent .malformed)], .stray, none)
      | _ => ([(key, .absent .malformed)], .stray, none)

end

def scan (text : String) : Node × Option (List Char) :=
  let s := text.toList
  scanValue (3 * s.length + 3) s

/-- The fault of a value whose kind is not the one wanted. Arrays and objects are not entered. -/
def Node.refusal : Node → Fault
  | .null | .bool _ | .array .. | .object .. => .unsuitable
  | .number n => if n.overflows then .malformed else .unsuitable
  | .cutNumber => .endOfText
  | .string q =>
    match q.value with
    | .ok _ => .unsuitable
    | .error s => s.fault
  | .absent s | .damaged s => s.fault

def Node.key : Node → Except Fault String
  | .string q =>
    match q.value with
    | .ok s => .ok s
    | .error s => .error s.fault
  | _ => .error .malformed

mutual

/-- Pass over a value that nobody wants: it only has to be JSON, of any depth and size. -/
def Node.skim : Node → Except Fault Unit
  | .null | .bool _ | .number _ => .ok ()
  | .cutNumber => .error .malformed
  | .string q =>
    match q.skimmed with
    | none => .ok ()
    | some s => .error s.fault
  | .array items ending => do skimItems items; ending.check
  | .object members ending => do skimMembers members; ending.check
  | .absent s | .damaged s => .error s.fault

def skimItems : List Node → Except Fault Unit
  | [] => .ok ()
  | n :: ns => do n.skim; skimItems ns

def skimMembers : List (Node × Node) → Except Fault Unit
  | [] => .ok ()
  | (k, n) :: ms => do
    match k with
    | .string q =>
      match q.skimmed with
      | none => n.skim
      | some s => throw s.fault
    | _ => throw .malformed
    skimMembers ms

end

mutual

def Node.readAny (depth : Nat) : Node → Except Fault Unit
  | .null | .bool _ => .ok ()
  | .number n => if n.overflows then .error .malformed else .ok ()
  | .cutNumber => .error .endOfText
  | .string q =>
    match q.value with
    | .ok _ => .ok ()
    | .error s => .error s.fault
  | .array items ending =>
    match depth with
    | 0 => .error .malformed
    | depth + 1 => do readAnyItems depth items; ending.check
  | .object members ending =>
    match depth with
    | 0 => .error .malformed
    | depth + 1 => do readAnyMembers depth members; ending.check
  | .absent s | .damaged s => .error s.fault

def readAnyItems (depth : Nat) : List Node → Except Fault Unit
  | [] => .ok ()
  | n :: ns => do n.readAny depth; readAnyItems depth ns

def readAnyMembers (depth : Nat) : List (Node × Node) → Except Fault Unit
  | [] => .ok ()
  | (k, n) :: ms => do let _ ← k.key; n.readAny depth; readAnyMembers depth ms

end

end Concordance.Json
