import Concordance.CommandLine.Basic
/-!
Reading arguments, front to back. A value may be attached to its option or follow it as the next
argument; one that follows is taken in only when the next option is met or the arguments end, so
that of two faults the one further behind may be reported.
-/
namespace Concordance.CommandLine

structure Reading where
  /-- Options taken in, with their values; a switch has an empty one. -/
  taken : List (Key × String) := []
  /-- An option that is not taken in yet, with its value if that has been met. -/
  pending : Option (Key × Option String) := none

namespace Reading

def isGiven (r : Reading) (k : Key) : Bool := r.taken.any (·.1 = k)

def value? (r : Reading) (k : Key) : Option String := r.taken.lookup k

def count (r : Reading) (k : Key) : Nat := (r.taken.filter (·.1 = k)).length

/-- Whether the next argument is the value of an option, unless it looks like an option itself. -/
def awaitsValue (r : Reading) : Bool :=
  match r.pending with
  | some (_, none) => true
  | _ => false

/-- Take in an option. Only one that counts may be repeated. -/
def take (r : Reading) (k : Key) (value : String) : Except Refusal Reading :=
  if k.effect ≠ .count && r.isGiven k then .error .conflict
  else if k.effect = .path && value = "" then .error .invalidValue
  else .ok { r with taken := r.taken ++ [(k, value)] }

def settle (r : Reading) : Except Refusal Reading :=
  match r.pending with
  | none => .ok r
  | some (_, none) => .error .invalidValue
  | some (k, some v) => { r with pending := none }.take k v

def meet (r : Reading) (k : Key) : Except Refusal Reading := do
  let r ← r.settle
  if k = .help then throw .helpWanted
  else if k = .version then throw .versionWanted
  else if k.takesValue then return { r with pending := some (k, none) }
  else r.take k ""

def meetWith (r : Reading) (k : Key) (value : String) : Except Refusal Reading := do
  (← r.settle).take k value

/-- Meet options by their letters. What follows a letter that takes a value is the value, with or
without an equals sign in front. -/
def meetLetters (known : List Key) : List Char → Reading → Except Refusal Reading
  | [], r => .ok r
  | c :: cs, r =>
    match known.find? (·.short? = some c) with
    | none => .error .unknownArgument
    | some k =>
      if k.takesValue then
        match cs with
        | [] => r.meet k
        | '=' :: value => r.meetWith k (String.ofList value)
        | value => r.meetWith k (String.ofList value)
      else do meetLetters known cs (← r.meet k)

def meetName (known : List Key) (cs : List Char) (r : Reading) : Except Refusal Reading :=
  let name := cs.takeWhile (· ≠ '=')
  match known.find? (·.long.toList = name), cs.drop name.length with
  | none, _ => .error .unknownArgument
  | some k, [] => r.meet k
  | some k, _ :: value =>
    if k.takesValue then r.meetWith k (String.ofList value) else .error .needlessValue

end Reading

def helpWord : String := "help"

def readHelp : List String → Refusal
  | [] => .helpWanted
  | [s] => if s = helpWord || (Verb.ofName? s).isSome then .helpWanted else .unknownVerb
  | _ => .unknownVerb

def strayArgument (verb : Option Verb) (behindDashes : Bool) (arg : String) : Refusal :=
  match verb with
  | some _ => .unknownArgument
  | none =>
    if behindDashes && (arg = helpWord || (Verb.ofName? arg).isSome) then .unknownArgument
    else .unknownVerb

/-- Read the options in front of a verb or behind one. In front of a verb, reading ends with the
verb, and the arguments behind it are returned with it. -/
def readOptions (verb : Option Verb) :
    Reading → List String → Except Refusal (Reading × Option (Verb × List String))
  | r, [] => .ok (r, none)
  | r, arg :: args =>
    let next? := if verb.isNone && !r.awaitsValue then Verb.ofName? arg else none
    match next? with
    | some next => .ok (r, some (next, args))
    | none =>
      if verb.isNone && !r.awaitsValue && arg = helpWord then .error (readHelp args)
      else
        match arg.toList with
        | ['-', '-'] =>
          match args with
          | [] => .ok (r, none)
          | stray :: _ => .error (strayArgument verb true stray)
        | '-' :: '-' :: cs => do readOptions verb (← r.meetName (Key.known verb) cs) args
        | '-' :: c :: cs => do
          readOptions verb (← r.meetLetters (Key.known verb) (c :: cs)) args
        | _ =>
          match r.pending with
          | some (k, none) => readOptions verb { r with pending := some (k, some arg) } args
          | _ => .error (strayArgument verb false arg)

end Concordance.CommandLine
