import Concordance.CommandLine.Reader
import Concordance.Extraction.Job
/-!
What the arguments ask for.
-/
namespace Concordance

structure InspectOptions where
  file : Option String := none
  baseline : Bool := false
deriving DecidableEq, Repr

inductive Command where
  | extract (job : Extraction.Job)
  | inspect (options : InspectOptions)
  | init (force : Bool)
deriving DecidableEq, Repr

structure Invocation where
  verbosity : Nat := 0
  quiet : Bool := false
  /-- Path of the settings, where they are not to be searched for. -/
  config : Option String := none
  command : Command
deriving DecidableEq, Repr

namespace CommandLine

def command (verb : Verb) (r : Reading) : Except Refusal Command :=
  match verb with
  | .extract =>
    match r.value? .module, r.value? .host with
    | some module, some host =>
      .ok (.extract {
        module
        host
        output := r.value? .output
        unresolvedReport := r.value? .unresolvedReport
        applyOverrides := r.isGiven .applyOverrides })
    | _, _ => .error .missingArgument
  | .inspect =>
    if r.isGiven .file && r.isGiven .baseline then .error .conflict
    else .ok (.inspect { file := r.value? .file, baseline := r.isGiven .baseline })
  | .init => .ok (.init (r.isGiven .force))

def mostVerbose : Nat := 255

/-- Shared options hold for the command wherever they stand; of two values the one behind the verb
counts. -/
def invocation (front behind : Reading) (command : Command) : Invocation where
  verbosity :=
    min mostVerbose <|
      if behind.isGiven .verbose then behind.count .verbose else front.count .verbose
  quiet := front.isGiven .quiet || behind.isGiven .quiet
  config := (behind.value? .config).or (front.value? .config)
  command

def read (args : List String) : Except Refusal Invocation := do
  match ← readOptions none {} args with
  | (r, none) =>
    let r ← r.settle
    throw (if r.taken.isEmpty then .nothingGiven else .missingVerb)
  | (front, some (verb, rest)) =>
    let (behind, _) ← readOptions (some verb) {} rest
    let behind ← behind.settle
    let c ← command verb behind
    let front ← front.settle
    return invocation front behind c

end CommandLine
end Concordance
