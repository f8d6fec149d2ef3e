/-!
What can be said on the command line: the verbs, the options that each of them knows, and the ways
in which arguments are refused.
-/
namespace Concordance.CommandLine

inductive Verb where
  | extract
  | inspect
  | init
deriving DecidableEq, Repr

namespace Verb

def name : Verb → String
  | extract => "extract"
  | inspect => "inspect"
  | init => "init"

def ofName? (s : String) : Option Verb := [extract, inspect, init].find? (·.name = s)

end Verb

inductive Key where
  | verbose
  | quiet
  | config
  | help
  | version
  | module
  | host
  | output
  | unresolvedReport
  | applyOverrides
  | file
  | baseline
  | force
deriving DecidableEq, Repr

inductive Effect where
  | count
  | switch
  /-- Takes a path, which is not empty. -/
  | path
  | text
  /-- Asks for a text instead of a command. -/
  | ask
deriving DecidableEq, Repr

namespace Key

def long : Key → String
  | verbose => "verbose"
  | quiet => "quiet"
  | config => "config"
  | help => "help"
  | version => "version"
  | module => "module"
  | host => "host"
  | output => "output"
  | unresolvedReport => "unresolved-report"
  | applyOverrides => "apply-overrides"
  | file => "file"
  | baseline => "baseline"
  | force => "force"

def short? : Key → Option Char
  | verbose => some 'v'
  | quiet => some 'q'
  | help => some 'h'
  | version => some 'V'
  | output => some 'o'
  | _ => none

def effect : Key → Effect
  | verbose => .count
  | quiet | applyOverrides | baseline | force => .switch
  | config | module | host | unresolvedReport | file => .path
  | output => .text
  | help | version => .ask

def takesValue (k : Key) : Bool := k.effect = .path || k.effect = .text

def shared : List Key := [verbose, quiet, config, help]

/-- The options known before any verb, or behind one. -/
def known : Option Verb → List Key
  | none => version :: shared
  | some .extract => [module, host, output, unresolvedReport, applyOverrides] ++ shared
  | some .inspect => [file, baseline] ++ shared
  | some .init => force :: shared

end Key

inductive Refusal where
  | unknownArgument
  /-- A value is missing, or is none that the option takes. -/
  | invalidValue
  | missingArgument
  /-- An option is given twice, or with one that excludes it. -/
  | conflict
  | unknownVerb
  /-- A value is attached to an option that takes none. -/
  | needlessValue
  | helpWanted
  | versionWanted
  | nothingGiven
  /-- There are options but no verb. -/
  | missingVerb
deriving DecidableEq, Repr

end Concordance.CommandLine
