import Concordance.Json.Basic
/-!
The ways in which an operation fails, and their texts.
-/
namespace Concordance

inductive Error where
  | invalidArgument (text : String)
  | configuration (text : String)
  | fileSystem (text path : String)
  /-- What was being done when `cause` arose. -/
  | withContext (context : String) (cause : Error)
  /-- The system refused a request. -/
  | system
  | json (fault : Json.Fault)
  | toml
deriving DecidableEq, Repr

namespace Error

def message : Error → String
  | invalidArgument text => "Invalid argument: " ++ text
  | configuration text => "Configuration error: " ++ text
  | fileSystem text _ => "File system error: " ++ text
  | withContext context cause => context ++ ": " ++ cause.message
  | system => "the system refused a request"
  | json fault => fault.message?.getD "unreadable document"
  | toml => "unreadable settings"

def isInvalidArgument : Error → Bool
  | invalidArgument _ => true
  | _ => false

def path? : Error → Option String
  | fileSystem _ path => some path
  | _ => none

end Error

def Except.within (context : String) : Except Error α → Except Error α
  | .ok a => .ok a
  | .error e => .error (.withContext context e)

end Concordance
