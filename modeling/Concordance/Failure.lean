import Concordance.Error
/-!
How a command fails, as its user is told.
-/
namespace Concordance

inductive Failure where
  | plain (error : Error)
  /-- What could not be done, and why. -/
  | during (task : String) (error : Error)
  /-- What could not be done, where no more is known or the system says no. -/
  | refused (task : String)
deriving DecidableEq, Repr

namespace Failure

def task? : Failure → Option String
  | plain _ => none
  | during task _ | refused task => some task

def cause? : Failure → Option Error
  | plain e | during _ e => some e
  | refused _ => none

def lines : Failure → List String
  | plain e => ["Error: " ++ e.message]
  | during task e => ["Error: " ++ task, "", "Caused by:", "    " ++ e.message]
  | refused task => ["Error: " ++ task]

end Failure
end Concordance
