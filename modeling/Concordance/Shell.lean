import Concordance.Error
import Concordance.FileTree
import Concordance.Instant
import Concordance.Tracking
/-!
What a command finds around it: the files, the directory it works in, and what is tracked for the
report of a crash.
-/
namespace Concordance

structure Shell where
  tree : FileTree := {}
  /-- The working directory, where relative paths start. -/
  directory : Location := []
  /-- Whether the system tells the path of the working directory. It does not where that has been
  removed. -/
  tellsDirectory : Bool := true
  userDirectory : Option String := none
  /-- The path of the program itself, where the system tells it. -/
  program : Option String := some "/concordance"
  now : Instant := Instant.epoch
  tracking : Tracking := {}

namespace Shell

def directoryPath (s : Shell) : String := FileTree.pathOf s.directory

def toldDirectory (s : Shell) : Except Error String :=
  if s.tellsDirectory then .ok s.directoryPath else .error .system

def exists? (s : Shell) (path : String) : Bool := (s.tree.find? s.directory path).isSome

def readText? (s : Shell) (path : String) : Option String := s.tree.readText? s.directory path

end Shell
end Concordance
