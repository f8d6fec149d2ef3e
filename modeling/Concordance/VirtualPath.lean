import Concordance.Error
import Concordance.Path
import Concordance.Settings.Basic
import Concordance.Shell
/-!
Virtual paths: `res://x` lies in the project, `user://x` among the user's data, and any other path
is a path of the file system.
-/
namespace Concordance

structure PathRoots where
  projectRoot : String
  userDirectory : Option String

namespace PathRoots

def projectScheme : String := "res://"
def userScheme : String := "user://"

def userDirectoryName : String := "symbol-crosswalk"

/-- The project is the configured directory, or else the working directory. -/
def ofSettings (s : OutputSettings) (shell : Shell) : Except Error PathRoots :=
  let root :=
    match s.projectRoot with
    | some root => if root = "" then shell.toldDirectory else .ok root
    | none => shell.toldDirectory
  root.map fun projectRoot => { projectRoot, userDirectory := shell.userDirectory }

def resolve (r : PathRoots) (path : String) : Except Error String :=
  if path = "" then .error (.invalidArgument "path is empty")
  else
    match Text.stripStart? projectScheme path with
    | some rest => .ok (Path.join r.projectRoot rest)
    | none =>
      match Text.stripStart? userScheme path with
      | some rest =>
        match r.userDirectory with
        | some directory => .ok (Path.join directory rest)
        | none => .error (.configuration "no per-user data directory on this platform")
      | none => .ok path

end PathRoots
end Concordance
