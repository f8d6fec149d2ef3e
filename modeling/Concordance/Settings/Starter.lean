import Concordance.Failure
import Concordance.Settings.Discovery
/-!
A file of settings to start from.
-/
namespace Concordance.Settings.Starter

def document : String := "\n".intercalate [
  "# Symbol crosswalk configuration",
  "",
  "[extraction]",
  "# Binary types whose members are also visible without a receiver",
  "global_scope_providers = [\"GD\", \"Mathf\"]",
  "# Binary names ending with this are instance-shadow types and are skipped",
  "instance_shadow_suffix = \"Instance\"",
  "# A host enum `Foo` may be compiled as a nested `FooEnum`",
  "enum_suffix = \"Enum\"",
  "",
  "[output]",
  "# res:// resolves against project_root, user:// against the user data dir",
  "path = \"res://.crosswalk/AssemblyData.json\"",
  "# project_root = \".\"",
  ""]

def writeTo (directory : String) (force : Bool) (shell : Shell) : Except Failure String × Shell :=
  let path := Path.join directory fileName
  if shell.exists? path && !force then
    (.error (.refused "Configuration file already exists. Use --force to overwrite."), shell)
  else
    match shell.tree.writeText? shell.directory path document with
    | some tree => (.ok path, { shell with tree })
    | none => (.error (.refused ("Failed to write " ++ path)), shell)

def run (force : Bool) (shell : Shell) : Except Failure (List String) × Shell :=
  match shell.toldDirectory with
  | .error e => (.error (.plain e), shell)
  | .ok directory =>
    match writeTo directory force shell with
    | (.ok path, shell) => (.ok ["Created " ++ path], shell)
    | (.error f, shell) => (.error f, shell)

end Concordance.Settings.Starter
