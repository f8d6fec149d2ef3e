import Concordance.CommandLine.Run
/-!
The program. It looks at the paths that the arguments name, lets the command run on what it has
found, and then makes the changes of the command to the files.
-/
namespace Concordance.Main

def usage : List String := [
  "Usage: concordance [OPTIONS] COMMAND",
  "",
  "Commands:",
  "  extract --module FILE --host FILE [-o PATH] [--unresolved-report FILE] [--apply-overrides]",
  "  inspect [--file FILE | --baseline]",
  "  init [--force]",
  "",
  "Options:",
  "  -v, --verbose      say more",
  "  -q, --quiet        say less",
  "      --config FILE  settings, instead of those found from here upwards",
  "  -h, --help",
  "  -V, --version"]

def complaint : CommandLine.Refusal → String
  | .unknownArgument => "unknown argument"
  | .invalidValue => "a value is missing or empty"
  | .missingArgument => "--module and --host are required"
  | .conflict => "options that exclude each other"
  | .unknownVerb => "unknown command"
  | .needlessValue => "a value for an option that takes none"
  | .helpWanted | .versionWanted => ""
  | .nothingGiven | .missingVerb => "a command is required"

def waypoints (path : String) : List String :=
  let parts := path.splitOn "/"
  ((List.range parts.length).map fun n => "/".intercalate (parts.take (n + 1))).filter (· ≠ "")

def leadsToDirectory (path : String) : IO Bool := do
  match ← (IO.FS.realPath path).toBaseIO with
  | .ok found => found.isDir
  | .error _ => return false

def lookAt (shell : Shell) (path : String) : IO Shell := do
  match shell.tree.locate shell.directory path with
  | none => return shell
  | some l =>
    if ← leadsToDirectory path then
      return { shell with tree := shell.tree.put l .directory }
    match ← (IO.FS.readBinFile path).toBaseIO with
    | .ok bytes => return { shell with tree := shell.tree.put l (.file bytes) }
    | .error _ => return shell

def lookAtAll (shell : Shell) (paths : List String) : IO Shell :=
  (paths.flatMap waypoints).foldlM lookAt shell

def presentTime : IO Instant := do
  let (_, path) ← IO.FS.createTempFile
  let time := (← path.metadata).modified
  IO.FS.removeFile path
  return .ofSeconds time.sec time.nsec.toNat

/-- Data lies below the directory that is set for it, if that is absolute, or else below the home
directory. -/
def userDirectory : IO (Option String) := do
  let set := (← IO.getEnv "XDG_DATA_HOME").filter (Text.startsWith "/")
  let home := (← IO.getEnv "HOME").map (Path.join · ".local/share")
  return (set.or home).map (Path.join · PathRoots.userDirectoryName)

def surroundings : IO Shell := do
  let here := (← IO.currentDir.toBaseIO).toOption.map (·.toString)
  let program := (← IO.appPath.toBaseIO).toOption.map (·.toString)
  lookAtAll {
    -- A directory that has been removed lies where no path leads to.
    directory := here.elim [""] fun path => (path.splitOn "/").filter (· ≠ "")
    tellsDirectory := here.isSome
    userDirectory := ← userDirectory
    program
    now := ← presentTime } here.toList

def write (change : Location × Entry) : IO Unit :=
  match change with
  | (l, .directory) => IO.FS.createDir (FileTree.pathOf l)
  | (l, .file bytes) => IO.FS.writeBinFile (FileTree.pathOf l) bytes

def perform (i : Invocation) : IO UInt32 := do
  let shell ← surroundings
  let shell ← lookAtAll shell (i.settingsPaths shell)
  let shell ← lookAtAll shell (i.commandPaths shell)
  let (result, after) := i.run shell
  (shell.tree.since after.tree).forM write
  match result with
  | .ok lines => do
    lines.forM fun line => IO.println line
    return 0
  | .error f => do
    f.lines.forM fun line => IO.eprintln line
    return 1

end Concordance.Main

def main (args : List String) : IO UInt32 := do
  match Concordance.CommandLine.read args with
  | .ok i => Concordance.Main.perform i
  | .error .helpWanted => do
    Concordance.Main.usage.forM fun line => IO.println line
    return 0
  | .error .versionWanted => do
    IO.println ("concordance " ++ Concordance.version)
    return 0
  | .error refusal => do
    IO.eprintln ("error: " ++ Concordance.Main.complaint refusal)
    Concordance.Main.usage.forM fun line => IO.eprintln line
    return 2
