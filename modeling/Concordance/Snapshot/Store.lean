import Concordance.Error
import Concordance.Extraction.Run
import Concordance.Json.Printer
import Concordance.Shell
import Concordance.Snapshot.Bundled
/-!
Snapshots: a registry from the program itself, from a file or from a module, and its document in a
file. A file that is missing, unreadable or of another format is an absence, not an error.
-/
namespace Concordance.Snapshot

open Json

def parse (text : String) : Except Fault Registry := Registry.codec.decode.parse text

def render (r : Registry) : String := (Registry.codec.encode r).toText

def bundled : Registry :=
  let r := (Bundled.registry.merge .standard).1
  { r with metadata := { r.metadata with origin := .baseline, sourcePath := none } }

def ofFile (shell : Shell) (path : String) : Except Error (Option Registry) :=
  if path = "" then .error (.invalidArgument "snapshot path is empty")
  else
    match shell.readText? path with
    | none => .ok none
    | some text =>
      match parse text with
      | .error _ => .ok none
      | .ok r =>
        if r.metadata.dataFormat = formatVersion then
          .ok (some { r with
            metadata := { r.metadata with origin := .file, sourcePath := some path } })
        else .ok none

def live (context : Option (Compiled.Module × Host × ExtractionSettings)) (shell : Shell) :
    Except Error Registry × Shell :=
  match context with
  | none =>
    (.error (.invalidArgument "live extraction requires a module and host registry"), shell)
  | some (m, host, settings) =>
    (.ok (Extraction.ofModule m host settings shell.now).registry,
      { shell with tracking := Extraction.trackedAfter m settings shell.tracking })

def defaultFileName : String := "AssemblyData.json"

/-- Without a path a snapshot goes next to the program. -/
def defaultPath (shell : Shell) : Except Error String :=
  match shell.program with
  | none => .error .system
  | some program =>
    match Path.parent? program with
    | none => .error (.configuration "executable has no parent directory")
    | some directory => .ok (Path.join directory defaultFileName)

/-- Where a snapshot goes, with a path or without. -/
def target (shell : Shell) : Option String → Except Error String
  | none => defaultPath shell
  | some path =>
    if path = "" then .error (.invalidArgument "snapshot path is empty") else .ok path

def save (shell : Shell) (r : Registry) (path : Option String) : Except Error String × Shell :=
  match target shell path with
  | .error e => (.error e, shell)
  | .ok path =>
    let parent := (Path.parent? path).getD ""
    match shell.tree.ensureDirectory shell.directory parent with
    | (false, tree) =>
      (.error (.fileSystem "Failed to create snapshot directory" parent), { shell with tree })
    | (true, tree) =>
      match tree.writeText? shell.directory path (render r) with
      | some tree => (.ok path, { shell with tree })
      | none => (.error (.fileSystem "Failed to write snapshot" path), { shell with tree })

end Concordance.Snapshot
