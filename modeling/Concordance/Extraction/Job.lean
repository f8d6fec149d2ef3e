import Concordance.Documents
import Concordance.Failure
import Concordance.Override.Standard
import Concordance.Registry.Counts
import Concordance.Settings.Discovery
import Concordance.Snapshot.Store
import Concordance.VirtualPath
/-!
An extraction from the documents of a module and a host into the files of a snapshot and a report.
Nothing is written before both documents have been read and the destination is known.
-/
namespace Concordance.Extraction

structure Job where
  module : String
  host : String
  /-- Where the snapshot goes; may be a virtual path. -/
  output : Option String := none
  unresolvedReport : Option String := none
  applyOverrides : Bool := false
deriving DecidableEq, Repr

namespace Job

structure Sources where
  module : Compiled.Module
  host : Host

def sources (j : Job) (shell : Shell) : Except Failure Sources :=
  match Compiled.Module.load shell j.module with
  | .error e => .error (.during ("Failed to load module " ++ j.module) e)
  | .ok module =>
    match Host.load shell j.host with
    | .error e => .error (.during ("Failed to load host registry " ++ j.host) e)
    | .ok host => .ok { module, host }

/-- Where the snapshot is wanted, if anywhere: the job's own wish comes before the settings. -/
def destination (j : Job) (s : OutputSettings) (shell : Shell) : Except Error (Option String) :=
  match j.output.or s.path with
  | none => .ok none
  | some path =>
    match PathRoots.ofSettings s shell with
    | .error e => .error e
    | .ok roots => (roots.resolve path).map some

def extract (j : Job) (s : ExtractionSettings) (sources : Sources) (now : Instant) : Extraction :=
  let x := ofModule sources.module sources.host s now
  if j.applyOverrides then { x with registry := (x.registry.merge .standard).1 } else x

def unresolvedDocument (t : Tracker) : String :=
  (Json.array (t.entries.map Unresolved.codec.encode)).toIndentedText

def writeReport (j : Job) (t : Tracker) (shell : Shell) : Except Failure Unit × Shell :=
  match j.unresolvedReport with
  | none => (.ok (), shell)
  | some path =>
    match shell.tree.writeText? shell.directory path (unresolvedDocument t) with
    | some tree => (.ok (), { shell with tree })
    | none => (.error (.refused ("Failed to write unresolved report " ++ path)), shell)

def unresolvedLine (t : Tracker) : String :=
  if t.entries.isEmpty then "  no unresolved entries"
  else
    "  " ++ toString t.entries.length ++ " unresolved: " ++
      toString (t.count .constantsMismatch) ++ " constants mismatches, " ++
      toString (t.count .enumNotFound) ++ " enums not found, " ++
      toString (t.count .globalEnum) ++ " global enums"

def summary (x : Extraction) (path : String) : List String :=
  let s := RegistryCounts.of x.registry
  ["Extraction complete",
    "  " ++ toString s.logicalTypes ++ " logical types, " ++ toString s.binaryVariants ++
      " binary variants",
    "  " ++ toString s.methods ++ " methods, " ++ toString s.properties ++ " properties, " ++
      toString s.signals ++ " signals, " ++ toString s.constants ++ " constants, " ++
      toString s.enums ++ " enums",
    "  " ++ toString s.globalMethods ++ " global methods",
    unresolvedLine x.unresolved,
    "  saved to " ++ path]

/-- Do the job. The answer is the lines that sum it up. -/
def run (j : Job) (s : Settings) (shell : Shell) : Except Failure (List String) × Shell :=
  match j.sources shell with
  | .error f => (.error f, shell)
  | .ok sources =>
    let x := j.extract s.extraction sources shell.now
    let shell := { shell with
      tracking := trackedAfter sources.module s.extraction shell.tracking }
    match j.destination s.output shell with
    | .error e => (.error (.plain e), shell)
    | .ok path =>
      match Snapshot.save shell x.registry path with
      | (.error e, shell) => (.error (.during "Failed to save snapshot" e), shell)
      | (.ok path, shell) =>
        match j.writeReport x.unresolved shell with
        | (.error f, shell) => (.error f, shell)
        | (.ok (), shell) => (.ok (summary x path), shell)

end Job
end Concordance.Extraction
