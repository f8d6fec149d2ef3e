import Concordance.Failure
import Concordance.Registry.Counts
import Concordance.Snapshot.Store
/-!
What a snapshot holds, in lines for people.
-/
namespace Concordance.Snapshot

def report (r : Registry) : List String :=
  let m := r.metadata
  let s := RegistryCounts.of r
  ["Snapshot", "  source:         " ++ m.origin.name] ++
  (match m.sourcePath with
    | some path => ["  path:           " ++ path]
    | none => []) ++
  ["  godot version:  " ++ m.hostVersion,
    "  format version: " ++ toString m.dataFormat.toNat,
    "  extracted at:   " ++ m.extractedAt.toOffsetText,
    "",
    "Types",
    "  " ++ toString s.logicalTypes ++ " logical, " ++ toString s.binaryVariants ++
      " binary variants",
    "  " ++ toString s.methods ++ " methods, " ++ toString s.properties ++ " properties, " ++
      toString s.signals ++ " signals, " ++ toString s.constants ++ " constants, " ++
      toString s.enums ++ " enums",
    "Global scope",
    "  " ++ toString s.globalMethods ++ " methods, " ++ toString s.globalConstants ++
      " constants, " ++ toString s.globalEnums ++ " enums, " ++ toString s.globalTypes ++
      " type proxies"]

def inspect (path : Option String) (shell : Shell) : Except Failure (List String) :=
  match path with
  | none => .ok (report bundled)
  | some path =>
    match ofFile shell path with
    | .error e => .error (.plain e)
    | .ok none => .error (.refused ("No readable snapshot at " ++ path))
    | .ok (some r) => .ok (report r)

end Concordance.Snapshot
