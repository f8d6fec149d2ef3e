import Concordance.Proofs.Compiled.Format
import Concordance.Proofs.Extraction.Nesting
import Concordance.Proofs.Registry.Format
import Concordance.Proofs.Saving
/-!
Snapshots that are saved and read again. A reader refuses documents that nest more than 127 levels,
a writer does not, so a snapshot can be read exactly if its document stays within that.
-/
namespace Concordance

open Compiled (Module)
open Json

namespace Snapshot

theorem readText?_of_save {shell shell' : Shell} {r : Registry} {wish : Option String}
    {path : String} (saved : save shell r wish = (.ok path, shell')) :
    path ≠ "" ∧ shell'.readText? path = some (render r) := by
  obtain ⟨-, l, there⟩ := savedAt_of_save saved
  exact ⟨there.path_ne, there.readText? (directory_of_save saved)⟩

/-- A document is read exactly if it does not nest too deeply. -/
theorem parse_render {r : Registry}
    (instant : Instant.parse? r.metadata.extractedAt.toText = some r.metadata.extractedAt)
    (visible : Registry.AllVisible r.types) :
    parse (render r) =
      if (Registry.codec.encode r).depth ≤ maxDepth then .ok r else .error .malformed :=
  (Registry.roundTrips instant visible).parse_toText

theorem ofFile_of_save {shell shell' later : Shell} {r : Registry} {wish : Option String}
    {path : String}
    (instant : Instant.parse? r.metadata.extractedAt.toText = some r.metadata.extractedAt)
    (visible : Registry.AllVisible r.types) (version : r.metadata.dataFormat = formatVersion)
    (saved : save shell r wish = (.ok path, shell'))
    (unchanged : later.readText? path = shell'.readText? path) :
    ofFile later path = .ok
      (if (Registry.codec.encode r).depth ≤ maxDepth then
        some { r with metadata := { r.metadata with origin := .file, sourcePath := some path } }
      else none) := by
  obtain ⟨nonempty, text⟩ := readText?_of_save saved
  unfold ofFile
  rw [if_neg nonempty, unchanged, text]
  simp only [parse_render instant visible]
  by_cases fits : (Registry.codec.encode r).depth ≤ maxDepth
  · simp [fits, version]
  · simp [fits]

end Snapshot

namespace Extraction.Job

variable (j : Job) (settings : ExtractionSettings) (sources : Sources) (now : Instant)

theorem metadata_extract : (j.extract settings sources now).registry.metadata =
    { hostVersion := hostVersion sources.module sources.host, extractedAt := now } := by
  obtain ⟨global, same, -⟩ := j.registry_extract settings sources now
  rw [same, ← metadata_ofModule sources.module sources.host settings now]

theorem allVisible_extract :
    Registry.AllVisible (j.extract settings sources now).registry.types := by
  obtain ⟨global, same, -⟩ := j.registry_extract settings sources now
  rw [same]
  exact filter_isVisible_types_ofModule sources.module sources.host settings now

end Extraction.Job

namespace Snapshot

/-- A snapshot of what was extracted from a document reads back as what was saved, its metadata
naming the file, if no method of a stored type nests generic types too deeply: 59 levels in its
return type and 58 in a parameter. Otherwise nothing is read back, though the module's document
itself has room for one level more. -/
theorem ofFile_of_save_extract (j : Extraction.Job) (settings : ExtractionSettings)
    (sources : Extraction.Job.Sources) (now : Instant) {text path written : String}
    {shell shell' later : Shell}
    (accepted : Compiled.Module.codec.decode.parse text = .ok sources.module)
    (instant : Instant.parse? now.toText = some now)
    (saved :
      save shell (j.extract settings sources now).registry (some path) = (.ok written, shell'))
    (unchanged : later.readText? path = shell'.readText? path) :
    let r := (j.extract settings sources now).registry
    let shallow := ∀ t ∈ r.typeEntries, ∀ ms ∈ t.methods.values, ∀ m ∈ ms,
      m.returnType.nesting ≤ 59 ∧ ∀ p ∈ m.parameters, p.binaryType.nesting ≤ 58
    (shallow → ofFile later path = .ok (some { r with
      metadata := { r.metadata with origin := .file, sourcePath := some path } })) ∧
    (¬shallow → ofFile later path = .ok none) := by
  intro r shallow
  obtain rfl : written = path := eq_of_target (savedAt_of_save saved).1
  have metadata : r.metadata = _ := j.metadata_extract settings sources now
  have listed : ∀ t ∈ sources.module.types, t.FitsIn 125 :=
    Compiled.Module.decode_yields.parse accepted
  have fits : (Registry.codec.encode r).depth ≤ maxDepth ↔ shallow := by
    rw [j.depth_encode_extract_le settings sources now listed]
    have levels (m : Method) : m.FitsIn 118 ↔
        m.returnType.nesting ≤ 59 ∧ ∀ p ∈ m.parameters, p.binaryType.nesting ≤ 58 := by
      have half (n k : Nat) : 2 * n + 1 ≤ 2 * k + 2 ↔ n ≤ k := by omega
      unfold Method.FitsIn
      rw [half _ 59]
      simp only [half _ 58]
    simp only [TypeEntry.MethodsFitIn, levels, r, shallow]
  have read := ofFile_of_save (by rw [metadata]; exact instant)
    (j.allVisible_extract settings sources now) (by rw [metadata]) saved unchanged
  rw [read]
  constructor
  · intro h
    rw [if_pos (fits.mpr h)]
  · intro h
    rw [if_neg fun deep => h (fits.mp deep)]

theorem ofFile_of_save_extract_class :
    let list (element : TypeRef) : TypeRef :=
      ⟨"List", "System.Collections.Generic.List", [element]⟩
    let int : TypeRef := .ofFullName "System.Int32"
    let node : Compiled.TypeInfo := {
      name := "Node"
      methods := [{
        name := "Find"
        returnType := list (list int)
        parameters := [{ name := "paths", position := 0, type := list int }] }]
      nestedTypes := [{
        name := "MethodName"
        initializer := some (.instructions [.loadString "find", .storeStaticField "Find"]) }] }
    let m : Module := { types := [node] }
    let text := (Compiled.Module.codec.encode m).toText
    let j : Extraction.Job := { module := "m.json", host := "h.json", applyOverrides := true }
    let r := (j.extract {} ⟨m, {}⟩ Instant.epoch).registry
    Compiled.Module.codec.decode.parse text = .ok m ∧
      r.typeEntries.flatMap (fun t => (t.methods.listAt "find").map
        fun d => (d.returnType.nesting, d.parameters.map (·.binaryType.nesting))) = [(2, [1])] ∧
      ofFile (save {} r (some "s.json")).2 "s.json" = .ok (some { r with
        metadata := { r.metadata with origin := .file, sourcePath := some "s.json" } }) := by
  intro list int node m text j r
  have accepted : Compiled.Module.codec.decode.parse text = .ok m := by
    have fits : (Compiled.Module.codec.encode m).depth ≤ maxDepth := by decide +kernel
    have read := (Compiled.Module.roundTrips m).parse_toText
    rw [if_pos fits] at read
    exact read
  have saved : save {} r (some "s.json") = (.ok "s.json", (save {} r (some "s.json")).2) :=
    Prod.ext rfl rfl
  have instant : Instant.parse? Instant.epoch.toText = some Instant.epoch := by decide +kernel
  exact ⟨accepted, by decide +kernel,
    (ofFile_of_save_extract j {} ⟨m, {}⟩ Instant.epoch accepted instant saved rfl).1
      (by decide +kernel)⟩

end Snapshot

end Concordance
