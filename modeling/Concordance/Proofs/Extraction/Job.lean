import Concordance.CommandLine.Run
import Concordance.Proofs.Saving
import Mathlib.Control.Monad.Basic
/-!
What an extraction that fails leaves behind. All that can fail before the snapshot is written
changes no file, so an earlier snapshot outlives it. Only the report comes behind the snapshot, and
where it cannot be written the snapshot is already complete.
-/
namespace Concordance.Extraction

open FileTree (UnchangedBut)

namespace Job

variable {j : Job} {s : Settings} {shell after : Shell} {f : Failure}

/-- The ways in which a job fails before its snapshot is there. -/
inductive Blocked (j : Job) (s : Settings) (shell : Shell) : Failure → Prop where
  | module {e : Error} (unread : Compiled.Module.load shell j.module = .error e) :
      Blocked j s shell (.during ("Failed to load module " ++ j.module) e)
  | host {m : Compiled.Module} {e : Error} (read : Compiled.Module.load shell j.module = .ok m)
      (unread : Host.load shell j.host = .error e) :
      Blocked j s shell (.during ("Failed to load host registry " ++ j.host) e)
  | destination {sources : Sources} {e : Error} (read : j.sources shell = .ok sources)
      (unknown : j.destination s.output shell = .error e) : Blocked j s shell (.plain e)
  | saving {sources : Sources} {wish : Option String} {e : Error} {after : Shell}
      (read : j.sources shell = .ok sources) (known : j.destination s.output shell = .ok wish)
      (unsaved : Snapshot.save shell (j.extract s.extraction sources shell.now).registry wish =
        (.error e, after)) :
      Blocked j s shell (.during "Failed to save snapshot" e)

theorem blocked_of_sources (unread : j.sources shell = .error f) : j.Blocked s shell f := by
  unfold sources at unread
  split at unread
  · next failed => exact Except.error.inj unread ▸ .module failed
  · next m read =>
    split at unread
    · next failed => exact Except.error.inj unread ▸ .host read failed
    · contradiction

theorem destination_tracking (j : Job) (s : OutputSettings) (shell : Shell) (tracking : Tracking) :
    j.destination s { shell with tracking } = j.destination s shell := rfl

theorem run_of_sources_error (unread : j.sources shell = .error f) :
    j.run s shell = (.error f, shell) := by
  unfold run
  rw [unread]

theorem run_of_blocked (blocked : j.Blocked s shell f) :
    ∃ after, j.run s shell = (.error f, after) ∧ after.directory = shell.directory ∧
      UnchangedBut [] shell.tree after.tree := by
  cases blocked with
  | module unread =>
    refine ⟨shell, run_of_sources_error ?_, rfl, .refl _⟩
    rw [sources, unread]
  | host read unread =>
    refine ⟨shell, run_of_sources_error ?_, rfl, .refl _⟩
    simp only [sources, read, unread]
  | destination read unknown =>
    unfold run
    rw [read]
    dsimp only
    rw [destination_tracking, unknown]
    exact ⟨_, rfl, rfl, .refl _⟩
  | saving read known unsaved =>
    have kept := Snapshot.directory_of_save unsaved
    have unchanged := Snapshot.unchangedBut_of_save_error unsaved
    unfold run
    rw [read]
    dsimp only
    rw [destination_tracking, known]
    dsimp only
    rw [Snapshot.save_tracking, unsaved]
    exact ⟨_, rfl, kept, unchanged⟩

theorem writeReport_eq_error {t : Tracker} (failed : j.writeReport t shell = (.error f, after)) :
    after = shell ∧ ∃ report, j.unresolvedReport = some report ∧
      f = .refused ("Failed to write unresolved report " ++ report) := by
  unfold writeReport at failed
  split at failed
  · simp at failed
  · next report wanted =>
    split at failed
    · simp at failed
    · obtain ⟨refused, rfl⟩ := Prod.mk.inj failed
      exact ⟨rfl, report, wanted, (Except.error.inj refused).symm⟩

/-- A job that nothing blocks gets its snapshot saved, and fails only by its report. -/
theorem run_of_not_blocked (free : ¬∃ g, j.Blocked s shell g)
    (failed : j.run s shell = (.error f, after)) :
    ∃ sources wish path l, j.sources shell = .ok sources ∧
      j.destination s.output shell = .ok wish ∧ Snapshot.target shell wish = .ok path ∧
      Snapshot.SavedAt (j.extract s.extraction sources shell.now).registry path shell after l ∧
      ∃ report, j.unresolvedReport = some report ∧
        f = .refused ("Failed to write unresolved report " ++ report) := by
  cases read : j.sources shell with
  | error g => exact absurd ⟨g, blocked_of_sources read⟩ free
  | ok sources =>
    cases known : j.destination s.output shell with
    | error e => exact absurd ⟨_, .destination read known⟩ free
    | ok wish =>
      rcases saved : Snapshot.save shell (j.extract s.extraction sources shell.now).registry wish
        with ⟨e | path, middle⟩
      · exact absurd ⟨_, .saving read known saved⟩ free
      · obtain ⟨named, l, there⟩ := Snapshot.savedAt_of_save saved
        unfold run at failed
        rw [read] at failed
        dsimp only at failed
        rw [destination_tracking, known] at failed
        dsimp only at failed
        rw [Snapshot.save_tracking, saved] at failed
        dsimp only at failed
        split at failed
        · next g left refused =>
          obtain ⟨same, rfl⟩ := Prod.mk.inj failed
          obtain ⟨rfl, report⟩ := writeReport_eq_error refused
          obtain rfl := Except.error.inj same
          exact ⟨sources, wish, path, l, rfl, rfl, named,
            ⟨there.leads, there.complete, there.elsewhere⟩, report⟩
        · simp at failed

end Job

/-- An extraction fails wherever its documents, its destination or its saving do. Then all files are
as they were, and an earlier snapshot is read as before; there may be new directories. If none of
these fails, it can fail only by its report, with the snapshot complete at its destination and
nothing else changed. -/
theorem failed_extraction_keeps_files {i : Invocation} {j : Job} (extracts : i.command = .extract j)
    (before : Shell) :
    let s := Settings.chosen i.config before
    (∀ f, j.Blocked s before f → ∃ after, i.run before = (.error f, after)) ∧
      ∀ f after, i.run before = (.error f, after) →
        (j.Blocked s before f ∧ UnchangedBut [] before.tree after.tree ∧
          ∀ path r, Snapshot.ofFile before path = .ok (some r) →
            Snapshot.ofFile after path = .ok (some r)) ∨
        (¬∃ g, j.Blocked s before g) ∧
          ∃ sources wish path l, j.sources before = .ok sources ∧
            j.destination s.output before = .ok wish ∧ Snapshot.target before wish = .ok path ∧
            Snapshot.SavedAt (j.extract s.extraction sources before.now).registry path before
              after l ∧
            ∃ report, j.unresolvedReport = some report ∧
              f = .refused ("Failed to write unresolved report " ++ report) := by
  intro s
  have same : i.run before = j.run s before := by rw [Invocation.run, extracts]
  rw [same]
  refine ⟨fun f blocked => ?_, fun f after failed => ?_⟩
  · obtain ⟨after, failed, -⟩ := Job.run_of_blocked blocked
    exact ⟨after, failed⟩
  · by_cases blocked : ∃ g, j.Blocked s before g
    · left
      obtain ⟨g, blocked⟩ := blocked
      obtain ⟨after', failed', directory, unchanged⟩ := Job.run_of_blocked blocked
      rw [failed'] at failed
      obtain ⟨same, rfl⟩ := Prod.mk.inj failed
      obtain rfl := Except.error.inj same
      exact ⟨blocked, unchanged, fun path r => Snapshot.ofFile_of_unchangedBut directory unchanged⟩
    · exact .inr ⟨blocked, Job.run_of_not_blocked blocked failed⟩

/-- A snapshot that the system does not let be written over, a report below a file, and a system
that tells neither the working directory nor where the program lies. -/
theorem failed_extraction_keeps_files_refused :
    let text (t : String) : Entry := .file t.toUTF8
    let before : Shell := { tree := {
      history := [
        (["m.json"], text "\x7b\x7d"),
        (["h.json"], text "\x7b\"Version\":\"4.3\"\x7d"),
        (["s.json"], text ("\x7b\"Metadata\":\x7b\"godotVersion\":\"4.2\"," ++
          "\"dataFormatVersion\":1,\"extractedAt\":\"1970-01-01T00:00:00Z\"," ++
          "\"source\":\"Live\"\x7d\x7d"))]
      refuses := fun _ l _ => l == ["s.json"] } }
    let silent : Shell := { before with tellsDirectory := false, program := none }
    let job : Job := { module := "m.json", host := "h.json" }
    let extract (output report : Option String) : Invocation :=
      { command := .extract { job with output, unresolvedReport := report } }
    (∃ after r, (extract (some "s.json") none).run before = (.error (.during
        "Failed to save snapshot" (.fileSystem "Failed to write snapshot" "s.json")), after) ∧
      UnchangedBut [] before.tree after.tree ∧
      Snapshot.ofFile before "s.json" = .ok (some r) ∧
      Snapshot.ofFile after "s.json" = .ok (some r)) ∧
    (∃ after r l, (extract (some "new/s.json") (some "m.json/r.json")).run before =
        (.error (.refused "Failed to write unresolved report m.json/r.json"), after) ∧
      Snapshot.SavedAt r "new/s.json" before after l) ∧
    (∃ after, (extract (some "res://s.json") none).run silent = (.error (.plain .system), after) ∧
      UnchangedBut [] before.tree after.tree) ∧
    ∃ after, (extract none none).run silent =
        (.error (.during "Failed to save snapshot" .system), after) ∧
      UnchangedBut [] before.tree after.tree := by
  intro text before silent job extract
  have keeps {i : Invocation} {j : Job} {shell after : Shell} {f : Failure}
      (extracts : i.command = .extract j) (failed : i.run shell = (.error f, after))
      (early : ∀ text, f ≠ .refused text) : UnchangedBut [] shell.tree after.tree ∧
        ∀ path r, Snapshot.ofFile shell path = .ok (some r) →
          Snapshot.ofFile after path = .ok (some r) := by
    rcases (failed_extraction_keeps_files extracts shell).2 f after failed with
      ⟨-, kept⟩ | ⟨-, _, _, _, _, _, _, _, _, report, -, refused⟩
    · exact kept
    · exact absurd refused (early _)
  refine ⟨?_, ?_, ?_, ?_⟩
  · have saving : (extract (some "s.json") none).run before = (.error (.during
        "Failed to save snapshot" (.fileSystem "Failed to write snapshot" "s.json")),
        ((extract (some "s.json") none).run before).2) := Prod.ext (by decide +kernel) rfl
    have earlier : ((Snapshot.ofFile before "s.json").toOption.bind id).isSome = true := by
      decide +kernel
    obtain ⟨unchanged, kept⟩ := keeps rfl saving nofun
    cases found : Snapshot.ofFile before "s.json" with
    | error e => simp [found, Except.toOption] at earlier
    | ok read =>
      rcases read with _ | r
      · simp [found, Except.toOption] at earlier
      · exact ⟨_, r, saving, unchanged, rfl, kept "s.json" r found⟩
  · have reporting : (extract (some "new/s.json") (some "m.json/r.json")).run before =
        (.error (.refused "Failed to write unresolved report m.json/r.json"),
          ((extract (some "new/s.json") (some "m.json/r.json")).run before).2) :=
      Prod.ext (by decide +kernel) rfl
    rcases (failed_extraction_keeps_files rfl before).2 _ _ reporting with
      ⟨blocked, -⟩ | ⟨-, _, wish, path, l, -, known, named, saved, -⟩
    · cases blocked
    · have wished : Job.destination { job with output := some "new/s.json" }
          (Settings.chosen none before).output before = .ok (some "new/s.json") := by
        decide +kernel
      obtain rfl := Except.ok.inj (wished.symm.trans known)
      obtain rfl := Snapshot.eq_of_target named
      exact ⟨_, _, l, reporting, saved⟩
  · have untold : (extract (some "res://s.json") none).run silent = (.error (.plain .system),
        ((extract (some "res://s.json") none).run silent).2) := Prod.ext (by decide +kernel) rfl
    exact ⟨_, untold, (keeps rfl untold nofun).1⟩
  · have unplaced : (extract none none).run silent = (.error (.during
        "Failed to save snapshot" .system), ((extract none none).run silent).2) :=
      Prod.ext (by decide +kernel) rfl
    exact ⟨_, unplaced, (keeps rfl unplaced nofun).1⟩

end Concordance.Extraction
