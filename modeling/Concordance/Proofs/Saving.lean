import Concordance.Proofs.FileTree
import Concordance.Snapshot.Store
/-!
What saving a snapshot does to the files. All that may go wrong with the path and the directories
goes wrong before the file is written, so a save that fails leaves every file as it was.
-/
namespace Concordance.Snapshot

open FileTree (UnchangedBut)

/-- The document of `r` lies where `path` leads, and nothing else has changed. -/
structure SavedAt (r : Registry) (path : String) (before after : Shell) (l : Location) :
    Prop where
  leads : after.tree.locate before.directory path = some l
  complete : after.tree.at? l = some (.file (render r).toUTF8)
  elsewhere : UnchangedBut [l] before.tree after.tree

variable {shell after : Shell} {r : Registry} {path : String} {wish : Option String} {l : Location}

theorem SavedAt.path_ne (there : SavedAt r path shell after l) : path ≠ "" := by
  rintro rfl
  simpa [FileTree.locate, FileTree.isPath] using there.leads

theorem SavedAt.readText? (there : SavedAt r path shell after l)
    (directory : after.directory = shell.directory) : after.readText? path = some (render r) := by
  rw [Shell.readText?, directory]
  exact FileTree.readText?_of_locate there.leads there.complete

theorem target_tracking (shell : Shell) (tracking : Tracking) (wish : Option String) :
    target { shell with tracking } wish = target shell wish := rfl

theorem save_tracking (shell : Shell) (tracking : Tracking) (r : Registry) (wish : Option String) :
    save { shell with tracking } r wish =
      ((save shell r wish).1, { (save shell r wish).2 with tracking }) := by
  unfold save
  rw [target_tracking]
  cases target shell wish with
  | error e => rfl
  | ok path =>
    dsimp only
    rcases shell.tree.ensureDirectory shell.directory ((Path.parent? path).getD "") with
      ⟨_ | _, tree⟩
    · rfl
    · dsimp only
      cases tree.writeText? shell.directory path (render r) <;> rfl

theorem directory_of_save {result : Except Error String}
    (saved : save shell r wish = (result, after)) : after.directory = shell.directory := by
  have general : (save shell r wish).2.directory = shell.directory := by
    unfold save
    dsimp only
    repeat' split
    all_goals rfl
  rwa [saved] at general

theorem unchangedBut_of_save_error {e : Error} (failed : save shell r wish = (.error e, after)) :
    UnchangedBut [] shell.tree after.tree := by
  unfold save at failed
  dsimp only at failed
  split at failed
  · obtain ⟨-, rfl⟩ := Prod.mk.inj failed
    exact .refl _
  · next path _ =>
    have made := FileTree.unchangedBut_ensureDirectory shell.tree shell.directory
      ((Path.parent? path).getD "")
    split at failed
    · next tree missing =>
      obtain ⟨-, rfl⟩ := Prod.mk.inj failed
      rwa [missing] at made
    · next tree ensured =>
      split at failed
      · simp at failed
      · obtain ⟨-, rfl⟩ := Prod.mk.inj failed
        rwa [ensured] at made

theorem savedAt_of_save {written : String} (saved : save shell r wish = (.ok written, after)) :
    target shell wish = .ok written ∧ ∃ l, SavedAt r written shell after l := by
  unfold save at saved
  dsimp only at saved
  split at saved
  · simp at saved
  · next path named =>
    have made := FileTree.unchangedBut_ensureDirectory shell.tree shell.directory
      ((Path.parent? path).getD "")
    split at saved
    · simp at saved
    · next tree ensured =>
      rw [ensured] at made
      split at saved
      · next tree' put =>
        obtain ⟨ok, rfl⟩ := Prod.mk.inj saved
        obtain rfl := Except.ok.inj ok
        obtain ⟨l, leads, complete, elsewhere⟩ := FileTree.unchangedBut_of_write? put
        exact ⟨named, l, leads, complete, made.trans elsewhere⟩
      · simp at saved

theorem eq_of_target {written : String} (named : target shell (some path) = .ok written) :
    written = path := by
  dsimp only [target] at named
  split at named
  · contradiction
  · exact (Except.ok.inj named).symm

theorem ofFile_of_unchangedBut (directory : after.directory = shell.directory)
    (unchanged : UnchangedBut [] shell.tree after.tree)
    (found : ofFile shell path = .ok (some r)) : ofFile after path = .ok (some r) := by
  unfold ofFile at found ⊢
  split at found
  · contradiction
  · next nonempty =>
    rw [if_neg nonempty]
    split at found
    · simp at found
    · next text read =>
      have read' : after.readText? path = some text := by
        rw [Shell.readText?, directory]
        exact unchanged.readText? read
      rw [read']
      exact found

end Concordance.Snapshot
