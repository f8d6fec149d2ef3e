import Concordance.FileTree
/-!
Files that are written can be read. A file is put only where no directory is, so every path that
led somewhere before the write, or to the file itself, still leads there. A directory is put only
where nothing is, so making directories loses no file.
-/
namespace Concordance.FileTree

theorem put?_eq_some {t t' : FileTree} {l : Location} {e : Entry} :
    t.put? l e = some t' ↔ t.refuses t.history l e = false ∧ t' = t.put l e := by
  unfold put?
  cases t.refuses t.history l e <;> simp [eq_comm]

def next? (l : Location) (part : String) : Option Location :=
  if part = "" ∨ part = "." then some l
  else if part = ".." then some l.dropLast
  else if isName part then some (l ++ [part])
  else none

theorem follow_cons (t : FileTree) (l : Location) (part : String) (parts : List String) :
    t.follow l (part :: parts) =
      if t.hasDirectory l then (next? l part).bind (t.follow · parts) else none := by
  unfold next?
  rw [follow]
  repeat' split
  all_goals rfl

/-- A file does not hide a directory. -/
theorem hasDirectory_put_file {t : FileTree} {l : Location} (free : t.hasDirectory l = false)
    (bytes : ByteArray) (k : Location) :
    (t.put l (.file bytes)).hasDirectory k = t.hasDirectory k := by
  have inside : l ≠ [] := by rintro rfl; simp [hasDirectory, at?, Entry.isDirectory] at free
  by_cases same : k = l
  · simp [hasDirectory, at?_put t inside, same, Entry.isDirectory] at free ⊢
    exact free
  · simp [hasDirectory, at?_put t inside, same]

theorem follow_put_file {t : FileTree} {l : Location} (free : t.hasDirectory l = false)
    (bytes : ByteArray) (start : Location) (parts : List String) :
    (t.put l (.file bytes)).follow start parts = t.follow start parts := by
  induction parts generalizing start with
  | nil => rfl
  | cons part parts ih => simp only [follow, hasDirectory_put_file free, ih]

theorem locate_put_file {t : FileTree} {l : Location} (free : t.hasDirectory l = false)
    (bytes : ByteArray) (start : Location) (path : String) :
    (t.put l (.file bytes)).locate start path = t.locate start path := by
  simp only [locate, follow_put_file free]

theorem write?_eq_some {t t' : FileTree} {start : Location} {path : String} {bytes : ByteArray}
    (h : t.write? start path bytes = some t') :
    ∃ l, t.locate start path = some l ∧ t.hasDirectory l = false ∧
      t' = t.put l (.file bytes) := by
  obtain ⟨l, located, h⟩ := Option.bind_eq_some_iff.mp h
  split at h
  · contradiction
  · next free => exact ⟨l, located, by simpa using free, (put?_eq_some.mp h).2⟩

private theorem fromUTF8?_toUTF8 (text : String) : String.fromUTF8? text.toUTF8 = some text := by
  unfold String.fromUTF8?
  split
  · rfl
  · next invalid => exact absurd text.isValidUTF8 (by simpa using invalid)

theorem readText?_of_locate {t : FileTree} {start l : Location} {path text : String}
    (leads : t.locate start path = some l) (there : t.at? l = some (.file text.toUTF8)) :
    t.readText? start path = some text := by
  simp only [readText?, find?, leads, Option.bind_some, there]
  exact fromUTF8?_toUTF8 text

section Keeping

variable {before middle after : FileTree} {written later : List Location}

/-- Elsewhere than at `written` nothing is lost or changed, and what is new are directories. -/
def UnchangedBut (written : List Location) (before after : FileTree) : Prop :=
  ∀ l ∉ written, after.at? l = before.at? l ∨ before.at? l = none ∧ after.at? l = some .directory

namespace UnchangedBut

theorem refl (t : FileTree) : UnchangedBut [] t t := fun _ _ => .inl rfl

theorem trans (first : UnchangedBut written before middle)
    (second : UnchangedBut later middle after) : UnchangedBut (written ++ later) before after := by
  intro l outside
  simp only [List.mem_append, not_or] at outside
  rcases second l outside.2 with same | ⟨missing, made⟩
  · rw [same]
    exact first l outside.1
  · rcases first l outside.1 with same | ⟨-, made'⟩
    · exact .inr ⟨same ▸ missing, made⟩
    · simp [made'] at missing

theorem put_file {t : FileTree} {l : Location} (inside : l ≠ []) (bytes : ByteArray) :
    UnchangedBut [l] t (t.put l (.file bytes)) := by
  intro k outside
  simp only [List.mem_singleton] at outside
  exact .inl (by rw [at?_put t inside, if_neg outside])

theorem put_directory {t : FileTree} {l : Location} (free : t.at? l = none) :
    UnchangedBut [] t (t.put l .directory) := by
  have inside : l ≠ [] := by rintro rfl; simp [at?] at free
  intro k _
  by_cases same : k = l
  · exact .inr ⟨same ▸ free, by rw [at?_put t inside, if_pos same]⟩
  · exact .inl (by rw [at?_put t inside, if_neg same])

theorem at?_eq_some (h : UnchangedBut [] before after) {l : Location} {e : Entry}
    (found : before.at? l = some e) : after.at? l = some e := by
  rcases h l List.not_mem_nil with same | ⟨missing, -⟩
  · rw [same, found]
  · simp [missing] at found

theorem hasDirectory (h : UnchangedBut [] before after) {l : Location}
    (found : before.hasDirectory l = true) : after.hasDirectory l = true := by
  obtain ⟨e, there, isDirectory⟩ := (Option.any_eq_true ..).mp found
  exact (Option.any_eq_true ..).mpr ⟨e, h.at?_eq_some there, isDirectory⟩

theorem follow (h : UnchangedBut [] before after) {parts : List String} {start l : Location}
    (leads : before.follow start parts = some l) : after.follow start parts = some l := by
  induction parts generalizing start with
  | nil => exact leads
  | cons part parts ih =>
    rw [follow_cons] at leads ⊢
    split at leads
    · next directory =>
      obtain ⟨next, step, leads⟩ := Option.bind_eq_some_iff.mp leads
      rw [if_pos (h.hasDirectory directory), step]
      exact ih leads
    · contradiction

theorem locate (h : UnchangedBut [] before after) {start l : Location} {path : String}
    (leads : before.locate start path = some l) : after.locate start path = some l := by
  unfold FileTree.locate at leads ⊢
  split at leads
  · next path => rw [if_pos path, h.follow leads]
  · contradiction

theorem readText? (h : UnchangedBut [] before after) {start : Location} {path text : String}
    (read : before.readText? start path = some text) :
    after.readText? start path = some text := by
  unfold FileTree.readText? at read ⊢
  split at read
  · next bytes found =>
    obtain ⟨l, leads, there⟩ := Option.bind_eq_some_iff.mp found
    have found' : after.find? start path = some (.file bytes) :=
      Option.bind_eq_some_iff.mpr ⟨l, h.locate leads, h.at?_eq_some there⟩
    rw [found']
    exact read
  · contradiction

end UnchangedBut

variable {t t' : FileTree} {start : Location} {path : String}

/-- A file is written where the path leads, and nowhere else. -/
theorem unchangedBut_of_write? {bytes : ByteArray} (h : t.write? start path bytes = some t') :
    ∃ l, t'.locate start path = some l ∧ t'.at? l = some (.file bytes) ∧
      UnchangedBut [l] t t' := by
  obtain ⟨l, located, free, rfl⟩ := write?_eq_some h
  have inside : l ≠ [] := by rintro rfl; simp [hasDirectory, at?, Entry.isDirectory] at free
  exact ⟨l, by rw [locate_put_file free, located], by rw [at?_put t inside, if_pos rfl],
    .put_file inside bytes⟩

theorem unchangedBut_of_makeDirectory? (h : t.makeDirectory? start path = some t') :
    UnchangedBut [] t t' := by
  obtain ⟨l, -, h⟩ := Option.bind_eq_some_iff.mp h
  split at h
  · contradiction
  · next free =>
    obtain ⟨-, rfl⟩ := put?_eq_some.mp h
    exact .put_directory (by simpa using free)

theorem unchangedBut_makeDirectories (start : Location) (fuel : Nat) (t : FileTree)
    (path : String) : UnchangedBut [] t (makeDirectories start fuel t path).2 := by
  fun_induction makeDirectories start fuel t path with
  | case1 => exact .refl _
  | case2 => exact .refl _
  | case3 _ _ _ _ _ made => exact unchangedBut_of_makeDirectory? made
  | case4 => exact .refl _
  -- What the directories above have made of the tree is there in any case.
  | case5 _ _ _ _ _ _ _ _ above ih => rwa [above] at ih
  | case6 _ _ _ _ _ _ _ _ above _ ih => rwa [above] at ih
  | case7 _ _ _ _ _ _ _ _ above _ _ made ih =>
    rw [above] at ih
    exact ih.trans (unchangedBut_of_makeDirectory? made)
  | case8 _ _ _ _ _ _ _ _ above _ _ ih => rwa [above] at ih

theorem unchangedBut_ensureDirectory (t : FileTree) (start : Location) (path : String) :
    UnchangedBut [] t (t.ensureDirectory start path).2 := by
  unfold ensureDirectory
  split
  · exact unchangedBut_makeDirectories start _ t path
  · exact .refl t

end Keeping

end Concordance.FileTree
