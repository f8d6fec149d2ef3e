import Concordance.Proofs.Saving
import Concordance.Proofs.Text.Segment
import Concordance.VirtualPath
/-!
Where virtual paths lead. What stands behind a scheme is joined to the scheme's directory, so it
names something below that directory, and a snapshot goes where it leads from there; unless it
starts with a slash, which leaves nothing of the directory.
-/
namespace Concordance

open Text

namespace Path

/-- A relative path comes behind the base and a slash, which the base may end in already. -/
theorem join_cases {rest : String} (relative : startsWith "/" rest = false) (base : String) :
    base = "" ∧ join base rest = rest ∨
      (∃ front, base = front ++ "/" ∧ join base rest = front ++ "/" ++ rest) ∨
      base ≠ "" ∧ join base rest = base ++ "/" ++ rest := by
  by_cases empty : base = ""
  · exact .inl ⟨empty, by simp [join, relative, empty]⟩
  · by_cases slash : endsWith "/" base = true
    · obtain ⟨front, rfl⟩ := endsWith_iff.mp slash
      exact .inr (.inl ⟨front, rfl, by simp [join, relative, slash]⟩)
    · exact .inr (.inr ⟨empty, by simp [join, relative, slash, empty]⟩)

section Components

def names (cs : List Char) : List (List Char) := (cs.splitOn '/').filter (!isFiller ·)

/-- The root or the leading dot of a path, and its names: a path apart from slashes that repeat or
end it and from inner dots. -/
def components (path : String) : List (List Char) :=
  let (head, body) := splitHead path.toList
  [head].filter (· ≠ []) ++ names body

/-- A path names the base or something below it. -/
def IsBelow (base path : String) : Prop := components base <+: components path

instance (base path : String) : Decidable (IsBelow base path) :=
  inferInstanceAs (Decidable (components base <+: components path))

theorem splitOn_append_slash (cs ds : List Char) :
    (cs ++ '/' :: ds).splitOn '/' = cs.splitOn '/' ++ ds.splitOn '/' :=
  List.splitOnP_append_cons cs ds (by simp)

theorem names_append_slash (cs ds : List Char) :
    names (cs ++ '/' :: ds) = names cs ++ names ds := by
  rw [names, splitOn_append_slash, List.filter_append, ← names, ← names]

theorem splitHead_append_slash {cs : List Char} (nonempty : cs ≠ []) (ds : List Char) :
    splitHead (cs ++ '/' :: ds) = ((splitHead cs).1, (splitHead cs).2 ++ '/' :: ds) := by
  rcases cs with _ | ⟨c, cs⟩
  · contradiction
  · by_cases root : c = '/'
    · simp [root, splitHead]
    · by_cases dot : c = '.'
      · subst dot
        rcases cs with _ | ⟨d, cs⟩
        · simp [splitHead]
        · by_cases slash : d = '/' <;> simp [slash, splitHead]
      · simp [splitHead, root, dot]

theorem components_append_slash {base : String} (nonempty : base ≠ "") (rest : String) :
    components (base ++ "/" ++ rest) = components base ++ names rest.toList := by
  have listed : (base ++ "/" ++ rest).toList = base.toList ++ '/' :: rest.toList := by simp
  have letters : base.toList ≠ [] := by simpa using nonempty
  simp only [components, listed, splitHead_append_slash letters]
  rw [names_append_slash, List.append_assoc]

theorem components_root (rest : String) :
    components ("/" ++ rest) = ['/'] :: names rest.toList := by
  simp [components, splitHead]

theorem components_join {base rest : String} (nonempty : base ≠ "")
    (relative : startsWith "/" rest = false) :
    components (join base rest) = components base ++ names rest.toList := by
  rcases join_cases relative base with ⟨empty, -⟩ | ⟨front, rfl, joined⟩ | ⟨-, joined⟩
  · contradiction
  · rw [joined]
    by_cases bare : front = ""
    · rw [bare, String.empty_append, components_root]
      rfl
    · have closed := components_append_slash bare ""
      rw [String.append_empty] at closed
      rw [components_append_slash bare, closed]
      simp [names, isFiller]
  · rw [joined]
    exact components_append_slash nonempty rest

/-- A path joined to a base stays below it, unless it starts with a slash. -/
theorem isBelow_join_iff (base rest : String) :
    IsBelow base (join base rest) ↔ (startsWith "/" rest = true → IsBelow base rest) := by
  by_cases absolute : startsWith "/" rest = true
  · simp [join, absolute]
  · simp only [absolute, Bool.false_eq_true, false_implies, iff_true]
    by_cases empty : base = ""
    · subst empty
      exact List.nil_prefix
    · rw [IsBelow, components_join empty (by simpa using absolute)]
      exact List.prefix_append ..

end Components

def parts (path : String) : List String := (path.toList.splitOn '/').map String.ofList

theorem parts_append_slash (base rest : String) :
    parts (base ++ "/" ++ rest) = parts base ++ parts rest := by
  have listed : (base ++ "/" ++ rest).toList = base.toList ++ '/' :: rest.toList := by simp
  rw [parts, listed, splitOn_append_slash, List.map_append, ← parts, ← parts]

theorem parts_ne_nil (path : String) : parts path ≠ [] := by
  simp [parts, List.splitOn_ne_nil]

theorem startsWith_slash_append {base : String} (nonempty : base ≠ "") (rest : String) :
    startsWith "/" (base ++ rest) = startsWith "/" base := by
  obtain ⟨c, cs, listed⟩ := List.exists_cons_of_ne_nil (l := base.toList) (by simpa using nonempty)
  simp [startsWith, listed, List.isPrefixOf]

end Path

namespace FileTree

variable (t : FileTree) (start : Location)

/-- Where the parts of a path lead, be it a path that the system takes or not. -/
def reach (path : String) : Option Location :=
  t.follow (if startsWith "/" path then [] else start) (Path.parts path)

variable {t start}

theorem reach_of_locate {path : String} {l : Location} (h : t.locate start path = some l) :
    t.reach start path = some l := by
  unfold locate at h
  split at h
  · exact h
  · contradiction

theorem follow_append (t : FileTree) (l : Location) (parts more : List String) :
    t.follow l (parts ++ more) = (t.follow l parts).bind (t.follow · more) := by
  induction parts generalizing l with
  | nil => rfl
  | cons part parts ih =>
    rw [List.cons_append, follow_cons, follow_cons]
    split
    · rw [Option.bind_assoc]
      congr 1
      funext next
      exact ih next
    · rfl

/-- A slash behind a path asks for a directory, and so does whatever follows it. -/
theorem follow_slash (l : Location) {parts : List String} (nonempty : parts ≠ []) :
    (t.follow l [""]).bind (t.follow · parts) = t.follow l parts := by
  obtain ⟨part, parts, rfl⟩ := List.exists_cons_of_ne_nil nonempty
  cases directory : t.hasDirectory l <;> simp [follow, directory]

theorem reach_join {rest : String} (relative : startsWith "/" rest = false) (base : String) :
    t.reach start (Path.join base rest) = (t.reach start base).bind (t.reach · rest) := by
  have onward (l : Location) : t.reach l rest = t.follow l (Path.parts rest) := by
    simp [reach, relative]
  have closing (l : Location) :
      (t.follow l [""]).bind (t.follow · (Path.parts rest)) = t.follow l (Path.parts rest) :=
    follow_slash l (Path.parts_ne_nil rest)
  simp only [onward]
  rcases Path.join_cases relative base with ⟨rfl, joined⟩ | ⟨front, rfl, joined⟩ | ⟨nonempty, joined⟩
  · rw [joined, onward]
    exact (closing start).symm
  · have closed : Path.parts (front ++ "/") = Path.parts front ++ [""] := by
      have closed := Path.parts_append_slash front ""
      rw [String.append_empty] at closed
      exact closed
    rw [joined, reach, reach, Path.startsWith_slash_append (by simp), Path.parts_append_slash,
      closed, follow_append, follow_append, Option.bind_assoc]
    simp only [closing]
  · rw [joined, reach, reach, String.append_assoc, Path.startsWith_slash_append nonempty,
      ← String.append_assoc, Path.parts_append_slash, follow_append]

end FileTree

namespace PathRoots

/-- The schemes of virtual paths, and the directory that stands for each. -/
inductive Serves (r : PathRoots) : String → String → Prop where
  | project : Serves r projectScheme r.projectRoot
  | user {directory : String} (present : r.userDirectory = some directory) :
      Serves r userScheme directory

variable {r : PathRoots} {scheme base : String}

theorem resolve_of_serves (serves : r.Serves scheme base) (rest : String) :
    r.resolve (scheme ++ rest) = .ok (Path.join base rest) := by
  cases serves with
  | project =>
    have nonempty : projectScheme ++ rest ≠ "" := by
      simp [projectScheme]
    rw [resolve, if_neg nonempty, stripStart?_append]
  | user present =>
    have nonempty : userScheme ++ rest ≠ "" := by
      simp [userScheme]
    have other : stripStart? projectScheme (userScheme ++ rest) = none := by
      simp [stripStart?, projectScheme, userScheme, List.isPrefixOf?]
    rw [resolve, if_neg nonempty, other]
    dsimp only
    rw [stripStart?_append, present]

/-- A virtual path names something below the directory of its scheme, and a snapshot that is saved
to it goes where it leads from there, unless it has a further slash behind the scheme. What stands
behind the scheme is then taken by itself, and lies below the directory only by its own names. -/
theorem virtual_path_below (serves : r.Serves scheme base) (rest : String) :
    ∃ path, r.resolve (scheme ++ rest) = .ok path ∧
      (Path.IsBelow base path ↔ (startsWith "/" rest = true → Path.IsBelow base rest)) ∧
      (startsWith "/" rest = true → path = rest) ∧
      ∀ (before after : Shell) (x : Registry) (written : String),
        Snapshot.save before x (some path) = (.ok written, after) →
          ∃ l, Snapshot.SavedAt x path before after l ∧
            if startsWith "/" rest then after.tree.reach before.directory rest = some l
            else ∃ b, after.tree.reach before.directory base = some b ∧
              after.tree.reach b rest = some l := by
  refine ⟨Path.join base rest, resolve_of_serves serves rest, Path.isBelow_join_iff base rest,
    fun absolute => by simp [Path.join, absolute], ?_⟩
  intro before after x written saved
  obtain ⟨named, l, there⟩ := Snapshot.savedAt_of_save saved
  obtain rfl := Snapshot.eq_of_target named
  refine ⟨l, there, ?_⟩
  have led := FileTree.reach_of_locate there.leads
  split
  · next absolute => simpa [Path.join, absolute] using led
  · next relative =>
    rw [FileTree.reach_join (by simpa using relative)] at led
    exact Option.bind_eq_some_iff.mp led

theorem virtual_path_below_game :
    let r : PathRoots := { projectRoot := "/game", userDirectory := none }
    let before : Shell := { tree := { history := [(["game"], .directory)] } }
    (∃ path after, r.resolve "res://out/s.json" = .ok path ∧ Path.IsBelow "/game" path ∧
      Snapshot.save before {} (some path) = (.ok path, after) ∧
      ∃ b, after.tree.reach [] "/game" = some b ∧
        after.tree.reach b "out/s.json" = some ["game", "out", "s.json"]) ∧
    ∃ path, r.resolve "res:///s.json" = .ok path ∧ path = "/s.json" ∧
      ¬Path.IsBelow "/game" path := by
  intro r before
  have serves : r.Serves projectScheme "/game" := .project
  constructor
  · obtain ⟨path, resolved, below, -, goes⟩ := virtual_path_below serves "out/s.json"
    have joined : Path.join r.projectRoot "out/s.json" = "/game/out/s.json" := by decide
    have leads := resolve_of_serves serves "out/s.json"
    rw [joined] at leads
    obtain rfl := Except.ok.inj (leads.symm.trans resolved)
    have saved : Snapshot.save before {} (some "/game/out/s.json") =
        (.ok "/game/out/s.json", (Snapshot.save before {} (some "/game/out/s.json")).2) :=
      Prod.ext rfl rfl
    obtain ⟨l, there, b, base, led⟩ := goes before _ {} _ saved
    obtain rfl : ["game", "out", "s.json"] = l := Option.some.inj there.leads
    exact ⟨_, _, leads, below.mpr (by decide), saved, b, base, led⟩
  · obtain ⟨path, resolved, -, alone, -⟩ := virtual_path_below serves "/s.json"
    obtain rfl := alone (by decide)
    exact ⟨_, resolved, rfl, by decide⟩

end PathRoots
end Concordance
