import Concordance.Path
/-!
A tree of files and directories, and what the operations that the program uses do to it. A path is
followed name by name, and every name but the last has to be a directory; a failing operation
leaves the tree as it is. The system may refuse a change for reasons of its own.
-/
namespace Concordance

/-- The names from the root down. -/
abbrev Location := List String

inductive Entry where
  | file (bytes : ByteArray)
  | directory

def Entry.isDirectory : Entry → Bool
  | file _ => false
  | directory => true

/-- What has been put where, latest first. -/
structure FileTree where
  history : List (Location × Entry) := []
  /-- Whether the system refuses to put an entry at a location, after what has been put so far: for
  want of space, say, or of the right to write there. -/
  refuses : List (Location × Entry) → Location → Entry → Bool := fun _ _ _ => false

namespace FileTree

/-- The entry at a location; the root is a directory in any case. -/
def at? (t : FileTree) (l : Location) : Option Entry :=
  if l = [] then some .directory else t.history.lookup l

def hasDirectory (t : FileTree) (l : Location) : Bool := (t.at? l).any (·.isDirectory)

def put (t : FileTree) (l : Location) (e : Entry) : FileTree :=
  { t with history := (l, e) :: t.history }

def put? (t : FileTree) (l : Location) (e : Entry) : Option FileTree :=
  if t.refuses t.history l e then none else some (t.put l e)

theorem at?_put (t : FileTree) {l : Location} (h : l ≠ []) (e : Entry) (k : Location) :
    (t.put l e).at? k = if k = l then some e else t.at? k := by
  unfold at? put
  by_cases hk : k = l
  · subst hk
    simp [h]
  · simp [List.lookup_cons, beq_eq_false_iff_ne.2 hk, hk]

/-- What has been put into a tree since an earlier state of it, in order. -/
def since (before : FileTree) (t : FileTree) : List (Location × Entry) :=
  (t.history.take (t.history.length - before.history.length)).reverse

/-- A path that something can be asked for: not empty, of bounded length and without zeros. -/
def isPath (path : String) : Bool :=
  path ≠ "" && path.utf8ByteSize < 4096 && !path.toList.contains '\x00'

def isName (name : String) : Bool := name.utf8ByteSize ≤ 255

/-- Follow the parts of a path from a location. The last name need not exist. -/
def follow (t : FileTree) : Location → List String → Option Location
  | l, [] => some l
  | l, part :: parts =>
    if t.hasDirectory l then
      if part = "" ∨ part = "." then t.follow l parts
      else if part = ".." then t.follow l.dropLast parts
      else if isName part then t.follow (l ++ [part]) parts
      else none
    else none

def locate (t : FileTree) (start : Location) (path : String) : Option Location :=
  if isPath path then
    t.follow (if Text.startsWith "/" path then [] else start)
      ((path.toList.splitOn '/').map String.ofList)
  else none

def find? (t : FileTree) (start : Location) (path : String) : Option Entry :=
  (t.locate start path).bind t.at?

def isDirectory (t : FileTree) (start : Location) (path : String) : Bool :=
  (t.find? start path).any (·.isDirectory)

def readText? (t : FileTree) (start : Location) (path : String) : Option String :=
  match t.find? start path with
  | some (.file bytes) => String.fromUTF8? bytes
  | _ => none

def write? (t : FileTree) (start : Location) (path : String) (bytes : ByteArray) :
    Option FileTree := do
  let l ← t.locate start path
  if t.hasDirectory l then none else t.put? l (.file bytes)

def writeText? (t : FileTree) (start : Location) (path text : String) : Option FileTree :=
  t.write? start path text.toUTF8

def makeDirectory? (t : FileTree) (start : Location) (path : String) : Option FileTree := do
  let l ← t.locate start (Path.withoutEndSlashes path)
  if (t.at? l).isSome then none else t.put? l .directory

/-- Make a directory and those above it, where they are missing. The tree is returned also where a
directory cannot be made, with those above it that could. -/
def makeDirectories (start : Location) : (fuel : Nat) → FileTree → String → Bool × FileTree
  | 0, t, _ => (false, t)
  | fuel + 1, t, path =>
    if path = "" || t.isDirectory start path then (true, t)
    else
      match t.makeDirectory? start path with
      | some t => (true, t)
      | none =>
        match Path.parent? path with
        | none => (false, t)
        | some parent =>
          match makeDirectories start fuel t parent with
          | (false, t) => (false, t)
          | (true, t) =>
            if t.isDirectory start path then (true, t)
            else
              match t.makeDirectory? start path with
              | some t => (true, t)
              | none => (false, t)

/-- Make sure of a directory. The empty path is there in any case. -/
def ensureDirectory (t : FileTree) (start : Location) (path : String) : Bool × FileTree :=
  if path = "" || isPath path then makeDirectories start (path.length + 1) t path else (false, t)

def pathOf (l : Location) : String := "/" ++ "/".intercalate l

end FileTree
end Concordance
