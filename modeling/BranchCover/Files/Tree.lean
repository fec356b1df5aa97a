import BranchCover.Files.Path

/-! A tree of files, kept as the list of its places, and what a program does with such a tree. -/
namespace BranchCover

/-- A place in a tree: the names on the way from its root. -/
abbrev Location := List String

inductive Entry where
  | file (content : ByteArray)
  | directory

/-- The entries of a tree by place. The root is a directory without being listed. -/
abbrev FileTree := List (Location × Entry)

namespace FileTree

def at? (t : FileTree) (l : Location) : Option Entry :=
  if l = [] then some .directory else t.lookup l

def isDirectory (t : FileTree) (l : Location) : Bool :=
  (t.at? l) matches some .directory

def put : FileTree → Location → Entry → FileTree
  | [], l, e => [(l, e)]
  | (k, d) :: rest, l, e => if k = l then (l, e) :: rest else (k, d) :: put rest l e

/-- One step from a place, which has to be a directory. -/
def step (t : FileTree) (l : Location) (name : String) : Option Location :=
  if !t.isDirectory l then none
  else if name == ".." then some l.dropLast
  else some (l ++ [name])

/-- The place that a path leads to from a directory, if all but its last component are there. -/
def locate (t : FileTree) (current : Location) (p : Path) : Option Location :=
  p.parts.foldlM t.step (if p.root == "" then current else [])

def entry? (t : FileTree) (current : Location) (p : Path) : Option Entry :=
  (t.locate current p).bind t.at?

/-- A component of a path has at most this many bytes. -/
def nameLimit : Nat := 255

/-- Makes the directories on the way to a path, as far as it leads through directories, and says
whether that was all the way. What was made before a failure stays. -/
def pave (t : FileTree) (l : Location) : List String → FileTree × Bool
  | [] => (t, true)
  | name :: names =>
    match t.step l name with
    | none => (t, false)
    | some l' =>
      match t.at? l' with
      | some .directory => pave t l' names
      | some (.file _) => (t, false)
      | none =>
        if name.utf8ByteSize > nameLimit then (t, false)
        else pave (t.put l' .directory) l' names

def makeDirectories (t : FileTree) (l : Location) (names : List String) : Option FileTree :=
  if (t.pave l names).2 then some (t.pave l names).1 else none

/-- The tree with the directories on the way to a file, as far as they can be made. -/
def paved (t : FileTree) (current : Location) (p : Path) : FileTree :=
  (t.pave (if p.root == "" then current else []) p.parent.parts).1

def write (t : FileTree) (current : Location) (p : Path) (content : ByteArray) :
    Option FileTree := do
  let t ← t.makeDirectories (if p.root == "" then current else []) p.parent.parts
  let l ← t.locate current p
  if t.isDirectory l || p.name.utf8ByteSize > nameLimit then none
  else some (t.put l (.file content))

def below (t : FileTree) (l : Location) : List (List String) :=
  t.filterMap fun (k, _) => if l.isPrefixOf k && k != l then some (k.drop l.length) else none

/-- A path from the root without double dots. -/
def absolute (current : Location) (p : Path) : Path :=
  ⟨"/", p.parts.foldl (fun l name => if name == ".." then l.dropLast else l ++ [name])
    (if p.root == "" then current else [])⟩

end FileTree

/-- What a run does with files. -/
structure Disk (m : Type → Type) where
  isDirectory : Path → m Bool
  isPresent : Path → m Bool
  /-- The content of a file that can be read. -/
  read : Path → m (Option ByteArray)
  /-- The ways from a directory to everything below it. -/
  below : Path → m (List (List String))
  /-- The path from the root without double dots. -/
  absolute : Path → m Path
  /-- Writes a file with the directories on the way to it, and says whether that worked. -/
  write : Path → ByteArray → m Bool

def FileTree.disk (current : Location) : Disk (StateM FileTree) where
  isDirectory p := do
    let t ← get
    pure ((t.entry? current p) matches some .directory)
  isPresent p := do
    let t ← get
    pure (t.entry? current p).isSome
  read p := do
    let t ← get
    match t.entry? current p with
    | some (.file content) => pure (some content)
    | _ => pure none
  below p := do
    let t ← get
    match t.locate current p with
    | some l => pure (t.below l)
    | none => pure []
  absolute p := pure (FileTree.absolute current p)
  write p content := do
    let t ← get
    match t.write current p content with
    | some t => do
      set t
      pure true
    | none => do
      set (t.paved current p)
      pure false

end BranchCover
