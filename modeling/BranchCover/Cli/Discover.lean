import BranchCover.Files.Tree

/-! The source files among the paths of a command line, and the names under which they are
imported. -/
namespace BranchCover
namespace Cli

variable {m : Type → Type} [Monad m]

/-- Directories that hold no sources, besides those that begin with a dot. -/
def skippedDirectories : List String :=
  ["__pycache__", "node_modules", "venv"]

def isSkippedDirectory (name : String) : Bool :=
  name.toList.head? == some '.' || skippedDirectories.contains name

def isSource (way : List String) : Bool :=
  ".py".toList.isSuffixOf (way.getLastD "").toList && !(Path.mk "" way).isTest &&
    !way.dropLast.any isSkippedDirectory

/-- The source files below a directory in the order of their components. -/
def sourcesBelow (p : Path) (ways : List (List String)) : List Path :=
  ((ways.filter isSource).map p.child).mergeSort Path.before

/-- The files that paths stand for: directories for the sources below them, all else for itself. -/
def discover (d : Disk m) : List String → m (List Path)
  | [] => pure []
  | raw :: rest => do
    let p := Path.ofString raw
    let here ← if ← d.isDirectory p then do
        let ways ← d.below p
        pure (sourcesBelow p ways)
      else pure [p]
    let more ← discover d rest
    pure (here ++ more)

/-- The names of the packages around a directory from the outermost, given by its parts. The
directory at the root has no name. -/
def packages (d : Disk m) (root : String) : (reversed : List String) → m (List String)
  | [] => do
    if ← d.isPresent ⟨root, ["__init__.py"]⟩ then pure [""] else pure []
  | name :: outer => do
    let dir : Path := ⟨root, (name :: outer).reverse⟩
    if ← d.isPresent (dir.child ["__init__.py"]) then
      let more ← packages d root outer
      pure (more ++ [name])
    else pure []

/-- The dotted name of a module: the packages around its file, then the file itself. -/
def moduleName (d : Disk m) (p : Path) : m String := do
  let p ← d.absolute p
  let around ← packages d p.root p.parent.parts.reverse
  let names := around ++ (if p.stem == "__init__" then [] else [p.stem])
  let dotted := ".".intercalate names
  pure (if dotted == "" then p.stem else dotted)

end Cli
end BranchCover
