import BranchCover.Text.Basic

/-! Paths of files: a root, or none for a path from the current directory, and components. Empty
components and single dots are dropped when a path is read; double dots are kept. -/
namespace BranchCover

structure Path where
  /-- Empty, a slash or two slashes. -/
  root : String
  parts : List String
  deriving DecidableEq

namespace Path

def pieces : List Char → List (List Char)
  | [] => [[]]
  | c :: cs =>
    if c == '/' then [] :: pieces cs
    else match pieces cs with
      | [] => [[c]]
      | p :: ps => (c :: p) :: ps

/-- Exactly two leading slashes are a root of their own. -/
def rootOf (cs : List Char) : String :=
  match (cs.takeWhile (· == '/')).length with
  | 0 => ""
  | 2 => "//"
  | _ => "/"

def ofString (s : String) : Path :=
  let cs := s.toList
  ⟨rootOf cs, ((pieces cs).filter fun p => !p.isEmpty && p != ['.']).map String.ofList⟩

def text (p : Path) : String :=
  if p.root == "" && p.parts.isEmpty then "." else p.root ++ "/".intercalate p.parts

def name (p : Path) : String :=
  p.parts.getLastD ""

/-- A name without what follows its last dot; a dot at either end does not count. -/
def stemOf (name : String) : String :=
  let cs := name.toList
  let tail := cs.reverse.takeWhile (· != '.')
  let head := cs.take (cs.length - tail.length - 1)
  if tail.isEmpty || head.isEmpty || tail.length == cs.length then name else String.ofList head

def stem (p : Path) : String :=
  stemOf p.name

def parent (p : Path) : Path :=
  ⟨p.root, p.parts.dropLast⟩

def child (p : Path) (names : List String) : Path :=
  ⟨p.root, p.parts ++ names⟩

def isTest (p : Path) : Bool :=
  let cs := p.name.toList
  "test_".toList.isPrefixOf cs || "_test.py".toList.isSuffixOf cs || p.name == "conftest.py"

/-- Paths come in the order of their components. -/
def before (a b : Path) : Bool :=
  !decide (b.parts < a.parts)

end Path
end BranchCover
