import BranchCover.Scenario.Basic

/-! The plan of a test module: what it imports, which stubs it declares, how the instance under test
is made, and the scenarios of each method. -/
namespace BranchCover

/-- A member of a stubbed type that the code under test uses. -/
structure StubMember where
  name : String
  isCallable : Bool
  arity : Nat
  hasKeywords : Bool
  deriving DecidableEq

structure Stub where
  className : String
  typeName : String
  members : List StubMember
  deriving DecidableEq

structure Wiring where
  attr : String
  stub : String
  deriving DecidableEq

structure MethodTests where
  name : String
  scenarios : List Scenario
  /-- Why there are no scenarios. -/
  error : Option String

/-- Imported modules in order, each with the names taken from it; without names the module itself is
imported. -/
abbrev Imports := List (String × List String)

namespace Imports

/-- Sets the names of a module; one that is there already keeps its place. -/
def set : Imports → String → List String → Imports
  | [], m, names => [(m, names)]
  | (n, old) :: rest, m, names =>
    if n == m then (n, names) :: rest else (n, old) :: set rest m names

def names (i : Imports) (module : String) : List String :=
  (i.lookup module).getD []

def add (i : Imports) (module name : String) : Imports :=
  if (i.names module).contains name then i else i.set module (i.names module ++ [name])

end Imports

structure Suite where
  className : String
  imports : Imports
  stubs : List Stub
  construction : Option Invocation
  wiring : List Wiring
  methods : List MethodTests
  /-- The file that the class comes from, where it is known. -/
  sourceName : String

end BranchCover
