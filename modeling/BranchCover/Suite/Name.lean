import BranchCover.Text.Case
import BranchCover.Text.Basic

/-! Names of generated test modules and test functions. -/
namespace BranchCover
namespace Name

def isCapital (c : Char) : Bool :=
  'A' ≤ c && c ≤ 'Z'

def isSmall (c : Char) : Bool :=
  'a' ≤ c && c ≤ 'z'

def isDigit (c : Char) : Bool :=
  '0' ≤ c && c ≤ '9'

/-- Whether a word of a name begins with the capital `u` behind `c`, where `rest` follows: behind a
small letter or digit always, and elsewhere if small letters follow. -/
def beginsWord (c u : Char) (rest : List Char) : Bool :=
  isCapital u && (isSmall c || isDigit c || (c != '\n' && rest.head?.any isSmall))

/-- A name with an underscore before each word but the first. -/
def splitWords : List Char → List Char
  | c :: u :: rest =>
    if beginsWord c u rest then c :: '_' :: splitWords (u :: rest) else c :: splitWords (u :: rest)
  | cs => cs

/-- A name in small letters, its words joined by underscores. Leading underscores are dropped, and a
name that holds others, or no capitals, keeps its words. -/
def snakeChars (name : List Char) : List Char :=
  let cs := name.dropWhile (· == '_')
  if cs.contains '_' || Case.isAllLower cs then Case.lower cs else Case.lower (splitWords cs)

def toSnake (name : String) : String :=
  String.ofList (snakeChars name.toList)

def outputFile (cls : String) : String :=
  "test_" ++ toSnake cls ++ ".py"

/-- The test function of a method before repeats are told apart. -/
def testBase (method : String) : String :=
  let cs := ((method.toList.dropWhile (· == '_')).reverse.dropWhile (· == '_')).reverse
  "test_" ++ (if cs.isEmpty then "method" else String.ofList cs)

/-- The candidates for a name in order: the name itself, then with a number from two on. -/
def candidate (base : String) : Nat → String
  | 0 => base
  | n + 1 => s!"{base}_{n + 2}"

/-- The first candidate that is not taken. Among one more candidates than taken names there is
one. -/
def fresh (base : String) (taken : List String) : String :=
  (((List.range (taken.length + 1)).map (candidate base)).find? (!taken.contains ·)).getD base

def testName (method : String) (taken : List String) : String :=
  fresh (testBase method) taken

end Name
end BranchCover
