import BranchCover.Json.Dump
import BranchCover.Outline.Statement
import BranchCover.Suite.Emit
import BranchCover.Suite.Plan

/-! From the source of a module to its outline, its classes, their plans and their test modules. -/
namespace BranchCover

abbrev Noted (α : Type) := α × List Note

namespace Generate

inductive Failure where
  | outline (reason : Outline.Failure)
  | rendering (reason : Unrenderable)
  deriving DecidableEq

namespace Failure

/-- The error in the source, where that is the reason. -/
def fault? : Failure → Option Source.Fault
  | outline (.refused (.fault f)) => some f
  | _ => none

def message : Failure → String
  | outline r => r.message
  | rendering r => r.message

end Failure

/-- What a source can be shown as before test modules are written. -/
inductive Phase where
  | syntaxTree
  | classes
  | scenarios
  deriving DecidableEq

namespace Phase

def label : Phase → String
  | syntaxTree => "syntax"
  | classes => "ir"
  | scenarios => "scenarios"

def all : List Phase :=
  [syntaxTree, classes, scenarios]

def ofLabel? (s : String) : Option Phase :=
  all.find? (·.label == s)

end Phase

section

variable [Interpreter]

def plans (source module : String) (o : Options) (sourceName : String) :
    Noted (Except Failure (List Suite)) :=
  match Outline.ofSource source with
  | .error e => (.error (.outline e), [])
  | .ok m =>
    let planned := (Class.ofModule source module m).map (Suite.plan o sourceName)
    (.ok (planned.map (·.1)), Class.notesOnModule source m ++ planned.flatMap (·.2))

def dump (source : String) (phase : Phase) (module : String) (o : Options) :
    Noted (Except Failure Json) :=
  match phase with
  | .syntaxTree => (((Outline.ofSource source).map Dump.node).mapError .outline, [])
  | .classes =>
    match Outline.ofSource source with
    | .error e => (.error (.outline e), [])
    | .ok m =>
      ((Dump.program (Class.ofModule source module m)).mapError .rendering,
        Class.notesOnModule source m)
  | .scenarios =>
    let (r, notes) := plans source module o ""
    (r.bind fun suites => ((suites.mapM Dump.suite).map .array).mapError .rendering, notes)

structure TestModule where
  className : String
  fileName : String
  text : String
  deriving DecidableEq

def testModule (o : Options) (s : Suite) : Except Unrenderable TestModule := do
  let t ← s.emit o
  pure ⟨s.className, Name.outputFile s.className, t⟩

def testModules (source module : String) (o : Options) (sourceName : String) :
    Noted (Except Failure (List TestModule)) :=
  let (r, notes) := plans source module o sourceName
  (r.bind fun suites => (suites.mapM (testModule o)).mapError .rendering, notes)

end

/-- Two empty lines stand between modules. -/
def joined (ms : List TestModule) : String :=
  "\n\n".intercalate (ms.map TestModule.text)

/-- Whether one of the first five lines of a source asks for it to be skipped. -/
def isSkipped (source : String) : Bool :=
  ((Excerpt.lines source.toList).take 5).any (Piece.isIn "branchgen: skip".toList)

/-- What a run on one source answers: its exit code, its output and its complaint. -/
structure Answer where
  code : Nat
  output : String
  complaint : String
  deriving DecidableEq

def faultText (f : Source.Fault) : String :=
  s!"{f.line}:{f.col}: {f.message}"

/-- One source as a dump or as test modules. An error in the source is answered; any other failure
ends the run. -/
def answer [Interpreter] (source module : String) (stopAt : Option Phase) (o : Options) (file : String) :
    Noted (Except Failure Answer) :=
  let (r, notes) : Noted (Except Failure (String × Bool)) := match stopAt with
    | some p =>
      let (r, notes) := dump source p module o
      (r.bind fun j => (j.text.map (·, true)).mapError .rendering, notes)
    | none =>
      let (r, notes) := testModules source module o ""
      (r.map fun ms => (joined ms, !ms.isEmpty), notes)
  match r with
  | .ok (text, hasClasses) =>
    (.ok ⟨0, text, ""⟩, if hasClasses then notes else notes ++ [.noClasses file])
  | .error e =>
    match e.fault? with
    | some f => (.ok ⟨1, "", "error:" ++ faultText f ++ "\n"⟩, notes)
    | none => (.error e, notes)

end Generate
end BranchCover
