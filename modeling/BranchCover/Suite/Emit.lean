import BranchCover.Suite.Basic
import BranchCover.Suite.Name

/-! Pages of generated text, and the writing of the test module of a plan. -/
namespace BranchCover

/-- Lines of generated text with their indentation. -/
structure Page where
  /-- One level of indentation. -/
  unit : String
  level : Int
  lines : List String

namespace Page

def blank (unit : String) : Page := ⟨unit, 0, []⟩

def cleared (p : Page) : Page := blank p.unit

/-- A text behind the indentation of the level; a level below zero has none. -/
def indented (p : Page) (text : String) : String :=
  String.join (List.replicate p.level.toNat p.unit) ++ text

/-- Adds a line; an empty one is not indented. -/
def line (p : Page) (text : String) : Page :=
  { p with lines := p.lines ++ [if text == "" then "" else p.indented text] }

def shift (p : Page) (levels : Int) : Page :=
  { p with level := p.level + levels }

/-- The text of the page; its last line ends with a line feed. -/
def output (p : Page) : String :=
  "\n".intercalate p.lines ++ "\n"

end Page

/-- A step of writing a page. A step that fails leaves what was written before. -/
abbrev Emission := ExceptT Unrenderable (StateM Page)

namespace Emission

def line (text : String) : Emission Unit :=
  modify fun p => p.line text

def blank : Emission Unit :=
  line ""

def inner (e : Emission Unit) : Emission Unit := do
  modify (·.shift 1)
  e
  modify (·.shift (-1))

def lines (ts : List String) : Emission Unit :=
  ts.forM line

end Emission

namespace Suite

open Emission

/-- Plain imports first, then the test framework, then names taken from modules. -/
def emitImports (i : Imports) : Emission Unit := do
  let plain := i.filter fun (m, names) => names.isEmpty && m != "pytest"
  lines (plain.map fun (m, _) => s!"import {m}")
  if !plain.isEmpty then blank
  if i.any (·.1 == "pytest") then do
    line "import pytest"
    blank
  lines ((i.filter fun (_, names) => !names.isEmpty).map fun (m, names) =>
    s!"from {m} import " ++ ", ".intercalate names)

def stubParams (m : StubMember) : List String :=
  "self" :: ((List.range m.arity).map fun i => s!"arg{i + 1}") ++
    (if m.hasKeywords then ["**kwargs"] else [])

def emitStubMethod (m : StubMember) : Emission Unit := do
  blank
  line (s!"def {m.name}(" ++ ", ".intercalate (stubParams m) ++ "):")
  inner (line "return None")

def emitStub (s : Stub) : Emission Unit := do
  line s!"class {s.className}:"
  inner do
    line s!"\"\"\"Stands in for {s.typeName}.\"\"\""
    let fields := s.members.filter (!·.isCallable)
    if !fields.isEmpty then blank
    lines (fields.map fun m => s!"{m.name} = None")
    (s.members.filter (·.isCallable)).forM emitStubMethod

def emitFixture (o : Options) (s : Suite) : Emission Unit := do
  let target := o.targetName
  line "@pytest.fixture"
  line s!"def {target}(self):"
  inner do
    let made ← liftM (s.construction.getD ⟨s.className, "", [], false, none⟩).source
    line s!"{target} = {made}"
    lines (s.wiring.map fun w => s!"{target}.{w.attr} = {w.stub}()")
    line s!"return {target}"

def emitAssign (o : Options) (a : FieldAssign) : Emission Unit := do
  let v ← liftM a.value.sourceText
  line s!"{o.targetName}.{a.name} = {v}"

def emitScenario (o : Options) (s : Scenario) : Emission Unit := do
  line "try:"
  inner do
    match s.comment with
    | some c => if c != "" then line s!"# {c}"
    | none => pure ()
    s.assignments.forM (emitAssign o)
    let call ← liftM s.invocation.source
    line (if s.invocation.awaited then s!"asyncio.run({call})" else call)
  line "except Exception as err:"
  inner (line s!"print(\"Error in {Quoted.escape s.label}: \" + str(err))")

def emitMethod (o : Options) (name : String) (t : MethodTests) : Emission Unit := do
  line s!"def {name}(self, {o.targetName}):"
  inner do
    match t.error with
    | some e => line s!"# no scenarios: {e}"
    | none => pure ()
    t.scenarios.forM (emitScenario o)
    line s!"assert {o.targetName}"

/-- The test functions of methods, each under a name that is not taken yet. -/
def emitMethods (o : Options) : (taken : List String) → List MethodTests → Emission Unit
  | _, [] => pure ()
  | taken, t :: ts => do
    let name := Name.testName t.name taken
    blank
    emitMethod o name t
    emitMethods o (name :: taken) ts

def docLine (s : Suite) : String :=
  let file := if s.sourceName == "" then "" else s!" ({s.sourceName})"
  s!"\"\"\"Generated tests for {s.className}{file}.\"\"\""

def emitModule (o : Options) (s : Suite) : Emission Unit := do
  line s.docLine
  blank
  emitImports s.imports
  s.stubs.forM fun t => do
    blank
    blank
    emitStub t
  blank
  blank
  line s!"class Test{s.className}:"
  inner do
    emitFixture o s
    blank
    line s!"def test_should_create(self, {o.targetName}):"
    inner (line s!"assert {o.targetName}")
    emitMethods o ["test_should_create"] s.methods

/-- Writes a suite on a page that may have been used before, and returns the page as well. -/
def emitOn (o : Options) (p : Page) (s : Suite) : Except Unrenderable String × Page :=
  let (r, p) := (emitModule o s).run.run p.cleared
  (r.map fun _ => p.output, p)

def emit (o : Options) (s : Suite) : Except Unrenderable String :=
  (emitOn o (Page.blank o.indent) s).1

end Suite
end BranchCover
