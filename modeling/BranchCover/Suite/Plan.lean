import BranchCover.Scenario.Compose
import BranchCover.Suite.Stub

/-! Planning the test module of a class. -/
namespace BranchCover
namespace Suite

/-- An argument of the construction: a stub where the type of the parameter has one. -/
def inject (stubs : List Stub) (p : Property) (a : Argument) : Argument :=
  if p.category = some .object && !p.isArray then
    match Stub.classFor? stubs p.typeName with
    | some s => { a with value := .objectStub s }
    | none => a
  else a

def constructionOf (c : Class) (injected : List Stub) : Invocation :=
  let args := match c.constructor with
    | none => []
    | some m => List.zipWith (inject injected) m.parameters (baseArguments m.parameters [])
  ⟨c.name, "", args, false, none⟩

def injectedNames (c : Class) (injected : List Stub) : List String :=
  match c.constructor with
  | none => []
  | some m => m.parameters.filterMap fun p =>
    match p.name with
    | some n =>
      if n != "" && (Stub.classFor? injected p.typeName).isSome then some n else none
    | none => none

/-- The fields that are replaced by fakes. A field of the same name as a stubbed constructor
parameter holds a stub already. -/
def wiringOf (o : Options) (c : Class) (fakes : List Stub) (taken : List String) : List Wiring :=
  if !o.wireFakes then []
  else c.properties.filterMap fun p =>
    match p.name with
    | none => none
    | some n =>
      if p.category = some .object && !p.isArray && !taken.contains n then
        (Stub.classFor? fakes p.typeName).map fun s => ⟨mangle n (some c.name), s⟩
      else none

/-- The scenarios of a method; one that fails is recorded with the reason. -/
def testsOf (o : Options) (c : Class) (m : Method) : MethodTests × List Note :=
  let (r, notes) := Member.scenarios ⟨m, some c, o⟩
  match r with
  | .ok ss => (⟨m.name, ss, none⟩, notes)
  | .error u => (⟨m.name, [], some u.report⟩, notes ++ [.notComposed c.name m.name])

def values (construction : Option Invocation) (methods : List MethodTests) : List Value :=
  (construction.toList.flatMap fun i => i.args.map Argument.value) ++
    methods.flatMap fun t => t.scenarios.flatMap fun s =>
      s.invocation.args.map Argument.value ++ s.assignments.map FieldAssign.value

def importsOf (module cls : String) (construction : Option Invocation)
    (methods : List MethodTests) : Imports :=
  let usesAsync := methods.any fun t => t.scenarios.any (·.invocation.awaited)
  let usesIo := (values construction methods).any Value.needsIo
  let base : Imports :=
    (if usesAsync then [("asyncio", [])] else []) ++ (if usesIo then [("io", [])] else []) ++
      [("pytest", [])]
  base.add (if module == "" then "module" else module) cls

def plan (o : Options) (sourceName : String) (c : Class) : Suite × List Note :=
  let fakes := Stub.fakes o c
  let injected := Stub.injected o c
  let construction := constructionOf c injected
  let tests := c.methods.map (testsOf o c)
  let methods := tests.map (·.1)
  (⟨c.name, importsOf c.module c.name (some construction) methods, fakes ++ injected,
    some construction, wiringOf o c fakes (injectedNames c injected), methods, sourceName⟩,
    tests.flatMap (·.2))

end Suite
end BranchCover
