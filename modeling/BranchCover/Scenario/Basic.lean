import BranchCover.Subject.Class
import BranchCover.Value.Synthesis

/-! Scenarios: isolated invocations of a method with the fields that are set before. -/
namespace BranchCover

structure Options where
  /-- Types that never get a stub class. -/
  stubExceptions : List String
  fakeMark : String
  stubMark : String
  /-- The name of the instance under test. -/
  targetName : String
  indent : String
  /-- Whether typed fields are replaced by fakes after construction. -/
  wireFakes : Bool

namespace Options

def standard : Options :=
  ⟨[], "Fake", "Stub", "target", "    ", true⟩

def stubbable (o : Options) (typeName : Option String) : Bool :=
  match typeName with
  | some t => t != "" && !o.stubExceptions.contains t && !Value.placeholderTypes.contains t
  | none => false

end Options

structure FieldAssign where
  name : String
  value : Value

structure Argument where
  name : String
  value : Value
  /-- Whether the argument is passed by name. -/
  keyword : Bool

structure Invocation where
  receiver : String
  method : String
  args : List Argument
  isAsync : Bool
  /-- None for a call. -/
  access : Option Accessor

structure Scenario where
  label : String
  invocation : Invocation
  assignments : List FieldAssign
  comment : Option String

namespace Argument

def source (a : Argument) : Except Unrenderable String := do
  let t ← a.value.sourceText
  pure (if a.keyword then a.name ++ "=" ++ t else t)

end Argument

namespace Invocation

/-- Whether the invocation yields a coroutine to run. -/
def awaited (i : Invocation) : Bool :=
  i.isAsync && (i.access = none || i.access = some .get)

def target (i : Invocation) : String :=
  if i.method == "" then i.receiver else i.receiver ++ "." ++ i.method

def source (i : Invocation) : Except Unrenderable String := do
  let args ← i.args.mapM Argument.source
  match i.access with
  | none => pure (i.target ++ "(" ++ ", ".intercalate args ++ ")")
  | some .get => pure i.target
  | some .set =>
    match i.args.head? with
    | none => pure (i.target ++ " = None")
    | some a => do
      let t ← a.value.sourceText
      pure (i.target ++ " = " ++ t)
  | some .delete => pure ("del " ++ i.target)

end Invocation

/-- The name of an attribute as instances of a class store it: a private name takes the name of the
class along. -/
def mangle (name : String) (cls : Option String) : String :=
  match cls with
  | none => name
  | some c =>
    let cs := name.toList
    if startsDouble cs && !endsDouble cs then
      let owner := c.toList.dropWhile (· == '_')
      if owner.isEmpty then name else String.ofList ('_' :: (owner ++ cs))
    else name

end BranchCover
