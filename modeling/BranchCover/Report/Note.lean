import BranchCover.Text.Quoted

/-! Notes that a run leaves for its reader, by cause. -/
namespace BranchCover

inductive Note where
  /-- Statements without a rule of their own are searched for decisions. -/
  | descending (label : String) (line : Nat) (text : String)
  | untreatedModifier (modifier cls method : String)
  /-- The value of a declaration refers to a name that is not declared. -/
  | unresolved (name : String) (declaration : Option String)
  /-- A condition is driven by a name that cannot be set from a test. -/
  | unrouted (method symbol : String)
  | notComposed (cls method : String)
  | noClasses (file : String)
  | skipped (path : String)
  | wrote (path : String)
  deriving DecidableEq

namespace Note

inductive Level where
  | debug
  | info
  | error
  deriving DecidableEq

def Level.label : Level → String
  | debug => "DEBUG"
  | info => "INFO"
  | error => "ERROR"

def level : Note → Level
  | descending .. | untreatedModifier .. | unresolved .. | unrouted .. => .debug
  | notComposed .. => .error
  | noClasses _ | skipped _ | wrote _ => .info

/-- The part of the program that leaves the note. -/
def topic : Note → String
  | descending .. | untreatedModifier .. => "branchgen.frontend.builder"
  | unresolved .. => "branchgen.frontend.resolve"
  | unrouted .. => "branchgen.middleend.compose"
  | notComposed .. => "branchgen.middleend.suite"
  | noClasses _ => "branchgen.pipeline"
  | skipped _ | wrote _ => "branchgen.cli"

def message : Note → String
  | descending label line text => s!"descending into unhandled {label} at line {line}: {text}"
  | untreatedModifier modifier cls method => s!"untreated modifier @{modifier} on {cls}.{method}"
  | unresolved name declaration =>
    let shown := match declaration with
      | some d => Quoted.ofString d
      | none => "None"
    s!"unresolved reference {Quoted.ofString name} in initializer of {shown}"
  | unrouted method symbol =>
    s!"{method}: {Quoted.ofString symbol} is neither a parameter nor a field"
  | notComposed cls method => s!"cannot compose scenarios for {cls}.{method}"
  | noClasses file => s!"{file}: no classes found"
  | skipped path => s!"skipping {path}"
  | wrote path => s!"wrote {path}"

def line (n : Note) : String :=
  n.level.label ++ " " ++ n.topic ++ ": " ++ n.message

end Note
end BranchCover
