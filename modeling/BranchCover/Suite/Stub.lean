import BranchCover.Suite.Basic

/-! Stubs for the types of fields and of constructor parameters. A stub has the members that the
class under test reaches through names of that type. -/
namespace BranchCover
namespace Stub

/-- The member that an attribute access reaches through a name, where it does. -/
def memberAt? (name : String) (n : Node) (parent : Option Node.Parent) : Option StubMember :=
  match n with
  | .memberAccess target attr _ =>
    if target.reference? == some name then
      match parent with
      | some ⟨.call _ args keywords _ _, 0⟩ =>
        some ⟨attr, true, args.length, !keywords.isEmpty⟩
      | _ => some ⟨attr, false, 0, false⟩
    else none
  | _ => none

def distinct (known : List String) : List StubMember → List StubMember
  | [] => []
  | m :: ms =>
    if known.contains m.name then distinct known ms else m :: distinct (m.name :: known) ms

/-- The members reached through a name below a node, each as it is first used. -/
def usedMembers (root : Option Node) (name : Option String) : List StubMember :=
  match root, name with
  | some r, some n =>
    if n == "" then []
    else distinct [] ((r.walk none).filterMap fun (c, parent) => memberAt? n c parent)
  | _, _ => []

def firsts (known : List String) : List String → List String
  | [] => []
  | t :: ts => if known.contains t then firsts known ts else t :: firsts (t :: known) ts

def stubbedType? (o : Options) (p : Property) : Option String :=
  if p.category = some .object && o.stubbable p.typeName then p.typeName else none

/-- One stub for each stubbed type among the properties. -/
def collect (o : Options) (mark : String) (root : Option Node) (ps : List Property) : List Stub :=
  (firsts [] (ps.filterMap (stubbedType? o))).map fun t =>
    let ofType := ps.filter (stubbedType? o · == some t)
    ⟨mark ++ t, t, distinct [] (ofType.flatMap (usedMembers root ·.name))⟩

def fakes (o : Options) (c : Class) : List Stub :=
  collect o o.fakeMark c.node c.properties

def injected (o : Options) (c : Class) : List Stub :=
  match c.constructor with
  | none => []
  | some m => collect o o.stubMark c.node m.parameters

def classFor? (stubs : List Stub) (typeName : Option String) : Option String :=
  (stubs.find? (some ·.typeName == typeName)).map Stub.className

end Stub
end BranchCover
