import BranchCover.Json.Basic
import BranchCover.Suite.Basic

/-! Outlines, classes and plans as JSON. -/
namespace BranchCover
namespace Dump

/-- A node with its kind, its fields and its line. -/
def tagged (n : Node) (fields : List (String × Json)) : Json :=
  .object (("_type", .ofString n.kind.label) :: (fields ++ [("line", .ofNat n.span.line)]))

mutual

def node : Node → Json
  | .module body => tagged (.module body) [("body", .array (nodes body))]
  | .classDecl name body s =>
    tagged (.classDecl name body s) [("name", .ofString name), ("body", .array (nodes body))]
  | .property name a v site s =>
    tagged (.property name a v site s)
      [("name", .ofString name), ("annotation", node? a), ("value", node? v)]
  | .param name a d k s =>
    tagged (.param name a d k s)
      [("name", .ofString name), ("annotation", node? a), ("default", node? d), ("kw_only", .bool k)]
  | .method head ps b r s =>
    tagged (.method head ps b r s)
      [("name", .ofString head.name), ("params", .array (nodes ps)), ("body", node b),
       ("returns", node? r), ("returns_text", .ofString? head.returnsText),
       ("modifiers", .strings head.modifiers), ("is_async", .bool head.isAsync),
       ("receiver", .ofString? head.receiver)]
  | .block ss s => tagged (.block ss s) [("statements", .array (nodes ss))]
  | .ifStmt t b o s =>
    tagged (.ifStmt t b o s) [("test", node t), ("then", node b), ("orelse", node? o)]
  | .caseClause t b s => tagged (.caseClause t b s) [("test", node t), ("body", node b)]
  | .defaultClause b s => tagged (.defaultClause b s) [("body", node b)]
  | .switch x cs s => tagged (.switch x cs s) [("subject", node x), ("clauses", .array (nodes cs))]
  | .conditional t b o s =>
    tagged (.conditional t b o s) [("test", node t), ("body", node b), ("orelse", node o)]
  | .binary l o r s =>
    tagged (.binary l o r s) [("left", node l), ("operator", .ofString o.text), ("right", node r)]
  | .unary o x s => tagged (.unary o x s) [("operator", .ofString o.text), ("operand", node x)]
  | .identifier n s => tagged (.identifier n s) [("name", .ofString n)]
  | .memberAccess t n s => tagged (.memberAccess t n s) [("target", node t), ("name", .ofString n)]
  | .call f as ks ns s =>
    tagged (.call f as ks ns s)
      [("func", node f), ("args", .array (nodes as)), ("keywords", .array (nodes ks)),
       ("keyword_names", .array (ns.map .ofString?))]
  | .numeric v s => tagged (.numeric v s) [("value", .number v)]
  | .string v s => tagged (.string v s) [("value", .string v)]
  | .boolean v s => tagged (.boolean v s) [("value", .bool v)]
  | .noneLit s => tagged (.noneLit s) []
  | .hint h s => tagged (.hint h s) [("name", .ofString h.label)]
  | .arrayType e s => tagged (.arrayType e s) [("element", node e)]
  | .typeRef n s => tagged (.typeRef n s) [("name", .ofString n)]
  | .compound l is s =>
    tagged (.compound l is s) [("label", .ofString l), ("items", .array (nodes is))]

def nodes : List Node → List Json
  | [] => []
  | n :: ns => node n :: nodes ns

def node? : Option Node → Json
  | none => .null
  | some n => node n

end

def describe : Node → Except Unrenderable String
  | .identifier name _ => pure name
  | .memberAccess target name _ => do
    let t ← describe target
    pure (t ++ "." ++ name)
  | .string t _ => pure (String.ofList (Quoted.literal t))
  | .numeric v _ =>
    match v.text? with
    | some cs => pure (String.ofList cs)
    | none => throw .tooManyDigits
  | .boolean b _ => pure (if b then "True" else "False")
  | .noneLit _ => pure "None"
  | n => pure n.kind.label

def condition (c : Condition) : Except Unrenderable Json := do
  let sides ← match c.comparison with
    | none => pure [("left", Json.null), ("operator", .null), ("right", .null)]
    | some s => do
      let l ← describe s.left
      let r ← describe s.right
      pure [("left", .ofString l), ("operator", .ofString s.relation.text), ("right", .ofString r)]
  pure (.object (("_type", .ofString "Condition") :: (sides ++
    [("unary", .bool c.comparison.isNone), ("text", .ofString c.text)])))

def decision (kind : String) (conditions bodies : List Json) (orelse : Json) : Json :=
  .object [("_type", .ofString "Branch"), ("kind", .ofString kind),
    ("conditions", .array conditions), ("if_blocks", .array bodies), ("else_block", orelse)]

mutual

def block : Block → Except Unrenderable Json
  | .mk bs => do
    let bs ← branches bs
    pure (.object [("_type", .ofString "Block"), ("branches", .array bs)])

def branches : List Branch → Except Unrenderable (List Json)
  | [] => pure []
  | b :: bs => do
    let j ← branch b
    let js ← branches bs
    pure (j :: js)

def branch : Branch → Except Unrenderable Json
  | .ifElse c body orelse => do
    let c ← condition c
    let b ← block body
    let o ← block? orelse
    pure (decision "if" [c] [b] o)
  | .switch arms default => do
    let cs ← arms.mapM (condition ·.condition)
    let bs ← armBodies arms
    let d ← block? default
    pure (decision "switch" cs bs d)
  | .ternary c => do
    let c ← condition c
    pure (decision "ternary" [c] [] .null)

def armBodies : List Arm → Except Unrenderable (List Json)
  | [] => pure []
  | .mk _ body :: arms => do
    let b ← block body
    let bs ← armBodies arms
    pure (b :: bs)

def block? : Option Block → Except Unrenderable Json
  | none => pure .null
  | some b => block b

end

def property (p : Property) : Json :=
  .object [("_type", .ofString "Property"), ("name", .ofString? p.name),
    ("type", .ofString? (p.category.map Category.label)), ("type_name", .ofString? p.typeName),
    ("is_array", .bool p.isArray), ("is_literal", .bool p.isLiteral), ("kw_only", .bool p.kwOnly)]

def method (m : Method) : Except Unrenderable Json := do
  let body ← block? m.body
  pure (.object [("_type", .ofString "Method"), ("name", .ofString m.name),
    ("parameters", .array (m.parameters.map property)),
    ("returns", .ofString? (m.returns.map ReturnSort.label)), ("is_public", .bool m.isPublic),
    ("is_static", .bool m.isStatic), ("is_async", .bool m.isAsync),
    ("accessor", .ofString? (m.accessor.map Accessor.label)), ("body", body)])

def cls (c : Class) : Except Unrenderable Json := do
  let constructor ← match c.constructor with
    | none => pure Json.null
    | some m => method m
  let methods ← c.methods.mapM method
  pure (.object [("_type", .ofString "Class"), ("name", .ofString c.name),
    ("module", .ofString c.module), ("properties", .array (c.properties.map property)),
    ("constructor", constructor), ("methods", .array methods)])

def program (cs : List Class) : Except Unrenderable Json := do
  let js ← cs.mapM cls
  pure (.object [("classes", .array js)])

def value (v : Value) : Except Unrenderable Json := do
  let t ← v.sourceText
  pure (.ofString t)

def stub (s : Stub) : Json :=
  .object [("_type", .ofString "Stub"), ("class_name", .ofString s.className),
    ("type_name", .ofString s.typeName), ("members", .array (s.members.map fun m =>
      .object [("name", .ofString m.name), ("callable", .bool m.isCallable),
        ("arity", .ofNat m.arity)]))]

def assign (a : FieldAssign) : Except Unrenderable Json := do
  let v ← value a.value
  pure (.object [("name", .ofString a.name), ("value", v)])

def scenario (s : Scenario) : Except Unrenderable Json := do
  let assigns ← s.assignments.mapM assign
  let call ← s.invocation.source
  pure (.object [("label", .ofString s.label), ("assignments", .array assigns),
    ("call", .ofString call), ("comment", .ofString? s.comment)])

def scenarios (ss : List Scenario) : Except Unrenderable Json := do
  let js ← ss.mapM scenario
  pure (.array js)

def methodTests (t : MethodTests) : Except Unrenderable Json := do
  let ss ← scenarios t.scenarios
  pure (.object [("name", .ofString t.name), ("scenarios", ss), ("error", .ofString? t.error)])

def suite (s : Suite) : Except Unrenderable Json := do
  let construction ← match s.construction with
    | none => pure Json.null
    | some i => do
      let t ← i.source
      pure (.ofString t)
  let methods ← s.methods.mapM methodTests
  pure (.object [("class", .ofString s.className),
    ("imports", .ofPairs (s.imports.map fun (m, names) => (m, .strings names))),
    ("stubs", .array (s.stubs.map stub)), ("construction", construction),
    ("wiring", .ofPairs (s.wiring.map fun w => (w.attr, .ofString w.stub))),
    ("methods", .array methods)])

end Dump
end BranchCover
