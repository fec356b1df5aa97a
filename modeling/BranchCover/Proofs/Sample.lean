import BranchCover.Outline.Statement
import BranchCover.Proofs.Except
import BranchCover.Scenario.Compose

/-! Classes on which statements are tried. One has a method with decisions: a test of a parameter with
decisions in both of its arms, one of which has an arm for when it fails, and a switch without a
condition of its own. The others have a field of some type and a constructor that takes a parameter
under the name of the field. One more is that of a source which is read. -/
namespace BranchCover
namespace Sample

def source : String :=
  "class Gate:\n" ++
  "    def open(self, code: int, key, force: bool):\n" ++
  "        if code == 2:\n" ++
  "            if key == 1:\n" ++
  "                pass\n" ++
  "            else:\n" ++
  "                if force:\n" ++
  "                    pass\n" ++
  "        else:\n" ++
  "            if force:\n" ++
  "                pass\n" ++
  "        match key:\n" ++
  "            case _:\n" ++
  "                if force:\n" ++
  "                    pass\n"

/-! The outline of the source, part by part. -/

def codeTest : Node :=
  .binary (.identifier "code" ⟨3, 11, 3, 15⟩) .eq (.numeric (.int 2) ⟨3, 19, 3, 20⟩) ⟨3, 11, 3, 20⟩

def keyTest : Node :=
  .binary (.identifier "key" ⟨4, 15, 4, 18⟩) .eq (.numeric (.int 1) ⟨4, 22, 4, 23⟩) ⟨4, 15, 4, 23⟩

def forceTest (line col : Nat) : Node :=
  .identifier "force" ⟨line, col, line, col + 5⟩

/-- A test whose arm does nothing, from a line and column to where it ends. -/
def idle (test : Node) (line col endLine endCol : Nat) (orelse : Option Node) : Node :=
  let pass := Span.mk (line + 1) (col + 4) (line + 1) (col + 8)
  .block [.ifStmt test (.block [.compound "Pass" [] pass] pass) orelse ⟨line, col, endLine, endCol⟩]
    ⟨line, col, endLine, endCol⟩

def methodBody : Node :=
  .block [
    .ifStmt codeTest
      (idle keyTest 4 12 8 24 (some (idle (forceTest 7 19) 7 16 8 24 none)))
      (some (idle (forceTest 10 15) 10 12 11 20 none)) ⟨3, 8, 11, 20⟩,
    .switch (.identifier "key" ⟨12, 14, 12, 17⟩)
      [.defaultClause (idle (forceTest 14 19) 14 16 15 24 none) ⟨13, 17, 13, 18⟩] ⟨12, 8, 15, 24⟩]
    ⟨3, 8, 11, 20⟩

def head : MethodHead :=
  ⟨false, "open", none, [], false, some "self"⟩

def codeParam : Node := .param "code" (some (.hint .number ⟨2, 25, 2, 28⟩)) none false ⟨2, 19, 2, 28⟩

def keyParam : Node := .param "key" none none false ⟨2, 30, 2, 33⟩

def forceParam : Node :=
  .param "force" (some (.hint .boolean ⟨2, 42, 2, 46⟩)) none false ⟨2, 35, 2, 46⟩

def declaration : Node :=
  .classDecl "Gate" [.method head [codeParam, keyParam, forceParam] methodBody none ⟨2, 4, 15, 24⟩]
    ⟨1, 0, 15, 24⟩

def outline : Node := .module [declaration]

/-! What is built from the outline. -/

def onCode : Condition := .ofTest (Excerpt.lines source.toList) codeTest
def onKey : Condition := .ofTest (Excerpt.lines source.toList) keyTest
def onForce (line col : Nat) : Condition :=
  .ofTest (Excerpt.lines source.toList) (forceTest line col)

def body : Block :=
  .mk [
    .ifElse onCode
      (.mk [.ifElse onKey (.mk []) (some (.mk [.ifElse (onForce 7 19) (.mk []) none]))])
      (some (.mk [.ifElse (onForce 10 15) (.mk []) none])),
    .switch [] (some (.mk [.ifElse (onForce 14 19) (.mk []) none]))]

def code : Property := ⟨some "code", some .number, none, false, false, false, false, some codeParam⟩
def key : Property := ⟨some "key", none, none, false, false, false, false, some keyParam⟩
def force : Property :=
  ⟨some "force", some .boolean, none, false, false, false, false, some forceParam⟩

def method : Method :=
  ⟨"open", [code, key, force], some body, none, true, false, false, some "self", none⟩

def cls : Class := ⟨"Gate", "module", [], none, [method], some declaration⟩

def gate : Member := ⟨method, some cls, .standard⟩

theorem branchesAt_idle (lines : List (List Char)) (test : Node) (line col endLine endCol : Nat)
    (orelse : Option Node) : Block.branchesAt lines (idle test line col endLine endCol orelse) =
      [.ifElse (.ofTest lines test) (.mk []) (orelse.map fun c => .mk (Block.branchesAt lines c))] := by
  simp [idle, Block.branchesAt_compound]

theorem branchesAt_methodBody :
    Block.branchesAt (Excerpt.lines source.toList) methodBody = body.branches := by
  simp [methodBody, branchesAt_idle, Block.armOf, Block.defaultOf, body, Block.branches, onCode,
    onKey, onForce]

theorem ofModule_outline : Class.ofModule source "module" outline = [cls] := by
  have hs : isPublicName "open" = true := by decide
  simp [Class.ofModule, outline, Node.children, declaration, Class.ofNode?, Class.ofMembers, head,
    cls, method, Method.ofParts, branchesAt_methodBody, hs]
  exact ⟨⟨rfl, rfl, rfl⟩, rfl, rfl, rfl⟩

/-! The outline of a class that holds a part, and what is built from it. Places are left out. -/

def part (field : String) : Node :=
  .property field (some (.typeRef "A" Span.unknown)) none ⟨Span.unknown, 0⟩ Span.unknown

def given (field : String) (typing : Node) : Node :=
  .param field (some typing) none false Span.unknown

def holder (name field : String) (typing : Node) : Node :=
  .classDecl name [part field,
    .method ⟨true, "__init__", none, [], false, some "self"⟩ [given field typing]
      (.block [] Span.unknown) none Span.unknown] Span.unknown

def partField (field : String) : Property :=
  ⟨some field, some .object, some "A", false, false, true, false, some (part field)⟩

def givenParameter (field : String) (typing : Node) : Property :=
  { (Property.unknown (some field) (some (given field typing))).annotated typing with
    kwOnly := false }

def making (field : String) (typing : Node) : Method :=
  ⟨"__init__", [givenParameter field typing], some (.mk []), none, true, false, false, some "self",
    none⟩

def holding (name module field : String) (typing : Node) : Class :=
  ⟨name, module, [partField field], some (making field typing), [],
    some (holder name field typing)⟩

theorem ofModule_holder (name module field : String) (typing : Node) :
    Class.ofModule "" module (.module [holder name field typing]) =
      [holding name module field typing] := by
  have hparameter : ∀ s, Method.paramOf s (given field typing) = givenParameter field typing :=
    fun _ => rfl
  have hpublic : isPublicName "__init__" = true := by decide
  have hmaking : ∀ ls s, Method.ofParts ls s ⟨true, "__init__", none, [], false, some "self"⟩
      [given field typing] (.block [] Span.unknown) = making field typing := by
    intro ls s
    simp only [Method.ofParts, List.map_cons, List.map_nil, hparameter, Block.branchesAt_block,
      List.flatMap_nil, hpublic, making]
    rfl
  simp only [Class.ofModule, Node.children, List.filterMap_cons, List.filterMap_nil, holder,
    Class.ofNode?, Class.ofMembers, part, List.findSome?_cons, if_true, hmaking]
  rfl

theorem holding_mem_ofModule (name module field : String) (typing : Node) :
    holding name module field typing ∈
      Class.ofModule "" module (.module [holder name field typing]) := by
  rw [ofModule_holder]
  exact List.mem_singleton.mpr rfl

/-! A source without annotations, and the class that is read from it. -/

def bare : String :=
  "class Gate:\n" ++
  "    def open(self, code):\n" ++
  "        if code == 2:\n" ++
  "            pass\n"

def className? : Node → Option String
  | .classDecl name _ _ => some name
  | _ => none

open scoped Interpreter in
theorem children_bare :
    (Outline.ofSource bare).toOption.map (fun root => root.children.map className?) =
      some [some "Gate"] := by
  decide +kernel

open scoped Interpreter in
theorem exists_class_bare (module : String) :
    ∃ root c, Outline.ofSource bare = .ok root ∧ Class.ofModule bare module root = [c] ∧
      c.name = "Gate" := by
  obtain ⟨root, hroot, hchildren⟩ := Option.map_eq_some_iff.mp children_bare
  obtain ⟨n, hn, hname⟩ := List.map_eq_singleton_iff.mp hchildren
  cases n with
  | classDecl name body s =>
    obtain rfl := Option.some.inj hname
    refine ⟨root, .ofMembers (Excerpt.lines bare.toList) ⟨some (.classDecl "Gate" body s), some root⟩ module
      "Gate" body, toOption_eq_some.mp hroot, ?_, rfl⟩
    simp only [Class.ofModule, hn]
    rfl
  | _ => cases hname

end Sample
end BranchCover
