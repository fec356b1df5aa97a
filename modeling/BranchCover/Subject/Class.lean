import BranchCover.Subject.Branch
import BranchCover.Subject.Property
import BranchCover.Text.Basic

/-! Classes under test with their fields and methods, as the outline of a module declares them. -/
namespace BranchCover

inductive ReturnSort where
  | string
  | number
  | boolean
  | object
  deriving DecidableEq

namespace ReturnSort

def label : ReturnSort → String
  | string => "string"
  | number => "number"
  | boolean => "boolean"
  | object => "object"

/-- The sort that the text of an annotation mentions, strings before numbers before booleans. -/
def ofText (text : String) : ReturnSort :=
  if Piece.isInString "str" text then string
  else if Piece.isInString "int" text || Piece.isInString "float" text then number
  else if Piece.isInString "bool" text then boolean
  else object

end ReturnSort

/-- How an attribute stands for a method. -/
inductive Accessor where
  | get
  | set
  | delete
  deriving DecidableEq

namespace Accessor

def label : Accessor → String
  | get => "get"
  | set => "set"
  | delete => "delete"

end Accessor

/-- A method or constructor. The receiver is the name bound to the instance or class. -/
structure Method where
  name : String
  parameters : List Property
  body : Option Block
  returns : Option ReturnSort
  isPublic : Bool
  isStatic : Bool
  isAsync : Bool
  receiver : Option String
  accessor : Option Accessor

structure Class where
  name : String
  module : String
  properties : List Property
  constructor : Option Method
  methods : List Method
  /-- The declaration of the class. -/
  node : Option Node

def Property.find? (ps : List Property) (name : String) : Option Property :=
  ps.find? (·.name == some name)

namespace Modifier

inductive Effect where
  | static
  | access (accessor : Accessor)
  | none

def effect (modifier : String) : Effect :=
  match modifier with
  | "staticmethod" | "classmethod" => .static
  | "property" | "cached_property" => .access .get
  | "setter" => .access .set
  | "deleter" => .access .delete
  | _ => .none

def isStatic (modifiers : List String) : Bool :=
  modifiers.any fun m => effect m matches .static

def accessor? (modifiers : List String) : Option Accessor :=
  (modifiers.filterMap fun m => match effect m with
    | .access a => some a
    | _ => none).getLast?

end Modifier

def startsDouble (cs : List Char) : Bool :=
  ['_', '_'].isPrefixOf cs

def endsDouble (cs : List Char) : Bool :=
  ['_', '_'].isSuffixOf cs

/-- Names with a leading underscore are not public, unless they have two at either end. -/
def isPublicName (name : String) : Bool :=
  let cs := name.toList
  if startsDouble cs && endsDouble cs then true
  else cs.head? != some '_'

namespace Method

def paramOf (s : Property.Scope) (n : Node) : Property :=
  let kwOnly := match n with
    | .param _ _ _ kwOnly _ => kwOnly
    | _ => false
  { Property.ofNode s n with kwOnly := kwOnly }

def ofParts (lines : List (List Char)) (s : Property.Scope) (head : MethodHead)
    (params : List Node) (body : Node) : Method where
  name := head.name
  parameters := params.map (paramOf s)
  body := some (.mk (Block.branchesAt lines body))
  returns := head.returnsText.map ReturnSort.ofText
  isPublic := isPublicName head.name
  isStatic := Modifier.isStatic head.modifiers
  isAsync := head.isAsync
  receiver := head.receiver
  accessor := Modifier.accessor? head.modifiers

def notes (lines : List (List Char)) (cls : String) (s : Property.Scope) (head : MethodHead)
    (params : List Node) (body : Node) : List Note :=
  (head.modifiers.filterMap fun m => match Modifier.effect m with
    | .none => some (.untreatedModifier m cls head.name)
    | _ => none) ++
    params.flatMap (Property.notes s) ++ Block.notesAt lines body

end Method

namespace Class

def ofMembers (lines : List (List Char)) (s : Property.Scope) (module name : String)
    (body : List Node) : Class where
  name := name
  module := module
  properties := body.filterMap fun
    | .property n a v site span =>
      some { Property.ofNode s (.property n a v site span) with isClassVar := true }
    | _ => none
  constructor := body.findSome? fun
    | .method head params b _ _ =>
      if head.isConstructor then some (Method.ofParts lines s head params b) else none
    | _ => none
  methods := body.filterMap fun
    | .method head params b _ _ =>
      if head.isConstructor then none else some (Method.ofParts lines s head params b)
    | _ => none
  node := s.cls

/-- The notes on the members in order; a second constructor is passed over. -/
def notesOnMembers (lines : List (List Char)) (s : Property.Scope) (name : String) :
    (hasConstructor : Bool) → List Node → List Note
  | _, [] => []
  | hasConstructor, m :: ms =>
    match m with
    | .property .. => Property.notes s m ++ notesOnMembers lines s name hasConstructor ms
    | .method head params b _ _ =>
      let here :=
        if head.isConstructor && hasConstructor then []
        else Method.notes lines name s head params b
      here ++ notesOnMembers lines s name (hasConstructor || head.isConstructor) ms
    | _ => notesOnMembers lines s name hasConstructor ms

def ofNode? (lines : List (List Char)) (module : Node) (moduleName : String) (n : Node) :
    Option Class :=
  match n with
  | .classDecl name body _ => some (ofMembers lines ⟨some n, some module⟩ moduleName name body)
  | _ => none

def ofModule (source moduleName : String) (module : Node) : List Class :=
  let lines := Excerpt.lines source.toList
  module.children.filterMap (ofNode? lines module moduleName)

def notesOnModule (source : String) (module : Node) : List Note :=
  let lines := Excerpt.lines source.toList
  module.children.flatMap fun n => match n with
    | .classDecl name body _ => notesOnMembers lines ⟨some n, some module⟩ name false body
    | _ => []

end Class
end BranchCover
