import BranchCover.Source.Fault
import BranchCover.Source.Cursor

/-! Tokens of a source, and how reading tokens may end. -/
namespace BranchCover
namespace Source

inductive TokenKind where
  | name
  | keyword
  | number
  | string
  | op
  | newline
  | indent
  | dedent
  | finish
  deriving DecidableEq

/-- A token with its place. Layout tokens have no column of their own. -/
structure Token where
  kind : TokenKind
  text : String
  line : Nat
  col : Option Nat
  endLine : Nat
  endCol : Nat
  /-- Open brackets after the token. -/
  depth : Nat
  /-- Where the reader stood after the token. -/
  reach : Reach
  deriving DecidableEq

namespace Token

def keywords : List String :=
  ["False", "None", "True", "and", "as", "assert", "async", "await", "break", "class", "continue",
   "def", "del", "elif", "else", "except", "finally", "for", "from", "global", "if", "import", "in",
   "is", "lambda", "nonlocal", "not", "or", "pass", "raise", "return", "try", "while", "with",
   "yield"]

def isFixed (t : Token) (text : String) : Bool :=
  (t.kind == .op || t.kind == .keyword) && t.text == text

def isSoft (t : Token) (text : String) : Bool :=
  t.kind == .name && t.text == text

/-- Layout tokens do not count for the end of a construct. -/
def isLayout (t : Token) : Bool :=
  t.kind == .newline || t.kind == .indent || t.kind == .dedent || t.kind == .finish

def span (t : Token) : Span :=
  ⟨t.line, t.col.getD 0, t.endLine, t.endCol⟩

instance : Inhabited Token :=
  ⟨⟨.finish, "", 0, none, 0, 0, 0, ⟨0, 0, 0⟩⟩⟩

end Token

structure Bracket where
  char : Char
  line : Nat
  col : Nat
  deriving DecidableEq

inductive StopCause where
  | fault (fault : Fault)
  | sourceEnds
  | dedentMismatch
  | mixedTabs
  | tooManyIndents
  /-- Something other than a line end stands behind a backslash. -/
  | afterContinuation
  deriving DecidableEq

structure Stop where
  cause : StopCause
  brackets : List Bracket
  reach : Reach
  deriving DecidableEq

namespace Stop

def unclosed? (s : Stop) (sheet : Sheet) : Option Fault :=
  s.brackets.head?.map fun b =>
    ⟨.unclosed b.char, b.line, sheet.column s.reach b.line (b.col + 1)⟩

def fault (s : Stop) (sheet : Sheet) : Fault :=
  let here := sheet.column s.reach s.reach.line s.reach.col
  match s.cause with
  | .fault f => f
  | .sourceEnds => (s.unclosed? sheet).getD ⟨.unexpectedEnd, s.reach.line, here⟩
  | .dedentMismatch => ⟨.dedentMismatch, s.reach.line, here⟩
  | .mixedTabs => ⟨.mixedTabs, s.reach.line, 0⟩
  | .tooManyIndents => ⟨.tooManyIndents, s.reach.line, 0⟩
  | .afterContinuation =>
    let before := (sheet.shown { s.reach with line := s.reach.line - 1 } (s.reach.line - 1))
    let sizes := before.map Char.utf8Size
    let bytes := if s.reach.window < s.reach.line then sizes.foldl (· + ·) 0 else 0
    ⟨.afterContinuation, s.reach.line, sheet.column s.reach s.reach.line (bytes + s.reach.col)⟩

end Stop

end Source
end BranchCover
