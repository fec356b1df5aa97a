/-! Places in a source, and a reader over its characters. Lines count from one, columns of a place from zero
in bytes; line zero stands for an unknown place. The reader tells the line and column of the next character
and keeps the line from which a reader of whole lines would show an error. -/
namespace BranchCover

structure Span where
  line : Nat
  col : Nat
  endLine : Nat
  endCol : Nat
  deriving DecidableEq

namespace Span

def unknown : Span := ⟨0, 0, 0, 0⟩

def startsBy (a b : Span) : Bool :=
  a.line < b.line || (a.line == b.line && a.col ≤ b.col)

end Span

namespace Source

/-- Where reading stands. A line is entered when its first character is asked for. -/
structure Cursor where
  rest : List Char
  /-- Number of characters read. -/
  pos : Nat
  line : Nat
  /-- Bytes of the line that are read. -/
  col : Nat
  /-- Characters of the line that are read. -/
  chars : Nat
  /-- The first line that is still kept: the line itself, or the one where a token began that
  runs over several lines. -/
  window : Nat
  /-- The last character read ended its line. -/
  lineDone : Bool
  deriving DecidableEq

structure Reach where
  line : Nat
  col : Nat
  window : Nat
  deriving DecidableEq

namespace Cursor

def ofLine (line : Nat) (cs : List Char) : Cursor :=
  ⟨cs, 0, line - 1, 0, 0, line - 1, true⟩

def reach (c : Cursor) : Reach :=
  ⟨c.line, c.col, c.window⟩

/-- Enters the next line if the last one is done and more follows. -/
def settle (inToken : Bool) (c : Cursor) : Cursor :=
  if c.lineDone && !c.rest.isEmpty then
    { c with line := c.line + 1, col := 0, chars := 0, lineDone := false,
             window := if inToken then c.window else c.line + 1 }
  else c

def peek (c : Cursor) : Option Char :=
  c.rest.head?

/-- Reads one character of a line that is entered. -/
def advance (c : Cursor) : Cursor :=
  match c.rest with
  | [] => c
  | x :: rest =>
    { c with rest := rest, pos := c.pos + 1, col := c.col + x.utf8Size, chars := c.chars + 1,
             lineDone := x == '\n' }

/-- Reads characters while `p` holds; `p` refuses the end of a line. -/
def skipWhile (p : Char → Bool) (c : Cursor) : Cursor :=
  let run := c.rest.takeWhile p
  { c with rest := c.rest.dropWhile p, pos := c.pos + run.length,
           col := c.col + (run.map Char.utf8Size).foldl (· + ·) 0, chars := c.chars + run.length }

def toLineEnd (c : Cursor) : Cursor :=
  (c.skipWhile (· != '\n')).advance

def text (start stop : Cursor) : String :=
  String.ofList (start.rest.take (stop.pos - start.pos))

end Cursor

structure Sheet where
  lines : Array (List Char)
  /-- The number of the first line. -/
  first : Nat
  /-- Bytes before the source on its first line. -/
  shift : Nat

namespace Sheet

def splitLines : List Char → List (List Char)
  | [] => []
  | c :: cs =>
    if c == '\n' then [c] :: splitLines cs
    else
      match splitLines cs with
      | [] => [[c]]
      | l :: ls => (c :: l) :: ls

def ofSource (first shift : Nat) (cs : List Char) : Sheet :=
  ⟨(splitLines cs).toArray, first, shift⟩

/-- Number of characters in the first `n` bytes of a text; a cut character counts as one, and so
does the end of the text. -/
def charsWithin : (n : Nat) → List Char → Nat
  | 0, _ => 0
  | _ + 1, [] => 1
  | n + 1, c :: cs => if n + 1 < c.utf8Size then 1 else 1 + charsWithin (n + 1 - c.utf8Size) cs

def line (s : Sheet) (n : Nat) : List Char :=
  s.lines.getD (n - s.first) []

def shown (s : Sheet) (reach : Reach) (n : Nat) : List Char :=
  if reach.line ≤ n then
    (List.range' reach.window (reach.line + 1 - reach.window)).flatMap s.line
  else (s.line n).filter (· != '\n')

/-- The column of an error from its one-based byte offset. -/
def column (s : Sheet) (reach : Reach) (n offset : Nat) : Nat :=
  charsWithin (offset - s.shift) (s.shown reach n) - 1

end Sheet

end Source
end BranchCover
