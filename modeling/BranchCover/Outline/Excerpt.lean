import BranchCover.Source.Cursor
import BranchCover.Text.Basic

/-! The text of a place in a source. For `within` and `toLineEnd` lines end at line feeds only and a
column counts characters of its line; `exact` reads a place as it was recorded, with every kind of
line end and columns in bytes. -/
namespace BranchCover
namespace Excerpt

/-- The lines of a source; there is always at least one. -/
def lines : List Char → List (List Char)
  | [] => [[]]
  | c :: cs =>
    if c == '\n' then [] :: lines cs
    else match lines cs with
      | [] => [[c]]
      | l :: ls => (c :: l) :: ls

theorem lines_ne_nil (cs : List Char) : lines cs ≠ [] := by
  cases cs with
  | nil => simp [lines]
  | cons c cs => simp only [lines]; split <;> (try split) <;> simp

/-- The pieces of a place that spans several lines: the end of the first line, the lines between,
and the start of the last one as far as the source has it. An end in line zero means the end of the
source. -/
def pieces (ls : List (List Char)) (s : Span) : List (List Char) :=
  let first := (ls.getD (s.line - 1) []).drop s.col
  let stop := if s.endLine == 0 then ls.length - 1 else s.endLine - 1
  let between := (ls.take stop).drop s.line
  let last := (ls[stop]?).toList.map (·.take s.endCol)
  first :: (between ++ last)

/-- What stands at a place, each run of blanks as one space and none at the ends. -/
def within (ls : List (List Char)) (s : Span) : List Char :=
  if s.line == 0 || ls.length < s.line then []
  else if s.endLine == s.line then
    Blank.collapse (((ls.getD (s.line - 1) []).take s.endCol).drop s.col)
  else Blank.collapse (Blank.unwords ((pieces ls s).map Blank.trim))

/-- What stands from a place to the end of its line, without blanks at the ends. -/
def toLineEnd (ls : List (List Char)) (s : Span) : List Char :=
  if s.line == 0 || ls.length < s.line then []
  else Blank.trim ((ls.getD (s.line - 1) []).drop s.col)

def ofSource (source : String) (s : Span) : String :=
  String.ofList (within (lines source.toList) s)

/-- The lines of a source with their ends, which are a line feed, a carriage return or both. -/
def fullLines : List Char → List (List Char)
  | [] => []
  | '\r' :: '\n' :: cs => ['\r', '\n'] :: fullLines cs
  | c :: cs =>
    if c == '\n' || c == '\r' then [c] :: fullLines cs
    else match fullLines cs with
      | [] => [[c]]
      | l :: ls => (c :: l) :: ls

def takeBytes : Nat → List Char → List Char
  | 0, _ | _ + 1, [] => []
  | n + 1, c :: cs => c :: takeBytes (n + 1 - c.utf8Size) cs

def dropBytes : Nat → List Char → List Char
  | 0, cs => cs
  | _ + 1, [] => []
  | n + 1, c :: cs => dropBytes (n + 1 - c.utf8Size) cs

/-- What stands at a place with its blanks and line ends, from the lines of the source. -/
def exact (ls : List (List Char)) (s : Span) : List Char :=
  let first := ls.getD (s.line - 1) []
  if s.endLine == s.line then takeBytes (s.endCol - s.col) (dropBytes s.col first)
  else
    let between := (ls.take (s.endLine - 1)).drop s.line
    dropBytes s.col first ++ between.flatten ++
      takeBytes s.endCol (ls.getD (s.endLine - 1) [])

end Excerpt
end BranchCover
