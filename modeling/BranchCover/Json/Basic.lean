import BranchCover.Text.Quoted
import BranchCover.Value.Basic

/-! JSON values and their text. Members keep their order; text is ASCII and indented by two spaces a
level. -/
namespace BranchCover

inductive Json where
  | null
  | bool (value : Bool)
  | number (value : Numeral)
  | string (value : Text)
  | array (items : List Json)
  | object (members : List (String × Json))
  deriving Inhabited

namespace Json

def ofString (s : String) : Json := string (Text.ofString s)

def ofString? : Option String → Json
  | some s => ofString s
  | none => null

def ofNat (n : Nat) : Json := number (.int n)

def strings (ss : List String) : Json := array (ss.map ofString)

/-- Members in order; a key that comes again keeps its first place and takes the last value. -/
def put : List (String × Json) → String → Json → List (String × Json)
  | [], k, v => [(k, v)]
  | (l, w) :: rest, k, v => if l == k then (l, v) :: rest else (l, w) :: put rest k v

def ofPairs (ps : List (String × Json)) : Json :=
  object (ps.foldl (fun ms p => put ms p.1 p.2) [])

def unitText (n : Nat) : List Char :=
  '\\' :: 'u' :: Quoted.hex 4 n

/-- A code point between double quotes: beyond the printable ASCII characters it is written by
number, above the first plane by two. -/
def escape (p : CodePoint) : List Char :=
  let n := p.val
  if n == 0x22 then ['\\', '"']
  else if n == 0x5C then ['\\', '\\']
  else if n == 0x0A then ['\\', 'n']
  else if n == 0x0D then ['\\', 'r']
  else if n == 0x09 then ['\\', 't']
  else if n == 0x0C then ['\\', 'f']
  else if n == 0x08 then ['\\', 'b']
  else if 0x20 ≤ n && n ≤ 0x7E then [Char.ofNat n]
  else if n < 0x10000 then unitText n
  else unitText (0xD800 + (n - 0x10000) / 0x400) ++ unitText (0xDC00 + (n - 0x10000) % 0x400)

def quoted (t : Text) : List Char :=
  '"' :: (t.flatMap escape ++ ['"'])

def numberText : Numeral → Except Unrenderable (List Char)
  | .int n => if Numeral.tooLong n then throw .tooManyDigits else pure (Numeral.intText n)
  | .real x =>
    let f := RealFormat.standard
    pure (RealFormat.text ⟨f.lowest, f.highest, f.exponentWidth, f.keepsPoint, "Infinity", "NaN"⟩
      x).toList

def newLine (depth : Nat) : List Char :=
  '\n' :: List.replicate (2 * depth) ' '

mutual

def print (depth : Nat) : Json → Except Unrenderable (List Char)
  | null => pure "null".toList
  | bool b => pure (if b then "true" else "false").toList
  | number n => numberText n
  | string t => pure (quoted t)
  | array [] => pure ['[', ']']
  | array (i :: is) => do
    let t ← print (depth + 1) i
    let ts ← printItems (depth + 1) is
    pure ('[' :: (newLine (depth + 1) ++ t ++ ts ++ newLine depth ++ [']']))
  | object [] => pure ['{', '}']
  | object ((k, v) :: ms) => do
    let t ← print (depth + 1) v
    let ts ← printMembers (depth + 1) ms
    pure ('{' :: (newLine (depth + 1) ++ quoted (Text.ofString k) ++ ':' :: ' ' :: (t ++ ts ++
      newLine depth ++ ['}'])))

def printItems (depth : Nat) : List Json → Except Unrenderable (List Char)
  | [] => pure []
  | i :: is => do
    let t ← print depth i
    let ts ← printItems depth is
    pure (',' :: (newLine depth ++ t ++ ts))

def printMembers (depth : Nat) : List (String × Json) → Except Unrenderable (List Char)
  | [] => pure []
  | (k, v) :: ms => do
    let t ← print depth v
    let ts ← printMembers depth ms
    pure (',' :: (newLine depth ++ quoted (Text.ofString k) ++ ':' :: ' ' :: (t ++ ts)))

end

def text (j : Json) : Except Unrenderable String := do
  let cs ← j.print 0
  pure (String.ofList cs)

end Json
end BranchCover
