import BranchCover.Source.Literal

/-! Formatted strings before their fields are read: where text ends, where a replacement field ends,
and what follows its expression. Positions are indices into the token's characters. -/
namespace BranchCover
namespace Source

structure Template where
  chars : Array Char
  /-- The position of the closing quotes. -/
  stop : Nat
  isRaw : Bool

namespace Template

def at? (t : Template) (i : Nat) : Option Char :=
  if i < t.stop then t.chars[i]? else none

def slice (t : Template) (i j : Nat) : List Char :=
  (t.chars.extract i j).toList

/-- Text up to a field: where the text ends, where reading goes on, and whether more text follows a
doubled brace. -/
structure TextEnd where
  stop : Nat
  next : Nat
  more : Bool

/-- The position behind a closing brace, or the end. -/
def skipName (t : Template) : (fuel : Nat) → Nat → Nat
  | 0, i => i
  | fuel + 1, i =>
    match t.at? i with
    | none => i
    | some c => if c == '\x7d' then i + 1 else t.skipName fuel (i + 1)

def braceEnd (t : Template) (top : Bool) (c : Char) (i : Nat) : Except Complaint TextEnd :=
  if top && t.at? (i + 1) == some c then .ok ⟨i + 1, i + 2, true⟩
  else if top && c == '\x7d' then .error (.fieldMessage "single '\x7d' is not allowed")
  else .ok ⟨i, i, false⟩

/-- Finds the end of text. At the top level braces are doubled; in a format a closing brace ends
the text. -/
def textEnd (t : Template) (top : Bool) : (fuel : Nat) → Nat → Except Complaint TextEnd
  | 0, i => .ok ⟨i, i, false⟩
  | fuel + 1, i =>
    match t.at? i with
    | none => .ok ⟨i, i, false⟩
    | some c =>
      if !t.isRaw && c == '\\' && (t.at? (i + 1)).isSome then
        match t.at? (i + 1) with
        | some 'N' =>
          if t.at? (i + 2) == some '\x7b' then t.textEnd top fuel (t.skipName fuel (i + 3))
          else if (t.at? (i + 2)).isSome then t.textEnd top fuel (i + 3)
          else t.textEnd top fuel (i + 2)
        | some d =>
          if d == '\x7b' || d == '\x7d' then t.braceEnd top d (i + 1)
          else t.textEnd top fuel (i + 2)
        | none => .ok ⟨i, i, false⟩
      else if c == '\x7b' || c == '\x7d' then t.braceEnd top c i
      else t.textEnd top fuel (i + 1)

/-- A quote that is open in a field, and whether it is tripled. -/
abbrev OpenQuote := Option (Char × Bool)

def tripled (t : Template) (i : Nat) : Bool :=
  t.at? (i + 1) == t.at? i && t.at? (i + 2) == t.at? i

/-- Finds the end of the expression of a field: a colon, an exclamation mark, an equals sign or the
closing brace outside of brackets and strings. -/
def fieldEnd (t : Template) : (fuel : Nat) → OpenQuote → List Char → Nat → Except Complaint Nat
  | 0, _, _, i => .ok i
  | fuel + 1, quote, open', i =>
    match t.at? i with
    | none =>
      if quote.isSome then .error (.fieldMessage "unterminated string")
      else
        match open' with
        | o :: _ => .error (.fieldMessage s!"unmatched '{o}'")
        | [] => .error (.fieldMessage "expecting '\x7d'")
    | some c =>
      if c == '\\' then .error .backslashInField
      else
        match quote with
        | some (q, triple) =>
          if c == q && triple then
            if t.tripled i then t.fieldEnd fuel none open' (i + 3)
            else t.fieldEnd fuel quote open' (i + 1)
          else if c == q then t.fieldEnd fuel none open' (i + 1)
          else t.fieldEnd fuel quote open' (i + 1)
        | none =>
          if c == '\'' || c == '"' then
            if t.tripled i then t.fieldEnd fuel (some (c, true)) open' (i + 3)
            else t.fieldEnd fuel (some (c, false)) open' (i + 1)
          else if c == '(' || c == '[' || c == '\x7b' then
            if 200 ≤ open'.length then .error (.fieldMessage "too many nested parenthesis")
            else t.fieldEnd fuel none (c :: open') (i + 1)
          else if c == '#' then .error .commentInField
          else if open'.isEmpty && (c == '!' || c == ':' || c == '\x7d' || c == '=' || c == '<' ||
              c == '>') then
            if t.at? (i + 1) == some '=' && (c == '!' || c == '=' || c == '<' || c == '>') then
              t.fieldEnd fuel none open' (i + 2)
            else if c == '<' || c == '>' then t.fieldEnd fuel none open' (i + 1)
            else .ok i
          else if c == ')' || c == ']' || c == '\x7d' then
            match open' with
            | [] => .error (.fieldMessage s!"unmatched '{c}'")
            | o :: outer =>
              if (o == '(' && c == ')') || (o == '[' && c == ']') || (o == '\x7b' && c == '\x7d') then
                t.fieldEnd fuel none outer (i + 1)
              else
                .error (.fieldMessage
                  s!"closing parenthesis '{c}' does not match opening parenthesis '{o}'")
          else t.fieldEnd fuel none open' (i + 1)

def isBlank (cs : List Char) : Bool :=
  cs.all fun c => c == ' ' || c == '\t' || c == '\n' || c == '\x0c'

/-- What is wrong with a field without an expression, by what stands where the expression ends. -/
def noExpression (t : Template) (i : Nat) : Complaint :=
  match t.at? i with
  | some '!' => .fieldMessage "expression required before '!'"
  | some ':' => .fieldMessage "expression required before ':'"
  | some '=' => .fieldMessage "expression required before '='"
  | _ => .fieldMessage "empty expression not allowed"

def skipBlanks (t : Template) : (fuel : Nat) → Nat → Nat
  | 0, i => i
  | fuel + 1, i =>
    match t.at? i with
    | some c =>
      if c == ' ' || (9 ≤ c.toNat && c.toNat ≤ 13) then t.skipBlanks fuel (i + 1) else i
    | none => i

def conversion (t : Template) (i : Nat) : Except Complaint (Char × Nat) :=
  match t.at? i with
  | none => .error (.fieldMessage "expecting '\x7d'")
  | some c =>
    if c == 's' || c == 'r' || c == 'a' then .ok (c, i + 1)
    else .error (.fieldMessage "invalid conversion character: expected 's', 'r', or 'a'")

/-- The line and byte column of a field's opening brace, when the token starts at the given place.
A field whose expression starts on a later line has column zero. -/
def place (t : Template) (line col i : Nat) : Nat × Nat :=
  let before := t.slice 0 i
  let lines := before.count '\n'
  let onLine := (before.reverse.takeWhile (· != '\n')).map Char.utf8Size
  let after := ((t.slice (i + 1) t.chars.size).dropWhile
    fun c => c == ' ' || c == '\t' || c == '\x0c').head?
  let own := if after == some '\n' || after == some '\x7d' then 0 else onLine.foldl (· + ·) 0
  (line + lines, if lines == 0 then col + own else own)

end Template

end Source
end BranchCover
