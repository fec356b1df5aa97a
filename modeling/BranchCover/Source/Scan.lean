import BranchCover.Source.Token
import BranchCover.Text.Word

/-! Reading tokens. Line structure comes first: blank lines are skipped, indentation is compared
with the open levels, and inside brackets line ends do not count. -/
namespace BranchCover
namespace Source

/-- What may be inside a name as far as tokens are told apart. -/
def isNameChar (c : Char) : Bool :=
  c.isAlphanum || c == '_' || 0x80 ≤ c.toNat

def isNameStart (c : Char) : Bool :=
  c.isAlpha || c == '_' || 0x80 ≤ c.toNat

structure Scanner where
  cursor : Cursor
  atLineStart : Bool
  /-- Open indentation levels, innermost first, each measured with wide and with narrow tabs. -/
  levels : List (Nat × Nat)
  /-- Layout tokens that are due: that many indents, or dedents when negative. -/
  due : Int
  brackets : List Bracket

inductive Step where
  | token (token : Token) (next : Scanner)
  | skip (next : Scanner)
  | stop (stop : Stop)

namespace Scanner

def maxLevels : Nat := 100

def maxBrackets : Nat := 200

def start (line : Nat) (cs : List Char) : Scanner :=
  ⟨Cursor.ofLine line cs, true, [(0, 0)], 0, []⟩

def stopAt (s : Scanner) (cause : StopCause) (c : Cursor) : Step :=
  .stop ⟨cause, s.brackets, c.reach⟩

/-- A fault whose column is that of the character before the cursor. -/
def complain (s : Scanner) (complaint : Complaint) (c : Cursor) : Step :=
  s.stopAt (.fault ⟨complaint, c.line, c.chars - 1⟩) c

def emit (s : Scanner) (kind : TokenKind) (start stop : Cursor) : Step :=
  .token ⟨kind, start.text stop, start.line, some start.col, stop.line, stop.col,
    s.brackets.length, stop.reach⟩ { s with cursor := stop }

/-- A layout token, which stands nowhere. -/
def emitLayout (s : Scanner) (kind : TokenKind) (next : Scanner) : Step :=
  .token ⟨kind, "", s.cursor.line, none, s.cursor.line, 0, s.brackets.length, s.cursor.reach⟩ next

/-- What follows a backslash: the end of its line, and a further line. -/
def continuation (s : Scanner) (inToken : Bool) (c : Cursor) : Except Step Cursor :=
  match c.peek with
  | some '\n' =>
    let c := c.advance.settle inToken
    if c.rest.isEmpty then .error (s.stopAt .sourceEnds c) else .ok c
  | some _ => .error (s.stopAt .afterContinuation { c with col := c.col + 1 })
  | none => .error (s.stopAt .afterContinuation c)

/-- The width of the indentation: the columns with wide and with narrow tabs, the wide column at
the first backslash, and the cursor behind. A backslash joins the next line. -/
def indentation (s : Scanner) :
    (fuel col narrow joined : Nat) → Cursor → Except Step (Nat × Nat × Nat × Cursor)
  | 0, col, narrow, joined, c => .ok (col, narrow, joined, c)
  | fuel + 1, col, narrow, joined, c =>
    match c.peek with
    | some ' ' => s.indentation fuel (col + 1) (narrow + 1) joined c.advance
    | some '\t' => s.indentation fuel ((col / 8 + 1) * 8) (narrow + 1) joined c.advance
    | some '\x0c' => s.indentation fuel 0 0 joined c.advance
    | some '\\' => do
      let c ← s.continuation false c.advance
      s.indentation fuel col narrow (if joined == 0 then col else joined) c
    | _ => .ok (col, narrow, joined, c)

/-- Closes levels down to a column; the number closed comes with the levels left. -/
def closeLevels (col : Nat) : List (Nat × Nat) → Nat × List (Nat × Nat)
  | [] => (0, [])
  | (w, n) :: outer =>
    if col < w then
      let r := closeLevels col outer
      (r.1 + 1, r.2)
    else (0, (w, n) :: outer)

def applyIndentation (s : Scanner) (col narrow : Nat) : Step :=
  let (w, n) := s.levels.headD (0, 0)
  let lineEnd := s.cursor.toLineEnd
  if col == w then
    if narrow == n then .skip s else s.stopAt .mixedTabs lineEnd
  else if w < col then
    if maxLevels ≤ s.levels.length then s.stopAt .tooManyIndents lineEnd
    else if narrow ≤ n then s.stopAt .mixedTabs lineEnd
    else .skip { s with levels := (col, narrow) :: s.levels, due := 1 }
  else
    let (closed, levels) := closeLevels col s.levels
    let (w, n) := levels.headD (0, 0)
    if col != w then s.stopAt .dedentMismatch lineEnd
    else if narrow != n then s.stopAt .mixedTabs lineEnd
    else .skip { s with levels := levels, due := -closed }

/-- The start of a line: a blank or comment line is skipped, any other may open or close levels. -/
def lineStart (s : Scanner) : Step :=
  let c := s.cursor.settle false
  match s.indentation (c.rest.length + 1) 0 0 0 c with
  | .error step => step
  | .ok (col, narrow, joined, c) =>
    let s := { s with cursor := c, atLineStart := false }
    if c.peek == some '#' || c.peek == some '\n' then
      let c := c.skipWhile (· != '\n')
      if c.rest.isEmpty then .skip { s with cursor := c }
      else .skip { s with cursor := c.advance, atLineStart := true }
    else if s.brackets.isEmpty then
      if joined == 0 then s.applyIndentation col narrow else s.applyIndentation joined joined
    else .skip s

def name (s : Scanner) (start : Cursor) : Step :=
  let stop := start.skipWhile isNameChar
  let cs := (start.text stop).toList
  let valid := match cs with
    | [] => 0
    | c :: rest => if Word.isStart c then 1 + (rest.takeWhile Word.isContinue).length else 0
  match cs.drop valid with
  | [] =>
    let kind := if Token.keywords.contains (String.ofList cs) then .keyword else .name
    s.emit kind start stop
  | c :: _ =>
    let place := { start with chars := start.chars + valid + 1 }
    s.complain (if Printable.test c.toNat then .badCharacter c else .nonPrintable c.toNat) place

/-- The number of characters of a string prefix at the front of `cs`, when a quote follows. -/
def stringPrefix? (cs : List Char) : Option Nat :=
  let letters := cs.takeWhile Char.isAlpha
  let known := ["", "b", "r", "u", "f", "br", "rb", "fr", "rf"]
  if known.contains (String.ofList (letters.map Char.toLower)) then
    match cs.drop letters.length with
    | c :: _ => if c == '"' || c == '\'' then some letters.length else none
    | [] => none
  else none

/-- Reads a string up to its closing quotes; `found` of `size` closing quotes are seen. -/
def stringBody (quote : Char) (size : Nat) :
    (fuel found : Nat) → Cursor → Except Cursor Cursor
  | 0, _, c => .error c
  | fuel + 1, found, c =>
    if found == size then .ok c
    else
      let c := c.settle true
      match c.peek with
      | none => .error c
      | some x =>
        if x == '\n' && size == 1 then .error c.advance
        else if x == quote then stringBody quote size fuel (found + 1) c.advance
        else if x == '\\' then stringBody quote size fuel 0 (c.advance.settle true).advance
        else stringBody quote size fuel 0 c.advance

/-- A string whose opening quote stands `skipped` characters on. -/
def string (s : Scanner) (skipped : Nat) (start : Cursor) : Step :=
  let opening := Nat.repeat Cursor.advance skipped start
  match opening.peek with
  | none => .skip s
  | some quote =>
    let c := opening.advance
    let doubled := c.peek == some quote
    let tripled := doubled && c.advance.peek == some quote
    let body : Except Cursor Cursor :=
      if tripled then stringBody quote 3 (c.rest.length + 1) 0 c.advance.advance
      else if doubled then .ok c.advance
      else stringBody quote 1 (c.rest.length + 1) 0 c
    match body with
    | .ok stop => s.emit .string start stop
    | .error stop =>
      s.stopAt (.fault ⟨.unterminatedString tripled stop.line, start.line, start.chars⟩)
        { start with window := stop.window }

/-- Digits of `p` in groups that single underscores divide; at least one digit is due, and `fault`
says what is wrong without one. -/
def groups (p : Char → Bool) (fault : Cursor → Step) : (fuel : Nat) → Cursor → Except Step Cursor
  | 0, c => .ok c
  | fuel + 1, c =>
    if (c.peek.map p).getD false then
      let c := c.skipWhile p
      if c.peek == some '_' then groups p fault fuel c.advance else .ok c
    else .error (fault c)

def decimalTail (s : Scanner) (c : Cursor) : Except Step Cursor :=
  let c := c.skipWhile Char.isDigit
  if c.peek == some '_' then
    groups Char.isDigit (s.complain (.badNumber "decimal")) (c.rest.length + 1) c.advance
  else .ok c

/-- Whether `word` stands at the front of `cs` and is not part of a longer name. -/
def startsWord (word : String) (cs : List Char) : Bool :=
  word.toList.isPrefixOf cs && !((cs.drop word.length).head?.map isNameChar).getD false

/-- A number may touch a keyword that can follow it, and no other name that starts in ASCII. -/
def endsNumber (cs : List Char) : Bool :=
  match cs with
  | [] => true
  | c :: rest =>
    !isNameChar c || 0x80 ≤ c.toNat || ["and", "else", "for", "or", "not"].any (startsWord · cs) ||
      (c == 'i' && (rest.head?.map fun d => d == 'f' || d == 'n' || d == 's').getD false)

def finishNumber (s : Scanner) (kind : String) (start stop : Cursor) : Except Step Step :=
  if endsNumber stop.rest then .ok (s.emit .number start stop)
  else .error (s.complain (.badNumber kind) stop)

/-- The fault of a missing digit: a decimal digit that the base does not have is named. -/
def digitFault (s : Scanner) (kind : String) (c : Cursor) : Step :=
  match c.peek with
  | some d =>
    if d.isDigit then s.complain (.badDigit d kind) c.advance
    else s.complain (.badNumber kind) c
  | none => s.complain (.badNumber kind) c

def basedNumber (s : Scanner) (kind : String) (p : Char → Bool) (start c : Cursor) :
    Except Step Step := do
  let c := if c.peek == some '_' then c.advance else c
  let stop ← groups p (s.digitFault kind) (c.rest.length + 1) c
  if (stop.peek.map Char.isDigit).getD false then .error (s.digitFault kind stop)
  else s.finishNumber kind start stop

def exponentPart (s : Scanner) (start c : Cursor) : Except Step Step := do
  let imaginary (c : Cursor) : Except Step Step :=
    if c.peek == some 'j' || c.peek == some 'J' then s.finishNumber "imaginary" start c.advance
    else s.finishNumber "decimal" start c
  if c.peek == some 'e' || c.peek == some 'E' then
    let mark := c
    let c := c.advance
    match c.peek with
    | some x =>
      if x == '+' || x == '-' then
        let c := c.advance
        if (c.peek.map Char.isDigit).getD false then imaginary (← s.decimalTail c)
        else .error (s.complain (.badNumber "decimal") c)
      else if x.isDigit then imaginary (← s.decimalTail c)
      else s.finishNumber "decimal" start mark
    | none => s.finishNumber "decimal" start mark
  else imaginary c

def fractionPart (s : Scanner) (start c : Cursor) : Except Step Step := do
  if c.peek == some '.' then
    let c := c.advance
    if (c.peek.map Char.isDigit).getD false then s.exponentPart start (← s.decimalTail c)
    else s.exponentPart start c
  else s.exponentPart start c

/-- Zeros at the front of a decimal number, with single underscores between. -/
def zeros (s : Scanner) : (fuel : Nat) → Cursor → Except Step Cursor
  | 0, c => .ok c
  | fuel + 1, c =>
    match c.peek with
    | some '0' => s.zeros fuel c.advance
    | some '_' =>
      let c := c.advance
      if (c.peek.map Char.isDigit).getD false then
        if c.peek == some '0' then s.zeros fuel c.advance else .ok c
      else .error (s.complain (.badNumber "decimal") c)
    | _ => .ok c

def isHexDigit (c : Char) : Bool :=
  c.isDigit || ('a' ≤ c && c ≤ 'f') || ('A' ≤ c && c ≤ 'F')

def zeroNumber (s : Scanner) (start : Cursor) : Except Step Step := do
  let c := start.advance
  match c.peek.map Char.toLower with
  | some 'x' => s.basedNumber "hexadecimal" isHexDigit start c.advance
  | some 'o' => s.basedNumber "octal" (fun d => '0' ≤ d && d ≤ '7') start c.advance
  | some 'b' => s.basedNumber "binary" (fun d => d == '0' || d == '1') start c.advance
  | _ =>
    let c ← s.zeros (c.rest.length + 1) c
    let nonzero := (c.peek.map Char.isDigit).getD false
    let c ← if nonzero then s.decimalTail c else .ok c
    match c.peek with
    | some x =>
      if x == '.' || x == 'e' || x == 'E' || x == 'j' || x == 'J' then s.fractionPart start c
      else if nonzero then
        .error (s.stopAt (.fault ⟨.leadingZeros, start.line, start.col⟩) c)
      else s.finishNumber "decimal" start c
    | none =>
      if nonzero then .error (s.stopAt (.fault ⟨.leadingZeros, start.line, start.col⟩) c)
      else s.finishNumber "decimal" start c

def number (s : Scanner) (start : Cursor) : Step :=
  let r : Except Step Step :=
    if start.peek == some '0' then s.zeroNumber start
    else if start.peek == some '.' then do s.exponentPart start (← s.decimalTail start.advance)
    else do s.fractionPart start (← s.decimalTail start)
  match r with
  | .ok step => step
  | .error step => step

def operators : List String :=
  ["**=", "//=", "<<=", ">>=", "...", "!=", "%=", "&=", "**", "*=", "+=", "-=", "->", "//", "/=",
   ":=", "<<", "<=", "<>", "==", ">=", ">>", "@=", "^=", "|="]

def closes (opening closing : Char) : Bool :=
  (opening == '(' && closing == ')') || (opening == '[' && closing == ']') ||
    (opening == '\x7b' && closing == '\x7d')

def operator (s : Scanner) (x : Char) (start : Cursor) : Step :=
  match operators.find? fun o => o.toList.isPrefixOf start.rest with
  | some o => s.emit .op start (Nat.repeat Cursor.advance o.length start)
  | none =>
    let stop := start.advance
    if x == '(' || x == '[' || x == '\x7b' then
      if maxBrackets ≤ s.brackets.length then s.complain .tooManyBrackets stop
      else
        { s with brackets := ⟨x, start.line, start.col⟩ :: s.brackets }.emit .op start stop
    else if x == ')' || x == ']' || x == '\x7d' then
      match s.brackets with
      | [] => s.complain (.unmatched x) stop
      | b :: outer =>
        let s := { s with brackets := outer }
        if closes b.char x then s.emit .op start stop
        else if b.line == start.line then s.complain (.mismatched x b.char none) stop
        else s.complain (.mismatched x b.char (some b.line)) stop
    else if Printable.test x.toNat then s.emit .op start stop
    else s.complain (.nonPrintable x.toNat) stop

def inLine (s : Scanner) : Step :=
  let c := (s.cursor.settle false).skipWhile fun x => x == ' ' || x == '\t' || x == '\x0c'
  let before := c
  let c := if c.peek == some '#' then c.skipWhile (· != '\n') else c
  match c.peek with
  | none =>
    if s.brackets.isEmpty then
      let s := { s with cursor := c }
      s.emitLayout .finish s
    else s.stopAt .sourceEnds c
  | some x =>
    match stringPrefix? c.rest with
    | some skipped => s.string skipped c
    | none =>
      if isNameStart x then s.name c
      else if x == '\n' then
        let stop := c.advance
        if s.brackets.isEmpty then
          .token ⟨.newline, "", c.line, some before.col, c.line, c.col, 0, stop.reach⟩
            { s with cursor := stop, atLineStart := true }
        else .skip { s with cursor := stop, atLineStart := true }
      else if x.isDigit || (x == '.' && (c.advance.peek.map Char.isDigit).getD false) then
        s.number c
      else if x == '\\' then
        match s.continuation true c.advance with
        | .ok c => .skip { s with cursor := c }
        | .error step => step
      else s.operator x c

def step (s : Scanner) : Step :=
  if s.atLineStart then s.lineStart
  else if 0 < s.due then s.emitLayout .indent { s with due := s.due - 1 }
  else if s.due < 0 then s.emitLayout .dedent { s with due := s.due + 1 }
  else s.inLine

/-- All tokens up to the end of the source or the first place that holds none. -/
def run : (fuel : Nat) → Scanner → Array Token → Array Token × Option Stop
  | 0, _, out => (out, none)
  | fuel + 1, s, out =>
    match s.step with
    | .token t next =>
      if t.kind == .finish then (out.push t, none) else run fuel next (out.push t)
    | .skip next => run fuel next out
    | .stop stop => (out, some stop)

end Scanner

/-- Line ends in their one form. With `closed`, a line end is added to a last line without one, and
to a source that ends in a carriage return and a line feed. -/
def unifyLineEnds (closed : Bool) : List Char → List Char
  | [] => if closed then ['\n'] else []
  | ['\r', '\n'] => if closed then ['\n', '\n'] else ['\n']
  | ['\r'] => ['\n']
  | ['\n'] => ['\n']
  | '\r' :: '\n' :: cs => '\n' :: unifyLineEnds closed cs
  | '\r' :: cs => '\n' :: unifyLineEnds closed cs
  | c :: cs => c :: unifyLineEnds closed cs

/-- The tokens of a source whose first line has the given number. -/
def scan (line : Nat) (cs : List Char) : Array Token × Option Stop :=
  Scanner.run (8 * (cs.length + 2)) (Scanner.start line cs) #[]

end Source
end BranchCover
