import BranchCover.Generate

/-! The command line: which options it has, how words are read as options and their values, and what
is said about mistakes. -/
namespace BranchCover
namespace Cli

inductive Switch where
  | help
  | stopAt
  | output
  | stdout
  | module
  | stubException
  | verbose
  deriving DecidableEq

namespace Switch

def all : List Switch :=
  [help, stopAt, output, stdout, module, stubException, verbose]

def names : Switch → List String
  | help => ["-h", "--help"]
  | stopAt => ["--stop-at"]
  | output => ["-o", "--output"]
  | stdout => ["--stdout"]
  | module => ["--module"]
  | stubException => ["--stub-exception"]
  | verbose => ["-v", "--verbose"]

def takesValue : Switch → Bool
  | help | stdout | verbose => false
  | stopAt | output | module | stubException => true

/-- How an option is named in complaints. -/
def title (s : Switch) : String :=
  "/".intercalate s.names

def table : List (String × Switch) :=
  all.flatMap fun s => s.names.map (·, s)

def ofName? (name : String) : Option Switch :=
  table.lookup name

end Switch

def usage : String :=
  "usage: branchgen [-h] [--stop-at PHASE] [-o DIR] [--stdout] [--module NAME]\n" ++
  "                 [--stub-exception TYPE] [-v]\n" ++
  "                 [PATH ...]\n"

def helpText : String :=
  usage ++
  "\nGenerate pytest modules that exercise every branch of every method.\n" ++
  "\npositional arguments:\n" ++
  "  PATH                  source files or directories (default: stdin)\n" ++
  "\noptions:\n" ++
  "  -h, --help            show this help message and exit\n" ++
  "  --stop-at PHASE       dump phase output as JSON and stop: syntax, ir,\n" ++
  "                        scenarios\n" ++
  "  -o DIR, --output DIR  write test files into DIR (default: beside source)\n" ++
  "  --stdout              print generated modules instead of writing\n" ++
  "  --module NAME         import path of the class under test\n" ++
  "  --stub-exception TYPE\n" ++
  "                        never stub TYPE (repeatable)\n" ++
  "  -v, --verbose         debug logging\n"

inductive Mistake where
  | ambiguous (word : String) (names : List String)
  | expectedValue (switch : Switch)
  /-- A value is given to an option that takes none. -/
  | ignoredValue (switch : Switch) (value : String)
  | invalidChoice (switch : Switch) (value : String) (choices : List String)
  | unrecognized (words : List String)
  | severalFiles
  deriving DecidableEq

def Mistake.message : Mistake → String
  | ambiguous word names =>
    s!"ambiguous option: {word} could match " ++ ", ".intercalate names
  | expectedValue s => s!"argument {s.title}: expected one argument"
  | ignoredValue s v => s!"argument {s.title}: ignored explicit argument {Quoted.ofString v}"
  | invalidChoice s v choices =>
    s!"argument {s.title}: invalid choice: {Quoted.ofString v} (choose from " ++
      ", ".intercalate (choices.map Quoted.ofString) ++ ")"
  | unrecognized words => "unrecognized arguments: " ++ " ".intercalate words
  | severalFiles => "--module requires a single source file"

structure Arguments where
  paths : List String
  stopAt : Option Generate.Phase
  output : Option String
  stdout : Bool
  module : Option String
  stubExceptions : List String
  verbose : Bool

inductive Stop where
  | help
  | mistake (mistake : Mistake)
  deriving DecidableEq

inductive Word where
  | plain (text : String)
  /-- Two dashes: all words behind them are plain. -/
  | dashes
  /-- An option under one of its names; a value may be written to it, behind an equals sign or, for
  a name with one dash, at once. -/
  | switch (switch : Switch) (name : String) (hasEquals : Bool) (value : Option (List Char))
  | unknown (text : String)

namespace Word

def splitEquals (cs : List Char) : List Char × Option (List Char) :=
  match cs.dropWhile (· != '=') with
  | [] => (cs, none)
  | _ :: value => (cs.takeWhile (· != '='), some value)

/-- Digits with a point among them or none. -/
def isNegativeNumber : List Char → Bool
  | '-' :: cs =>
    let rest := cs.dropWhile Name.isDigit
    match rest with
    | [] => !cs.isEmpty
    | '.' :: fraction => !fraction.isEmpty && fraction.all Name.isDigit
    | _ => false
  | _ => false

/-- The options that a word may stand for: a start of a long name, or a short name with a value. -/
def readings (cs : List Char) : List (String × Word) :=
  match cs with
  | '-' :: '-' :: _ =>
    let (start, value) := splitEquals cs
    Switch.table.filterMap fun (name, s) =>
      if start.isPrefixOf name.toList then some (name, .switch s name value.isSome value) else none
  | d :: c :: value =>
    Switch.table.filterMap fun (name, s) =>
      if name.toList = [d, c] then some (name, .switch s name false (some value)) else none
  | _ => []

/-- Reads a word before any two dashes. -/
def ofString (text : String) : Except Mistake Word :=
  let cs := text.toList
  match Switch.ofName? text with
  | some s => pure (.switch s text false none)
  | none =>
    if cs.head? ≠ some '-' || cs.length == 1 then pure (.plain text)
    else
      let (start, value) := splitEquals cs
      match value, Switch.ofName? (String.ofList start) with
      | some v, some s => pure (.switch s (String.ofList start) true (some v))
      | _, _ =>
        match readings cs with
        | [(_, w)] => pure w
        | _ :: _ :: _ => throw (.ambiguous text ((readings cs).map (·.1)))
        | [] =>
          if isNegativeNumber cs || cs.contains ' ' then pure (.plain text)
          else pure (.unknown text)

def ofStrings : List String → Except Mistake (List Word)
  | [] => pure []
  | "--" :: rest => pure (.dashes :: rest.map .plain)
  | text :: rest => do
    let w ← ofString text
    let ws ← ofStrings rest
    pure (w :: ws)

def operand : Word → String
  | plain t => t
  | _ => "--"

end Word

/-- What one word of options asks for: options with their values, then an option that still needs
one, or a rest that is no option. -/
structure Chain where
  actions : List (Switch × Option String)
  pending : Option Switch
  unknown : Option String

/-- Reads short options that share a dash, one character each, up to one that takes a value. -/
def chain (s : Switch) (isShort hasEquals : Bool) : List Char → Except Mistake Chain
  | [] =>
    if s.takesValue then pure ⟨[(s, some "")], none, none⟩ else throw (.ignoredValue s "")
  | c :: cs =>
    if s.takesValue then pure ⟨[(s, some (String.ofList (c :: cs)))], none, none⟩
    else if !isShort || hasEquals || c == '-' then
      throw (.ignoredValue s (String.ofList (c :: cs)))
    else
      match Switch.ofName? (String.ofList ['-', c]) with
      | none => pure ⟨[(s, none)], none, some (String.ofList ('-' :: c :: cs))⟩
      | some s' =>
        match cs with
        | [] =>
          if s'.takesValue then pure ⟨[(s, none)], some s', none⟩
          else pure ⟨[(s, none), (s', none)], none, none⟩
        | '=' :: value => do
          let r ← chain s' true true value
          pure { r with actions := (s, none) :: r.actions }
        | d :: value => do
          let r ← chain s' true false (d :: value)
          pure { r with actions := (s, none) :: r.actions }

namespace Arguments

def initial : Arguments :=
  ⟨[], none, none, false, none, [], false⟩

def apply (a : Arguments) : Switch × Option String → Except Stop Arguments
  | (.help, _) => throw .help
  | (.stdout, _) => pure { a with stdout := true }
  | (.verbose, _) => pure { a with verbose := true }
  | (.stopAt, v) =>
    let v := v.getD ""
    match Generate.Phase.ofLabel? v with
    | some p => pure { a with stopAt := some p }
    | none => throw (.mistake (.invalidChoice .stopAt v (Generate.Phase.all.map (·.label))))
  | (.output, v) => pure { a with output := v }
  | (.module, v) => pure { a with module := v }
  | (.stubException, v) => pure { a with stubExceptions := a.stubExceptions ++ v.toList }

structure Reading where
  arguments : Arguments
  /-- Whether the first run of operands is behind. -/
  hasPaths : Bool
  extras : List String

/-- A run of operands: the first one holds the paths, without its first two dashes. -/
def Reading.operands (r : Reading) (ws : List Word) : Reading :=
  if ws.isEmpty then r
  else if r.hasPaths then { r with extras := r.extras ++ ws.map Word.operand }
  else
    { r with
      hasPaths := true
      arguments := { r.arguments with
        paths := (ws.eraseP (· matches .dashes)).map Word.operand } }

/-- Takes in what one word of options asks for; the next word may be a value. -/
def Reading.options (r : Reading) (c : Chain) (next : Option String) : Except Stop Reading := do
  let last ← match c.pending, next with
    | some s, some v => pure [(s, some v)]
    | some s, none => throw (.mistake (.expectedValue s))
    | none, _ => pure []
  let a ← (c.actions ++ last).foldlM apply r.arguments
  pure { r with arguments := a, extras := r.extras ++ c.unknown.toList }

def chainOf (s : Switch) (name : String) (hasEquals : Bool) :
    Option (List Char) → Except Mistake Chain
  | none => pure (if s.takesValue then ⟨[], some s, none⟩ else ⟨[(s, none)], none, none⟩)
  | some v => chain s (!"--".toList.isPrefixOf name.toList) hasEquals v

/-- Reads words in turn. Operands that are not yet read wait in `held`. -/
def readAll (r : Reading) (held : List Word) : List Word → Except Stop Reading
  | [] => pure (r.operands held)
  | .unknown t :: ws =>
    let r := r.operands held
    readAll { r with extras := r.extras ++ [t] } [] ws
  | .switch s name hasEquals value :: ws => do
    let r := r.operands held
    let c ← (chainOf s name hasEquals value).mapError .mistake
    match c.pending, ws with
    | some _, .plain v :: ws' => do
      let r ← r.options c (some v)
      readAll r [] ws'
    | _, ws => do
      let r ← r.options c none
      readAll r [] ws
  | w :: ws => readAll r (held ++ [w]) ws

def read (words : List String) : Except Stop Arguments := do
  let ws ← (Word.ofStrings words).mapError .mistake
  let r ← readAll ⟨initial, false, []⟩ [] ws
  if r.extras.isEmpty then pure r.arguments else throw (.mistake (.unrecognized r.extras))

end Arguments
end Cli
end BranchCover
