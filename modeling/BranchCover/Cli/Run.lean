import BranchCover.Cli.Arguments
import BranchCover.Cli.Discover

/-! Runs of the program: on standard input, or on files one after the other. A file that cannot be
read or parsed is reported and the others go on. -/
namespace BranchCover
namespace Cli

variable {m : Type → Type} [Monad m] [Interpreter]

inductive Remark where
  | note (note : Note)
  | error (text : String)
  deriving DecidableEq

namespace Remark

/-- Notes below errors are shown only on request. -/
def text (verbose : Bool) : Remark → String
  | note n => if verbose || n.level = .error then n.line ++ "\n" else ""
  | error t => t ++ "\n"

end Remark

structure Outcome where
  code : Nat
  out : String
  err : String
  deriving DecidableEq

structure Batch where
  code : Nat
  dumps : List (String × Json)
  outputs : List String
  /-- Written paths, each with the source that it was written for. -/
  written : List (Path × Path)
  remarks : List Remark

namespace Batch

def initial : Batch := ⟨0, [], [], [], []⟩

def notes (b : Batch) (ns : List Note) : Batch :=
  { b with remarks := b.remarks ++ ns.map .note }

/-- The batch with an error, which makes its code one. -/
def failed (b : Batch) (text : String) : Batch :=
  { b with code := 1, remarks := b.remarks ++ [.error text] }

end Batch

def optionsOf (a : Arguments) : Options :=
  { Options.standard with stubExceptions := a.stubExceptions }

def nonEmpty? (s : Option String) : Option String :=
  s.filter (· != "")

def targetOf (a : Arguments) (source : Path) (file : String) : Path :=
  match nonEmpty? a.output with
  | some dir => (Path.ofString dir).child [file]
  | none => source.parent.child [file]

/-- Writes test modules one after the other. A path that was written before is not written again. -/
def writeAll (d : Disk m) (a : Arguments) (source : Path) (b : Batch) :
    List Generate.TestModule → m Batch
  | [] => pure b
  | t :: ts => do
    if a.stdout then
      writeAll d a source { b with outputs := b.outputs ++ [t.text] } ts
    else
      let target := targetOf a source t.fileName
      match b.written.lookup target with
      | some first =>
        writeAll d a source (b.failed <|
          s!"error: '{target.text}' for {t.className} in {source.text} already written from " ++
            first.text) ts
      | none =>
        let b := { b with written := b.written ++ [(target, source)] }
        if ← d.write target t.text.toUTF8 then
          writeAll d a source (b.notes [.wrote target.text]) ts
        else
          writeAll d a source (b.failed s!"error: cannot write '{target.text}'") ts

def sourceOf (p : Path) : Option ByteArray → Except String String
  | none => throw s!"error: cannot open '{p.text}'"
  | some bytes =>
    match String.fromUTF8? bytes with
    | some s => pure s
    | none => throw s!"error: invalid utf-8 in '{p.text}'"

def faultLine (p : Path) (f : Source.Fault) : String :=
  s!"error:{p.text}:{Generate.faultText f}"

/-- One source of a batch, as a dump or as test modules. Only a failure that is no error in the
source ends the run. -/
def runSource (d : Disk m) (a : Arguments) (b : Batch) (p : Path) (source module : String) :
    m (Except Generate.Failure Batch) :=
  match a.stopAt with
  | some phase =>
    let (r, ns) := Generate.dump source phase module (optionsOf a)
    let b := b.notes ns
    match r with
    | .ok j => pure (.ok { b with dumps := Json.put b.dumps p.text j })
    | .error e =>
      match e.fault? with
      | some f => pure (.ok (b.failed (faultLine p f)))
      | none => pure (.error e)
  | none =>
    let (r, ns) := Generate.testModules source module (optionsOf a) p.name
    let b := b.notes ns
    match r with
    | .ok ts => do
      let b ← writeAll d a p b ts
      pure (.ok b)
    | .error e =>
      match e.fault? with
      | some f => pure (.ok (b.failed (faultLine p f)))
      | none => pure (.error e)

def runFile (d : Disk m) (a : Arguments) (b : Batch) (p : Path) :
    m (Except Generate.Failure Batch) := do
  let content ← d.read p
  match sourceOf p content with
  | .error e => pure (.ok (b.failed e))
  | .ok source =>
    if Generate.isSkipped source then pure (.ok (b.notes [.skipped p.text]))
    else
      let module ← match nonEmpty? a.module with
        | some name => pure name
        | none => moduleName d p
      runSource d a b p source module

def runFiles (d : Disk m) (a : Arguments) (b : Batch) :
    List Path → m (Except Generate.Failure Batch)
  | [] => pure (.ok b)
  | p :: ps => do
    match ← runFile d a b p with
    | .ok b => runFiles d a b ps
    | .error e => pure (.error e)

/-- What a batch prints: the dump of a single file by itself, several under their paths, or the test
modules. -/
def printed (files : List Path) (a : Arguments) (b : Batch) : Except Unrenderable String := do
  let dumped ← match a.stopAt, b.dumps with
    | some _, (path, j) :: rest => do
      let t ← (if files.length == 1 then j else .object ((path, j) :: rest)).text
      pure (t ++ "\n")
    | _, _ => pure ""
  pure (dumped ++
    if b.outputs.isEmpty then "" else "\n\n".intercalate b.outputs ++ "\n")

def remarksText (a : Arguments) (rs : List Remark) : String :=
  String.join (rs.map (Remark.text a.verbose))

def runInput (a : Arguments) (bytes : ByteArray) : Except Generate.Failure Outcome :=
  match String.fromUTF8? bytes with
  | none => pure ⟨1, "", "error: invalid utf-8 in input\n"⟩
  | some source =>
    if (Blank.trim source.toList).isEmpty then pure ⟨2, "", "error: no input provided\n"⟩
    else do
      let (r, ns) := Generate.answer source ((nonEmpty? a.module).getD "module") a.stopAt
        (optionsOf a) "<stdin>"
      let r ← r
      let out := if r.code == 0 && r.output != "" then r.output ++ "\n" else ""
      pure ⟨r.code, out, remarksText a (ns.map .note) ++ r.complaint⟩

def mistaken (k : Mistake) : Outcome :=
  ⟨2, "", usage ++ s!"branchgen: error: {k.message}\n"⟩

def run (d : Disk m) (input : m ByteArray) (words : List String) :
    m (Except Generate.Failure Outcome) :=
  match Arguments.read words with
  | .error .help => pure (.ok ⟨0, helpText, ""⟩)
  | .error (.mistake k) => pure (.ok (mistaken k))
  | .ok a =>
    if a.paths.isEmpty then do
      let bytes ← input
      pure (runInput a bytes)
    else do
      let files ← discover d a.paths
      if (nonEmpty? a.module).isSome && 1 < files.length then pure (.ok (mistaken .severalFiles))
      else if files.isEmpty then pure (.ok ⟨1, "", "error: no source files found\n"⟩)
      else
        match ← runFiles d a Batch.initial files with
        | .error e => pure (.error e)
        | .ok b =>
          match printed files a b with
          | .error u => pure (.error (.rendering u))
          | .ok out => pure (.ok ⟨b.code, out, remarksText a b.remarks⟩)

end Cli
end BranchCover
