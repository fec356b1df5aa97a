import BranchCover.Cli.Run

/-! The program: a run on the files of the machine. -/
namespace BranchCover
namespace Main

/-- The ways from a directory to everything below it, each behind the given names. -/
partial def waysBelow (directory : String) (names : List String) : IO (List (List String)) := do
  let place ← IO.FS.realPath directory
  let entries ← place.readDir
  let ways ← entries.toList.mapM fun e => do
    let way := names ++ [e.fileName]
    let deeper ← if ← e.path.isDir then waysBelow e.path.toString way else pure []
    pure (way :: deeper)
  pure ways.flatten

/-- An action's result, or another one where the machine refuses it. -/
def orElse {α : Type} (other : α) (act : IO α) : IO α :=
  tryCatch act fun _ => pure other

def disk : Disk IO where
  isDirectory p := orElse false do
    let place ← IO.FS.realPath p.text
    place.isDir
  isPresent p := orElse false do
    let place ← IO.FS.realPath p.text
    place.pathExists
  read p := orElse none do
    let bytes ← IO.FS.readBinFile p.text
    pure (some bytes)
  below p := orElse [] (waysBelow p.text [])
  absolute p := do
    let current ← IO.currentDir
    pure (FileTree.absolute (Path.ofString current.toString).parts p)
  write p content := orElse false do
    IO.FS.createDirAll p.parent.text
    IO.FS.writeBinFile p.text content
    pure true

/-- All bytes of a stream behind those read so far. -/
partial def readRest (input : IO.FS.Stream) (bytes : ByteArray) : IO ByteArray := do
  let more ← input.read 65536
  if more.isEmpty then pure bytes else readRest input (bytes ++ more)

def input : IO ByteArray := do
  let stdin ← IO.getStdin
  readRest stdin ByteArray.empty

end Main
end BranchCover

open BranchCover in
def main (words : List String) : IO UInt32 := do
  let _ := Interpreter.standard
  match ← Cli.run Main.disk Main.input words with
  | .ok o =>
    IO.print o.out
    IO.eprint o.err
    pure o.code.toUInt32
  | .error e =>
    IO.eprintln e.message
    pure 1
