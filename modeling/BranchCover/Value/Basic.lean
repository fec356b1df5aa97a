import BranchCover.Decimal.Numeral
import BranchCover.Text.Basic
import BranchCover.Text.Quoted

/-! Values that tests pass to the code under test, and their source text. -/
namespace BranchCover

inductive Value where
  | number (value : Numeral)
  | text (value : Text)
  | boolean (value : Bool)
  | arrayOf (items : List Value)
  /-- A placeholder for what is unknown. -/
  | null
  /-- A placeholder instance of a type. -/
  | objectStub (typeName : String)
  /-- A value of no kind, which has no text. -/
  | unspecified
  deriving Inhabited

inductive Unrenderable where
  | tooManyDigits
  | unspecified
  deriving DecidableEq

namespace Unrenderable

def message : Unrenderable → String
  | tooManyDigits => Numeral.digitLimitMessage
  | unspecified => "unknown value Value()"

def sort : Unrenderable → String
  | tooManyDigits => "ValueError"
  | unspecified => "TypeError"

def report (u : Unrenderable) : String :=
  u.sort ++ ": " ++ u.message

end Unrenderable

namespace Value

/-- Types of streams; the same bytes stand in for all of them. -/
def streamTypes : List String :=
  ["BinaryIO", "BytesIO", "IO"]

/-- Types whose placeholder is a value, not a stub class. -/
def placeholderTypes : List String :=
  streamTypes ++ ["bytes", "bytearray"]

def numberSource : Numeral → Except Unrenderable (List Char)
  | .int n => if Numeral.tooLong n then throw .tooManyDigits else pure (Numeral.intText n)
  | .real x =>
    let t := (RealFormat.standard.text x).toList
    if x.isFinite then pure t else pure ("float('".toList ++ t ++ "')".toList)

def stubSource (typeName : String) : List Char :=
  if streamTypes.contains typeName then "io.BytesIO(b'fakedata')".toList
  else if typeName == "bytearray" then "bytearray(b'fakedata')".toList
  else if typeName == "bytes" then "b'fakedata'".toList
  else typeName.toList ++ ['(', ')']

mutual

def source : Value → Except Unrenderable (List Char)
  | boolean b => pure (if b then "True" else "False").toList
  | number n => numberSource n
  | text t => pure (Quoted.literal t)
  | arrayOf items => do
    let ts ← sources items
    pure ('[' :: (Piece.join [',', ' '] ts ++ [']']))
  | null => pure "None".toList
  | objectStub name => pure (stubSource name)
  | unspecified => throw .unspecified

def sources : List Value → Except Unrenderable (List (List Char))
  | [] => pure []
  | v :: vs => do
    let t ← source v
    let ts ← sources vs
    pure (t :: ts)

end

def sourceText (v : Value) : Except Unrenderable String := do
  let cs ← v.source
  pure (String.ofList cs)

mutual

/-- Whether the text of a value names the module of streams. -/
def needsIo : Value → Bool
  | objectStub name => streamTypes.contains name
  | arrayOf items => anyNeedsIo items
  | _ => false

def anyNeedsIo : List Value → Bool
  | [] => false
  | v :: vs => v.needsIo || anyNeedsIo vs

end

@[simp] theorem anyNeedsIo_eq (vs : List Value) : anyNeedsIo vs = vs.any needsIo := by
  induction vs with
  | nil => rfl
  | cons v vs ih => simp [anyNeedsIo, ih]

end Value
end BranchCover
