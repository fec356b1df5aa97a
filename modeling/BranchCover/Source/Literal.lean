import BranchCover.Source.Tree
import BranchCover.Source.Fault

/-! Values of number and string literals. -/
namespace BranchCover
namespace Source
namespace Literal

/-- The value of a digit in bases up to sixteen. -/
def digitValue? (c : Char) : Option Nat :=
  if c.isDigit then some (c.toNat - '0'.toNat)
  else if 'a' ≤ c && c ≤ 'f' then some (c.toNat - 'a'.toNat + 10)
  else if 'A' ≤ c && c ≤ 'F' then some (c.toNat - 'A'.toNat + 10)
  else none

def natOf (base : Nat) (cs : List Char) : Nat :=
  cs.foldl (fun n c => base * n + (digitValue? c).getD 0) 0

/-- The binary number nearest to a decimal text with point and exponent. -/
def realOf (cs : List Char) : Binary64 :=
  let mantissa := cs.takeWhile fun c => c != 'e' && c != 'E'
  let exponent := (cs.drop mantissa.length).drop 1
  let whole := mantissa.takeWhile (· != '.')
  let fraction := (mantissa.drop whole.length).drop 1
  let e : Int := match exponent with
    | '-' :: ds => -(natOf 10 ds : Int)
    | '+' :: ds => natOf 10 ds
    | ds => natOf 10 ds
  Binary64.ofDecimal (natOf 10 (whole ++ fraction)) (e - fraction.length)

/-- The value of a number literal; a decimal integer with too many digits is refused with their
number. -/
def number (text : String) : Except Nat Constant :=
  let cs := text.toList.filter (· != '_')
  match cs with
  | '0' :: 'x' :: ds | '0' :: 'X' :: ds => .ok (.number (.int (natOf 16 ds)))
  | '0' :: 'o' :: ds | '0' :: 'O' :: ds => .ok (.number (.int (natOf 8 ds)))
  | '0' :: 'b' :: ds | '0' :: 'B' :: ds => .ok (.number (.int (natOf 2 ds)))
  | _ =>
    if cs.getLast? == some 'j' || cs.getLast? == some 'J' then
      .ok (.imaginary (realOf cs.dropLast))
    else if cs.all Char.isDigit then
      if Numeral.digitLimit < cs.length && cs.head? != some '0' then .error cs.length
      else .ok (.number (.int (natOf 10 cs)))
    else .ok (.number (.real (realOf cs)))

def point (n : Nat) : Option CodePoint :=
  if h : n < 0x110000 then some ⟨n, h⟩ else none

/-- The code point of a character after a backslash that stands for itself or for a control. -/
def simpleEscape? (c : Char) : Option Nat :=
  match c with
  | '\\' => some 0x5C
  | '\'' => some 0x27
  | '"' => some 0x22
  | 'a' => some 7
  | 'b' => some 8
  | 't' => some 9
  | 'n' => some 10
  | 'v' => some 11
  | 'f' => some 12
  | 'r' => some 13
  | _ => none

def isOctal (c : Char) : Bool :=
  '0' ≤ c && c ≤ '7'

/-- An escape that cannot be read: what is wrong, and how many characters it takes. -/
structure EscapeFault where
  reason : String
  length : Nat

/-- Code points by hexadecimal number: `count` digits after `mark`. -/
def hexEscape (mark : Char) (count : Nat) (cs : List Char) :
    Except EscapeFault (Text × Nat) :=
  let ds := (cs.take count).takeWhile fun c => (digitValue? c).isSome
  if ds.length < count then
    let shape := String.ofList ('\\' :: mark :: List.replicate count 'X')
    .error ⟨s!"truncated {shape} escape", ds.length + 2⟩
  else
    match point (natOf 16 ds) with
    | some p => .ok ([p], count + 1)
    | none => .error ⟨"illegal Unicode character", count + 2⟩

section

variable [Interpreter]

/-- The value of an escape from the characters behind its backslash, with their number. -/
def escape : List Char → Except EscapeFault (Text × Nat)
  | [] => .error ⟨"\\ at end of string", 1⟩
  | c :: cs =>
    match simpleEscape? c with
    | some n => .ok ((point n).toList, 1)
    | none =>
      if c == '\n' then .ok ([], 1)
      else if isOctal c then
        let ds := c :: (cs.take 2).takeWhile isOctal
        .ok ((point (natOf 8 ds)).toList, ds.length)
      else if c == 'x' then
        (hexEscape 'x' 2 cs).mapError fun f => { f with reason := "truncated \\xXX escape" }
      else if c == 'u' then hexEscape 'u' 4 cs
      else if c == 'U' then hexEscape 'U' 8 cs
      else if c == 'N' then
        match cs with
        | '\x7b' :: rest =>
          let name := rest.takeWhile (· != '\x7d')
          if name.length == rest.length then .error ⟨"malformed \\N character escape", name.length + 3⟩
          else if name.isEmpty then .error ⟨"malformed \\N character escape", 3⟩
          else
            match Interpreter.named? name with
            | some p => .ok ([p], name.length + 3)
            | none => .error ⟨"unknown Unicode character name", name.length + 4⟩
        | _ => .error ⟨"malformed \\N character escape", 2⟩
      else .ok ([CodePoint.ofChar '\\', CodePoint.ofChar c], 1)

/-- Units that a character takes in positions of escape faults. -/
def units (c : Char) : Nat :=
  if c.toNat < 0x80 then 1 else 10

/-- Reads a text with escapes. `skip` characters belong to an escape already read; `place` is the
position in units. -/
def unescapeFrom (skip place : Nat) : List Char → Except String Text
  | [] => .ok []
  | c :: cs =>
    if skip != 0 then unescapeFrom (skip - 1) (place + units c) cs
    else if c == '\\' && cs.isEmpty then .ok [CodePoint.ofChar c]
    else if c == '\\' then
      match escape cs with
      | .ok (t, n) => do
        let rest ← unescapeFrom n (place + if (cs.head?.map units).getD 10 == 10 then 6 else 1) cs
        return t ++ rest
      | .error f =>
        let last := place + f.length - 1
        if f.length == 1 then
          .error s!"'unicodeescape' codec can't decode byte 0x5c in position {place}: {f.reason}"
        else
          .error <| s!"'unicodeescape' codec can't decode bytes in position {place}-{last}: " ++
            f.reason
    else do
      let rest ← unescapeFrom 0 (place + units c) cs
      return CodePoint.ofChar c :: rest

def unescape (cs : List Char) : Except String Text :=
  unescapeFrom 0 0 cs

end

def byte (n : Nat) : UInt8 :=
  UInt8.ofNat n

def unescapeBytesFrom (skip place : Nat) : List Char → Except String (List UInt8)
  | [] => .ok []
  | c :: cs =>
    if skip != 0 then unescapeBytesFrom (skip - 1) (place + 1) cs
    else if c != '\\' then do
      return byte c.toNat :: (← unescapeBytesFrom 0 (place + 1) cs)
    else
      match cs with
      | [] => .ok [byte 0x5C]
      | x :: rest =>
        match simpleEscape? x with
        | some n => do return byte n :: (← unescapeBytesFrom 1 (place + 1) cs)
        | none =>
          if x == '\n' then unescapeBytesFrom 1 (place + 1) cs
          else if isOctal x then do
            let ds := x :: (rest.take 2).takeWhile isOctal
            return byte (natOf 8 ds) :: (← unescapeBytesFrom ds.length (place + 1) cs)
          else if x == 'x' then
            let ds := (rest.take 2).takeWhile fun c => (digitValue? c).isSome
            if ds.length == 2 then do
              return byte (natOf 16 ds) :: (← unescapeBytesFrom 3 (place + 1) cs)
            else .error s!"invalid \\x escape at position {place}"
          else do
            return byte 0x5C :: byte x.toNat :: (← unescapeBytesFrom 1 (place + 1) cs)

def unescapeBytes (cs : List Char) : Except String (List UInt8) :=
  unescapeBytesFrom 0 0 cs

/-- The parts of a string token: its marks and what stands between its quotes. -/
structure Body where
  isBytes : Bool
  isRaw : Bool
  isFormatted : Bool
  /-- Characters before the body. -/
  skipped : Nat
  chars : List Char

def body (text : String) : Body :=
  let cs := text.toList
  let marks := (cs.takeWhile Char.isAlpha).map Char.toLower
  let quoted := cs.drop marks.length
  let size := match quoted with
    | a :: b :: c :: _ => if a == b && b == c && 6 ≤ quoted.length then 3 else 1
    | _ => 1
  ⟨marks.contains 'b', marks.contains 'r', marks.contains 'f', marks.length + size,
    (quoted.drop size).take (quoted.length - 2 * size)⟩

end Literal
end Source
end BranchCover
