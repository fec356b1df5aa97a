import BranchCover.Decimal.Numeral
import BranchCover.Text.Quoted

/-! What can be wrong with a source. A complaint names the cause; its wording is in one place. Some of it depends
on the interpreter that reads the source. -/
namespace BranchCover

/-- What is left open of the interpreter that a source is read by. -/
class Interpreter where
  /-- Whether a null byte is a fault of the source, as in later releases, or an error of its own. -/
  nullIsFault : Bool
  /-- The character that an escape gives by its name. -/
  named? : List Char → Option CodePoint
  /-- Whether the work on a source takes more depth or memory than there is. -/
  exhausts : String → Bool

namespace Interpreter

/-- Null bytes are faults, no character goes by a name, and there is room for every source. -/
abbrev standard : Interpreter :=
  ⟨true, fun _ => none, fun _ => false⟩

/-- Runs on fixed sources are by the standard interpreter. -/
scoped instance : Interpreter := standard

end Interpreter

namespace Source

inductive Complaint where
  | nullByte
  -- brackets
  | unclosed (bracket : Char)
  | unmatched (bracket : Char)
  | mismatched (closing opening : Char) (line : Option Nat)
  | tooManyBrackets
  -- tokens
  | unterminatedString (triple : Bool) (line : Nat)
  | badNumber (kind : String)
  | badDigit (digit : Char) (kind : String)
  | leadingZeros
  | longNumber (digits : Nat)
  | badCharacter (c : Char)
  | nonPrintable (code : Nat)
  | afterContinuation
  | unexpectedEnd
  -- string contents
  | badEscape (message : String)
  | bytesBeyondAscii
  | mixedBytes
  -- replacement fields
  | inField (complaint : Complaint)
  | fieldMessage (message : String)
  | backslashInField
  | commentInField
  -- layout
  | dedentMismatch
  | mixedTabs
  | tooManyIndents
  | unexpectedIndent
  | unexpectedDedent
  | expectedBlock
  | expectedBlockAfter (header : String) (line : Nat)
  -- expressions
  | invalid
  | expected (token : String)
  | forgottenComma
  | missingElse
  | equalsInExpression
  | assignsHere (what : String)
  | namedTarget (what : String)
  | assigns (what : String)
  | deletes (what : String)
  | invalidStar
  | comprehensionTarget
  | unpackedComprehension
  | spreadComprehension
  | starredGroup
  | doubleStarredGroup
  | starredDictValue
  | missingDictValue
  | missingDictColon
  | printStatement (name : String)
  -- calls
  | unpackingAfterUnpacking
  | bareGenerator
  | positionalAfterKeyword
  | positionalAfterUnpacking
  | keywordIsConstant (name : String)
  | keywordIsExpression
  -- parameters
  | defaultOrder
  | parenthesizedParameters
  | parenthesizedLambdaParameters
  | nothingBeforeSlash
  | repeatedSlash
  | slashAfterStar
  | commaBetweenSlashAndStar
  | missingDefault
  | nothingAfterStar
  | starDefault
  | repeatedStar
  | keywordsDefault
  | afterKeywords
  -- statements
  | annotatedTarget (what : String)
  | badTyping
  | assignsYield
  | augments (what : String)
  | trailingImportComma
  | nothingHandled
  | mixedHandlers
  | unparenthesizedHandler
  | noHandledType
  -- patterns
  | wildcardTarget
  | badPatternTarget
  | positionalAfterKeywordPattern
  | realNumberRequired
  | imaginaryNumberRequired
  deriving DecidableEq

namespace Complaint

def hexUpper (n : Nat) : String :=
  let ds := (Nat.toDigits 16 n).map Char.toUpper
  String.ofList (List.replicate (4 - ds.length) '0' ++ ds)

def message : Complaint → String
  | nullByte => "source code string cannot contain null bytes"
  | unclosed b => s!"'{b}' was never closed"
  | unmatched b => s!"unmatched '{b}'"
  | mismatched c o none =>
    s!"closing parenthesis '{c}' does not match opening parenthesis '{o}'"
  | mismatched c o (some line) =>
    s!"closing parenthesis '{c}' does not match opening parenthesis '{o}' on line {line}"
  | tooManyBrackets => "too many nested parentheses"
  | unterminatedString true line =>
    s!"unterminated triple-quoted string literal (detected at line {line})"
  | unterminatedString false line => s!"unterminated string literal (detected at line {line})"
  | badNumber kind => s!"invalid {kind} literal"
  | badDigit d kind => s!"invalid digit '{d}' in {kind} literal"
  | leadingZeros =>
    "leading zeros in decimal integer literals are not permitted; " ++
      "use an 0o prefix for octal integers"
  | longNumber digits =>
    s!"Exceeds the limit ({Numeral.digitLimit} digits) for integer string conversion: " ++
      s!"value has {digits} digits; use sys.set_int_max_str_digits() to increase the limit - " ++
      "Consider hexadecimal for huge integer literals to avoid decimal conversion limits."
  | badCharacter c => s!"invalid character '{c}' (U+{hexUpper c.toNat})"
  | nonPrintable code => s!"invalid non-printable character U+{hexUpper code}"
  | afterContinuation => "unexpected character after line continuation character"
  | unexpectedEnd => "unexpected EOF while parsing"
  | badEscape m => m
  | bytesBeyondAscii => "bytes can only contain ASCII literal characters"
  | mixedBytes => "cannot mix bytes and nonbytes literals"
  | inField c => "f-string: " ++ c.message
  | fieldMessage m => "f-string: " ++ m
  | backslashInField => "f-string expression part cannot include a backslash"
  | commentInField => "f-string expression part cannot include '#'"
  | dedentMismatch => "unindent does not match any outer indentation level"
  | mixedTabs => "inconsistent use of tabs and spaces in indentation"
  | tooManyIndents => "too many levels of indentation"
  | unexpectedIndent => "unexpected indent"
  | unexpectedDedent => "unexpected unindent"
  | expectedBlock => "expected an indented block"
  | expectedBlockAfter header line => s!"expected an indented block after {header} on line {line}"
  | invalid => "invalid syntax"
  | expected token => s!"expected {token}"
  | forgottenComma => "invalid syntax. Perhaps you forgot a comma?"
  | missingElse => "expected 'else' after 'if' expression"
  | equalsInExpression => "invalid syntax. Maybe you meant '==' or ':=' instead of '='?"
  | assignsHere what => s!"cannot assign to {what} here. Maybe you meant '==' instead of '='?"
  | namedTarget what => s!"cannot use assignment expressions with {what}"
  | assigns what => s!"cannot assign to {what}"
  | deletes what => s!"cannot delete {what}"
  | invalidStar => "Invalid star expression"
  | comprehensionTarget => "did you forget parentheses around the comprehension target?"
  | unpackedComprehension => "iterable unpacking cannot be used in comprehension"
  | spreadComprehension => "dict unpacking cannot be used in dict comprehension"
  | starredGroup => "cannot use starred expression here"
  | doubleStarredGroup => "cannot use double starred expression here"
  | starredDictValue => "cannot use a starred expression in a dictionary value"
  | missingDictValue => "expression expected after dictionary key and ':'"
  | missingDictColon => "':' expected after dictionary key"
  | printStatement name =>
    s!"Missing parentheses in call to '{name}'. Did you mean {name}(...)?"
  | unpackingAfterUnpacking => "iterable argument unpacking follows keyword argument unpacking"
  | bareGenerator => "Generator expression must be parenthesized"
  | positionalAfterKeyword => "positional argument follows keyword argument"
  | positionalAfterUnpacking => "positional argument follows keyword argument unpacking"
  | keywordIsConstant name => s!"cannot assign to {name}"
  | keywordIsExpression => "expression cannot contain assignment, perhaps you meant \"==\"?"
  | defaultOrder => "non-default argument follows default argument"
  | parenthesizedParameters => "Function parameters cannot be parenthesized"
  | parenthesizedLambdaParameters => "Lambda expression parameters cannot be parenthesized"
  | nothingBeforeSlash => "at least one argument must precede /"
  | repeatedSlash => "/ may appear only once"
  | slashAfterStar => "/ must be ahead of *"
  | commaBetweenSlashAndStar => "expected comma between / and *"
  | missingDefault => "expected default value expression"
  | nothingAfterStar => "named arguments must follow bare *"
  | starDefault => "var-positional argument cannot have default value"
  | repeatedStar => "* argument may appear only once"
  | keywordsDefault => "var-keyword argument cannot have default value"
  | afterKeywords => "arguments cannot follow var-keyword argument"
  | annotatedTarget what => s!"only single target (not {what}) can be annotated"
  | badTyping => "illegal target for annotation"
  | assignsYield => "assignment to yield expression not possible"
  | augments what => s!"'{what}' is an illegal expression for augmented assignment"
  | trailingImportComma => "trailing comma not allowed without surrounding parentheses"
  | nothingHandled => "expected 'except' or 'finally' block"
  | mixedHandlers => "cannot have both 'except' and 'except*' on the same 'try'"
  | unparenthesizedHandler => "multiple exception types must be parenthesized"
  | noHandledType => "expected one or more exception types"
  | wildcardTarget => "cannot use '_' as a target"
  | badPatternTarget => "invalid pattern target"
  | positionalAfterKeywordPattern => "positional patterns follow keyword patterns"
  | realNumberRequired => "real number required in complex literal"
  | imaginaryNumberRequired => "imaginary number required in complex literal"

end Complaint

structure Fault where
  complaint : Complaint
  line : Nat
  col : Nat
  deriving DecidableEq

namespace Fault

def message (f : Fault) : String :=
  f.complaint.message

end Fault

inductive Refusal where
  | fault (fault : Fault)
  | nullByte
  /-- A surrogate, which has no encoding: the range of positions and the first code point. -/
  | unencodable (first last : Nat) (code : Nat)
  deriving DecidableEq

namespace Refusal

/-- What a source with a null byte is refused for. A fault of it has no place. -/
def ofNull [Interpreter] : Refusal :=
  if Interpreter.nullIsFault then fault ⟨.nullByte, 0, 0⟩ else nullByte

def message : Refusal → String
  | fault f => f.message
  | nullByte => Complaint.nullByte.message
  | unencodable first last code =>
    if first == last then
      s!"'utf-8' codec can't encode character '\\u{String.ofList (Quoted.hex 4 code)}' " ++
        s!"in position {first}: surrogates not allowed"
    else
      s!"'utf-8' codec can't encode characters in position {first}-{last}: surrogates not allowed"

end Refusal

end Source
end BranchCover
