import Homescreen.Json.Value
import Homescreen.Decimal.Layout
import Homescreen.Text.Literal

/-!
# Why reading failed

A reading **failure** is a problem and, for problems found in a text, the byte offset where it
was noticed. Problems are of two sorts: the text breaks the JSON grammar (an unclosed string, a
missing comma), or it is good JSON whose shape the reader did not want (a number where a string
belongs, a missing field). The second sort is noticed where the unwanted value ends; a failure
from a value already in memory has no offset at all.

* `Problem.message` — the one wording of each problem;
* `position` — the line and column of an offset: lines count from one, columns count bytes
  since the last line feed;
* `Failure.message` — the wording, followed by the line and column when there is an offset.

The wordings are serde_json's, with serde's descriptions of the value found and the value
expected.
-/

namespace Homescreen.Json

open Homescreen.Decimal Homescreen.Text

/-- What was found where something else was expected. -/
inductive Found where
  | null
  | bool (b : Bool)
  | number (n : Number)
  | str (s : String)
  | seq
  | map
  deriving Inhabited

/-- What kind of thing a value is, for a message that did not want it. -/
def Value.found : Value → Found
  | .null => .null
  | .bool b => .bool b
  | .num n => .number n
  | .str s => .str s
  | .arr _ => .seq
  | .obj _ => .map

/-- Why reading failed. -/
inductive Problem where
  /-- The text ended inside an array. -/
  | eofInList
  /-- The text ended inside an object. -/
  | eofInObject
  /-- The text ended inside a string. -/
  | eofInString
  /-- The text ended where a value should start or continue. -/
  | eofInValue
  /-- A key is not followed by a colon. -/
  | expectedColon
  /-- An array element is followed by neither a comma nor a closing bracket. -/
  | expectedListCommaOrEnd
  /-- An object member is followed by neither a comma nor a closing brace. -/
  | expectedObjectCommaOrEnd
  /-- A word such as `null` or `true` is misspelt. -/
  | expectedIdent
  /-- No value starts here. -/
  | expectedValue
  /-- A backslash starts no escape. -/
  | invalidEscape
  /-- A number breaks the grammar of numbers. -/
  | invalidNumber
  /-- A number is too large for a double. -/
  | numberOutOfRange
  /-- A string holds a raw control character. -/
  | controlCharacter
  /-- An object key is not a string. -/
  | keyNotString
  /-- A surrogate escape is not part of a pair. -/
  | loneSurrogate
  /-- A leading surrogate escape is not followed by another escape. -/
  | hexEscapeCut
  /-- A comma stands before a closing bracket or brace. -/
  | trailingComma
  /-- Something follows the value. -/
  | trailingCharacters
  /-- Arrays and objects are nested too deeply. -/
  | tooDeep
  /-- A value of the wrong kind. -/
  | invalidType (found : Found) (expected : String)
  /-- A value of the right kind but not an accepted one. -/
  | invalidValue (found : Found) (expected : String)
  /-- A sequence of the wrong length. -/
  | invalidLength (length : Nat) (expected : String)
  /-- A name that is none of the accepted names. -/
  | unknownVariant (name : String) (names : List String)
  /-- A required field is absent. -/
  | missingField (key : String)
  /-- A field is given twice. -/
  | duplicateField (key : String)
  deriving Inhabited

/-- A failure: the problem, and the byte offset where a text showed it. -/
structure Failure where
  problem : Problem
  offset : Option Nat
  deriving Inhabited

/-- Doubles in messages: shortest digits, positional from `1e-5` up to below `1e16`, otherwise
one leading digit and an exponent with its sign. -/
def Found.floatLayout : Layout :=
  { leastPositional := -5, greatestPositional := 15, mark := 'e', plusSign := true,
    infinity := "inf", nan := "NaN" }

/-- How a message names what it found. -/
def Found.describe : Found → String
  | .null => "null"
  | .bool b => "boolean `" ++ toString b ++ "`"
  | .number (.unsigned n) => "integer `" ++ toString n ++ "`"
  | .number (.signed i) => "integer `" ++ toString i ++ "`"
  | .number (.float x) => "floating point `" ++ Found.floatLayout.write x ++ "`"
  | .str s => "string " ++ literal s
  | .seq => "sequence"
  | .map => "map"

/-- The accepted names of a choice, quoted and joined. -/
def oneOf : List String → String
  | [] => "nothing"
  | [a] => "`" ++ a ++ "`"
  | [a, b] => "`" ++ a ++ "` or `" ++ b ++ "`"
  | names => "one of " ++ ", ".intercalate (names.map fun a => "`" ++ a ++ "`")

/-- The wording of a problem. -/
def Problem.message : Problem → String
  | .eofInList => "EOF while parsing a list"
  | .eofInObject => "EOF while parsing an object"
  | .eofInString => "EOF while parsing a string"
  | .eofInValue => "EOF while parsing a value"
  | .expectedColon => "expected `:`"
  | .expectedListCommaOrEnd => "expected `,` or `]`"
  | .expectedObjectCommaOrEnd => "expected `,` or `\x7d`"
  | .expectedIdent => "expected ident"
  | .expectedValue => "expected value"
  | .invalidEscape => "invalid escape"
  | .invalidNumber => "invalid number"
  | .numberOutOfRange => "number out of range"
  | .controlCharacter => "control character (\\u0000-\\u001F) found while parsing a string"
  | .keyNotString => "key must be a string"
  | .loneSurrogate => "lone leading surrogate in hex escape"
  | .hexEscapeCut => "unexpected end of hex escape"
  | .trailingComma => "trailing comma"
  | .trailingCharacters => "trailing characters"
  | .tooDeep => "recursion limit exceeded"
  | .invalidType f e => "invalid type: " ++ f.describe ++ ", expected " ++ e
  | .invalidValue f e => "invalid value: " ++ f.describe ++ ", expected " ++ e
  | .invalidLength n e => "invalid length " ++ toString n ++ ", expected " ++ e
  | .unknownVariant v [] => "unknown variant `" ++ v ++ "`, there are no variants"
  | .unknownVariant v names => "unknown variant `" ++ v ++ "`, expected " ++ oneOf names
  | .missingField k => "missing field `" ++ k ++ "`"
  | .duplicateField k => "duplicate field `" ++ k ++ "`"

/-- The line and column of the byte offset `offset`, walking the characters from byte `pos`
on line `line`, whose first byte is `start`. -/
def locate (offset : Nat) : List Char → (pos line start : Nat) → Nat × Nat
  | [], _, line, start => (line, offset - start)
  | c :: rest, pos, line, start =>
    if pos < offset then
      if c = '\n' then locate offset rest (pos + 1) (line + 1) (pos + 1)
      else locate offset rest (pos + c.utf8Size) line start
    else (line, offset - start)

/-- The line and column of a byte offset in a text. -/
def position (text : String) (offset : Nat) : Nat × Nat :=
  locate offset text.toList 0 1 0

/-- The wording of a failure in a text, with its line and column when it has an offset. -/
def Failure.message (text : String) (f : Failure) : String :=
  match f.offset with
  | none => f.problem.message
  | some o =>
    let (line, column) := position text o
    f.problem.message ++ " at line " ++ toString line ++ " column " ++ toString column

example : position "ab\ncd" 4 = (2, 1) := by decide
example : position "\x7b\x7d" 2 = (1, 2) := by decide

end Homescreen.Json
