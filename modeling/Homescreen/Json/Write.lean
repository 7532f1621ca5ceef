import Homescreen.Json.Problem

/-!
# Writing JSON

The compact text of a value: no blanks, object members in the order they are held, strings in
double quotes. A string escapes the quote and the backslash, writes the controls backspace, form
feed, line feed, carriage return and tab as one-letter escapes and the other controls below the
space as `\u00xx` with lowercase digits; every other character stands as it is, delete and
non-ASCII characters included. Numbers are written as read; a double in the layout of
`Found.floatLayout`, and a double that is not finite as `null`. This is serde_json's compact
writer.
-/

namespace Homescreen.Json

/-- Two lowercase hexadecimal digits of a number below 256. -/
def hexByte (n : Nat) : List Char :=
  let digit (d : Nat) : Char := if d < 10 then Char.ofNat (48 + d) else Char.ofNat (87 + d)
  [digit (n / 16), digit (n % 16)]

/-- How a character of a string is written. -/
def escapeChar (c : Char) : List Char :=
  if c = '"' then ['\\', '"']
  else if c = '\\' then ['\\', '\\']
  else if c = '\x08' then ['\\', 'b']
  else if c = '\x0c' then ['\\', 'f']
  else if c = '\n' then ['\\', 'n']
  else if c = '\r' then ['\\', 'r']
  else if c = '\t' then ['\\', 't']
  else if c.toNat < 0x20 then ['\\', 'u', '0', '0'] ++ hexByte c.toNat
  else [c]

/-- The quoted text of a string. -/
def quoteChars (s : String) : List Char :=
  '"' :: s.toList.flatMap escapeChar ++ ['"']

/-- The text of a number. -/
def Number.write : Number → List Char
  | .unsigned n => (toString n).toList
  | .signed i => (toString i).toList
  | .float x => if x.isFinite then (Found.floatLayout.write x).toList else "null".toList

mutual

/-- The compact text of a value. -/
def Value.writeChars : Value → List Char
  | .null => "null".toList
  | .bool true => "true".toList
  | .bool false => "false".toList
  | .num n => n.write
  | .str s => quoteChars s
  | .arr items => '[' :: writeItems items ++ [']']
  | .obj members => '\x7b' :: writeMembers members ++ ['\x7d']

/-- Array items, separated by commas. -/
def writeItems : List Value → List Char
  | [] => []
  | [v] => v.writeChars
  | v :: vs => v.writeChars ++ ',' :: writeItems vs

/-- Object members, separated by commas. -/
def writeMembers : List (String × Value) → List Char
  | [] => []
  | [(k, v)] => quoteChars k ++ ':' :: v.writeChars
  | (k, v) :: ms => quoteChars k ++ ':' :: v.writeChars ++ ',' :: writeMembers ms

end

/-- The compact text of a value. -/
def Value.write (v : Value) : String :=
  String.ofList v.writeChars

example : Value.write (.obj [("a", .str "x\"\n\x01"), ("b", .arr [.null, .bool true])]) =
    "\x7b\"a\":\"x\\\"\\n\\u0001\",\"b\":[null,true]\x7d" := by decide

end Homescreen.Json
