import Homescreen.Json.Quoted
import Homescreen.Json.Numeral

/-!
# Arrays and objects

The punctuation between the elements of an array and the members of an object, and a reader
that skips a whole value.

* `nextElement` / `nextKey` — whether another element or member follows, reading the comma
  before it and, for a member, its key. The first element needs no comma; a comma right before
  the closing bracket is a **trailing comma**;
* `closeArray` / `closeObject` — the closing bracket or brace;
* `skipValue` — reads past a value nobody asked for. It checks the grammar but not the depth,
  keeping the open arrays and objects on a list of frames, so nesting of any depth is accepted.
-/

namespace Homescreen.Json

namespace Reader

/-- Whether another array element follows, reading the comma before it. -/
def nextElement (first : Bool) : Reader Bool := do
  match ← peekPastBlank with
  | some ']' => pure false
  | none => failAhead .eofInList
  | some ch =>
    if ch = ',' ∧ !first then do
      bump
      match ← peekPastBlank with
      | some ']' => failAhead .trailingComma
      | some _ => pure true
      | none => failAhead .eofInValue
    else if first then pure true
    else failAhead .expectedListCommaOrEnd

/-- The key of the next object member, reading the comma before it and the key; `none` at the
closing brace. -/
def nextKey (first : Bool) : Reader (Option String) := do
  let next ← match ← peekPastBlank with
    | some '\x7d' => pure none
    | none => failAhead .eofInObject
    | some ch =>
      if ch = ',' ∧ !first then do
        bump
        pure (some (← peekPastBlank))
      else if first then pure (some (some ch))
      else failAhead .expectedObjectCommaOrEnd
  match next with
  | none => pure none
  | some (some '"') => do bump; pure (some (← string))
  | some (some '\x7d') => failAhead .trailingComma
  | some (some _) => failAhead .keyNotString
  | some none => failAhead .eofInValue

/-- Reads the closing bracket of an array. -/
def closeArray : Reader Unit := do
  match ← peekPastBlank with
  | some ']' => bump
  | some ',' => do
    bump
    match ← peekPastBlank with
    | some ']' => failAhead .trailingComma
    | _ => failAhead .trailingCharacters
  | some _ => failAhead .trailingCharacters
  | none => failAhead .eofInList

/-- Reads the closing brace of an object. -/
def closeObject : Reader Unit := do
  match ← peekPastBlank with
  | some '\x7d' => bump
  | some ',' => failAhead .trailingComma
  | some _ => failAhead .trailingCharacters
  | none => failAhead .eofInObject

end Reader

/-- An array or object that is open while a value is skipped. -/
inductive Frame where
  | array
  | object
  deriving DecidableEq

/-- The character that closes a frame. -/
def Frame.closer : Frame → Char
  | .array => ']'
  | .object => '\x7d'

/-- The problem of a frame whose element is followed by something other than a comma or its
closer. -/
def Frame.commaOrEnd : Frame → Problem
  | .array => .expectedListCommaOrEnd
  | .object => .expectedObjectCommaOrEnd

/-- The problem of a text that ends inside a frame. -/
def Frame.eof : Frame → Problem
  | .array => .eofInList
  | .object => .eofInObject

namespace Reader

/-- Reads what stands before a value inside a frame: nothing in an array, a key and a colon in
an object. -/
def beginMember : Frame → Reader Unit
  | .array => pure ()
  | .object => do
    match ← peekPastBlank with
    | some '"' => bump
    | some _ => failAhead .keyNotString
    | none => failAhead .eofInObject
    skipString
    colon

/-- After a value inside `frame` (with the frames `outer` around it), or right after `frame`
was opened when `afterValue` is false: closes frames as long as their closers follow and reads
up to the next value. `none` when the outermost frame closed. -/
def settle (afterValue : Bool) (frame : Frame) (outer : List Frame) :
    Reader (Option (List Frame)) := do
  let next ← peekPastBlank
  if afterValue ∧ next = some ',' then do
    bump
    beginMember frame
    pure (some (frame :: outer))
  else if next = some frame.closer then do
    bump
    match outer with
    | [] => pure none
    | f :: fs => settle true f fs
  else
    match next with
    | some _ =>
      if afterValue then failAhead frame.commaOrEnd
      else do
        beginMember frame
        pure (some (frame :: outer))
    | none => failAhead frame.eof
termination_by outer.length

/-- One value start while skipping, inside the open frames `frames`: the frames to read the next
value in, or done. -/
def skipStep (frames : List Frame) : Reader (ForInStep (List Frame)) := do
  let afterScalar : Reader (ForInStep (List Frame)) :=
    match frames with
    | [] => pure (.done [])
    | f :: fs => do
      match ← settle true f fs with
      | none => pure (.done [])
      | some s => pure (.yield s)
  let opened (f : Frame) : Reader (ForInStep (List Frame)) := do
    bump
    match ← settle false f frames with
    | none => pure (.done [])
    | some s => pure (.yield s)
  match ← peekPastBlank with
  | none => failAhead .eofInValue
  | some 'n' => do bump; word "ull".toList; afterScalar
  | some 't' => do bump; word "rue".toList; afterScalar
  | some 'f' => do bump; word "alse".toList; afterScalar
  | some '-' => do bump; skipNumber; afterScalar
  | some '"' => do bump; skipString; afterScalar
  | some '[' => opened .array
  | some '\x7b' => opened .object
  | some ch =>
    if ch.isDigit then do skipNumber; afterScalar
    else failAhead .expectedValue

/-- Reads past one value of any depth, checking its grammar. -/
def skipValue : Reader Unit := do
  let _ ← iterate skipStep []

end Reader

end Homescreen.Json
