import Homescreen.Json.Container

/-!
# Reading a JSON document

`Value.ofText` reads a whole text as one value followed by nothing but blanks. Arrays and
objects may nest 127 deep; one level more is **too deep**, reported before its bracket is read.
An object keeps each key once, the value of its last member, sorted by key.

`Reader.foundAhead` is the reader behind every "invalid type" failure: it reads the value that
was not wanted, so that the message can name it, and fails.

The modules under `Homescreen.Json` are the JSON of the serde_json library, as the configuration
and the install choice are read and written with it: what a text may hold, which failure is found
first, its wording, and the line and column it is reported at.
-/

namespace Homescreen.Json

namespace Reader

/-- The depth budget of a document: an array or object may open while more than one is left. -/
def depthBudget : Nat := 128

/-- Reads one value, with `depth` levels of nesting left. -/
def value (depth : Nat) : Reader Value := placed do
  match ← peekPastBlank with
  | none => failAhead .eofInValue
  | some 'n' => do bump; word "ull".toList; pure .null
  | some 't' => do bump; word "rue".toList; pure (.bool true)
  | some 'f' => do bump; word "alse".toList; pure (.bool false)
  | some '-' => do bump; pure (.num (← number true))
  | some '"' => do bump; pure (.str (← string))
  | some '[' =>
    match depth with
    | d + 2 => do
      bump
      closedBy (do
        let items ← iterate (fun (acc : List Value) => do
          if ← nextElement acc.isEmpty then pure (.yield ((← value (d + 1)) :: acc))
          else pure (.done acc)) []
        pure (.arr items.reverse)) closeArray
    | _ => failAhead .tooDeep
  | some '\x7b' =>
    match depth with
    | d + 2 => do
      bump
      closedBy (do
        let members ← iterate (fun (acc : List (String × Value) × Bool) => do
          match ← nextKey acc.2 with
          | some k => do
            colon
            let v ← value (d + 1)
            pure (.yield (Value.insert k v acc.1, false))
          | none => pure (.done acc)) ([], true)
        pure (.obj members.1)) closeObject
    | _ => failAhead .tooDeep
  | some ch =>
    if ch.isDigit then do pure (.num (← number false))
    else failAhead .expectedValue

/-- Reads the end of a document: nothing but blanks may follow. -/
def finish : Reader Unit := do
  match ← peekPastBlank with
  | some _ => failAhead .trailingCharacters
  | none => pure ()

/-- Reads the value that was found where `expected` was wanted, and fails naming it. A string,
number or word is read whole first, so that its own grammar failures come first; an array or
object is named by its opening bracket alone. -/
def foundAhead (expected : String) : Reader α := placed do
  let found ← match ← peek? with
    | some 'n' => do bump; word "ull".toList; pure Found.null
    | some 't' => do bump; word "rue".toList; pure (Found.bool true)
    | some 'f' => do bump; word "alse".toList; pure (Found.bool false)
    | some '-' => do bump; pure (Found.number (← number true))
    | some '"' => do bump; pure (Found.str (← string))
    | some '[' => pure Found.seq
    | some '\x7b' => pure Found.map
    | some ch =>
      if ch.isDigit then do pure (Found.number (← number false))
      else failAhead .expectedValue
    | none => failAhead .expectedValue
  failUnplaced (.invalidType found expected)

end Reader

/-- Reads a whole text as one JSON value. -/
def Value.ofText (text : String) : Except Failure Value :=
  (Reader.runOn (do
    let v ← Reader.value Reader.depthBudget
    Reader.finish
    pure v) (Cursor.ofText text)).1

end Homescreen.Json
