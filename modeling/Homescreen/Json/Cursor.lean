import Homescreen.Json.Problem

/-!
# Reading a text from left to right

A **cursor** is the part of a text not yet read, with the number of bytes read before it. A
**reader** moves the cursor and returns a result or a failure; after a failure the cursor stays
where reading stopped, because an enclosing reader may still look past it (an array is closed
even when one of its elements failed).

Offsets are in bytes of the UTF-8 form, as line and column are. A failure is placed at the
cursor ("here") or one byte past it ("ahead", capped at the end of the text): a reader that
peeked at a character and refused it reports the byte after that character's first byte.

* `Reader.iterate` — repeats a step while it reads something, measured by what is left;
* `Reader.placed` — gives a failure without an offset the offset where the reader stopped;
* `Reader.attempt` — runs a reader and keeps its failure as a value.
-/

namespace Homescreen.Json

/-- The unread part of a text and the number of bytes read before it. -/
structure Cursor where
  rest : List Char
  offset : Nat
  deriving Inhabited

/-- A cursor at the start of a text. -/
def Cursor.ofText (text : String) : Cursor :=
  ⟨text.toList, 0⟩

/-- A reader of texts: a result or a failure, and the cursor where it stopped. -/
abbrev Reader (α : Type) := ExceptT Failure (StateM Cursor) α

/-- The blanks of JSON: space, tab, line feed and carriage return. -/
def isJsonBlank (c : Char) : Bool :=
  c = ' ' || c = '\t' || c = '\n' || c = '\r'

/-- The byte length of some characters. -/
def byteLength : List Char → Nat
  | [] => 0
  | c :: cs => c.utf8Size + byteLength cs

namespace Reader

/-- Runs a reader from a cursor. -/
def runOn (r : Reader α) (c : Cursor) : Except Failure α × Cursor :=
  r.run.run c

/-- The next character, not read. -/
def peek? : Reader (Option Char) := do
  return (← get).rest.head?

/-- Reads one character. -/
def bump : Reader Unit :=
  modify fun c => match c.rest with
    | [] => c
    | ch :: r => ⟨r, c.offset + ch.utf8Size⟩

/-- Fails with a problem at a byte offset. -/
def failAt (p : Problem) (offset : Nat) : Reader α :=
  throw ⟨p, some offset⟩

/-- Fails with a problem at the cursor. -/
def failHere (p : Problem) : Reader α := do
  failAt p (← get).offset

/-- Fails with a problem one byte past the cursor, or at the end of the text. -/
def failAhead (p : Problem) : Reader α := do
  let c ← get
  failAt p (if c.rest.isEmpty then c.offset else c.offset + 1)

/-- Fails with a problem that is placed later, where an enclosing reader stops. -/
def failUnplaced (p : Problem) : Reader α :=
  throw ⟨p, none⟩

/-- Reads the blanks at the cursor. Blanks are one byte each. -/
def skipBlank : Reader Unit :=
  modify fun c =>
    let r := c.rest.dropWhile isJsonBlank
    ⟨r, c.offset + (c.rest.length - r.length)⟩

/-- Reads blanks, then looks at the next character. -/
def peekPastBlank : Reader (Option Char) := do
  skipBlank
  peek?

/-- Runs a reader; a failure it gives without an offset gets the offset where it stopped. -/
def placed (r : Reader α) : Reader α :=
  tryCatch r fun f => do
    match f.offset with
    | some _ => throw f
    | none => failAt f.problem (← get).offset

/-- Runs a reader and returns its result or failure, keeping the cursor where it stopped. -/
def attempt (r : Reader α) : Reader (Except Failure α) :=
  ExceptT.lift r.run

/-- Runs a body, then a closing reader even if the body failed; the body's failure comes
first, then the closer's. -/
def closedBy (body : Reader α) (close : Reader Unit) : Reader α := do
  let r ← attempt body
  let s ← attempt close
  match r, s with
  | .ok a, .ok () => pure a
  | .error f, _ => throw f
  | .ok _, .error f => throw f

/-- The loop behind `iterate`: runs the step from the cursor and goes on while it yields and
reads at least one character. -/
def iterateFrom (step : β → Reader (ForInStep β)) (b : β) (c : Cursor) :
    Except Failure β × Cursor :=
  match runOn (step b) c with
  | (.ok (.yield b'), c') =>
    if c'.rest.length < c.rest.length then iterateFrom step b' c' else (.ok b', c')
  | (.ok (.done b'), c') => (.ok b', c')
  | (.error f, c') => (.error f, c')
termination_by c.rest.length

/-- Repeats a step until it is done or fails; a step that reads nothing ends the loop too. -/
def iterate (step : β → Reader (ForInStep β)) (b : β) : Reader β :=
  ExceptT.mk fun c => iterateFrom step b c

/-- Reads the rest of a word whose first letter was read: each letter must match; the text
may not end before the word does. A wrong letter is reported after its first byte. -/
def word : List Char → Reader Unit
  | [] => pure ()
  | w :: ws => do
    let c ← get
    match c.rest with
    | [] => failHere .eofInValue
    | ch :: _ =>
      if ch = w then do bump; word ws
      else failAt .expectedIdent (c.offset + 1)

/-- Reads a colon after an object key. -/
def colon : Reader Unit := do
  match ← peekPastBlank with
  | some ':' => bump
  | some _ => failAhead .expectedColon
  | none => failAhead .eofInObject

end Reader

end Homescreen.Json
