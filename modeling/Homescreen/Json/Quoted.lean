import Homescreen.Json.Cursor

/-!
# Quoted strings

The body of a JSON string, from after its opening quote to its closing quote. Two readers walk
it with the same grammar, serde_json's:

* `strBody` — keeps the characters the body stands for. An escape `\uXXXX` gives a code point;
  a surrogate must come in a pair of such escapes, leading then trailing, or reading fails;
* `skipStrBody` — only checks the grammar, as for a value nobody asked for; it lets a surrogate
  stand alone.

Failures are placed by byte offset. A raw control character is reported after itself when the
characters are kept and at itself when they are skipped; an escape that runs past the end of the
text is reported at the end; four bytes that are not hexadecimal digits are reported after them.
-/

namespace Homescreen.Json

/-- The value of an ASCII hexadecimal digit. -/
def hexValue? (c : Char) : Option Nat :=
  if '0' ≤ c ∧ c ≤ '9' then some (c.toNat - '0'.toNat)
  else if 'a' ≤ c ∧ c ≤ 'f' then some (c.toNat - 'a'.toNat + 10)
  else if 'A' ≤ c ∧ c ≤ 'F' then some (c.toNat - 'A'.toNat + 10)
  else none

/-- The number written by the first four characters, when they are hexadecimal digits. -/
def hexQuad? : List Char → Option Nat
  | a :: b :: c :: d :: _ => do
    let va ← hexValue? a
    let vb ← hexValue? b
    let vc ← hexValue? c
    let vd ← hexValue? d
    pure (((va * 16 + vb) * 16 + vc) * 16 + vd)
  | _ => none

/-- The character of a one-letter escape. -/
def simpleEscape? : Char → Option Char
  | '"' => some '"'
  | '\\' => some '\\'
  | '/' => some '/'
  | 'b' => some '\x08'
  | 'f' => some '\x0c'
  | 'n' => some '\n'
  | 'r' => some '\r'
  | 't' => some '\t'
  | _ => none

/-- A trailing surrogate, the second half of a pair. -/
def isTrailingSurrogate (n : Nat) : Bool :=
  0xDC00 ≤ n && n ≤ 0xDFFF

/-- A leading surrogate, the first half of a pair. -/
def isLeadingSurrogate (n : Nat) : Bool :=
  0xD800 ≤ n && n ≤ 0xDBFF

/-- The code point of a surrogate pair. -/
def pairCodePoint (lead trail : Nat) : Nat :=
  0x10000 + (lead - 0xD800) * 0x400 + (trail - 0xDC00)

/-- The four digits of a `\u` escape that starts reading at offset `o` are missing: at least four
bytes are left but they are no hexadecimal number, or the text ends within four bytes. -/
def quadFailure (cs : List Char) (o : Nat) : Failure :=
  if byteLength (cs.take 4) < 4 then ⟨.eofInString, some (o + byteLength cs)⟩
  else ⟨.invalidEscape, some (o + 4)⟩

/-- Reads a string body at byte offset `o` that has given the characters `acc` (last first)
so far: the characters of the whole body, the text after the closing quote and its offset. -/
def strBody (cs : List Char) (o : Nat) (acc : List Char) :
    Except Failure (List Char × List Char × Nat) :=
  match cs with
  | [] => .error ⟨.eofInString, some o⟩
  | '"' :: r => .ok (acc.reverse, r, o + 1)
  | '\\' :: r =>
    match r with
    | [] => .error ⟨.eofInString, some (o + 1)⟩
    | 'u' :: a :: b :: c :: d :: r' =>
      match hexQuad? [a, b, c, d] with
      | none => .error ⟨.invalidEscape, some (o + 6)⟩
      | some n =>
        let o' := o + 6
        if isTrailingSurrogate n then .error ⟨.loneSurrogate, some o'⟩
        else if !isLeadingSurrogate n then strBody r' o' (Char.ofNat n :: acc)
        else
          match r' with
          | [] => .error ⟨.eofInString, some o'⟩
          | '\\' :: [] => .error ⟨.eofInString, some (o' + 1)⟩
          | '\\' :: 'u' :: a :: b :: c :: d :: r'' =>
            match hexQuad? [a, b, c, d] with
            | none => .error ⟨.invalidEscape, some (o' + 6)⟩
            | some n2 =>
              if isTrailingSurrogate n2 then
                strBody r'' (o' + 6) (Char.ofNat (pairCodePoint n n2) :: acc)
              else .error ⟨.loneSurrogate, some (o' + 6)⟩
          | '\\' :: 'u' :: r'' => .error (quadFailure r'' (o' + 2))
          | '\\' :: _ :: _ => .error ⟨.hexEscapeCut, some (o' + 2)⟩
          | _ :: _ => .error ⟨.hexEscapeCut, some (o' + 1)⟩
    | 'u' :: r' => .error (quadFailure r' (o + 2))
    | e :: r' =>
      match simpleEscape? e with
      | some ch => strBody r' (o + 2) (ch :: acc)
      | none => .error ⟨.invalidEscape, some (o + 2)⟩
  | c :: r =>
    if c.toNat < 0x20 then .error ⟨.controlCharacter, some (o + 1)⟩
    else strBody r (o + c.utf8Size) (c :: acc)

/-- Checks a string body at byte offset `o` without keeping it: the text after the closing
quote and its offset. -/
def skipStrBody (cs : List Char) (o : Nat) : Except Failure (List Char × Nat) :=
  match cs with
  | [] => .error ⟨.eofInString, some o⟩
  | '"' :: r => .ok (r, o + 1)
  | '\\' :: r =>
    match r with
    | [] => .error ⟨.eofInString, some (o + 1)⟩
    | 'u' :: a :: b :: c :: d :: r' =>
      match hexQuad? [a, b, c, d] with
      | none => .error ⟨.invalidEscape, some (o + 6)⟩
      | some _ => skipStrBody r' (o + 6)
    | 'u' :: r' => .error (quadFailure r' (o + 2))
    | e :: r' =>
      if (simpleEscape? e).isSome then skipStrBody r' (o + 2)
      else .error ⟨.invalidEscape, some (o + 2)⟩
  | c :: r =>
    if c.toNat < 0x20 then .error ⟨.controlCharacter, some o⟩
    else skipStrBody r (o + c.utf8Size)

namespace Reader

/-- Reads a string whose opening quote was read. -/
def string : Reader String := do
  let c ← get
  match strBody c.rest c.offset [] with
  | .ok (s, r, o) =>
    set (⟨r, o⟩ : Cursor)
    pure (String.ofList s)
  | .error f => throw f

/-- Reads past a string whose opening quote was read. -/
def skipString : Reader Unit := do
  let c ← get
  match skipStrBody c.rest c.offset with
  | .ok (r, o) => set (⟨r, o⟩ : Cursor)
  | .error f => throw f

end Reader

end Homescreen.Json
