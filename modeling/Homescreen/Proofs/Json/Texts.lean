import Homescreen.Proofs.Json.RecordRoundTrip

/-!
# JSON texts

The grammar of JSON texts (RFC 8259), as syntax trees that keep their layout: the blanks between
tokens, the escapes each string is written with and the digits of each number. A tree spells out
its text (`Written.text`, `Item.text`); the texts spelled so are the texts of the grammar, each
string standing for characters, so that a surrogate escape comes in a pair.

The reader is looser in one place. A string inside a value it skips, such as the value of a key
no record field has, is only checked (`skipStrBody`), and a lone surrogate escape like `\udc00`
passes. A text with such a string is read, but it is the text of no tree here, so a theorem
stated over trees says nothing of it.

* `Gap` — blanks: `ws = *( %x20 / %x09 / %x0A / %x0D )`;
* `Spells` — the body of a string between its quotes and the characters it stands for;
* `Numeral` — `number = [ minus ] int [ frac ] [ exp ]`;
* `Written` — a value; `Item` — a value with the blanks around it, which is what an array holds
  and what a whole text is (`JSON-text = ws value ws`); `Member` — a key with the blanks around
  it, a colon, and an item.

The blanks before a closing bracket are kept with the array or object (`inner`); those after a
value, with its item. A reader sees the first character of a value before it reads it: `head`
names that character, which is never a blank, a comma or a closing bracket.
-/

namespace Homescreen.Json

/-! ### Blanks, strings and numbers -/

/-- Blanks between tokens: `ws = *( %x20 / %x09 / %x0A / %x0D )`. -/
structure Gap where
  chars : List Char
  blank : ∀ c ∈ chars, isJsonBlank c = true

/-- No blanks at all. -/
def Gap.empty : Gap := ⟨[], by simp⟩

@[simp] theorem Gap.empty_chars : Gap.empty.chars = [] := rfl

/-- The body of a string between its quotes, and the characters it stands for (RFC 8259 §7). -/
inductive Spells : List Char → List Char → Prop where
  | nil : Spells [] []
  /-- `unescaped = %x20-21 / %x23-5B / %x5D-10FFFF` -/
  | plain {c : Char} {body s : List Char} (quote : c ≠ '"') (backslash : c ≠ '\\')
      (printable : 0x20 ≤ c.toNat) : Spells body s → Spells (c :: body) (c :: s)
  /-- `escape` and one of the letters of `" \ / b f n r t` -/
  | short {e c : Char} {body s : List Char} (h : simpleEscape? e = some c) :
      Spells body s → Spells ('\\' :: e :: body) (c :: s)
  /-- `escape %x75 4HEXDIG`: a character of the basic plane by its code -/
  | code {a b c d ch : Char} {body s : List Char} (h : hexQuad? [a, b, c, d] = some ch.toNat) :
      Spells body s → Spells ('\\' :: 'u' :: a :: b :: c :: d :: body) (ch :: s)
  /-- Two such escapes: a character above the basic plane by its surrogate pair. -/
  | pair {a b c d a' b' c' d' ch : Char} {hi lo : Nat} {body s : List Char}
      (hhi : hexQuad? [a, b, c, d] = some hi) (hlo : hexQuad? [a', b', c', d'] = some lo)
      (lead : isLeadingSurrogate hi = true) (trail : isTrailingSurrogate lo = true)
      (h : pairCodePoint hi lo = ch.toNat) :
      Spells body s →
        Spells ('\\' :: 'u' :: a :: b :: c :: d :: '\\' :: 'u' :: a' :: b' :: c' :: d' :: body)
          (ch :: s)

/-- A string as written: the body between its quotes, and the string it stands for. -/
structure Quoted where
  body : List Char
  text : String
  spells : Spells body text.toList

/-- The characters of a written string, quotes included. -/
def Quoted.chars (q : Quoted) : List Char :=
  '"' :: q.body ++ ['"']

/-- Decimal digits, at least one: `1*DIGIT`. -/
def Digits (ds : List Char) : Prop :=
  ds ≠ [] ∧ ∀ d ∈ ds, d.isDigit = true

/-- The exponent of a number: `exp = e [ minus / plus ] 1*DIGIT`. -/
structure Exponent where
  letter : Char
  sign : Option Char
  digits : List Char
  letter_e : letter = 'e' ∨ letter = 'E'
  sign_ok : ∀ c ∈ sign, c = '+' ∨ c = '-'
  digits_ok : Digits digits

def Exponent.chars (x : Exponent) : List Char :=
  x.letter :: x.sign.toList ++ x.digits

/-- A number: `number = [ minus ] int [ frac ] [ exp ]`, where `int = zero / ( digit1-9 *DIGIT )`
and `frac = decimal-point 1*DIGIT`; `fraction` holds the digits after the point. -/
structure Numeral where
  negative : Bool
  integer : List Char
  fraction : Option (List Char)
  exponent : Option Exponent
  integer_ok : Digits integer
  no_leading_zero : integer.head? = some '0' → integer = ['0']
  fraction_ok : ∀ ds ∈ fraction, Digits ds

/-- The fraction of a number, point included, or nothing. -/
def Numeral.fractionChars (n : Numeral) : List Char :=
  match n.fraction with
  | some ds => '.' :: ds
  | none => []

/-- The exponent of a number, letter included, or nothing. -/
def Numeral.exponentChars (n : Numeral) : List Char :=
  match n.exponent with
  | some x => x.chars
  | none => []

/-- The characters of a number after its minus sign. -/
def Numeral.unsigned (n : Numeral) : List Char :=
  n.integer ++ n.fractionChars ++ n.exponentChars

def Numeral.chars (n : Numeral) : List Char :=
  (if n.negative then ['-'] else []) ++ n.unsigned

/-! ### Values -/

mutual

/-- A JSON value as written. -/
inductive Written where
  | null
  | bool (b : Bool)
  | num (n : Numeral)
  | str (q : Quoted)
  /-- `begin-array [ value *( value-separator value ) ] end-array` -/
  | arr (items : List Item) (inner : Gap)
  /-- `begin-object [ member *( value-separator member ) ] end-object` -/
  | obj (members : List Member) (inner : Gap)

/-- A value with the blanks before and after it. -/
inductive Item where
  | mk (before : Gap) (value : Written) (after : Gap)

/-- `member = string name-separator value`, with the blanks before and after the key. -/
inductive Member where
  | mk (before : Gap) (key : Quoted) (after : Gap) (item : Item)

end

mutual

def Written.text : Written → List Char
  | .null => "null".toList
  | .bool true => "true".toList
  | .bool false => "false".toList
  | .num n => n.chars
  | .str q => q.chars
  | .arr items inner => '[' :: Item.listText true items ++ inner.chars ++ [']']
  | .obj members inner => '\x7b' :: Member.listText true members ++ inner.chars ++ ['\x7d']

def Item.text : Item → List Char
  | .mk before v after => before.chars ++ v.text ++ after.chars

/-- Items in a row, each but the first after a comma unless `first` is false. -/
def Item.listText (first : Bool) : List Item → List Char
  | [] => []
  | it :: its => commaUnless first ++ it.text ++ Item.listText false its

def Member.text : Member → List Char
  | .mk before k after it => before.chars ++ k.chars ++ after.chars ++ ':' :: it.text

/-- Members in a row, each but the first after a comma unless `first` is false. -/
def Member.listText (first : Bool) : List Member → List Char
  | [] => []
  | m :: ms => commaUnless first ++ m.text ++ Member.listText false ms

end

namespace Item

def value : Item → Written
  | .mk _ v _ => v

def after : Item → Gap
  | .mk _ _ a => a

end Item

namespace Member

def key : Member → Quoted
  | .mk _ k _ _ => k

def item : Member → Item
  | .mk _ _ _ it => it

/-- The key a member names and the value it gives. -/
def pair (m : Member) : String × Written :=
  (m.key.text, m.item.value)

end Member

/-! ### The first character of a value -/

/-- The character a number starts with: its sign or its first digit. -/
def Numeral.head (n : Numeral) : Char :=
  if n.negative then '-' else n.integer.headD '0'

/-- The character a value starts with. -/
def Written.head : Written → Char
  | .null => 'n'
  | .bool true => 't'
  | .bool false => 'f'
  | .num n => n.head
  | .str _ => '"'
  | .arr _ _ => '['
  | .obj _ _ => '\x7b'

theorem Written.text_eq_head_cons (v : Written) : ∃ r, v.text = v.head :: r := by
  cases v with
  | null => exact ⟨_, rfl⟩
  | bool b => cases b <;> exact ⟨_, rfl⟩
  | num n =>
    obtain ⟨d, ds, hd⟩ := List.exists_cons_of_ne_nil n.integer_ok.1
    cases hneg : n.negative <;>
      simp [Written.text, Written.head, Numeral.head, Numeral.chars, Numeral.unsigned, hneg, hd]
  | str q => exact ⟨_, rfl⟩
  | arr items inner => exact ⟨_, rfl⟩
  | obj ms inner => exact ⟨_, rfl⟩

/-- A value starts with a letter of a word, a sign or digit of a number, a quote or an opening
bracket. -/
theorem Written.head_cases (v : Written) :
    v.head = 'n' ∨ v.head = 't' ∨ v.head = 'f' ∨ v.head = '-' ∨ v.head = '"' ∨
      v.head = '[' ∨ v.head = '\x7b' ∨ v.head.isDigit = true := by
  cases v with
  | bool b => cases b <;> simp [Written.head]
  | num n =>
    obtain ⟨d, ds, hd⟩ := List.exists_cons_of_ne_nil n.integer_ok.1
    have hdigit : d.isDigit = true := n.integer_ok.2 d (by simp [hd])
    cases hneg : n.negative <;> simp [Written.head, Numeral.head, hneg, hd, hdigit]
  | _ => simp [Written.head]

/-- A digit is no blank, no comma and no closing bracket. -/
theorem isDigit_not_delimiter {d : Char} (hd : d.isDigit = true) :
    isJsonBlank d = false ∧ d ≠ ',' ∧ d ≠ ']' ∧ d ≠ '\x7d' := by
  have hblank : isJsonBlank d = false := by
    simp only [isJsonBlank, Bool.or_eq_false_iff, decide_eq_false_iff_not]
    refine ⟨⟨⟨?_, ?_⟩, ?_⟩, ?_⟩ <;> (rintro rfl; revert hd; decide)
  refine ⟨hblank, ?_, ?_, ?_⟩ <;> (rintro rfl; revert hd; decide)

/-- A number starts with none of the characters that start a word, a string, an array or an
object. -/
@[simp] theorem Numeral.head_ne (n : Numeral) :
    n.head ≠ 'n' ∧ n.head ≠ 't' ∧ n.head ≠ 'f' ∧ n.head ≠ '"' ∧ n.head ≠ '[' ∧
      n.head ≠ '\x7b' := by
  obtain ⟨d, ds, hd⟩ := List.exists_cons_of_ne_nil n.integer_ok.1
  have hdigit : d.isDigit = true := n.integer_ok.2 d (by simp [hd])
  unfold Numeral.head
  cases hneg : n.negative
  · simp only [hd, List.headD_cons, Bool.false_eq_true, if_false]
    refine ⟨?_, ?_, ?_, ?_, ?_, ?_⟩ <;> (rintro rfl; revert hdigit; decide)
  · simp only [if_true]
    decide

/-- What a value starts with is no blank, no comma and no closing bracket. -/
theorem Written.head_not_delimiter (v : Written) :
    isJsonBlank v.head = false ∧ v.head ≠ ',' ∧ v.head ≠ ']' ∧ v.head ≠ '\x7d' := by
  rcases v.head_cases with h | h | h | h | h | h | h | h
  all_goals first
    | exact isDigit_not_delimiter h
    | (rw [h]; decide)

end Homescreen.Json
