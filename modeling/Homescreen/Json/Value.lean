/-!
# JSON values

A JSON document read into memory. Numbers keep the kind the text gave them: a whole number that
fits in 64 unsigned bits, a negative whole number that fits in 64 signed bits, or a double for
everything else (a fraction, an exponent, `-0`, or a whole number too large for either).
An object holds its members in order. Reading a document sorts them **by key**, each key once,
keeping the last of two members with one key; a record written by this library lists its fields
in their own order.

* `Value.insert` — puts a member into a sorted object, replacing one with the same key;
* `Value.get?` — the member of an object with a given key.
-/

namespace Homescreen.Json

/-- A JSON number, of the kind its text gives it. -/
inductive Number where
  /-- A whole number below `2 ^ 64`. -/
  | unsigned (n : Nat)
  /-- A negative whole number not below `-2 ^ 63`. -/
  | signed (i : Int)
  /-- Any other number, as the nearest double. -/
  | float (x : Float)
  deriving Inhabited

/-- A JSON value. -/
inductive Value where
  | null
  | bool (b : Bool)
  | num (n : Number)
  | str (s : String)
  | arr (items : List Value)
  /-- An object, its members in order. -/
  | obj (members : List (String × Value))
  deriving Inhabited

namespace Value

/-- Puts a member into members sorted by key; a member with the same key is replaced in place. -/
def insert (k : String) (v : Value) : List (String × Value) → List (String × Value)
  | [] => [(k, v)]
  | (k', v') :: rest =>
    if k < k' then (k, v) :: (k', v') :: rest
    else if k = k' then (k, v) :: rest
    else (k', v') :: insert k v rest

/-- The member of an object with a given key. -/
def get? (v : Value) (k : String) : Option Value :=
  match v with
  | .obj members => members.lookup k
  | _ => none

theorem lookup_insert_self (k : String) (v : Value) (ms : List (String × Value)) :
    (insert k v ms).lookup k = some v := by
  induction ms with
  | nil => simp [insert]
  | cons m rest ih =>
    obtain ⟨k', v'⟩ := m
    by_cases h1 : k < k'
    · simp [insert, h1]
    · by_cases h2 : k = k'
      · subst h2; simp [insert]
      · have hne : (k == k') = false := by simpa using h2
        simp [insert, h1, h2, List.lookup_cons, hne, ih]

end Value

end Homescreen.Json
