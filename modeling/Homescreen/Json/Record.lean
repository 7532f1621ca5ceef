import Homescreen.Json.Read

/-!
# Records

A **record** is a fixed list of named fields. In JSON it is written as an object whose keys name
the fields, in any order and each at most once, with keys of no field allowed and skipped; or as
an array of the field values in field order, shorter arrays leaving the last fields out.

A `Schema` gives the record's name and its fields: each field's key, what its value holds, and
whether it must be present. Reading yields a **draft**: for each field, in field order, the
entry read or `none`. Filling in defaults is left to the record's own type.

* `Schema.ofText` — reads a record from a whole text, with every failure placed in the text;
* `Schema.ofValue` — reads a record from a value in memory, with failures that have no place.

The two agree on what they accept. They differ where a value in memory has no order and no
duplicates: the members of an object in memory are visited in key order.

These are the rules by which serde_json reads a record whose fields serde describes, one field
with a default or a required one, as the configuration and the install choice declare theirs.
-/

namespace Homescreen.Json

/-- What the value of a field holds. -/
inductive Slot where
  /-- A string. -/
  | text
  /-- A string or null. -/
  | optionalText
  /-- A boolean. -/
  | flag
  /-- One of a list of names: a string, or an object with the name as its only key and null as
  its value. -/
  | tag (names : List String)

/-- A field of a record. -/
structure Field where
  key : String
  slot : Slot
  required : Bool

/-- The name and fields of a record. -/
structure Schema where
  name : String
  fields : List Field

/-- The value read for a field. -/
inductive Entry where
  | text (s : String)
  | null
  | flag (b : Bool)
  /-- The position of a name in the list of a `Slot.tag`. -/
  | tag (index : Nat)
  deriving DecidableEq, Repr

/-- For each field of a record in order, the entry read for it, if any. -/
abbrev Draft := List (Option Entry)

/-- The position of a string in a list. -/
def indexIn (names : List String) (s : String) : Option Nat :=
  names.findIdx? (· == s)

namespace Schema

/-- How messages name the record. -/
def expecting (s : Schema) : String :=
  "struct " ++ s.name

/-- How messages name an array that holds the whole record. -/
def withElements (s : Schema) : String :=
  "struct " ++ s.name ++ " with " ++ toString s.fields.length ++ " elements"

/-- The draft with no field given. -/
def empty (s : Schema) : Draft :=
  s.fields.map fun _ => none

/-- The first required field that the draft leaves out. -/
def firstMissing? (s : Schema) (d : Draft) : Option Field :=
  ((s.fields.zip d).find? fun (f, e) => f.required && e.isNone).map (·.1)

/-- The position of the field with a key. -/
def index? (s : Schema) (key : String) : Option Nat :=
  indexIn (s.fields.map (·.key)) key

end Schema

namespace Reader

/-- Reads a string where one is expected. -/
def textValue (expected : String) : Reader String := placed do
  match ← peekPastBlank with
  | none => failAhead .eofInValue
  | some '"' => do bump; string
  | some _ => foundAhead expected

/-- Reads a name out of a list, as a string. -/
def tagName (names : List String) : Reader Nat := placed do
  match ← peekPastBlank with
  | none => failAhead .eofInValue
  | some '"' => do
    bump
    let s ← string
    match indexIn names s with
    | some i => pure i
    | none => failUnplaced (.unknownVariant s names)
  | some _ => foundAhead "variant identifier"

/-- Reads the name of a variant written as the key of a one-member object. Anything but a text
fails as a key that is no text, an empty object as a missing value; an unknown name fails right
after its closing quote, as it does where the name stands alone. -/
def tagKey (names : List String) : Reader Nat := do
  match ← peekPastBlank with
  | none => failAhead .eofInObject
  | some '"' => tagName names
  | some '\x7d' => failAhead .expectedValue
  | some _ => failAhead .keyNotString

/-- Reads a null that stands for nothing. -/
def unitValue : Reader Unit := placed do
  match ← peekPastBlank with
  | none => failAhead .eofInValue
  | some 'n' => do bump; word "ull".toList
  | some _ => foundAhead "unit"

/-- Reads the value of a field, with `depth` levels of nesting left. -/
def entry (depth : Nat) : Slot → Reader Entry
  | .text => Entry.text <$> textValue "a string"
  | .optionalText => do
    match ← peekPastBlank with
    | some 'n' => do bump; word "ull".toList; pure .null
    | _ => Entry.text <$> textValue "a string"
  | .flag => placed do
    match ← peekPastBlank with
    | none => failAhead .eofInValue
    | some 't' => do bump; word "rue".toList; pure (.flag true)
    | some 'f' => do bump; word "alse".toList; pure (.flag false)
    | some _ => foundAhead "a boolean"
  | .tag names => do
    match ← peekPastBlank with
    | some '\x7b' =>
      if depth ≤ 1 then failAhead .tooDeep
      else do
        bump
        let i ← tagKey names
        colon
        unitValue
        match ← peekPastBlank with
        | some '\x7d' => do bump; pure (.tag i)
        | some _ => failHere .expectedValue
        | none => failHere .eofInObject
    | some '"' => Entry.tag <$> tagName names
    | some _ => failAhead .expectedValue
    | none => failAhead .eofInValue

/-- Reads the fields of a record written as an array, after its opening bracket. -/
def elementsOf (s : Schema) (depth : Nat) : Reader Draft :=
  go s.fields 0 true []
where
  /-- Reads the fields `fs` from the `i`-th on; `first` while no element was read. -/
  go : List Field → Nat → Bool → Draft → Reader Draft
    | [], _, _, acc => pure acc.reverse
    | f :: fs, i, first, acc => do
      if ← nextElement first then
        let e ← entry depth f.slot
        go fs (i + 1) false (some e :: acc)
      else if f.required then failUnplaced (.invalidLength i s.withElements)
      else go fs (i + 1) first (none :: acc)

/-- One member of a record written as an object: a known key twice fails before its value is
read; a key of no field has its value skipped. -/
def memberOf (s : Schema) (depth : Nat) (d : Draft × Bool) :
    Reader (ForInStep (Draft × Bool)) := do
  match ← nextKey d.2 with
  | none => pure (.done d)
  | some k =>
    match s.index?  k with
    | some i =>
      if (d.1[i]?).join.isSome then failUnplaced (.duplicateField k)
      else do
        colon
        match s.fields[i]? with
        | some f => do
          let e ← entry depth f.slot
          pure (.yield (d.1.set i (some e), false))
        | none => pure (.yield (d.1, false))
    | none => do
      colon
      skipValue
      pure (.yield (d.1, false))

/-- Reads the fields of a record written as an object, after its opening brace; a required
field left out fails. -/
def membersOf (s : Schema) (depth : Nat) : Reader Draft := do
  let d ← iterate (memberOf s depth) (s.empty, true)
  match s.firstMissing? d.1 with
  | some f => failUnplaced (.missingField f.key)
  | none => pure d.1

/-- Reads a record, with `depth` levels of nesting left. -/
def record (s : Schema) (depth : Nat) : Reader Draft := placed do
  match ← peekPastBlank with
  | none => failAhead .eofInValue
  | some '[' =>
    if depth ≤ 1 then failAhead .tooDeep
    else do
      bump
      closedBy (elementsOf s (depth - 1)) closeArray
  | some '\x7b' =>
    if depth ≤ 1 then failAhead .tooDeep
    else do
      bump
      closedBy (membersOf s (depth - 1)) closeObject
  | some _ => foundAhead s.expecting

end Reader

namespace Slot

/-- The position of a name in a list, or the failure of an unknown one. -/
def tagIndex (names : List String) (s : String) : Except Problem Nat :=
  match indexIn names s with
  | some i => .ok i
  | none => .error (.unknownVariant s names)

/-- The entry of a field from a value in memory. -/
def entryOf : Slot → Value → Except Problem Entry
  | .text, .str s => .ok (.text s)
  | .text, v => .error (.invalidType v.found "a string")
  | .optionalText, .null => .ok .null
  | .optionalText, .str s => .ok (.text s)
  | .optionalText, v => .error (.invalidType v.found "a string")
  | .flag, .bool b => .ok (.flag b)
  | .flag, v => .error (.invalidType v.found "a boolean")
  | .tag names, .str s => .tag <$> tagIndex names s
  | .tag names, .obj [(s, v)] => do
    let i ← tagIndex names s
    match v with
    | .null => pure (.tag i)
    | w => .error (.invalidType w.found "unit")
  | .tag _, .obj _ => .error (.invalidValue .map "map with a single key")
  | .tag _, v => .error (.invalidType v.found "string or map")

end Slot

namespace Schema

/-- Reads the members of an object in memory, in their order. -/
def draftOfMembers (s : Schema) : List (String × Value) → Draft → Except Problem Draft
  | [], d => .ok d
  | (k, v) :: rest, d =>
    match s.index? k with
    | some i =>
      if (d[i]?).join.isSome then .error (.duplicateField k)
      else
        match s.fields[i]? with
        | some f => do
          let e ← f.slot.entryOf v
          s.draftOfMembers rest (d.set i (some e))
        | none => s.draftOfMembers rest d
    | none => s.draftOfMembers rest d

/-- Reads the fields `fs` from the `i`-th on out of the items of an array in memory. -/
def draftOfItems (s : Schema) : List Field → Nat → List Value → Except Problem Draft
  | [], _, _ => .ok []
  | f :: fs, i, [] =>
    if f.required then .error (.invalidLength i s.withElements)
    else (none :: ·) <$> s.draftOfItems fs (i + 1) []
  | f :: fs, i, v :: vs => do
    let e ← f.slot.entryOf v
    (some e :: ·) <$> s.draftOfItems fs (i + 1) vs

/-- Reads a record from a value in memory. An array longer than the record fails once all
fields are read. -/
def ofValue (s : Schema) : Value → Except Problem Draft
  | .obj members => do
    let d ← s.draftOfMembers members s.empty
    match s.firstMissing? d with
    | some f => .error (.missingField f.key)
    | none => .ok d
  | .arr items => do
    let d ← s.draftOfItems s.fields 0 items
    if s.fields.length < items.length then .error (.invalidLength items.length "fewer elements in array")
    else .ok d
  | v => .error (.invalidType v.found s.expecting)

/-- Reads a record from a whole text. -/
def ofText (s : Schema) (text : String) : Except Failure Draft :=
  (Reader.runOn (do
    let d ← Reader.record s Reader.depthBudget
    Reader.finish
    pure d) (Cursor.ofText text)).1

end Schema

end Homescreen.Json
