import Homescreen.Proofs.Json.Reading

/-!
# Records read back

A record written as a JSON object, one member per field in field order, is read back as the
entries it was written from. This is the reading half of every document this library writes:
whatever the strings in it hold, reading never refuses a written record, and every field comes
back as it was.

`Slot.valueOf` writes an entry as the value its slot reads: a string, null, a boolean, or the
name of a tag. `Schema.valueOf` lays the entries out as an object. The main statement is

* `Schema.ofText_write` — a schema whose keys are distinct reads the text of
  `Schema.valueOf es` back as `es`, each field present.

The proof follows the reader. `Reads.entry` reads one value; `Reads.memberOf` reads one member
into the draft, at the position of its key; `iterateFrom_members` runs the member loop over the
written members, by induction on how many are left, with the draft after `j` members being the
first `j` entries and nothing after them (`draftAfter`). The loop stops at the closing brace,
which `closeObject` then reads.
-/

namespace Homescreen.Json

open Reader

/-! ### Written records -/

/-- The value that writes an entry of a slot: a string, null, a boolean, or a tag's name. -/
def Slot.valueOf : Slot → Entry → Value
  | _, .text s => .str s
  | _, .null => .null
  | _, .flag b => .bool b
  | .tag names, .tag i => .str (names.getD i "")
  | _, .tag _ => .null

/-- The entries a slot can hold: a string for a text, a string or null for an optional text, a
boolean for a flag, and for a tag a position whose name is found there. -/
def Slot.Fits : Slot → Entry → Prop
  | .text, .text _ => True
  | .optionalText, .text _ => True
  | .optionalText, .null => True
  | .flag, .flag _ => True
  | .tag names, .tag i => indexIn names (names.getD i "") = some i
  | _, _ => False

namespace Schema

/-- The members that write a record, one per field in field order. -/
def members (s : Schema) (es : List Entry) : List (String × Value) :=
  (s.fields.zip es).map fun (f, e) => (f.key, f.slot.valueOf e)

/-- The object that writes a record. -/
def valueOf (s : Schema) (es : List Entry) : Value :=
  .obj (s.members es)

/-- No two fields share a key. -/
def KeysDistinct (s : Schema) : Prop :=
  (s.fields.map (·.key)).Nodup

/-- The key of a field finds that field. -/
theorem index?_key {s : Schema} (hs : s.KeysDistinct) {j : Nat} {f : Field}
    (hf : s.fields[j]? = some f) : s.index? f.key = some j := by
  obtain ⟨hj, rfl⟩ := List.getElem?_eq_some_iff.1 hf
  have hlen : j < (s.fields.map (·.key)).length := by simpa using hj
  rw [index?, indexIn, List.findIdx?_eq_some_iff_getElem]
  refine ⟨hlen, by simp, fun i hi heq => ?_⟩
  have hi' : i < (s.fields.map (·.key)).length := by omega
  have hij : (s.fields.map (·.key))[i]? = (s.fields.map (·.key))[j]? := by
    rw [List.getElem?_eq_getElem hi', List.getElem?_eq_getElem hlen]
    simpa using heq
  have := (List.getElem?_inj hi' hs).1 hij
  omega

end Schema

/-! ### Values -/

theorem writeChars_str (s : String) : (Value.str s).writeChars = quoteChars s := by
  simp [Value.writeChars]

/-- A written name reads back as its position in the list of names. -/
theorem Reads.tagName {names : List String} {s : String} {i : Nat} (h : indexIn names s = some i) :
    Reads (Reader.tagName names) (quoteChars s) i := by
  apply Reads.placed
  apply Reads.peek (by decide)
  refine (Reads.bump '"').bind ((Reads.string s).bind_nil ?_)
  simp only [h]
  exact Reads.pure i

/-- **A written entry reads back** where its slot is read. -/
theorem Reads.entry (depth : Nat) {slot : Slot} {e : Entry} (he : slot.Fits e) :
    Reads (Reader.entry depth slot) (slot.valueOf e).writeChars e := by
  cases slot <;> cases e <;> simp only [Slot.Fits] at he
  case text.text s =>
    exact (Reads.textValue _ s).map Entry.text
  case optionalText.text s =>
    simp only [Reader.entry, Slot.valueOf, writeChars_str]
    apply Reads.peek (by decide)
    exact (Reads.textValue _ s).map Entry.text
  case optionalText.null =>
    simp only [Reader.entry, Slot.valueOf, Value.writeChars]
    apply Reads.peek (by decide)
    exact (Reads.bump 'n').bind ((Reads.word _).bind (Reads.pure _))
  case flag.flag b =>
    apply Reads.placed
    cases b
    · apply Reads.peek (by decide)
      exact (Reads.bump 'f').bind ((Reads.word _).bind (Reads.pure _))
    · apply Reads.peek (by decide)
      exact (Reads.bump 't').bind ((Reads.word _).bind (Reads.pure _))
  case tag.tag names i =>
    simp only [Reader.entry, Slot.valueOf, writeChars_str]
    apply Reads.peek (by decide)
    exact (Reads.tagName he).map Entry.tag

/-! ### Members -/

/-- The text of a member: its key, a colon and its value. -/
def memberChars (m : String × Value) : List Char :=
  quoteChars m.1 ++ ':' :: m.2.writeChars

/-- The comma before a member, unless it is the first. -/
def commaUnless (first : Bool) : List Char :=
  if first then [] else [',']

/-- Members as the member loop meets them, each but the first after a comma. -/
def membersFrom (first : Bool) : List (String × Value) → List Char
  | [] => []
  | m :: ms => commaUnless first ++ memberChars m ++ membersFrom false ms

theorem writeMembers_cons (m : String × Value) (ms : List (String × Value)) :
    writeMembers (m :: ms) = memberChars m ++ membersFrom false ms := by
  induction ms generalizing m with
  | nil => simp [writeMembers, memberChars, membersFrom]
  | cons m' ms ih =>
    obtain ⟨k, v⟩ := m
    -- the third equation of `writeMembers`, for a member followed by more
    rw [writeMembers.eq_3 k v (m' :: ms) (by simp), ih]
    simp [memberChars, membersFrom, commaUnless]

theorem writeMembers_eq (ms : List (String × Value)) : writeMembers ms = membersFrom true ms := by
  cases ms with
  | nil => rfl
  | cons m ms => simp [writeMembers_cons, membersFrom, commaUnless]

theorem Reads.nextKey (first : Bool) (k : String) :
    Reads (Reader.nextKey first) (commaUnless first ++ quoteChars k) (some k) := by
  cases first
  · exact Reads.nextKey_comma k
  · exact Reads.nextKey_first k

/-- At the closing brace the member loop is done, whatever the draft. -/
theorem runOn_memberOf_close (s : Schema) (depth : Nat) (d : Draft × Bool) (rest : List Char)
    (o : Nat) :
    runOn (Reader.memberOf s depth d) ⟨'\x7d' :: rest, o⟩ =
      (.ok (.done d), ⟨'\x7d' :: rest, o⟩) := by
  have hbrace : isJsonBlank '\x7d' = false := by decide
  simp only [Reader.memberOf, Reader.nextKey, runOn_bind, runOn_peekPastBlank_cons hbrace]
  rfl

/-- **One written member is read into the draft**, at the position of its key. -/
theorem Reads.memberOf {s : Schema} (depth : Nat) {d : Draft} (first : Bool) {i : Nat}
    {f : Field} {e : Entry} (hi : s.index? f.key = some i) (hf : s.fields[i]? = some f)
    (hd : d[i]? = some none) (he : f.slot.Fits e) :
    Reads (Reader.memberOf s depth (d, first))
      (commaUnless first ++ memberChars (f.key, f.slot.valueOf e))
      (.yield (d.set i (some e), false)) := by
  -- the member's text split as the reader takes it: key, colon, value
  have hpre : commaUnless first ++ memberChars (f.key, f.slot.valueOf e) =
      (commaUnless first ++ quoteChars f.key) ++
        ([':'] ++ ((f.slot.valueOf e).writeChars ++ [])) := by
    simp [memberChars]
  rw [hpre, Reader.memberOf]
  refine (Reads.nextKey first f.key).bind ?_
  simp only [hi, hd, hf, Option.join_some, Option.isSome_none, Bool.false_eq_true, if_false]
  exact Reads.colon.bind ((Reads.entry depth he).bind (Reads.pure _))

/-! ### The member loop -/

/-- The draft after the first `j` entries were read: those entries, then nothing. -/
def draftAfter (es : List Entry) (j : Nat) : Draft :=
  (es.take j).map some ++ List.replicate (es.length - j) none

theorem draftAfter_getElem? {es : List Entry} {j : Nat} (h : j < es.length) :
    (draftAfter es j)[j]? = some none := by
  have hlen : ((es.take j).map some).length = j := by
    rw [List.length_map, List.length_take]
    omega
  rw [draftAfter, List.getElem?_append_right (by omega), hlen, Nat.sub_self,
    List.getElem?_replicate, if_pos (by omega)]

theorem draftAfter_set {es : List Entry} {j : Nat} (h : j < es.length) :
    (draftAfter es j).set j (some es[j]) = draftAfter es (j + 1) := by
  have hlen : ((es.take j).map some).length = j := by
    rw [List.length_map, List.length_take]
    omega
  have hrep : List.replicate (es.length - j) (none : Option Entry) =
      none :: List.replicate (es.length - (j + 1)) none := by
    rw [← List.replicate_succ]
    congr 1
    omega
  rw [draftAfter, draftAfter, hrep, List.set_append_right _ _ (by omega), hlen, Nat.sub_self,
    List.set_cons_zero, List.take_add_one, List.getElem?_eq_getElem h, Option.toList_some,
    List.map_append, List.map_singleton, List.append_assoc, List.singleton_append]

theorem draftAfter_length (es : List Entry) : draftAfter es es.length = es.map some := by
  simp [draftAfter]

/-- The written members of a record, from the `j`-th on. -/
theorem members_drop {s : Schema} {es : List Entry} (hlen : es.length = s.fields.length) {j : Nat}
    (hj : j < es.length) :
    (s.members es).drop j =
      (s.fields[j].key, s.fields[j].slot.valueOf es[j]) :: (s.members es).drop (j + 1) := by
  have hm : j < (s.members es).length := by
    simp only [Schema.members, List.length_map, List.length_zip]
    omega
  rw [List.drop_eq_getElem_cons hm]
  simp [Schema.members]

/-- **The member loop reads every written member**, from the `j`-th on, into the draft that
holds the first `j` entries; it stops at the closing brace with every entry read. -/
theorem iterateFrom_members {s : Schema} (hs : s.KeysDistinct) {es : List Entry}
    (hlen : es.length = s.fields.length) (hfit : ∀ p ∈ s.fields.zip es, p.1.slot.Fits p.2)
    (depth : Nat) :
    ∀ k j first, j + k = es.length → ∀ rest o, ∃ o' last,
      iterateFrom (Reader.memberOf s depth) (draftAfter es j, first)
        ⟨membersFrom first ((s.members es).drop j) ++ '\x7d' :: rest, o⟩ =
        (.ok (es.map some, last), ⟨'\x7d' :: rest, o'⟩) := by
  intro k
  induction k with
  | zero =>
    -- every member is read: the loop meets the closing brace
    intro j first hj rest o
    obtain rfl : j = es.length := by omega
    have hnil : (s.members es).drop es.length = [] := by
      apply List.drop_eq_nil_of_le
      simp only [Schema.members, List.length_map, List.length_zip]
      omega
    rw [hnil, membersFrom, List.nil_append,
      iterateFrom_done (runOn_memberOf_close s depth _ rest o), draftAfter_length]
    exact ⟨o, first, rfl⟩
  | succ k ih =>
    intro j first hj rest o
    have hj' : j < es.length := by omega
    have hf : s.fields[j]? = some s.fields[j] := List.getElem?_eq_getElem (by omega)
    have he : s.fields[j].slot.Fits es[j] := by
      have hz : j < (s.fields.zip es).length := by
        simp only [List.length_zip]
        omega
      simpa using hfit _ (List.getElem_mem hz)
    -- the loop reads the `j`-th member, then goes on from the next
    obtain ⟨o₁, h₁⟩ := Reads.memberOf depth first (Schema.index?_key hs hf) hf
      (draftAfter_getElem? hj') he
      (membersFrom false ((s.members es).drop (j + 1)) ++ '\x7d' :: rest) o
    -- a member is never empty, so the loop makes progress
    have hshorter : (membersFrom false ((s.members es).drop (j + 1)) ++ '\x7d' :: rest).length <
        (commaUnless first ++ memberChars (s.fields[j].key, s.fields[j].slot.valueOf es[j]) ++
          (membersFrom false ((s.members es).drop (j + 1)) ++ '\x7d' :: rest)).length := by
      simp only [memberChars, List.length_append, List.length_cons]
      omega
    rw [members_drop hlen hj', membersFrom, List.append_assoc (commaUnless first ++ _),
      iterateFrom_yield h₁ hshorter, draftAfter_set hj']
    exact ih (j + 1) false (by omega) rest o₁

/-! ### Whole records -/

/-- A draft with every field read leaves no field missing. -/
theorem firstMissing?_map_some (s : Schema) (es : List Entry) :
    s.firstMissing? (es.map some) = none := by
  simp only [Schema.firstMissing?, Option.map_eq_none_iff, List.find?_eq_none]
  intro p hp
  obtain ⟨e, -, he⟩ := List.mem_map.1 (List.of_mem_zip hp).2
  simp [← he]

theorem empty_eq_draftAfter {s : Schema} {es : List Entry} (hlen : es.length = s.fields.length) :
    s.empty = draftAfter es 0 := by
  simp [Schema.empty, draftAfter, hlen, List.map_const']

/-- The members of a written record are read whole, up to the closing brace. -/
theorem runOn_membersOf {s : Schema} (hs : s.KeysDistinct) {es : List Entry}
    (hlen : es.length = s.fields.length) (hfit : ∀ p ∈ s.fields.zip es, p.1.slot.Fits p.2)
    (depth : Nat) (rest : List Char) (o : Nat) :
    ∃ o', runOn (Reader.membersOf s depth)
        ⟨writeMembers (s.members es) ++ '\x7d' :: rest, o⟩ =
      (.ok (es.map some), ⟨'\x7d' :: rest, o'⟩) := by
  obtain ⟨o', last, h⟩ :=
    iterateFrom_members hs hlen hfit depth es.length 0 true (by omega) rest o
  rw [List.drop_zero, ← writeMembers_eq, ← empty_eq_draftAfter hlen] at h
  refine ⟨o', ?_⟩
  have hloop : runOn (iterate (Reader.memberOf s depth) (s.empty, true))
      ⟨writeMembers (s.members es) ++ '\x7d' :: rest, o⟩ =
      iterateFrom (Reader.memberOf s depth) (s.empty, true)
        ⟨writeMembers (s.members es) ++ '\x7d' :: rest, o⟩ := rfl
  rw [Reader.membersOf, runOn_bind, hloop, h]
  simp [firstMissing?_map_some]

/-- **A written record reads back**, with more than one level of nesting left. -/
theorem Reads.record {s : Schema} (hs : s.KeysDistinct) {es : List Entry}
    (hlen : es.length = s.fields.length) (hfit : ∀ p ∈ s.fields.zip es, p.1.slot.Fits p.2)
    (depth : Nat) (hd : 1 < depth) :
    Reads (Reader.record s depth) (s.valueOf es).writeChars (es.map some) := by
  intro rest o
  obtain ⟨o₁, h₁⟩ := runOn_membersOf hs hlen hfit (depth - 1) rest (o + '\x7b'.utf8Size)
  obtain ⟨o₂, h₂⟩ := Reads.closeObject rest o₁
  refine ⟨o₂, runOn_placed_of_ok ?_⟩
  have htext : (s.valueOf es).writeChars ++ rest =
      '\x7b' :: (writeMembers (s.members es) ++ '\x7d' :: rest) := by
    simp [Schema.valueOf, Value.writeChars]
  rw [htext, runOn_bind, runOn_peekPastBlank_cons (by decide)]
  simp only [show ¬depth ≤ 1 by omega, if_false]
  rw [runOn_bind, runOn_bump_cons]
  exact runOn_closedBy h₁ h₂

/-- **A written record is read back whole**: a schema whose keys are distinct reads the text of
the object written from entries that fit its slots as those entries, every field present. -/
theorem Schema.ofText_write {s : Schema} (hs : s.KeysDistinct) {es : List Entry}
    (hlen : es.length = s.fields.length) (hfit : ∀ p ∈ s.fields.zip es, p.1.slot.Fits p.2) :
    s.ofText (s.valueOf es).write = .ok (es.map some) := by
  obtain ⟨o, h⟩ := Reads.record hs hlen hfit depthBudget (by decide) [] 0
  rw [Schema.ofText, Cursor.ofText, Value.write, String.toList_ofList,
    ← List.append_nil (Value.writeChars _), runOn_bind, h]
  rfl

end Homescreen.Json
