import Homescreen.Proofs.Json.Entries

/-!
# Records in any text

A record is read from any JSON text whose value is an object or an array, whatever blanks stand
between its tokens, however its strings are escaped and whatever values its members of no field
hold. What the reader makes of such a text is said here without the reader:

* `Schema.fillOne` — one member put into a draft as the reader puts it: the key of a field fills
  that field, if it is not filled yet, with the entry its slot takes from the value; a key of no
  field leaves the draft as it is. `Schema.readMembers` puts the members in one after the other
  and then asks for the required fields;
* `readItems`, `Schema.readArray` — the items of an array taken as the values of the fields in
  field order, with no more items than fields;
* `Schema.ofText_object`, `Schema.ofText_array` — reading a whole text succeeds exactly when these
  give a draft, and it gives that draft.

`Outcome res rest x` says how a run ended: with the result `a` and `rest` left when `x` is
`some a`, with a failure when it is none. The member loop is proved by induction on the members
(`iterateFrom_memberOf`) from its step (`runOn_memberOf`). The element loop is proved by
induction on the fields with the array's closing bracket read after it
(`outcome_elementsOf_go`): an item more than the fields is refused by the closer.
-/

namespace Homescreen.Json

open Reader

variable {α β : Type}

/-! ### Outcomes -/

/-- A run ends as `x` says, leaving `rest`: with the result `a` when `x` is `some a`, with a
failure when it is none. -/
def Outcome (res : Except Failure α × Cursor) (rest : List Char) : Option α → Prop
  | some a => ∃ o, res = (.ok a, ⟨rest, o⟩)
  | none => ∃ f c, res = (.error f, c)

theorem Takes.outcome {r : Reader α} {pre : List Char} {x : Option α}
    (h : Takes r pre x) (rest : List Char) (o : Nat) :
    Outcome (runOn r ⟨pre ++ rest, o⟩) rest x := by
  cases x with
  | none => exact h rest o
  | some a => exact h rest o

theorem Reads.outcome {r : Reader α} {pre : List Char} {a : α} (h : Reads r pre a)
    (rest : List Char) (o : Nat) : Outcome (runOn r ⟨pre ++ rest, o⟩) rest (some a) :=
  h rest o

theorem Outcome.bind {x : Reader α} {f : α → Reader β} {c : Cursor}
    {r r' : List Char} {a? : Option α} {g : α → Option β} (hx : Outcome (runOn x c) r a?)
    (hf : ∀ a o, Outcome (runOn (f a) ⟨r, o⟩) r' (g a)) :
    Outcome (runOn (x >>= f) c) r' (a?.bind g) := by
  cases a? with
  | none =>
    obtain ⟨e, c', h⟩ := hx
    exact ⟨e, c', by rw [runOn_bind, h]⟩
  | some a =>
    obtain ⟨o, h⟩ := hx
    rw [runOn_bind, h]
    exact hf a o

/-- A step that reads `p`, then one that ends as `y`. -/
theorem Outcome.bind_reads {x : Reader α} {f : α → Reader β}
    {p r r' : List Char} {a : α} {y : Option β} (hx : Reads x p a)
    (hf : ∀ o, Outcome (runOn (f a) ⟨r, o⟩) r' y) (o : Nat) :
    Outcome (runOn (x >>= f) ⟨p ++ r, o⟩) r' y := by
  obtain ⟨o', h⟩ := hx r o
  rw [runOn_bind, h]
  exact hf o'

theorem Outcome.pure (a : α) (r : List Char) (o : Nat) :
    Outcome (runOn (Pure.pure a : Reader α) ⟨r, o⟩) r (some a) :=
  ⟨o, rfl⟩

theorem AlwaysFails.outcome {r : Reader α} (h : AlwaysFails r) (c : Cursor)
    (rest : List Char) : Outcome (runOn r c) rest none :=
  h c

theorem Outcome.placed {r : Reader α} {c : Cursor} {rest : List Char} {x : Option α}
    (h : Outcome (runOn r c) rest x) : Outcome (runOn (Reader.placed r) c) rest x := by
  cases x with
  | none =>
    obtain ⟨f, c', h⟩ := h
    exact runOn_placed_of_error h
  | some a =>
    obtain ⟨o, h⟩ := h
    exact ⟨o, runOn_placed_of_ok h⟩

theorem Outcome.toOption {res : Except Failure α × Cursor} {rest : List Char}
    {x : Option α} (h : Outcome res rest x) : res.1.toOption = x := by
  cases x with
  | none =>
    obtain ⟨f, c, rfl⟩ := h
    rfl
  | some a =>
    obtain ⟨o, rfl⟩ := h
    rfl

/-! ### Objects -/

/-- A key that finds a position finds a field there. -/
theorem Schema.index?_lt {s : Schema} {k : String} {i : Nat} (h : s.index? k = some i) :
    i < s.fields.length := by
  rw [Schema.index?, indexIn, List.findIdx?_eq_some_iff_getElem] at h
  obtain ⟨hi, -⟩ := h
  simpa using hi

/-- One member put into a draft as the reader puts it: the key of a field fills that field, if it
is not filled yet, with the entry the field's slot takes from the value; a key of no field
leaves the draft as it is. -/
def Schema.fillOne (s : Schema) (d : Draft) (m : String × Written) : Option Draft :=
  match s.index? m.1 with
  | some i =>
    if (d[i]?).join.isSome then none
    else
      match s.fields[i]? with
      | some f => (f.slot.take m.2).map fun e => d.set i (some e)
      | none => some d
  | none => some d

/-- The comma unless the member is the first, then the key, after any blanks. -/
theorem Reads.nextKey_gap (first : Bool) (g kb : Gap) (k : Quoted) :
    Reads (Reader.nextKey first) (g.chars ++ commaUnless first ++ kb.chars ++ k.chars)
      (some k.text) := by
  cases first
  · -- a comma after the blanks, then blanks before the key
    have htext : g.chars ++ commaUnless false ++ kb.chars ++ k.chars =
        g.chars ++ ',' :: (kb.chars ++ k.chars) := by
      simp [commaUnless]
    rw [htext, Reader.nextKey]
    apply Reads.gap_peek g (by decide)
    simp only [Bool.not_false, pure_bind]
    refine (Reads.bump ',').bind ?_
    apply Reads.gap_peek kb (by decide)
    exact (Reads.bump '"').bind ((Reads.quoted k).map some)
  · -- the blanks before the key run together
    have htext : g.chars ++ commaUnless true ++ kb.chars ++ k.chars =
        (g.append kb).chars ++ k.chars := by
      simp [commaUnless]
    rw [htext, Reader.nextKey]
    apply Reads.gap_peek _ (by decide)
    simp only [Bool.not_true, pure_bind]
    exact (Reads.bump '"').bind ((Reads.quoted k).map some)

/-- **One member is put into the draft** as `Schema.fillOne` says: the reader reads its key,
colon and value, or fails. -/
theorem runOn_memberOf (s : Schema) {depth : Nat} (hd : 1 < depth) (d : Draft) (first : Bool)
    (g kb : Gap) (k : Quoted) (ka vb : Gap) (v : Written) {R : List Char} (hR : Delimited R)
    (o : Nat) :
    Outcome (runOn (memberOf s depth (d, first))
        ⟨g.chars ++ commaUnless first ++ kb.chars ++ k.chars ++
          (ka.chars ++ [':'] ++ (vb.chars ++ v.text ++ R)), o⟩) R
      ((s.fillOne d (k.text, v)).map fun d' => .yield (d', false)) := by
  obtain ⟨o₁, h₁⟩ :=
    Reads.nextKey_gap first g kb k (ka.chars ++ [':'] ++ (vb.chars ++ v.text ++ R)) o
  rw [Reader.memberOf, runOn_bind, h₁]
  dsimp only
  unfold Schema.fillOne
  cases hi : s.index? k.text with
  | none =>
    -- a key of no field: its value is skipped
    refine Outcome.bind_reads (Reads.colon_gap ka) (fun o₂ => ?_) o₁
    obtain ⟨o₃, h₃⟩ := runOn_skipValue vb v hR o₂
    rw [runOn_bind, h₃]
    exact Outcome.pure _ R o₃
  | some i =>
    by_cases hdup : (d[i]?).join.isSome
    · -- a field given twice
      simp only [hdup, if_true, Option.map_none]
      exact (AlwaysFails.failUnplaced _).outcome _ R
    · simp only [hdup, Bool.false_eq_true, if_false]
      refine Outcome.bind_reads (Reads.colon_gap ka) (fun o₂ => ?_) o₁
      have hlt := Schema.index?_lt hi
      rw [List.getElem?_eq_getElem hlt]
      have h := Outcome.bind ((Takes.entry hd vb s.fields[i].slot v).outcome R o₂) fun e o₃ =>
        Outcome.pure (ForInStep.yield (d.set i (some e), false)) R o₃
      simpa [Option.map_eq_bind, Function.comp_def, Option.bind_assoc] using h

theorem iterateFrom_error {step : β → Reader (ForInStep β)} {b : β} {c c' : Cursor}
    {f : Failure} (h : runOn (step b) c = (.error f, c')) :
    iterateFrom step b c = (.error f, c') := by
  rw [iterateFrom, h]

/-- At the closing brace, after any blanks, the member loop is done. -/
theorem runOn_memberOf_brace (s : Schema) (depth : Nat) (d : Draft) (first : Bool) (g : Gap)
    (rest : List Char) (o : Nat) :
    ∃ o', runOn (memberOf s depth (d, first)) ⟨g.chars ++ '\x7d' :: rest, o⟩ =
      (.ok (.done (d, first)), ⟨'\x7d' :: rest, o'⟩) := by
  obtain ⟨o', h⟩ := runOn_peekPastBlank_gap g (show isJsonBlank '\x7d' = false by decide) rest o
  refine ⟨o', ?_⟩
  simp only [Reader.memberOf, Reader.nextKey, runOn_bind, h]
  rfl

/-- What follows the value of a member: blanks, then a comma or the closing brace. -/
theorem Member.delimited (ms : List Member) (va inner : Gap) (rest : List Char) :
    Delimited (va.chars ++ (Member.listText false ms ++ inner.chars ++ '\x7d' :: rest)) := by
  apply Delimited.gap
  cases ms with
  | nil =>
    simp only [Member.listText, List.nil_append]
    exact Delimited.gap inner (by simp [Delimited])
  | cons m ms => simp [Member.listText, commaUnless, Delimited]

/-- **The member loop reads every member of an object**, from any point between two members,
putting each into the draft as `Schema.fillOne` does; it stops at the closing brace, or fails
with the first member the draft cannot take. -/
theorem iterateFrom_memberOf (s : Schema) {depth : Nat} (hd : 1 < depth) (inner : Gap)
    (rest : List Char) (ms : List Member) :
    ∀ (d : Draft) (first : Bool) (g : Gap) (o : Nat),
    Outcome (iterateFrom (memberOf s depth) (d, first)
        ⟨g.chars ++ Member.listText first ms ++ inner.chars ++ '\x7d' :: rest, o⟩)
      ('\x7d' :: rest)
      (((ms.map Member.pair).foldlM s.fillOne d).map fun d' => (d', first && ms.isEmpty)) := by
  induction ms with
  | nil =>
    intro d first g o
    obtain ⟨o', h⟩ := runOn_memberOf_brace s depth d first (g.append inner) rest o
    refine ⟨o', ?_⟩
    simp only [Member.listText, List.append_nil, ← Gap.append_chars] at h ⊢
    rw [iterateFrom_done h]
    simp
  | cons m ms ih =>
    intro d first g o
    obtain ⟨kb, k, ka, ⟨vb, v, va⟩⟩ := m
    -- the member's text as the reader takes it: key, colon and value, then what follows
    obtain ⟨R, hR⟩ : ∃ R,
        R = va.chars ++ (Member.listText false ms ++ inner.chars ++ '\x7d' :: rest) :=
      ⟨_, rfl⟩
    have htext : g.chars ++ Member.listText first (.mk kb k ka (.mk vb v va) :: ms) ++
        inner.chars ++ '\x7d' :: rest = g.chars ++ commaUnless first ++ kb.chars ++ k.chars ++
          (ka.chars ++ [':'] ++ (vb.chars ++ v.text ++ R)) := by
      simp [hR, Member.listText, Member.text, Item.text]
    have hstep :=
      runOn_memberOf s hd d first g kb k ka vb v (hR ▸ Member.delimited ms va inner rest) o
    have hpair : Member.pair (.mk kb k ka (.mk vb v va)) = (k.text, v) := rfl
    rw [htext]
    simp only [List.map_cons, hpair, List.foldlM_cons, List.isEmpty_cons, Bool.and_false]
    cases hfill : s.fillOne d (k.text, v) with
    | none =>
      -- the member is refused, and the loop fails with it
      rw [hfill] at hstep
      obtain ⟨f, c, h⟩ := hstep
      exact ⟨f, c, iterateFrom_error h⟩
    | some d' =>
      rw [hfill] at hstep
      obtain ⟨o₁, h⟩ := hstep
      have hlt : R.length < (g.chars ++ commaUnless first ++ kb.chars ++ k.chars ++
          (ka.chars ++ [':'] ++ (vb.chars ++ v.text ++ R))).length := by
        simp [Quoted.chars]
        omega
      rw [iterateFrom_yield h hlt]
      have hnext := ih d' false va o₁
      rw [hR]
      simpa using hnext

/-- The draft an object gives, its members put in one by one as the reader puts them; none when
a member is refused or a required field is left out. -/
def Schema.readMembers (s : Schema) (ms : List (String × Written)) : Option Draft :=
  (ms.foldlM s.fillOne s.empty).bind fun d =>
    match s.firstMissing? d with
    | some _ => none
    | none => some d

/-- The members of an object, read up to its closing brace. -/
theorem outcome_membersOf (s : Schema) {depth : Nat} (hd : 1 < depth) (ms : List Member)
    (inner : Gap) (rest : List Char) (o : Nat) :
    Outcome (runOn (membersOf s depth)
        ⟨Member.listText true ms ++ inner.chars ++ '\x7d' :: rest, o⟩)
      ('\x7d' :: rest) (s.readMembers (ms.map Member.pair)) := by
  have hloop := iterateFrom_memberOf s hd inner rest ms s.empty true Gap.empty o
  rw [Gap.empty_chars, List.nil_append] at hloop
  have hrun : runOn (iterate (memberOf s depth) (s.empty, true))
      ⟨Member.listText true ms ++ inner.chars ++ '\x7d' :: rest, o⟩ =
      iterateFrom (memberOf s depth) (s.empty, true)
        ⟨Member.listText true ms ++ inner.chars ++ '\x7d' :: rest, o⟩ := rfl
  rw [Reader.membersOf, runOn_bind, hrun, Schema.readMembers]
  cases hfold : (ms.map Member.pair).foldlM s.fillOne s.empty with
  | none =>
    rw [hfold] at hloop
    obtain ⟨f, c, h⟩ := hloop
    exact ⟨f, c, by rw [h]⟩
  | some d =>
    -- every member was taken: the fields left out decide
    rw [hfold] at hloop
    obtain ⟨o', h⟩ := hloop
    rw [h]
    dsimp only [Option.bind]
    cases s.firstMissing? d with
    | none => exact ⟨o', rfl⟩
    | some f => exact ⟨_, _, rfl⟩

/-! ### Whole texts -/

theorem runOn_attempt (r : Reader α) (c : Cursor) :
    runOn (attempt r) c = (.ok (runOn r c).1, (runOn r c).2) :=
  rfl

/-- A body that fails fails the same way when its closer runs after it. -/
theorem runOn_closedBy_error {body : Reader α} (close : Reader Unit) {c c' : Cursor}
    {f : Failure} (hb : runOn body c = (.error f, c')) :
    ∃ c'', runOn (closedBy body close) c = (.error f, c'') := by
  rw [closedBy, runOn_bind, runOn_attempt, hb]
  dsimp only
  rw [runOn_bind, runOn_attempt]
  exact ⟨_, rfl⟩

/-- A body that ends as `x`, followed by a closer that reads what it left. -/
theorem Outcome.closedBy {body : Reader α} {close : Reader Unit} {c : Cursor}
    {p rest : List Char} {x : Option α} (hc : Reads close p ())
    (hb : Outcome (runOn body c) (p ++ rest) x) :
    Outcome (runOn (Reader.closedBy body close) c) rest x := by
  cases x with
  | none =>
    obtain ⟨f, c', h⟩ := hb
    obtain ⟨c'', h'⟩ := runOn_closedBy_error close h
    exact ⟨f, c'', h'⟩
  | some a =>
    obtain ⟨o, h⟩ := hb
    obtain ⟨o', h'⟩ := hc rest o
    exact ⟨o', runOn_closedBy h h'⟩

/-- A body that starts with a step that succeeds: the step, then the rest of the body closed. -/
theorem runOn_closedBy_bind {x : Reader α} {k : α → Reader β}
    {close : Reader Unit} {c c' : Cursor} {a : α} (h : runOn x c = (.ok a, c')) :
    runOn (closedBy (x >>= k) close) c = runOn (closedBy (k a) close) c' := by
  rw [closedBy, closedBy, runOn_bind, runOn_bind, runOn_attempt, runOn_attempt, runOn_bind, h]

/-- A body that starts with a step that ends as `a?` and goes on, closed, as `g` says. -/
theorem Outcome.closedBy_bind {x : Reader α} {k : α → Reader β} {close : Reader Unit}
    {c : Cursor} {r r' : List Char} {a? : Option α} {g : α → Option β}
    (hx : Outcome (runOn x c) r a?)
    (hk : ∀ a o, Outcome (runOn (Reader.closedBy (k a) close) ⟨r, o⟩) r' (g a)) :
    Outcome (runOn (Reader.closedBy (x >>= k) close) c) r' (a?.bind g) := by
  cases a? with
  | none =>
    obtain ⟨f, c', h⟩ := hx
    obtain ⟨c'', h'⟩ := runOn_closedBy_error close
      (show runOn (x >>= k) c = (.error f, c') by rw [runOn_bind, h])
    exact ⟨f, c'', h'⟩
  | some a =>
    obtain ⟨o, h⟩ := hx
    rw [runOn_closedBy_bind h]
    exact hk a o

/-- A body that succeeds, followed by a closer that fails. -/
theorem runOn_closedBy_close_error {body : Reader α} {close : Reader Unit}
    {c c₁ c₂ : Cursor} {a : α} {f : Failure} (hb : runOn body c = (.ok a, c₁))
    (hc : runOn close c₁ = (.error f, c₂)) :
    runOn (closedBy body close) c = (.error f, c₂) := by
  rw [closedBy, runOn_bind, runOn_attempt, hb]
  dsimp only
  rw [runOn_bind, runOn_attempt, hc]
  rfl

/-- **An object is read as a record**, after any blanks and with room for one more level of
nesting in its fields: its members are put into the draft one by one, and the record is read
when the draft takes them all and leaves out no required field. -/
theorem outcome_record_object (s : Schema) {depth : Nat} (hd : 2 < depth) (g : Gap)
    (ms : List Member) (inner : Gap) (rest : List Char) (o : Nat) :
    Outcome (runOn (record s depth) ⟨g.chars ++ (Written.obj ms inner).text ++ rest, o⟩) rest
      (s.readMembers (ms.map Member.pair)) := by
  have htext : g.chars ++ (Written.obj ms inner).text ++ rest =
      g.chars ++ '\x7b' :: (Member.listText true ms ++ inner.chars ++ '\x7d' :: rest) := by
    simp [Written.text]
  rw [htext]
  obtain ⟨o₁, h₁⟩ :=
    runOn_peekPastBlank_gap g (show isJsonBlank '\x7b' = false by decide) _ o
  apply Outcome.placed
  rw [runOn_bind, h₁]
  simp only [show ¬depth ≤ 1 by omega, if_false]
  rw [runOn_bind, runOn_bump_cons]
  exact Outcome.closedBy Reads.closeObject (outcome_membersOf s (by omega) ms inner rest _)

/-- After the value, nothing but blanks. -/
theorem runOn_finish (g : Gap) (o : Nat) :
    ∃ o', runOn finish ⟨g.chars, o⟩ = (.ok (), ⟨[], o'⟩) := by
  obtain ⟨o', h⟩ := runOn_peekPastBlank_gap_nil g o
  exact ⟨o', by rw [finish, runOn_bind, h]; rfl⟩

/-- A whole text read as a record: the record, then nothing but blanks. -/
theorem Schema.ofText_toOption (s : Schema) {before after : Gap} {v : Written} {x : Option Draft}
    (h : ∀ o, Outcome
      (runOn (record s depthBudget) ⟨before.chars ++ v.text ++ after.chars, o⟩) after.chars x) :
    (s.ofText (String.ofList (Item.mk before v after).text)).toOption = x := by
  rw [Schema.ofText, Cursor.ofText, String.toList_ofList, Item.text, runOn_bind]
  cases x with
  | none =>
    obtain ⟨f, c, hr⟩ := h 0
    rw [hr]
    rfl
  | some d =>
    obtain ⟨o, hr⟩ := h 0
    obtain ⟨o', hf⟩ := runOn_finish after o
    rw [hr]
    dsimp only
    rw [runOn_bind, hf]
    rfl

/-- **Reading a record from a text whose value is an object** succeeds exactly when the members,
put into the draft one by one, are all taken and no required field is left out, and it gives that
draft; blanks anywhere between tokens change nothing. -/
theorem Schema.ofText_object (s : Schema) (before after inner : Gap) (ms : List Member) :
    (s.ofText (String.ofList (Item.mk before (.obj ms inner) after).text)).toOption =
      s.readMembers (ms.map Member.pair) :=
  s.ofText_toOption fun o => outcome_record_object s (by decide) before ms inner after.chars o

/-! ### Arrays -/

/-- The draft an array gives for the fields `fs`, one item for each field in order: a field with
no item left is left out, unless it is required. -/
def readItems : List Field → List Written → Option Draft
  | [], _ => some []
  | f :: fs, [] => if f.required then none else (none :: ·) <$> readItems fs []
  | f :: fs, v :: vs => (f.slot.take v).bind fun e => (some e :: ·) <$> readItems fs vs

/-- The draft an array gives, if it has no more items than the record has fields. -/
def Schema.readArray (s : Schema) (vs : List Written) : Option Draft :=
  if vs.length ≤ s.fields.length then readItems s.fields vs else none

/-- Before an item, after any blanks and the comma unless it is the first, another element
follows. -/
theorem runOn_nextElement_item (first : Bool) (g b : Gap) (v : Written) (r : List Char)
    (o : Nat) :
    ∃ o', runOn (nextElement first)
        ⟨g.chars ++ commaUnless first ++ b.chars ++ v.text ++ r, o⟩ =
      (.ok true, ⟨v.text ++ r, o'⟩) := by
  obtain ⟨p, hv⟩ := v.text_eq_head_cons
  have hhead := v.head_not_delimiter
  rw [hv, List.cons_append]
  cases first
  · -- the comma, then the blanks before the item
    have htext : g.chars ++ commaUnless false ++ b.chars ++ (v.head :: p) ++ r =
        g.chars ++ ',' :: (b.chars ++ v.head :: (p ++ r)) := by
      simp [commaUnless]
    obtain ⟨o₁, h₁⟩ := runOn_peekPastBlank_gap g (show isJsonBlank ',' = false by decide)
      (b.chars ++ v.head :: (p ++ r)) o
    obtain ⟨o₂, h₂⟩ := runOn_peekPastBlank_gap b hhead.1 (p ++ r) (o₁ + ','.utf8Size)
    refine ⟨o₂, ?_⟩
    rw [htext, nextElement, runOn_bind, h₁]
    dsimp only
    split
    · next heq => exact absurd (Option.some.inj heq) (by decide)
    · next heq => cases heq
    · next heq =>
      cases Option.some.inj heq
      simp only [Bool.not_false, and_self, if_true]
      rw [runOn_bind, runOn_bump_cons]
      dsimp only
      rw [runOn_bind, h₂]
      dsimp only
      split
      · next heq => exact absurd (Option.some.inj heq) hhead.2.2.1
      · rfl
      · next heq => cases heq
  · -- the blanks before the first item
    have htext : g.chars ++ commaUnless true ++ b.chars ++ (v.head :: p) ++ r =
        (g.append b).chars ++ v.head :: (p ++ r) := by
      simp [commaUnless]
    obtain ⟨o₁, h₁⟩ := runOn_peekPastBlank_gap (g.append b) hhead.1 (p ++ r) o
    refine ⟨o₁, ?_⟩
    rw [htext, nextElement, runOn_bind, h₁]
    dsimp only
    split
    · next heq => exact absurd (Option.some.inj heq) hhead.2.2.1
    · next heq => cases heq
    · simp

/-- At the closing bracket, after any blanks, no element follows. -/
theorem runOn_nextElement_close (first : Bool) (g : Gap) (rest : List Char) (o : Nat) :
    ∃ o', runOn (nextElement first) ⟨g.chars ++ ']' :: rest, o⟩ =
      (.ok false, ⟨']' :: rest, o'⟩) := by
  obtain ⟨o', h⟩ := runOn_peekPastBlank_gap g (show isJsonBlank ']' = false by decide) rest o
  exact ⟨o', by rw [nextElement, runOn_bind, h]; rfl⟩

/-- Where the closing bracket should be, another item fails. -/
theorem runOn_closeArray_item (first : Bool) (g b : Gap) (v : Written) (r : List Char)
    (o : Nat) :
    ∃ f c, runOn closeArray ⟨g.chars ++ commaUnless first ++ b.chars ++ v.text ++ r, o⟩ =
      (.error f, c) := by
  obtain ⟨p, hv⟩ := v.text_eq_head_cons
  have hhead := v.head_not_delimiter
  rw [hv]
  cases first
  · -- a comma: whatever follows it, the array does not close
    have htext : g.chars ++ commaUnless false ++ b.chars ++ (v.head :: p) ++ r =
        g.chars ++ ',' :: (b.chars ++ v.head :: (p ++ r)) := by
      simp [commaUnless]
    obtain ⟨o₁, h₁⟩ := runOn_peekPastBlank_gap g (show isJsonBlank ',' = false by decide)
      (b.chars ++ v.head :: (p ++ r)) o
    rw [htext, closeArray, runOn_bind, h₁]
    dsimp only
    refine AlwaysFails.bind (fun _ => AlwaysFails.bind fun x => ?_) _
    split
    · exact AlwaysFails.failAhead _
    · exact AlwaysFails.failAhead _
  · -- the item itself
    have htext : g.chars ++ commaUnless true ++ b.chars ++ (v.head :: p) ++ r =
        (g.append b).chars ++ v.head :: (p ++ r) := by
      simp [commaUnless]
    obtain ⟨o₁, h₁⟩ := runOn_peekPastBlank_gap (g.append b) hhead.1 (p ++ r) o
    rw [htext, closeArray, runOn_bind, h₁]
    dsimp only
    split
    · next heq => exact absurd (Option.some.inj heq) hhead.2.2.1
    · next heq => exact absurd (Option.some.inj heq) hhead.2.1
    · exact AlwaysFails.failAhead _ _
    · next heq => cases heq

/-- **The element loop reads the items of an array**, from any point between two items, one
item for each field left, and the array is closed after it: the draft is read when no item is
refused, no required field is left without one, and the items run out no later than the fields. -/
theorem outcome_elementsOf_go (s : Schema) {depth : Nat} (hd : 1 < depth) (rest : List Char)
    (fs : List Field) :
    ∀ (i : Nat) (first : Bool) (acc : Draft) (items : List Item) (g inner : Gap) (o : Nat),
    Outcome (runOn (closedBy (elementsOf.go s depth fs i first acc) closeArray)
        ⟨g.chars ++ Item.listText first items ++ inner.chars ++ ']' :: rest, o⟩) rest
      (if items.length ≤ fs.length then
        (readItems fs (items.map Item.value)).map (acc.reverse ++ ·) else none) := by
  induction fs with
  | nil =>
    intro i first acc items g inner o
    cases items with
    | nil =>
      -- no field and no item left: the array closes
      have hc : Reads closeArray ((g.append inner).chars ++ [']']) () :=
        Reads.gap_peek _ (by decide) (Reads.bump ']')
      have h := Outcome.closedBy hc
        (Outcome.pure acc.reverse ((g.append inner).chars ++ [']'] ++ rest) o)
      simpa [elementsOf.go, readItems, Item.listText] using h
    | cons it its =>
      -- an item more than the fields: the closing bracket is not there
      obtain ⟨b, v, a⟩ := it
      obtain ⟨f, c, h⟩ := runOn_closeArray_item first g b v
        (a.chars ++ Item.listText false its ++ inner.chars ++ ']' :: rest) o
      refine ⟨f, c, ?_⟩
      have htext : g.chars ++ Item.listText first (.mk b v a :: its) ++ inner.chars ++
          ']' :: rest = g.chars ++ commaUnless first ++ b.chars ++ v.text ++
            (a.chars ++ Item.listText false its ++ inner.chars ++ ']' :: rest) := by
        simp [Item.listText, Item.text]
      rw [htext]
      exact runOn_closedBy_close_error rfl h
  | cons f fs ih =>
    intro i first acc items g inner o
    cases items with
    | nil =>
      -- the items ran out: the field is left out, unless it is required
      obtain ⟨o₁, h₁⟩ := runOn_nextElement_close first (g.append inner) rest o
      have htext : g.chars ++ Item.listText first [] ++ inner.chars ++ ']' :: rest =
          (g.append inner).chars ++ ']' :: rest := by
        simp [Item.listText]
      rw [htext, elementsOf.go, runOn_closedBy_bind h₁]
      simp only [Bool.false_eq_true, if_false]
      cases hreq : f.required
      · have hnext := ih (i + 1) first (none :: acc) [] Gap.empty Gap.empty o₁
        simp only [Gap.empty_chars, Item.listText, List.nil_append] at hnext
        simpa [readItems, hreq, Function.comp_def] using hnext
      · simp only [List.map_nil, List.length_nil, List.length_cons, readItems, hreq, if_true,
          Option.map_none, ite_self]
        obtain ⟨c, h⟩ := runOn_closedBy_error closeArray
          (rfl : runOn (failUnplaced (.invalidLength i s.withElements) : Reader Draft)
            ⟨']' :: rest, o₁⟩ = (.error ⟨.invalidLength i s.withElements, none⟩, _))
        exact ⟨_, c, h⟩
    | cons it its =>
      -- the next item, read for the field
      obtain ⟨b, v, a⟩ := it
      obtain ⟨R, hR⟩ : ∃ R,
          R = a.chars ++ Item.listText false its ++ inner.chars ++ ']' :: rest :=
        ⟨_, rfl⟩
      have htext : g.chars ++ Item.listText first (.mk b v a :: its) ++ inner.chars ++
          ']' :: rest = g.chars ++ commaUnless first ++ b.chars ++ v.text ++ R := by
        simp [hR, Item.listText, Item.text]
      obtain ⟨o₁, h₁⟩ := runOn_nextElement_item first g b v R o
      rw [htext, elementsOf.go, runOn_closedBy_bind h₁]
      simp only [if_true]
      have hentry := (Takes.entry hd Gap.empty f.slot v).outcome R o₁
      simp only [Gap.empty_chars, List.nil_append] at hentry
      -- the entry, then the loop from the next field on, whichever way the entry ends
      have h := Outcome.closedBy_bind hentry fun e o₂ => by
        have hnext := ih (i + 1) false (some e :: acc) its a inner o₂
        rwa [← hR] at hnext
      refine (congrArg (Outcome _ rest) ?_).mpr h
      cases ht : f.slot.take v <;> simp [readItems, ht, Item.value, Function.comp_def]

/-- **An array is read as a record**, after any blanks and with room for one more level of
nesting in its fields: its items are the fields' values in field order. -/
theorem outcome_record_array (s : Schema) {depth : Nat} (hd : 2 < depth) (g : Gap)
    (items : List Item) (inner : Gap) (rest : List Char) (o : Nat) :
    Outcome (runOn (record s depth) ⟨g.chars ++ (Written.arr items inner).text ++ rest, o⟩) rest
      (s.readArray (items.map Item.value)) := by
  have htext : g.chars ++ (Written.arr items inner).text ++ rest =
      g.chars ++ '[' :: (Gap.empty.chars ++ Item.listText true items ++ inner.chars ++
        ']' :: rest) := by
    simp [Written.text]
  rw [htext]
  obtain ⟨o₁, h₁⟩ := runOn_peekPastBlank_gap g (show isJsonBlank '[' = false by decide) _ o
  apply Outcome.placed
  rw [runOn_bind, h₁]
  simp only [show ¬depth ≤ 1 by omega, if_false]
  rw [runOn_bind, runOn_bump_cons]
  have h := outcome_elementsOf_go s (show 1 < depth - 1 by omega) rest s.fields 0 true [] items
    Gap.empty inner (o₁ + '['.utf8Size)
  simpa [Schema.readArray, elementsOf] using h

/-- **Reading a record from a text whose value is an array** succeeds exactly when the items,
taken as the fields' values in field order, are all taken, no required field is left without
one, and there are no more items than fields; it gives that draft. -/
theorem Schema.ofText_array (s : Schema) (before after inner : Gap) (items : List Item) :
    (s.ofText (String.ofList (Item.mk before (.arr items inner) after).text)).toOption =
      s.readArray (items.map Item.value) :=
  s.ofText_toOption fun o => outcome_record_array s (by decide) before items inner after.chars o

end Homescreen.Json
