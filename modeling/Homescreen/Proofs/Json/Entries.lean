import Homescreen.Proofs.Json.Skipping

/-!
# Field values in any text

Where a record's field is read, the reader of its slot (`Reader.entry`) meets a value of any
kind, with any blanks before it. It reads a value of a kind the slot takes whole and returns its
entry, and it fails on a value of any other kind (`Takes.entry`).

`Slot.take` says which values a slot takes and the entry each gives, without the reader: a string
for a text; a string or null for an optional text; a boolean for a flag; for a tag, a known name,
as a string or as the only key of an object whose value is null.

`Fails r pre` says that `r` fails on `pre` whatever follows it, and `Takes r pre x` joins it to
`Reads`: `r` reads `pre` and returns `a` when `x` is `some a`, and fails on it when `x` is none.
The readers behind "invalid type" failures fail wherever they start (`AlwaysFails`), so a reader
fails on a value as soon as it looks at a first character it does not take.
-/

namespace Homescreen.Json

open Reader

variable {α β : Type}

/-! ### Failing -/

/-- A reader that fails wherever it starts. -/
def AlwaysFails (r : Reader α) : Prop :=
  ∀ c, ∃ f c', runOn r c = (.error f, c')

/-- `r` fails on `pre` followed by anything. -/
def Fails (r : Reader α) (pre : List Char) : Prop :=
  ∀ rest o, ∃ f c, runOn r ⟨pre ++ rest, o⟩ = (.error f, c)

/-- `r` reads `pre` and returns `a` when given `some a`, and fails on `pre` when given none. -/
def Takes (r : Reader α) (pre : List Char) : Option α → Prop
  | some a => Reads r pre a
  | none => Fails r pre

namespace AlwaysFails

theorem fails {r : Reader α} (h : AlwaysFails r) (pre : List Char) : Fails r pre :=
  fun rest o => h ⟨pre ++ rest, o⟩

theorem throw (f : Failure) : AlwaysFails (throw f : Reader α) :=
  fun c => ⟨f, c, rfl⟩

/-- A reader fails wherever it starts when whatever it goes on with does. -/
theorem bind {x : Reader α} {f : α → Reader β} (h : ∀ a, AlwaysFails (f a)) :
    AlwaysFails (x >>= f) := by
  intro c
  rw [runOn_bind]
  rcases runOn x c with ⟨_ | a, c'⟩
  · exact ⟨_, _, rfl⟩
  · exact h a c'

theorem failAt (p : Problem) (o : Nat) : AlwaysFails (Reader.failAt p o : Reader α) :=
  throw _

theorem failUnplaced (p : Problem) : AlwaysFails (Reader.failUnplaced p : Reader α) :=
  throw _

theorem failHere (p : Problem) : AlwaysFails (Reader.failHere p : Reader α) :=
  bind fun _ => failAt _ _

theorem failAhead (p : Problem) : AlwaysFails (Reader.failAhead p : Reader α) :=
  bind fun _ => failAt _ _

end AlwaysFails

/-- Placing a failure keeps it a failure. -/
theorem runOn_placed_of_error {r : Reader α} {c c' : Cursor} {f : Failure}
    (h : runOn r c = (.error f, c')) : ∃ f' c'', runOn (placed r) c = (.error f', c'') := by
  simp only [runOn, Reader.placed, ExceptT.run_tryCatch, StateT.run_bind] at h ⊢
  rw [h]
  -- the failure is thrown again, with or without the place where reading stopped
  obtain ⟨p, _ | o⟩ := f
  · exact (AlwaysFails.bind fun _ => AlwaysFails.failAt _ _) c'
  · exact AlwaysFails.throw _ c'

theorem AlwaysFails.placed {r : Reader α} (h : AlwaysFails r) : AlwaysFails (Reader.placed r) := by
  intro c
  obtain ⟨f, c', hr⟩ := h c
  exact runOn_placed_of_error hr

/-- **A value that was not wanted fails**, whatever it is: it is read to be named, then refused. -/
theorem alwaysFails_foundAhead (expected : String) :
    AlwaysFails (foundAhead expected : Reader α) := by
  unfold foundAhead
  apply AlwaysFails.placed
  apply AlwaysFails.bind
  intro x
  dsimp only
  -- every branch reads what it finds, if it can, and then fails naming it; only the branch of
  -- a digit or another character splits once more
  split
  all_goals try split
  all_goals
    repeat (refine AlwaysFails.bind fun _ => ?_)
    exact AlwaysFails.failUnplaced _

namespace Fails

theorem bind {x : Reader α} {f : α → Reader β} {p : List Char} (h : Fails x p) :
    Fails (x >>= f) p := by
  intro rest o
  obtain ⟨e, c, hx⟩ := h rest o
  exact ⟨e, c, by rw [runOn_bind, hx]⟩

theorem map {x : Reader α} {p : List Char} (g : α → β) (h : Fails x p) :
    Fails (g <$> x) p := by
  rw [map_eq_pure_bind]
  exact h.bind

theorem placed {r : Reader α} {p : List Char} (h : Fails r p) : Fails (Reader.placed r) p := by
  intro rest o
  obtain ⟨f, c, hr⟩ := h rest o
  exact runOn_placed_of_error hr

/-- A reader that looks past blanks first fails when it fails on what it sees. -/
theorem gap_peek {f : Option Char → Reader β} {c : Char} {p : List Char} (g : Gap)
    (hc : isJsonBlank c = false) (h : Fails (f (some c)) (c :: p)) :
    Fails (peekPastBlank >>= f) (g.chars ++ c :: p) := by
  intro rest o
  obtain ⟨o₁, h₁⟩ := runOn_peekPastBlank_gap g hc (p ++ rest) o
  obtain ⟨e, c', h₂⟩ := h rest o₁
  refine ⟨e, c', ?_⟩
  rw [List.append_assoc, List.cons_append, runOn_bind, h₁]
  exact h₂

/-- Fails on a value when it fails on the value's first character, whatever follows. -/
theorem written {r : Reader α} {g : Gap} {v : Written}
    (h : ∀ p, Fails r (g.chars ++ v.head :: p)) : Fails r (g.chars ++ v.text) := by
  obtain ⟨p, hv⟩ := v.text_eq_head_cons
  rw [hv]
  exact h p

end Fails

/-- A reader that reads `p` and then fails on `q` fails on `p ++ q`. -/
theorem Reads.bind_fails {x : Reader α} {f : α → Reader β} {p q : List Char} {a : α}
    (hx : Reads x p a) (hf : Fails (f a) q) : Fails (x >>= f) (p ++ q) := by
  intro rest o
  obtain ⟨o₁, h₁⟩ := hx (q ++ rest) o
  obtain ⟨e, c, h₂⟩ := hf rest o₁
  refine ⟨e, c, ?_⟩
  rw [List.append_assoc, runOn_bind, h₁]
  exact h₂

namespace Takes

theorem map {x : Reader α} {p : List Char} {a? : Option α} (g : α → β) (h : Takes x p a?) :
    Takes (g <$> x) p (a?.map g) := by
  cases a? with
  | none => exact Fails.map g h
  | some a => exact Reads.map g h

theorem placed {r : Reader α} {p : List Char} {a? : Option α} (h : Takes r p a?) :
    Takes (Reader.placed r) p a? := by
  cases a? with
  | none => exact Fails.placed h
  | some a => exact Reads.placed h

theorem gap_peek {f : Option Char → Reader β} {c : Char} {p : List Char} {b? : Option β}
    (g : Gap) (hc : isJsonBlank c = false) (h : Takes (f (some c)) (c :: p) b?) :
    Takes (peekPastBlank >>= f) (g.chars ++ c :: p) b? := by
  cases b? with
  | none => exact Fails.gap_peek g hc h
  | some b => exact Reads.gap_peek g hc h

/-- A reader that reads `p` and then takes `q`. -/
theorem bind {x : Reader α} {f : α → Reader β} {p q : List Char} {a : α} {b? : Option β}
    (hx : Reads x p a) (hf : Takes (f a) q b?) : Takes (x >>= f) (p ++ q) b? := by
  cases b? with
  | none => exact hx.bind_fails hf
  | some b => exact hx.bind hf

theorem bind_nil {x : Reader α} {f : α → Reader β} {p : List Char} {a : α} {b? : Option β}
    (hx : Reads x p a) (hf : Takes (f a) [] b?) : Takes (x >>= f) p b? := by
  have h := Takes.bind hx hf
  rwa [List.append_nil] at h

/-- A reader that takes `p` and then, from what it got, takes `q`: it fails as soon as one of the
two does. -/
theorem bind_bind {x : Reader α} {f : α → Reader β} {p q : List Char} {a? : Option α}
    {g : α → Option β} (hx : Takes x p a?) (hf : ∀ a, Takes (f a) q (g a)) :
    Takes (x >>= f) (p ++ q) (a?.bind g) := by
  cases a? with
  | none =>
    intro rest o
    obtain ⟨e, c, h⟩ := (hx : Fails x p) (q ++ rest) o
    exact ⟨e, c, by rw [List.append_assoc, runOn_bind, h]⟩
  | some a => exact Takes.bind hx (hf a)

end Takes

/-! ### What a slot takes -/

/-- The string a value is, if it is one. -/
def Written.string? : Written → Option String
  | .str q => some q.text
  | _ => none

/-- The boolean a value is, if it is one. -/
def Written.bool? : Written → Option Bool
  | .bool b => some b
  | _ => none

/-- Null, if the value is null. -/
def Written.null? : Written → Option Unit
  | .null => some ()
  | _ => none

/-- The position of the name a value gives in a list of names, if it gives one that is there: a
string, or an object with one member whose value is null. -/
def Written.tagName? (names : List String) : Written → Option Nat
  | .str q => indexIn names q.text
  | .obj [.mk _ k _ (.mk _ .null _)] _ => indexIn names k.text
  | _ => none

/-- **The entry a slot takes from a value**, if it takes the value: a string for a text; a
string or null for an optional text; a boolean for a flag; a known name for a tag. -/
def Slot.take : Slot → Written → Option Entry
  | .text, v => Entry.text <$> v.string?
  | .optionalText, .null => some .null
  | .optionalText, v => Entry.text <$> v.string?
  | .flag, v => Entry.flag <$> v.bool?
  | .tag names, v => Entry.tag <$> v.tagName? names

/-! ### Strings -/

/-- A written string reads as the string it stands for, after any blanks. -/
theorem Reads.textValue_quoted (expected : String) (g : Gap) (q : Quoted) :
    Reads (Reader.textValue expected) (g.chars ++ q.chars) q.text := by
  apply Reads.placed
  apply Reads.gap_peek g (by decide)
  exact (Reads.bump '"').bind (Reads.quoted q)

/-- Where a string is expected, a value that does not start with a quote fails. -/
theorem Fails.textValue (expected : String) (g : Gap) {v : Written} (hq : v.head ≠ '"') :
    Fails (Reader.textValue expected) (g.chars ++ v.text) := by
  refine Fails.written fun p => Fails.placed (Fails.gap_peek g v.head_not_delimiter.1 ?_)
  split
  case h_1 => exact (AlwaysFails.failAhead _).fails _
  case h_2 heq => exact absurd (Option.some.inj heq) hq
  case h_3 => exact (alwaysFails_foundAhead _).fails _

/-- **Where a string is expected**, a string is read and any other value fails. -/
theorem Takes.textValue (expected : String) (g : Gap) (v : Written) :
    Takes (Reader.textValue expected) (g.chars ++ v.text) v.string? := by
  cases v with
  | str q => exact Reads.textValue_quoted expected g q
  | bool b => cases b <;> exact Fails.textValue expected g (by simp [Written.head])
  | _ => exact Fails.textValue expected g (by simp [Written.head])

/-! ### Flags and optional strings -/

theorem Fails.flag (depth : Nat) (g : Gap) {v : Written} (ht : v.head ≠ 't')
    (hf : v.head ≠ 'f') :
    Fails (entry depth .flag) (g.chars ++ v.text) := by
  refine Fails.written fun p => Fails.placed (Fails.gap_peek g v.head_not_delimiter.1 ?_)
  split
  case h_1 => exact (AlwaysFails.failAhead _).fails _
  case h_2 heq => exact absurd (Option.some.inj heq) ht
  case h_3 heq => exact absurd (Option.some.inj heq) hf
  case h_4 => exact (alwaysFails_foundAhead _).fails _

/-- Where a boolean is expected, a boolean is read and any other value fails. -/
theorem Takes.flag (depth : Nat) (g : Gap) (v : Written) :
    Takes (entry depth .flag) (g.chars ++ v.text) (Entry.flag <$> v.bool?) := by
  cases v with
  | bool b =>
    apply Reads.placed
    cases b
    · apply Reads.gap_peek g (by decide)
      exact (Reads.bump 'f').bind ((Reads.word _).bind (Reads.pure _))
    · apply Reads.gap_peek g (by decide)
      exact (Reads.bump 't').bind ((Reads.word _).bind (Reads.pure _))
  | _ => exact Fails.flag depth g (by simp [Written.head]) (by simp [Written.head])

/-- Where a string or null is expected, a value that is not null is read as a string is. -/
theorem Takes.optionalText_of_ne (depth : Nat) (g : Gap) {v : Written} (hn : v.head ≠ 'n') :
    Takes (entry depth .optionalText) (g.chars ++ v.text) (Entry.text <$> v.string?) := by
  obtain ⟨p, hv⟩ := v.text_eq_head_cons
  rw [hv]
  apply Takes.gap_peek g v.head_not_delimiter.1
  split
  case h_1 heq => exact absurd (Option.some.inj heq) hn
  case h_2 =>
    rw [← hv]
    exact (Takes.textValue _ Gap.empty v).map Entry.text

/-- Where a string or null is expected, null and strings are read and any other value fails. -/
theorem Takes.optionalText (depth : Nat) (g : Gap) (v : Written) :
    Takes (entry depth .optionalText) (g.chars ++ v.text) (Slot.optionalText.take v) := by
  cases v with
  | null =>
    apply Reads.gap_peek g (by decide)
    exact (Reads.bump 'n').bind ((Reads.word _).bind (Reads.pure _))
  | bool b => cases b <;> exact Takes.optionalText_of_ne depth g (by simp [Written.head])
  | _ => exact Takes.optionalText_of_ne depth g (by simp [Written.head])

/-! ### Tags -/

theorem Fails.unitValue (g : Gap) {v : Written} (hn : v.head ≠ 'n') :
    Fails unitValue (g.chars ++ v.text) := by
  refine Fails.written fun p => Fails.placed (Fails.gap_peek g v.head_not_delimiter.1 ?_)
  split
  case h_1 => exact (AlwaysFails.failAhead _).fails _
  case h_2 heq => exact absurd (Option.some.inj heq) hn
  case h_3 => exact (alwaysFails_foundAhead _).fails _

/-- The value of a tag written as an object is null, and nothing else. -/
theorem Takes.unitValue (g : Gap) (v : Written) : Takes unitValue (g.chars ++ v.text) v.null? := by
  cases v with
  | null =>
    apply Reads.placed
    apply Reads.gap_peek g (by decide)
    exact (Reads.bump 'n').bind (Reads.word _)
  | bool b => cases b <;> exact Fails.unitValue g (by simp [Written.head])
  | _ => exact Fails.unitValue g (by simp [Written.head])

/-- A written string gives the position of its text in a list of names, if it is there. -/
theorem Takes.tagName (names : List String) (g : Gap) (q : Quoted) :
    Takes (tagName names) (g.chars ++ q.chars) (indexIn names q.text) := by
  apply Takes.placed
  apply Takes.gap_peek g (by decide)
  refine Takes.bind (Reads.bump '"') (Takes.bind_nil (Reads.quoted q) ?_)
  cases indexIn names q.text with
  | none => exact (AlwaysFails.failUnplaced _).fails _
  | some i => exact Reads.pure i

theorem Takes.tagKey (names : List String) (g : Gap) (q : Quoted) :
    Takes (tagKey names) (g.chars ++ q.chars) (indexIn names q.text) := by
  apply Takes.gap_peek g (by decide)
  exact Takes.tagName names Gap.empty q

/-- An object with no member names no tag. -/
theorem Fails.tagKey_close (names : List String) (g : Gap) :
    Fails (tagKey names) (g.chars ++ ['\x7d']) := by
  apply Fails.gap_peek g (by decide)
  exact (AlwaysFails.failAhead _).fails _

/-- **A tag written as an object** is read when the object has one member, whose key is a known
name and whose value is null; any other object fails. -/
theorem Takes.tagObject (names : List String) {depth : Nat} (hd : 1 < depth) (g : Gap)
    (members : List Member) (inner : Gap) :
    Takes (entry depth (.tag names)) (g.chars ++ (Written.obj members inner).text)
      (Entry.tag <$> (Written.obj members inner).tagName? names) := by
  have htext : (Written.obj members inner).text =
      '\x7b' :: (Member.listText true members ++ inner.chars ++ ['\x7d']) := rfl
  rw [htext]
  apply Takes.gap_peek g (by decide)
  simp only [show ¬depth ≤ 1 by omega, if_false]
  refine Takes.bind (Reads.bump '\x7b') ?_
  show Takes _ (Member.listText true members ++ inner.chars ++ ['\x7d']) _
  cases members with
  | nil => exact Fails.bind (Fails.tagKey_close names inner)
  | cons m ms =>
    obtain ⟨kb, k, ka, ⟨vb, v, va⟩⟩ := m
    -- the key, the colon, the value, and then the closing brace or whatever else follows
    have hval : Entry.tag <$> (Written.obj (.mk kb k ka (.mk vb v va) :: ms) inner).tagName? names =
        (indexIn names k.text).bind fun i => v.null?.bind fun _ =>
          if ms.isEmpty then some (Entry.tag i) else none := by
      cases v <;> cases ms <;> simp only [Written.tagName?, Written.null?] <;>
        cases indexIn names k.text <;> rfl
    have hmember : Member.listText true (.mk kb k ka (.mk vb v va) :: ms) ++ inner.chars ++
        ['\x7d'] = (kb.chars ++ k.chars) ++ ((ka.chars ++ [':']) ++ ((vb.chars ++ v.text) ++
          (va.chars ++ (Member.listText false ms ++ inner.chars ++ ['\x7d'])))) := by
      simp [Member.listText, Member.text, Item.text, commaUnless]
    rw [hval, hmember]
    refine Takes.bind_bind (Takes.tagKey names kb k) fun i => ?_
    refine Takes.bind (Reads.colon_gap ka) ?_
    refine Takes.bind_bind (Takes.unitValue vb v) fun _ => ?_
    cases ms with
    | nil =>
      have hclose : va.chars ++ (Member.listText false [] ++ inner.chars ++ ['\x7d']) =
          (va.append inner).chars ++ ['\x7d'] := by
        simp [Member.listText]
      rw [hclose]
      apply Reads.gap_peek _ (by decide)
      exact (Reads.bump '\x7d').bind (Reads.pure _)
    | cons m' ms' =>
      -- a second member: a comma where the brace should be
      apply Fails.gap_peek va (by decide)
      exact (AlwaysFails.failHere _).fails _

theorem Fails.tag (names : List String) (depth : Nat) (g : Gap) {v : Written}
    (hb : v.head ≠ '\x7b') (hq : v.head ≠ '"') :
    Fails (entry depth (.tag names)) (g.chars ++ v.text) := by
  refine Fails.written fun p => Fails.gap_peek g v.head_not_delimiter.1 ?_
  split
  case h_1 heq => exact absurd (Option.some.inj heq) hb
  case h_2 heq => exact absurd (Option.some.inj heq) hq
  case h_3 => exact (AlwaysFails.failAhead _).fails _
  case h_4 => exact (AlwaysFails.failAhead _).fails _

/-- Where a tag is expected, a known name is read, as a string or as the only key of an object
whose value is null; any other value fails. -/
theorem Takes.tag (names : List String) {depth : Nat} (hd : 1 < depth) (g : Gap) (v : Written) :
    Takes (entry depth (.tag names)) (g.chars ++ v.text) (Entry.tag <$> v.tagName? names) := by
  cases v with
  | str q =>
    apply Takes.gap_peek g (by decide)
    exact (Takes.tagName names Gap.empty q).map Entry.tag
  | obj members inner => exact Takes.tagObject names hd g members inner
  | bool b =>
    cases b <;> exact Fails.tag names depth g (by simp [Written.head]) (by simp [Written.head])
  | _ => exact Fails.tag names depth g (by simp [Written.head]) (by simp [Written.head])

/-! ### Fields -/

/-- **A field's value is read as its slot takes it.** With room for one more level of nesting,
the reader of a slot reads a value it takes, after any blanks, and returns its entry; it fails
on any other value. -/
theorem Takes.entry {depth : Nat} (hd : 1 < depth) (g : Gap) :
    ∀ slot v, Takes (Reader.entry depth slot) (g.chars ++ v.text) (slot.take v)
  | .text, v => (Takes.textValue _ g v).map Entry.text
  | .optionalText, v => Takes.optionalText depth g v
  | .flag, v => Takes.flag depth g v
  | .tag names, v => Takes.tag names hd g v

end Homescreen.Json
