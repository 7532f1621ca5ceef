import Homescreen.Proofs.Json.Tokens

/-!
# Skipping any value

`skipValue` reads past a value nobody asked for without building it. It keeps the arrays and
objects that are open on a stack of frames, reads one value start at a time (`skipStep`) and
closes frames as their brackets come (`settle`). Started on any value of the grammar, it reads
exactly that value, whatever its depth (`runOn_skipValue`).

The proof follows the machine. A value inside open arrays and objects stands in a **context**
(`Context`): for each open frame, innermost first, the blanks after the value, the items or
members still to come, and the blanks before the closing bracket. The text of the context is
what follows the value up to the outermost closing bracket, and its frames are the machine's
stack. From a value in a context, one step reads the value, or only its opening bracket, and
stops at the next value start (`Written.following`), with the frames of that value's context
(`runOn_skipStep`): every value is started once, in text order, and the loop ends after the
outermost one. The run lemma is an induction on how much text is left.
-/

namespace Homescreen.Json

open Reader

/-! ### Contexts -/

/-- What follows a value inside open arrays and objects, innermost first: the blanks after the
value, the items or members still to come, and the blanks before the closing bracket. -/
inductive Context where
  | top
  | inArray (after : Gap) (later : List Item) (inner : Gap) (outer : Context)
  | inObject (after : Gap) (later : List Member) (inner : Gap) (outer : Context)

/-- A value the machine is about to start: the blanks before it, the value and its context. -/
structure Pending where
  before : Gap
  value : Written
  context : Context

namespace Context

/-- The text that follows a value in its context, up to the outermost closing bracket. -/
def text : Context → List Char
  | top => []
  | inArray a later inner outer =>
    a.chars ++ Item.listText false later ++ inner.chars ++ ']' :: outer.text
  | inObject a later inner outer =>
    a.chars ++ Member.listText false later ++ inner.chars ++ '\x7d' :: outer.text

/-- The frames the machine keeps for a context. -/
def frames : Context → List Frame
  | top => []
  | inArray _ _ _ outer => .array :: outer.frames
  | inObject _ _ _ outer => .object :: outer.frames

/-- The value after the current one: the next item or member of the innermost frame that has
one, none when the outermost value ends. -/
def next : Context → Option Pending
  | top => none
  | inArray _ [] _ outer => outer.next
  | inArray _ (.mk b v a :: later) inner outer => some ⟨b, v, inArray a later inner outer⟩
  | inObject _ [] _ outer => outer.next
  | inObject _ (.mk _ _ _ (.mk b v a) :: later) inner outer =>
    some ⟨b, v, inObject a later inner outer⟩

theorem eq_top_of_frames {E : Context} (h : E.frames = []) : E = top := by
  cases E <;> simp_all [frames]

end Context

namespace Pending

/-- The text from a pending value on. -/
def text (p : Pending) : List Char :=
  p.before.chars ++ p.value.text ++ p.context.text

/-- Where the machine stands after a step: before the next value, or past everything. -/
def textOr : Option Pending → List Char
  | some p => p.text
  | none => []

/-- What a step of the machine returns: the frames of the next value, or done. -/
def step : Option Pending → ForInStep (List Frame)
  | some p => .yield p.context.frames
  | none => .done []

end Pending

/-- The next value start after `v` in the context `E`: the first element of `v` when it is an
array or object that holds one, otherwise the value after `v`. Looking for the first element of
an array, the machine has looked past the blanks before it. -/
def Written.following : Written → Context → Option Pending
  | .arr (.mk _ v a :: items) inner, E => some ⟨.empty, v, .inArray a items inner E⟩
  | .obj (.mk _ _ _ (.mk b v a) :: members) inner, E => some ⟨b, v, .inObject a members inner E⟩
  | _, E => E.next

/-! ### Closing frames -/

/-- A colon after blanks. -/
theorem Reads.colon_gap (g : Gap) : Reads Reader.colon (g.chars ++ [':']) () := by
  apply Reads.gap_peek g (by decide)
  exact Reads.bump ':'

/-- Before the value of a later member, the machine reads its key and colon. -/
theorem Reads.beginMember_object (kb : Gap) (k : Quoted) (ka : Gap) :
    Reads (beginMember .object) (kb.chars ++ k.chars ++ ka.chars ++ [':']) () := by
  have htext : kb.chars ++ k.chars ++ ka.chars ++ [':'] =
      kb.chars ++ '"' :: ((k.body ++ ['"']) ++ (ka.chars ++ [':'])) := by
    simp [Quoted.chars]
  rw [htext]
  apply Reads.gap_peek kb (by decide)
  exact (Reads.bump '"').bind ((Reads.skipQuoted k).bind (Reads.colon_gap ka))

/-- At the closing bracket of the innermost frame, `settle` closes the frame and goes on as after
the value the frame was, given how it goes on there. -/
theorem runOn_settle_closer (afterValue : Bool) (f : Frame) (g : Gap) {outer : Context}
    {rest : List Char}
    (houter : ∀ f' fs, outer.frames = f' :: fs → ∀ o, ∃ o',
      runOn (settle true f' fs) ⟨outer.text ++ rest, o⟩ =
        (.ok (outer.next.map (·.context.frames)), ⟨Pending.textOr outer.next ++ rest, o'⟩))
    (o : Nat) :
    ∃ o', runOn (settle afterValue f outer.frames)
        ⟨g.chars ++ f.closer :: (outer.text ++ rest), o⟩ =
      (.ok (outer.next.map (·.context.frames)), ⟨Pending.textOr outer.next ++ rest, o'⟩) := by
  have hcloser : isJsonBlank f.closer = false ∧ (f.closer = ',') = False := by
    cases f <;> simp only [Frame.closer] <;> decide
  obtain ⟨o₁, h₁⟩ := runOn_peekPastBlank_gap g hcloser.1 (outer.text ++ rest) o
  rw [settle.eq_def, runOn_bind, h₁]
  simp only [Option.some.injEq, hcloser.2, and_false, ↓reduceIte, runOn_bind, runOn_bump_cons]
  -- the frames around it close in turn, or the outermost value has ended
  cases hout : outer.frames with
  | nil =>
    obtain rfl := Context.eq_top_of_frames hout
    exact ⟨_, rfl⟩
  | cons f' fs => exact houter f' fs hout _

/-- **After a value inside a frame**, `settle` closes the frames whose brackets come and stops
before the next value, reading the comma and, in an object, the key and colon before it. -/
theorem runOn_settle_after (E : Context) {f : Frame} {fs : List Frame} (hE : E.frames = f :: fs)
    (rest : List Char) (o : Nat) :
    ∃ o', runOn (settle true f fs) ⟨E.text ++ rest, o⟩ =
      (.ok (E.next.map (·.context.frames)), ⟨Pending.textOr E.next ++ rest, o'⟩) := by
  induction E generalizing f fs o with
  | top => simp [Context.frames] at hE
  | inArray a later inner outer ih =>
    simp only [Context.frames, List.cons.injEq] at hE
    obtain ⟨rfl, rfl⟩ := hE
    cases later with
    | nil =>
      -- the closing bracket, then what closes the frames around it
      simpa [Context.text, Context.next, Item.listText, Frame.closer] using
        runOn_settle_closer true .array (a.append inner) (fun _ _ h => ih h) o
    | cons it later =>
      -- a comma, and the machine stands before the next item
      obtain ⟨b, v, a'⟩ := it
      obtain ⟨o₁, h₁⟩ := runOn_peekPastBlank_gap a (c := ',') (by decide)
        (b.chars ++ v.text ++ a'.chars ++ Item.listText false later ++ inner.chars ++
          ']' :: outer.text ++ rest) o
      refine ⟨o₁ + ','.utf8Size, ?_⟩
      simp only [Context.text, Item.listText, Item.text, commaUnless, Bool.false_eq_true,
        if_false, List.append_assoc, List.cons_append, List.nil_append] at h₁ ⊢
      rw [settle.eq_def, runOn_bind, h₁]
      simp only [true_and, ↓reduceIte, runOn_bind, runOn_bump_cons, beginMember, runOn_pure,
        Context.next, Option.map_some, Pending.textOr, Pending.text, Context.text, Context.frames,
        List.append_assoc, List.cons_append]
  | inObject a later inner outer ih =>
    simp only [Context.frames, List.cons.injEq] at hE
    obtain ⟨rfl, rfl⟩ := hE
    cases later with
    | nil =>
      -- the closing brace, then what closes the frames around it
      simpa [Context.text, Context.next, Member.listText, Frame.closer] using
        runOn_settle_closer true .object (a.append inner) (fun _ _ h => ih h) o
    | cons m later =>
      -- a comma, the key and the colon, and the machine stands before the next value
      obtain ⟨kb, k, ka, b, v, a'⟩ := m
      obtain ⟨r, hr⟩ : ∃ r,
          r = b.chars ++ v.text ++ a'.chars ++ Member.listText false later ++ inner.chars ++
            '\x7d' :: outer.text ++ rest := ⟨_, rfl⟩
      have htext : (Context.inObject a (.mk kb k ka (.mk b v a') :: later) inner outer).text ++
          rest = a.chars ++ ',' :: ((kb.chars ++ k.chars ++ ka.chars ++ [':']) ++ r) := by
        simp [hr, Context.text, Member.listText, Member.text, Item.text, commaUnless]
      obtain ⟨o₁, h₁⟩ := runOn_peekPastBlank_gap a (c := ',') (by decide)
        ((kb.chars ++ k.chars ++ ka.chars ++ [':']) ++ r) o
      obtain ⟨o₂, h₂⟩ := Reads.beginMember_object kb k ka r (o₁ + ','.utf8Size)
      refine ⟨o₂, ?_⟩
      rw [htext, settle.eq_def, runOn_bind, h₁]
      simp only [true_and, ↓reduceIte, runOn_bind, runOn_bump_cons, h₂, runOn_pure]
      simp [hr, Context.next, Context.frames, Pending.textOr, Pending.text, Context.text]

/-- **After an opening bracket**, `settle` stops at the first element, or closes an empty array
and the frames whose brackets follow. -/
theorem runOn_settle_openArray (items : List Item) (inner : Gap) (E : Context)
    (rest : List Char) (o : Nat) :
    ∃ o', runOn (settle false .array E.frames)
        ⟨Item.listText true items ++ inner.chars ++ ']' :: E.text ++ rest, o⟩ =
      (.ok (((Written.arr items inner).following E).map (·.context.frames)),
        ⟨Pending.textOr ((Written.arr items inner).following E) ++ rest, o'⟩) := by
  cases items with
  | nil =>
    simpa [Item.listText, Written.following, Frame.closer] using
      runOn_settle_closer false .array inner (fun _ _ h => runOn_settle_after E h rest) o
  | cons it items =>
    obtain ⟨b, v, a⟩ := it
    obtain ⟨r, hr⟩ := v.text_eq_head_cons
    obtain ⟨hblank, -, hclose, -⟩ := v.head_not_delimiter
    obtain ⟨o₁, h₁⟩ := runOn_peekPastBlank_gap b hblank
      (r ++ a.chars ++ Item.listText false items ++ inner.chars ++ ']' :: E.text ++ rest) o
    refine ⟨o₁, ?_⟩
    simp only [Item.listText, Item.text, commaUnless, if_true, hr, List.nil_append,
      List.append_assoc, List.cons_append] at h₁ ⊢
    rw [settle.eq_def, runOn_bind, h₁]
    simp only [Frame.closer, Bool.false_eq_true, false_and, ↓reduceIte, Option.some.injEq,
      hclose, beginMember, runOn_bind, runOn_pure, Written.following]
    simp [Pending.textOr, Pending.text, Context.text, Context.frames, hr]

/-- After an opening brace, `settle` stops at the value of the first member, having read its key
and colon, or closes an empty object and the frames whose brackets follow. -/
theorem runOn_settle_openObject (members : List Member) (inner : Gap) (E : Context)
    (rest : List Char) (o : Nat) :
    ∃ o', runOn (settle false .object E.frames)
        ⟨Member.listText true members ++ inner.chars ++ '\x7d' :: E.text ++ rest, o⟩ =
      (.ok (((Written.obj members inner).following E).map (·.context.frames)),
        ⟨Pending.textOr ((Written.obj members inner).following E) ++ rest, o'⟩) := by
  cases members with
  | nil =>
    simpa [Member.listText, Written.following, Frame.closer] using
      runOn_settle_closer false .object inner (fun _ _ h => runOn_settle_after E h rest) o
  | cons m members =>
    obtain ⟨kb, k, ka, b, v, a⟩ := m
    obtain ⟨r, hr⟩ : ∃ r, r = b.chars ++ v.text ++ a.chars ++ Member.listText false members ++
        inner.chars ++ '\x7d' :: E.text ++ rest := ⟨_, rfl⟩
    have htext : Member.listText true (.mk kb k ka (.mk b v a) :: members) ++ inner.chars ++
        '\x7d' :: E.text ++ rest =
          kb.chars ++ '"' :: (k.body ++ ['"'] ++ ka.chars ++ [':'] ++ r) := by
      simp [hr, Member.listText, Member.text, Item.text, commaUnless, Quoted.chars]
    obtain ⟨o₁, h₁⟩ := runOn_peekPastBlank_gap kb (c := '"') (by decide)
      (k.body ++ ['"'] ++ ka.chars ++ [':'] ++ r) o
    obtain ⟨o₂, h₂⟩ := Reads.beginMember_object .empty k ka r o₁
    simp only [Gap.empty_chars, List.nil_append, Quoted.chars, List.cons_append,
      List.append_assoc] at h₂
    refine ⟨o₂, ?_⟩
    rw [htext, settle.eq_def, runOn_bind, h₁]
    simp only [Frame.closer, Bool.false_eq_true, false_and, ↓reduceIte, Option.some.injEq,
      show ('"' = '\x7d') = False by decide, runOn_bind, List.append_assoc, runOn_pure,
      Written.following, List.cons_append, List.nil_append, h₂]
    simp [hr, Pending.textOr, Pending.text, Context.text, Context.frames]

/-! ### One step -/

/-- A reader that reads `p` goes on with what it binds after `p`. -/
theorem Reads.runOn_bind_eq {α β : Type} {x : Reader α} {p : List Char} {a : α}
    (h : Reads x p a) (f : α → Reader β) (r : List Char) (o : Nat) :
    ∃ o', runOn (x >>= f) ⟨p ++ r, o⟩ = runOn (f a) ⟨r, o'⟩ := by
  obtain ⟨o', h'⟩ := h r o
  exact ⟨o', by rw [runOn_bind, h']⟩

/-- **One step of the machine** on a value in its context: it reads the value, or only the
opening bracket of an array or object, and stops at the next value start. -/
theorem runOn_skipStep (g : Gap) (v : Written) (E : Context) {rest : List Char}
    (hrest : Delimited (E.text ++ rest)) (o : Nat) :
    ∃ o', runOn (skipStep E.frames) ⟨g.chars ++ v.text ++ E.text ++ rest, o⟩ =
      (.ok (Pending.step (v.following E)), ⟨Pending.textOr (v.following E) ++ rest, o'⟩) := by
  rw [skipStep.eq_def]
  extract_lets afterScalar opened
  -- after a word, a string or a number: close what closes, and stop at the next value
  have hscalar : ∀ o, ∃ o', runOn afterScalar ⟨E.text ++ rest, o⟩ =
      (.ok (Pending.step E.next), ⟨Pending.textOr E.next ++ rest, o'⟩) := by
    intro o
    cases hE : E.frames with
    | nil =>
      obtain rfl := Context.eq_top_of_frames hE
      exact ⟨o, rfl⟩
    | cons f fs =>
      obtain ⟨o', h⟩ := runOn_settle_after E hE rest o
      refine ⟨o', ?_⟩
      simp only [afterScalar, hE, runOn_bind, h]
      cases E.next <;> rfl
  -- a word or a string: its first character, the rest of it, and what follows
  have htoken : ∀ (c : Char) (token : Reader Unit) (p : List Char), Reads token p () →
      ∀ o, ∃ o', runOn (bump >>= fun _ => token >>= fun _ => afterScalar)
        ⟨c :: (p ++ (E.text ++ rest)), o⟩ =
          (.ok (Pending.step E.next), ⟨Pending.textOr E.next ++ rest, o'⟩) := by
    intro c token p hp o
    obtain ⟨o₂, h₂⟩ := (Reads.bump c).runOn_bind_eq
      (fun _ => token >>= fun _ => afterScalar) (p ++ (E.text ++ rest)) o
    obtain ⟨o₃, h₃⟩ := hp.runOn_bind_eq (fun _ => afterScalar) (E.text ++ rest) o₂
    obtain ⟨o₄, h₄⟩ := hscalar o₃
    exact ⟨o₄, by rw [← h₄, ← h₃, ← h₂]; rfl⟩
  -- the value starts past the blanks
  obtain ⟨r, hr⟩ := v.text_eq_head_cons
  obtain ⟨o₁, h₁⟩ :=
    runOn_peekPastBlank_gap g v.head_not_delimiter.1 (r ++ (E.text ++ rest)) o
  rw [hr, List.append_assoc, List.append_assoc, List.cons_append, runOn_bind, h₁]
  dsimp only
  cases v with
  | null =>
    obtain rfl : r = "ull".toList := (List.cons.inj hr).2.symm
    simpa only [Written.head, Written.following] using htoken 'n' _ _ (Reads.word _) o₁
  | bool b =>
    cases b
    · obtain rfl : r = "alse".toList := (List.cons.inj hr).2.symm
      simpa only [Written.head, Written.following] using htoken 'f' _ _ (Reads.word _) o₁
    · obtain rfl : r = "rue".toList := (List.cons.inj hr).2.symm
      simpa only [Written.head, Written.following] using htoken 't' _ _ (Reads.word _) o₁
  | str q =>
    obtain rfl : r = q.body ++ ['"'] := (List.cons.inj hr).2.symm
    simpa only [Written.head, Written.following] using htoken '"' _ _ (Reads.skipQuoted q) o₁
  | num n =>
    -- the number, from its sign or its first digit, then what follows it
    have hnumber : ∀ o, ∃ o', runOn (skipNumber >>= fun _ => afterScalar)
        ⟨n.unsigned ++ (E.text ++ rest), o⟩ =
          (.ok (Pending.step E.next), ⟨Pending.textOr E.next ++ rest, o'⟩) := by
      intro o
      obtain ⟨o₂, h₂⟩ := runOn_skipNumber n hrest o
      obtain ⟨o₃, h₃⟩ := hscalar o₂
      exact ⟨o₃, by rw [runOn_bind, h₂]; exact h₃⟩
    obtain ⟨d, ds, hint⟩ := List.exists_cons_of_ne_nil n.integer_ok.1
    cases hneg : n.negative
    · -- no sign: the first digit is none of the other starts
      have hd : d.isDigit = true := n.integer_ok.2 d (by simp [hint])
      have hhead : (Written.num n).head = d := by simp [Written.head, Numeral.head, hneg, hint]
      have hu : n.unsigned = d :: r := by
        simpa [Written.text, Numeral.chars, hneg, hhead] using hr
      obtain ⟨o₂, h₂⟩ := hnumber o₁
      refine ⟨o₂, ?_⟩
      rw [hhead]
      split
      case h_9 heq =>
        cases Option.some.inj heq
        rw [if_pos hd, ← List.cons_append, ← hu]
        exact h₂
      case h_1 heq => cases heq
      all_goals
        rename_i heq
        cases Option.some.inj heq
        exact absurd hd (by decide)
    · -- a minus sign, then the number
      have hhead : (Written.num n).head = '-' := by simp [Written.head, Numeral.head, hneg]
      have hu : r = n.unsigned := by
        simpa [Written.text, Numeral.chars, hneg, hhead] using hr.symm
      obtain ⟨o₂, h₂⟩ := (Reads.bump '-').runOn_bind_eq
        (fun _ => skipNumber >>= fun _ => afterScalar) (n.unsigned ++ (E.text ++ rest)) o₁
      obtain ⟨o₃, h₃⟩ := hnumber o₂
      refine ⟨o₃, ?_⟩
      simp only [hhead, hu, Written.following]
      rw [← h₃, ← h₂]
      rfl
  | arr items inner =>
    -- the opening bracket, then the first element or the closing bracket
    obtain rfl : r = Item.listText true items ++ inner.chars ++ [']'] := (List.cons.inj hr).2.symm
    obtain ⟨o₂, h₂⟩ := runOn_settle_openArray items inner E rest (o₁ + '['.utf8Size)
    refine ⟨o₂, ?_⟩
    simp only [List.append_assoc, List.cons_append] at h₂
    simp only [Written.head, opened, runOn_bind, runOn_bump_cons, List.append_assoc,
      List.cons_append, List.nil_append, h₂]
    cases (Written.arr items inner).following E <;> rfl
  | obj members inner =>
    obtain rfl : r = Member.listText true members ++ inner.chars ++ ['\x7d'] :=
      (List.cons.inj hr).2.symm
    obtain ⟨o₂, h₂⟩ := runOn_settle_openObject members inner E rest (o₁ + '\x7b'.utf8Size)
    refine ⟨o₂, ?_⟩
    simp only [List.append_assoc, List.cons_append] at h₂
    simp only [Written.head, opened, runOn_bind, runOn_bump_cons, List.append_assoc,
      List.cons_append, List.nil_append, h₂]
    cases (Written.obj members inner).following E <;> rfl

/-! ### The whole run -/

/-- Blanks before what may follow a value may follow a value too. -/
theorem Delimited.gap {t : List Char} (g : Gap) (h : Delimited t) : Delimited (g.chars ++ t) := by
  cases hg : g.chars with
  | nil => simpa using h
  | cons c cs =>
    intro c' hc'
    simp only [List.cons_append, List.head?_cons, Option.mem_def, Option.some.injEq] at hc'
    exact .inl (hc' ▸ g.blank c (by simp [hg]))

/-- What follows a value in its context may follow a value. -/
theorem Context.delimited (E : Context) {rest : List Char} (hrest : Delimited rest) :
    Delimited (E.text ++ rest) := by
  cases E with
  | top => simpa [text] using hrest
  | inArray a later inner outer =>
    simp only [text, List.append_assoc]
    apply Delimited.gap
    cases later with
    | nil =>
      apply Delimited.gap
      simp [Delimited]
    | cons it later => simp [Delimited, Item.listText, commaUnless]
  | inObject a later inner outer =>
    simp only [text, List.append_assoc]
    apply Delimited.gap
    cases later with
    | nil =>
      apply Delimited.gap
      simp [Delimited]
    | cons m later => simp [Delimited, Member.listText, commaUnless]

/-- The value after the current one stands in the text of the context. -/
theorem Context.next_length {E : Context} {p : Pending} (h : E.next = some p) :
    p.text.length ≤ E.text.length := by
  induction E with
  | top => simp [next] at h
  | inArray a later inner outer ih =>
    cases later with
    | nil =>
      have := ih h
      simp only [text, List.length_append, List.length_cons]
      omega
    | cons it later =>
      obtain ⟨b, v, a'⟩ := it
      simp only [next, Option.some.injEq] at h
      subst h
      simp [Pending.text, text, Item.listText, Item.text, commaUnless]
      omega
  | inObject a later inner outer ih =>
    cases later with
    | nil =>
      have := ih h
      simp only [text, List.length_append, List.length_cons]
      omega
    | cons m later =>
      obtain ⟨kb, k, ka, b, v, a'⟩ := m
      simp only [next, Option.some.injEq] at h
      subst h
      simp [Pending.text, text, Member.listText, Member.text, Item.text, commaUnless]
      omega

/-- The next value start lies past the first character of the current value. -/
theorem Written.following_length {v : Written} {E : Context} {p : Pending}
    (h : v.following E = some p) : p.text.length < v.text.length + E.text.length := by
  obtain ⟨r, hr⟩ := v.text_eq_head_cons
  -- past the value, or within an array or object past its opening bracket
  have hnext : E.next = some p → p.text.length < v.text.length + E.text.length := by
    intro hn
    have := Context.next_length hn
    rw [hr, List.length_cons]
    omega
  cases v with
  | arr items inner =>
    cases items with
    | nil => exact hnext h
    | cons it items =>
      obtain ⟨b, v, a⟩ := it
      simp only [following, Option.some.injEq] at h
      subst h
      simp [Pending.text, Written.text, Context.text, Item.listText, Item.text, commaUnless]
      omega
  | obj members inner =>
    cases members with
    | nil => exact hnext h
    | cons m members =>
      obtain ⟨kb, k, ka, b, v, a⟩ := m
      simp only [following, Option.some.injEq] at h
      subst h
      simp [Pending.text, Written.text, Context.text, Member.listText, Member.text, Item.text,
        commaUnless]
      omega
  | _ => exact hnext h

/-- **The machine runs to the end of the outermost value**: started on a value in its context,
the loop reads the value and all that follows it up to the outermost closing bracket. -/
theorem iterateFrom_skipStep {rest : List Char} (hrest : Delimited rest) (g : Gap) (v : Written)
    (E : Context) (o : Nat) :
    ∃ o', iterateFrom skipStep E.frames ⟨g.chars ++ v.text ++ E.text ++ rest, o⟩ =
      (.ok [], ⟨rest, o'⟩) := by
  -- induction on the text left: every step that goes on reads something
  induction hm : (g.chars ++ v.text ++ E.text).length using Nat.strongRecOn
    generalizing g v E o with
  | _ m ih =>
    obtain ⟨o₁, h₁⟩ := runOn_skipStep g v E (E.delimited hrest) o
    cases hf : v.following E with
    | none =>
      rw [hf] at h₁
      exact ⟨o₁, iterateFrom_done h₁⟩
    | some p =>
      simp only [hf, Pending.step, Pending.textOr] at h₁
      have hlt := Written.following_length hf
      have hshorter : (p.text ++ rest).length < (g.chars ++ v.text ++ E.text ++ rest).length := by
        simp only [List.length_append] at hlt ⊢
        omega
      rw [iterateFrom_yield h₁ hshorter]
      have hp : p.text ++ rest = p.before.chars ++ p.value.text ++ p.context.text ++ rest := by
        simp [Pending.text]
      rw [hp]
      have hless : (p.before.chars ++ p.value.text ++ p.context.text).length < m := by
        rw [← hm]
        simp only [Pending.text, List.length_append] at hshorter ⊢
        omega
      exact ih _ hless p.before p.value p.context o₁ rfl

/-- **A value nobody asked for is skipped whole**, whatever its depth, when what follows it cannot
continue it. -/
theorem runOn_skipValue (g : Gap) (v : Written) {rest : List Char} (hrest : Delimited rest)
    (o : Nat) :
    ∃ o', runOn skipValue ⟨g.chars ++ v.text ++ rest, o⟩ = (.ok (), ⟨rest, o'⟩) := by
  obtain ⟨o', h⟩ := iterateFrom_skipStep hrest g v .top o
  refine ⟨o', ?_⟩
  have hloop : runOn (iterate skipStep []) ⟨g.chars ++ v.text ++ rest, o⟩ =
      iterateFrom skipStep [] ⟨g.chars ++ v.text ++ rest, o⟩ := rfl
  simp only [Context.text, Context.frames, List.append_nil] at h
  rw [skipValue, runOn_bind, hloop, h]
  rfl

end Homescreen.Json
