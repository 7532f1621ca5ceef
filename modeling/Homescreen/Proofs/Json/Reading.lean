import Homescreen.Json.Record
import Homescreen.Json.Write

/-!
# Reading what was written

The readers of a JSON text meet the writer: started on text the writer produced, a reader reads
exactly that text and returns what was written, whatever follows it.

`Reads r pre x` says that the reader `r`, started at any offset on the characters `pre` followed
by anything, succeeds with `x` and stops right after `pre`. Offsets are left free: they only
place failures, and a reader that succeeds carries its result whatever offset it started at.
`Reads` composes along `>>=` (`Reads.bind`), so a reader written in `do` notation reads the
concatenation of what its steps read. A reader that first looks at the next character reads
text that starts with a character it can see (`Reads.peek`): the JSON writer never writes a
blank, so the look never skips anything.

* `strBody_quoted` — the body of a written string reads back as the string: every character
  is written either as itself, as a backslash and a letter, or as a `\u00xx` escape
  (`escapeChar_cases`), and each of the three reads back as the character;
* `Reads.string`, `Reads.textValue`, `Reads.word` — strings, and the words `null`, `true`,
  `false`;
* `Reads.nextKey_first`, `Reads.nextKey_comma`, `Reads.colon` — the punctuation of objects.
-/

namespace Homescreen.Json

namespace Reader

variable {α β : Type}

/-! ### Running readers -/

theorem runOn_bind (x : Reader α) (f : α → Reader β) (c : Cursor) :
    runOn (x >>= f) c = match runOn x c with
      | (.ok a, c') => runOn (f a) c'
      | (.error e, c') => (.error e, c') := by
  simp only [runOn, ExceptT.run_bind, StateT.run_bind]
  rcases h : x.run.run c with ⟨r, c'⟩
  cases r <;> rfl

@[simp] theorem runOn_pure (a : α) (c : Cursor) : runOn (pure a : Reader α) c = (.ok a, c) :=
  rfl

@[simp] theorem runOn_get (c : Cursor) : runOn (get : Reader Cursor) c = (.ok c, c) := rfl

@[simp] theorem runOn_peek (c : Cursor) : runOn peek? c = (.ok c.rest.head?, c) := rfl

theorem runOn_bump_cons (ch : Char) (r : List Char) (o : Nat) :
    runOn bump ⟨ch :: r, o⟩ = (.ok (), ⟨r, o + ch.utf8Size⟩) := rfl

theorem runOn_skipBlank (c : Cursor) :
    runOn skipBlank c = (.ok (), ⟨c.rest.dropWhile isJsonBlank,
      c.offset + (c.rest.length - (c.rest.dropWhile isJsonBlank).length)⟩) := rfl

/-- Before a character that is no blank, looking past blanks looks at that character. -/
theorem runOn_peekPastBlank_cons {ch : Char} (h : isJsonBlank ch = false) (r : List Char)
    (o : Nat) : runOn peekPastBlank ⟨ch :: r, o⟩ = (.ok (some ch), ⟨ch :: r, o⟩) := by
  rw [peekPastBlank, runOn_bind, runOn_skipBlank]
  simp [h]

/-- At the end of the text, looking past blanks finds nothing. -/
theorem runOn_peekPastBlank_nil (o : Nat) :
    runOn peekPastBlank ⟨[], o⟩ = (.ok none, ⟨[], o⟩) := rfl

/-- A reader that succeeds succeeds the same way when its failures are placed. -/
theorem runOn_placed_of_ok {r : Reader α} {c c' : Cursor} {a : α}
    (h : runOn r c = (.ok a, c')) : runOn (placed r) c = (.ok a, c') := by
  simp only [runOn, placed, ExceptT.run_tryCatch, StateT.run_bind] at h ⊢
  rw [h]
  rfl

/-- Running a body and then its closer, when both succeed, returns the body's result. -/
theorem runOn_closedBy {body : Reader α} {close : Reader Unit} {c c₁ c₂ : Cursor} {a : α}
    (hb : runOn body c = (.ok a, c₁)) (hc : runOn close c₁ = (.ok (), c₂)) :
    runOn (closedBy body close) c = (.ok a, c₂) := by
  have hattempt : ∀ {γ : Type} (r : Reader γ) (c : Cursor),
      runOn (attempt r) c = (.ok (runOn r c).1, (runOn r c).2) := fun _ _ => rfl
  rw [closedBy, runOn_bind, hattempt, hb]
  dsimp only
  rw [runOn_bind, hattempt, hc]
  rfl

/-- A loop step that yields and reads something goes on with the loop. -/
theorem iterateFrom_yield {step : β → Reader (ForInStep β)} {b b' : β} {c c' : Cursor}
    (h : runOn (step b) c = (.ok (.yield b'), c')) (hlt : c'.rest.length < c.rest.length) :
    iterateFrom step b c = iterateFrom step b' c' := by
  rw [iterateFrom, h]
  simp [hlt]

/-- A loop step that is done ends the loop. -/
theorem iterateFrom_done {step : β → Reader (ForInStep β)} {b b' : β} {c c' : Cursor}
    (h : runOn (step b) c = (.ok (.done b'), c')) : iterateFrom step b c = (.ok b', c') := by
  rw [iterateFrom, h]

end Reader

open Reader

variable {α β : Type}

/-! ### Readers of written text -/

/-- **`r` reads `pre` and returns `x`**: started on `pre` followed by anything, at any offset,
it succeeds with `x` and stops right after `pre`. -/
def Reads (r : Reader α) (pre : List Char) (x : α) : Prop :=
  ∀ rest o, ∃ o', runOn r ⟨pre ++ rest, o⟩ = (.ok x, ⟨rest, o'⟩)

namespace Reads

theorem pure (a : α) : Reads (Pure.pure a : Reader α) [] a :=
  fun _ o => ⟨o, rfl⟩

theorem bind {x : Reader α} {f : α → Reader β} {p q : List Char} {a : α} {b : β}
    (hx : Reads x p a) (hf : Reads (f a) q b) : Reads (x >>= f) (p ++ q) b := by
  intro rest o
  obtain ⟨o₁, h₁⟩ := hx (q ++ rest) o
  obtain ⟨o₂, h₂⟩ := hf rest o₁
  refine ⟨o₂, ?_⟩
  rw [List.append_assoc, runOn_bind, h₁]
  exact h₂

/-- A step that reads nothing more after one that reads `p`. -/
theorem bind_nil {x : Reader α} {f : α → Reader β} {p : List Char} {a : α} {b : β}
    (hx : Reads x p a) (hf : Reads (f a) [] b) : Reads (x >>= f) p b := by
  simpa using hx.bind hf

theorem map {x : Reader α} {p : List Char} {a : α} (f : α → β) (hx : Reads x p a) :
    Reads (f <$> x) p (f a) := by
  rw [map_eq_pure_bind]
  exact hx.bind_nil (Reads.pure (f a))

theorem placed {r : Reader α} {p : List Char} {a : α} (h : Reads r p a) :
    Reads (Reader.placed r) p a := by
  intro rest o
  obtain ⟨o', h'⟩ := h rest o
  exact ⟨o', runOn_placed_of_ok h'⟩

/-- A reader that looks at the next character first: on text that starts with a character that
is no blank, it goes on as it does for that character. -/
theorem peek {f : Option Char → Reader β} {c : Char} {p : List Char} {b : β}
    (hc : isJsonBlank c = false) (h : Reads (f (some c)) (c :: p) b) :
    Reads (peekPastBlank >>= f) (c :: p) b := by
  intro rest o
  obtain ⟨o', h'⟩ := h rest o
  refine ⟨o', ?_⟩
  rw [runOn_bind, List.cons_append, runOn_peekPastBlank_cons hc]
  exact h'

theorem bump (c : Char) : Reads Reader.bump [c] () :=
  fun _ o => ⟨o + c.utf8Size, rfl⟩

/-- A word whose first letter was read reads the rest of its letters. -/
theorem word (w : List Char) : Reads (Reader.word w) w () := by
  induction w with
  | nil => exact Reads.pure ()
  | cons c cs ih =>
    intro rest o
    obtain ⟨o', h⟩ := ih rest (o + c.utf8Size)
    refine ⟨o', ?_⟩
    rw [Reader.word, runOn_bind, runOn_get]
    simp only [List.cons_append, if_pos]
    rw [runOn_bind, runOn_bump_cons]
    exact h

end Reads

/-! ### Strings -/

/-- How a character is written in a string: as itself when it is no quote, no backslash and no
control character; as a backslash and a letter that is not `u`; or as `\u00` and two hexadecimal
digits when it is a control character. -/
theorem escapeChar_cases (c : Char) :
    (escapeChar c = [c] ∧ c ≠ '"' ∧ c ≠ '\\' ∧ 0x20 ≤ c.toNat) ∨
    (∃ e, escapeChar c = ['\\', e] ∧ e ≠ 'u' ∧ simpleEscape? e = some c) ∨
    (escapeChar c = ['\\', 'u', '0', '0'] ++ hexByte c.toNat ∧ c.toNat < 0x20) := by
  unfold escapeChar
  repeat' split
  -- the seven one-letter escapes
  any_goals (subst_vars; exact .inr (.inl ⟨_, rfl, by decide, rfl⟩))
  · exact .inr (.inr ⟨rfl, ‹_›⟩)
  · exact .inl ⟨rfl, ‹_›, ‹_›, by omega⟩

theorem hexValue_hexDigit : ∀ d, d < 16 →
    hexValue? (if d < 10 then Char.ofNat (48 + d) else Char.ofNat (87 + d)) = some d := by
  decide

/-- The four digits of the escape of a control character spell its code. -/
theorem hexQuad_control {n : Nat} (h : n < 0x20) : hexQuad? (['0', '0'] ++ hexByte n) = some n := by
  have h₁ := hexValue_hexDigit (n / 16) (by omega)
  have h₂ := hexValue_hexDigit (n % 16) (by omega)
  simp only [hexByte, List.cons_append, List.nil_append, hexQuad?, h₁, h₂]
  simp [hexValue?]
  omega

/-- The escape of a character reads back as the character. -/
theorem strBody_escapeChar (c : Char) (r : List Char) (o : Nat) (acc : List Char) :
    ∃ o', strBody (escapeChar c ++ r) o acc = strBody r o' (c :: acc) := by
  rcases escapeChar_cases c with ⟨he, hq, hb, hc⟩ | ⟨e, he, hu, hs⟩ | ⟨he, hc⟩
  · -- the character itself
    refine ⟨o + c.utf8Size, ?_⟩
    rw [he, List.singleton_append, strBody.eq_7 o acc c r hq hb, if_neg (by omega)]
  · -- a backslash and a letter
    refine ⟨o + 2, ?_⟩
    rw [he, List.cons_append, List.singleton_append,
      strBody.eq_6 o acc e r (fun _ _ _ _ _ h => absurd h hu) hu, hs]
  · -- `\u00xx`: four digits that spell a code point below every surrogate
    have hn := hexQuad_control hc
    rw [he]
    simp only [hexByte, List.cons_append, List.nil_append] at hn ⊢
    have ht : isTrailingSurrogate c.toNat = false := by
      simp only [isTrailingSurrogate, Bool.and_eq_false_iff, decide_eq_false_iff_not]
      omega
    have hl : isLeadingSurrogate c.toNat = false := by
      simp only [isLeadingSurrogate, Bool.and_eq_false_iff, decide_eq_false_iff_not]
      omega
    refine ⟨o + 6, ?_⟩
    rw [strBody.eq_4]
    simp only [hn, ht, hl, Char.ofNat_toNat]
    rfl

/-- **The body of a written string reads back as the string**, up to its closing quote. -/
theorem strBody_quoted (cs rest : List Char) (o : Nat) (acc : List Char) :
    ∃ o', strBody (cs.flatMap escapeChar ++ '"' :: rest) o acc =
      .ok (acc.reverse ++ cs, rest, o') := by
  induction cs generalizing o acc with
  | nil => exact ⟨o + 1, by simp [strBody]⟩
  | cons c cs ih =>
    obtain ⟨o₁, h₁⟩ := strBody_escapeChar c (cs.flatMap escapeChar ++ '"' :: rest) o acc
    obtain ⟨o₂, h₂⟩ := ih o₁ (c :: acc)
    refine ⟨o₂, ?_⟩
    rw [List.flatMap_cons, List.append_assoc, h₁, h₂]
    simp

namespace Reads

/-- A string whose opening quote was read reads its escaped characters and closing quote. -/
theorem string (s : String) : Reads Reader.string (s.toList.flatMap escapeChar ++ ['"']) s := by
  intro rest o
  obtain ⟨o', h⟩ := strBody_quoted s.toList rest o []
  refine ⟨o', ?_⟩
  rw [Reader.string, runOn_bind, runOn_get]
  simp only [List.append_assoc, List.singleton_append, h, List.reverse_nil, List.nil_append,
    String.ofList_toList]
  rfl

/-- A written string reads back where a string is expected. -/
theorem textValue (expected s : String) : Reads (Reader.textValue expected) (quoteChars s) s := by
  apply Reads.placed
  apply Reads.peek (by decide)
  exact (Reads.bump '"').bind (Reads.string s)

theorem colon : Reads Reader.colon [':'] () := by
  apply Reads.peek (by decide)
  exact Reads.bump ':'

theorem closeObject : Reads Reader.closeObject ['\x7d'] () := by
  apply Reads.peek (by decide)
  exact Reads.bump '\x7d'

/-- The key of the first member of an object. -/
theorem nextKey_first (k : String) : Reads (Reader.nextKey true) (quoteChars k) (some k) := by
  simp only [Reader.nextKey]
  apply Reads.peek (by decide)
  simp only [Bool.not_true, Bool.false_eq_true, and_false, if_false, if_true, pure_bind]
  exact (Reads.bump '"').bind ((Reads.string k).map some)

/-- The comma and key of a later member of an object. -/
theorem nextKey_comma (k : String) :
    Reads (Reader.nextKey false) (',' :: quoteChars k) (some k) := by
  simp only [Reader.nextKey]
  apply Reads.peek (by decide)
  simp only [Bool.not_false, pure_bind]
  refine (Reads.bump ',').bind ?_
  apply Reads.peek (by decide)
  exact (Reads.bump '"').bind ((Reads.string k).map some)

end Reads

end Homescreen.Json
