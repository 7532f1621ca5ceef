import Homescreen.Proofs.Json.Texts

/-!
# The tokens of any text

The readers of blanks, strings and numbers, started on the tokens of any text of the grammar,
read each token whole and stop right after it.

* `runOn_peekPastBlank_gap`, `Reads.gap_peek` — looking past blanks passes over exactly the
  blanks, whatever they are;
* `strBody_spells`, `skipStrBody_spells` — the body of a string reads back as the characters it
  spells, and is skipped whole, whichever escapes it is written with;
* `runOn_skipNumber` — a number is skipped whole when what follows it cannot continue it
  (`Delimited`: the end of the text, a blank, a comma or a closing bracket).

Strings need no such condition: a string ends at its closing quote.
-/

namespace Homescreen.Json

open Reader

variable {β : Type}

/-! ### Blanks -/

/-- Two runs of blanks make one. -/
def Gap.append (g h : Gap) : Gap :=
  ⟨g.chars ++ h.chars, fun c hc => (List.mem_append.1 hc).elim (g.blank c) (h.blank c)⟩

@[simp] theorem Gap.append_chars (g h : Gap) : (g.append h).chars = g.chars ++ h.chars := rfl

theorem Gap.dropWhile_append (g : Gap) (t : List Char) :
    (g.chars ++ t).dropWhile isJsonBlank = t.dropWhile isJsonBlank :=
  List.dropWhile_append_of_pos g.blank

/-- Looking past blanks, before a character that is no blank, reads the blanks and sees it. -/
theorem runOn_peekPastBlank_gap (g : Gap) {c : Char} (hc : isJsonBlank c = false)
    (r : List Char) (o : Nat) :
    ∃ o', runOn peekPastBlank ⟨g.chars ++ c :: r, o⟩ = (.ok (some c), ⟨c :: r, o'⟩) := by
  have hdrop : (g.chars ++ c :: r).dropWhile isJsonBlank = c :: r := by
    rw [g.dropWhile_append, List.dropWhile_cons_of_neg (by simp [hc])]
  refine ⟨o + ((g.chars ++ c :: r).length - (c :: r).length), ?_⟩
  rw [peekPastBlank, runOn_bind, runOn_skipBlank]
  simp only [hdrop]
  rfl

/-- Looking past blanks at the end of the text reads the blanks and sees nothing. -/
theorem runOn_peekPastBlank_gap_nil (g : Gap) (o : Nat) :
    ∃ o', runOn peekPastBlank ⟨g.chars, o⟩ = (.ok none, ⟨[], o'⟩) := by
  have hdrop : g.chars.dropWhile isJsonBlank = [] := by
    simpa using g.dropWhile_append []
  refine ⟨o + (g.chars.length - 0), ?_⟩
  rw [peekPastBlank, runOn_bind, runOn_skipBlank]
  simp only [hdrop]
  rfl

/-- A reader that first looks past blanks reads blanks and then a character that is no blank as
it reads that character. -/
theorem Reads.gap_peek {f : Option Char → Reader β} {c : Char} {p : List Char} {b : β} (g : Gap)
    (hc : isJsonBlank c = false) (h : Reads (f (some c)) (c :: p) b) :
    Reads (peekPastBlank >>= f) (g.chars ++ c :: p) b := by
  intro rest o
  obtain ⟨o₁, h₁⟩ := runOn_peekPastBlank_gap g hc (p ++ rest) o
  obtain ⟨o₂, h₂⟩ := h rest o₁
  refine ⟨o₂, ?_⟩
  rw [List.append_assoc, List.cons_append, runOn_bind, h₁]
  exact h₂

/-! ### Strings -/

/-- The code of a character is no surrogate. -/
theorem Char.not_surrogate (c : Char) :
    isLeadingSurrogate c.toNat = false ∧ isTrailingSurrogate c.toNat = false := by
  have hvalid : c.toNat < 0xD800 ∨ (0xDFFF < c.toNat ∧ c.toNat < 0x110000) := c.valid
  simp only [isLeadingSurrogate, isTrailingSurrogate, Bool.and_eq_false_iff,
    decide_eq_false_iff_not]
  omega

/-- The first half of a pair is no second half. -/
theorem isTrailingSurrogate_of_leading {n : Nat} (h : isLeadingSurrogate n = true) :
    isTrailingSurrogate n = false := by
  simp only [isLeadingSurrogate, Bool.and_eq_true, decide_eq_true_eq] at h
  simp only [isTrailingSurrogate, Bool.and_eq_false_iff, decide_eq_false_iff_not]
  omega

/-- A letter that escapes a character on its own is no `u`. -/
theorem ne_u_of_simpleEscape {e c : Char} (h : simpleEscape? e = some c) : e ≠ 'u' := by
  rintro rfl
  simp [simpleEscape?] at h

/-- **The body of a string reads back as the characters it spells**, up to its closing quote,
whichever escapes it is written with. -/
theorem strBody_spells {body s : List Char} (h : Spells body s) (rest : List Char) (o : Nat)
    (acc : List Char) :
    ∃ o', strBody (body ++ '"' :: rest) o acc = .ok (acc.reverse ++ s, rest, o') := by
  induction h generalizing o acc with
  | nil => exact ⟨o + 1, by simp [strBody]⟩
  | @plain c body s hq hb hp _ ih =>
    obtain ⟨o', h'⟩ := ih (o + c.utf8Size) (c :: acc)
    refine ⟨o', ?_⟩
    rw [List.cons_append, strBody.eq_7 o acc c _ hq hb, if_neg (by omega), h']
    simp
  | @short e c body s he _ ih =>
    have hu := ne_u_of_simpleEscape he
    obtain ⟨o', h'⟩ := ih (o + 2) (c :: acc)
    refine ⟨o', ?_⟩
    rw [List.cons_append, List.cons_append,
      strBody.eq_6 o acc e _ (fun _ _ _ _ _ h _ => hu h) hu, he]
    simp only [h']
    simp
  | @code a b c d ch body s hq _ ih =>
    -- a code that is no surrogate gives its character at once
    obtain ⟨hl, ht⟩ := Char.not_surrogate ch
    obtain ⟨o', h'⟩ := ih (o + 6) (ch :: acc)
    refine ⟨o', ?_⟩
    simp only [List.cons_append, strBody.eq_4, hq, ht, hl, Char.ofNat_toNat, Bool.not_false,
      if_true, Bool.false_eq_true, if_false]
    rw [h']
    simp
  | @pair a b c d a' b' c' d' ch hi lo body s hhi hlo hlead htrail hpair _ ih =>
    -- a leading surrogate waits for the trailing one of the next escape
    obtain ⟨o', h'⟩ := ih (o + 6 + 6) (ch :: acc)
    refine ⟨o', ?_⟩
    simp only [List.cons_append, strBody.eq_4, hhi, hlo, isTrailingSurrogate_of_leading hlead,
      hlead, htrail, hpair, Char.ofNat_toNat, Bool.not_true, Bool.false_eq_true, if_false,
      if_true]
    rw [h']
    simp

/-- **The body of a string is skipped whole**, up to its closing quote. -/
theorem skipStrBody_spells {body s : List Char} (h : Spells body s) (rest : List Char) (o : Nat) :
    ∃ o', skipStrBody (body ++ '"' :: rest) o = .ok (rest, o') := by
  induction h generalizing o with
  | nil => exact ⟨o + 1, by simp [skipStrBody]⟩
  | @plain c body s hq hb hp _ ih =>
    obtain ⟨o', h'⟩ := ih (o + c.utf8Size)
    exact ⟨o', by rw [List.cons_append, skipStrBody.eq_7 o c _ hq hb, if_neg (by omega), h']⟩
  | @short e c body s he _ ih =>
    have hu := ne_u_of_simpleEscape he
    obtain ⟨o', h'⟩ := ih (o + 2)
    refine ⟨o', ?_⟩
    rw [List.cons_append, List.cons_append,
      skipStrBody.eq_6 o e _ (fun _ _ _ _ _ h _ => hu h) hu, he]
    simpa using h'
  | @code a b c d ch body s hq _ ih =>
    obtain ⟨o', h'⟩ := ih (o + 6)
    exact ⟨o', by simp only [List.cons_append, skipStrBody.eq_4, hq, h']⟩
  | @pair a b c d a' b' c' d' ch hi lo body s hhi hlo _ _ _ _ ih =>
    obtain ⟨o', h'⟩ := ih (o + 6 + 6)
    exact ⟨o', by simp only [List.cons_append, skipStrBody.eq_4, hhi, hlo, h']⟩

namespace Reads

/-- A string whose opening quote was read reads its body and closing quote as what it spells. -/
theorem quoted (q : Quoted) : Reads Reader.string (q.body ++ ['"']) q.text := by
  intro rest o
  obtain ⟨o', h⟩ := strBody_spells q.spells rest o []
  refine ⟨o', ?_⟩
  rw [Reader.string, runOn_bind, runOn_get]
  simp only [List.append_assoc, List.singleton_append, h, List.reverse_nil, List.nil_append,
    String.ofList_toList]
  rfl

/-- A string whose opening quote was read is skipped up to its closing quote. -/
theorem skipQuoted (q : Quoted) : Reads skipString (q.body ++ ['"']) () := by
  intro rest o
  obtain ⟨o', h⟩ := skipStrBody_spells q.spells rest o
  refine ⟨o', ?_⟩
  rw [skipString, runOn_bind, runOn_get]
  simp only [List.append_assoc, List.singleton_append, h]
  rfl

end Reads

/-! ### Numbers -/

/-- What may follow a value: the end of the text, a blank, a comma or a closing bracket. Nothing
of it continues a number. -/
def Delimited (rest : List Char) : Prop :=
  ∀ c ∈ rest.head?, isJsonBlank c = true ∨ c = ',' ∨ c = ']' ∨ c = '\x7d'

/-- What follows a value is no digit, no point and no exponent letter. -/
theorem Delimited.not_number {rest : List Char} (h : Delimited rest) :
    ∀ c ∈ rest.head?, c.isDigit = false ∧ c ≠ '.' ∧ c ≠ 'e' ∧ c ≠ 'E' := by
  intro c hc
  rcases h c hc with hb | rfl | rfl | rfl
  · simp only [isJsonBlank, Bool.or_eq_true, decide_eq_true_eq] at hb
    rcases hb with ((rfl | rfl) | rfl) | rfl <;> decide
  all_goals decide

theorem runOn_skip (n : Nat) (c : Cursor) :
    runOn (skip n) c = (.ok (), ⟨c.rest.drop n, c.offset + byteLength (c.rest.take n)⟩) := rfl

/-- Reading digits before what is no digit reads exactly those digits. -/
theorem runOn_digits {ds r : List Char} (hds : ∀ d ∈ ds, d.isDigit = true)
    (hr : ∀ c ∈ r.head?, c.isDigit = false) (o : Nat) :
    runOn digits ⟨ds ++ r, o⟩ = (.ok ds, ⟨r, o + byteLength ds⟩) := by
  have htake : (ds ++ r).takeWhile Char.isDigit = ds := by
    rw [List.takeWhile_append_of_pos hds]
    cases r with
    | nil => simp
    | cons c r => simp [hr c rfl]
  rw [digits, runOn_bind, runOn_get]
  simp only [htake]
  rw [runOn_bind, runOn_skip]
  simp

/-- Where no exponent letter follows, there is no exponent to skip. -/
theorem runOn_skipExponent_none {rest : List Char} (hrest : Delimited rest) (o : Nat) :
    runOn skipNumber.skipExponent ⟨rest, o⟩ = (.ok (), ⟨rest, o⟩) := by
  rw [skipNumber.skipExponent, runOn_bind, runOn_peek]
  cases rest with
  | nil => rfl
  | cons c r =>
    obtain ⟨-, -, he, hE⟩ := hrest.not_number c rfl
    dsimp only [List.head?_cons]
    split
    next heq => exact absurd (Option.some.inj heq) he
    next heq => exact absurd (Option.some.inj heq) hE
    next => rfl

/-- An exponent is skipped whole: its letter, its sign if any, and its digits. -/
theorem runOn_skipExponent_some (x : Exponent) {rest : List Char} (hrest : Delimited rest)
    (o : Nat) :
    ∃ o', runOn skipNumber.skipExponent ⟨x.chars ++ rest, o⟩ = (.ok (), ⟨rest, o'⟩) := by
  obtain ⟨l, s, ds, hl, hs, ⟨hne, hds⟩⟩ := x
  obtain ⟨d, ds', rfl⟩ := List.exists_cons_of_ne_nil hne
  have hdig := runOn_digits hds (fun c hc => (hrest.not_number c hc).1)
  have hd : d.isDigit = true := hds d (by simp)
  have hsign : d ≠ '+' ∧ d ≠ '-' := by
    constructor <;> (rintro rfl; revert hd; decide)
  simp only [Exponent.chars]
  -- the letter, then the sign if any, then the digits
  have hs' : s = none ∨ s = some '+' ∨ s = some '-' := by
    rcases s with _ | sg
    · exact .inl rfl
    · rcases hs sg rfl with rfl | rfl <;> simp
  rcases hl with rfl | rfl <;> rcases hs' with rfl | rfl | rfl <;>
    simp only [skipNumber.skipExponent, runOn_bind, runOn_peek, runOn_bump_cons, runOn_get,
      List.cons_append, List.head?_cons, Option.toList, List.nil_append]
  -- without a sign, the first digit is looked at and is no sign
  all_goals try
    split
    next h => exact absurd (Option.some.inj h) hsign.1
    next h => exact absurd (Option.some.inj h) hsign.2
    simp only [runOn_bind, runOn_get]
  all_goals
    rw [if_pos hd, runOn_bind, ← List.cons_append, hdig]
    exact ⟨_, rfl⟩

/-- The exponent of a number, if any, is skipped whole. -/
theorem Numeral.runOn_skipExponent (n : Numeral) {rest : List Char} (hrest : Delimited rest)
    (o : Nat) :
    ∃ o', runOn skipNumber.skipExponent ⟨n.exponentChars ++ rest, o⟩ =
      (.ok (), ⟨rest, o'⟩) := by
  unfold Numeral.exponentChars
  split
  · exact runOn_skipExponent_some _ hrest o
  · exact ⟨o, runOn_skipExponent_none hrest o⟩

/-- What follows a number's fraction is no digit and no point. -/
theorem Numeral.exponentChars_head (n : Numeral) {rest : List Char} (hrest : Delimited rest) :
    ∀ c ∈ (n.exponentChars ++ rest).head?, c.isDigit = false ∧ c ≠ '.' := by
  unfold Numeral.exponentChars
  split
  · next x _ =>
    intro c hc
    simp only [Exponent.chars, List.cons_append, List.head?_cons, Option.mem_def,
      Option.some.injEq] at hc
    subst hc
    rcases x.letter_e with h | h <;> rw [h] <;> decide
  · intro c hc
    have := hrest.not_number c (by simpa using hc)
    exact ⟨this.1, this.2.1⟩

/-- **A number is skipped whole** after its minus sign, when what follows cannot continue it. -/
theorem runOn_skipNumber (n : Numeral) {rest : List Char} (hrest : Delimited rest) (o : Nat) :
    ∃ o', runOn skipNumber ⟨n.unsigned ++ rest, o⟩ = (.ok (), ⟨rest, o'⟩) := by
  rw [skipNumber, runOn_bind, runOn_get]
  -- the reader goes on after the integer digits through one continuation: name it
  dsimp -zeta only
  extract_lets afterPoint afterInteger
  -- what follows the integer digits: a fraction, then an exponent
  have hafter : ∀ o, ∃ o',
      runOn (afterInteger ()) ⟨n.fractionChars ++ n.exponentChars ++ rest, o⟩ =
        (.ok (), ⟨rest, o'⟩) := by
    intro o
    have hhead := n.exponentChars_head hrest
    unfold Numeral.fractionChars
    split
    · next ds hds =>
      -- a point, its digits, then the exponent
      have ⟨hne, hdigits⟩ := n.fraction_ok ds hds
      obtain ⟨o', hx⟩ := n.runOn_skipExponent hrest (o + '.'.utf8Size + byteLength ds)
      refine ⟨o', ?_⟩
      simp only [afterInteger, afterPoint, runOn_bind, runOn_peek, List.cons_append,
        List.head?_cons, runOn_bump_cons, List.append_assoc,
        runOn_digits hdigits (fun c hc => (hhead c hc).1), List.isEmpty_iff, hne, if_false]
      exact hx
    · -- no point: the exponent at once
      obtain ⟨o', hx⟩ := n.runOn_skipExponent hrest o
      refine ⟨o', ?_⟩
      simp only [afterInteger, runOn_bind, runOn_peek, List.nil_append]
      split
      · next h => exact absurd rfl (hhead '.' h).2
      · exact hx
  -- the integer digits: a lone zero, or digits up to what is no digit
  have hhead : ∀ c ∈ (n.fractionChars ++ n.exponentChars ++ rest).head?, c.isDigit = false := by
    unfold Numeral.fractionChars
    split
    · intro c hc
      simp only [List.cons_append, List.head?_cons, Option.mem_def, Option.some.injEq] at hc
      subst hc
      decide
    · exact fun c hc => (n.exponentChars_head hrest c hc).1
  obtain ⟨d, ds, hint⟩ := List.exists_cons_of_ne_nil n.integer_ok.1
  rw [Numeral.unsigned, hint]
  simp only [List.cons_append, List.append_assoc]
  by_cases hd0 : d = '0'
  · subst hd0
    obtain rfl : ds = [] := by simpa [hint] using n.no_leading_zero
    obtain ⟨o', hx⟩ := hafter (o + '0'.utf8Size)
    refine ⟨o', ?_⟩
    simp only [if_true, runOn_bind, runOn_bump_cons, List.nil_append]
    rw [List.append_assoc] at hhead hx
    generalize n.fractionChars ++ (n.exponentChars ++ rest) = t at hhead hx ⊢
    split
    · next e tail => rw [if_neg (by simp [hhead e rfl])]; exact hx
    · exact hx
  · have hd : d.isDigit = true := n.integer_ok.2 d (by simp [hint])
    obtain ⟨o', hx⟩ := hafter (o + byteLength (d :: ds))
    refine ⟨o', ?_⟩
    have hdigits := @runOn_digits (d :: ds) _ (fun c hc => n.integer_ok.2 c (hint ▸ hc)) hhead o
    simp only [List.cons_append, List.append_assoc] at hdigits hx
    simp only [hd0, if_false, hd, if_true, runOn_bind, hdigits]
    exact hx

end Homescreen.Json
