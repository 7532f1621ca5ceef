import Homescreen.Platform

/-!
# Telling iOS from the user agent

The user agent is searched as UTF-8 bytes: its bytes, with the ASCII capitals made small, must hold
the bytes of `iphone`, `ipad` or `ipod` as a run. The law is about characters: the agent holds a
run of characters that becomes one of the names when only `A` to `Z` are made small
(`Char.toLower` changes nothing else).

The two agree because of how UTF-8 writes characters. An ASCII character is one byte, its own
code; every other character is written only with bytes of 128 and above. So making ASCII capitals
small byte by byte is making them small character by character (`map_lowerAsciiByte_encode`), and
a name of ASCII characters found among the bytes can only start where a character starts and can
only match ASCII characters (`containsRun_flatMap_encode`).

* `utf8Bytes_eq` — the bytes of a text are the bytes of its characters, one after the other;
* `isIosAgent_eq_chars` — the byte search is the character search;
* `isIosAgent_iff_run` — the law, and what follows from it: the verdict ignores the case of ASCII
  letters, survives any text added on either side, and no character beyond ASCII ever takes part
  in a match.
-/

namespace Homescreen

/-! ### Characters in UTF-8 -/

/-- A byte with its top bit set is beyond ASCII, whatever the other bits. -/
theorem le_toNat_or_high (x k : UInt8) (hk : 128 ≤ k.toNat) : 128 ≤ (x ||| k).toNat := by
  rw [UInt8.toNat_or]
  exact Nat.le_trans hk Nat.right_le_or

/-- An ASCII character is written as one byte, its own code. -/
theorem utf8EncodeChar_ascii {c : Char} (hc : c.toNat < 128) :
    String.utf8EncodeChar c = [c.toUInt8] := by
  have hsize : c.utf8Size = 1 := by
    rw [Char.utf8Size_eq_one_iff, UInt32.le_iff_toNat_le]
    have hval : c.toNat = c.val.toNat := rfl
    have h127 : (127 : UInt32).toNat = 127 := rfl
    omega
  rw [String.utf8EncodeChar_eq_singleton hsize, Char.toUInt8_val]

/-- **A character beyond ASCII is written only with bytes beyond ASCII**: a lead byte and
continuation bytes, each with its top bit set. -/
theorem utf8EncodeChar_high {c : Char} (hc : 128 ≤ c.toNat) :
    ∀ b ∈ String.utf8EncodeChar c, 128 ≤ b.toNat := by
  have hsize : c.utf8Size ≠ 1 := by
    rw [ne_eq, Char.utf8Size_eq_one_iff, UInt32.le_iff_toNat_le]
    have hval : c.toNat = c.val.toNat := rfl
    have h127 : (127 : UInt32).toNat = 127 := rfl
    omega
  intro b hb
  -- two, three or four bytes, each an `or` with a high constant
  rcases Char.utf8Size_eq c with h1 | h2 | h3 | h4
  · exact absurd h1 hsize
  · rw [String.utf8EncodeChar_eq_cons_cons h2] at hb
    simp only [List.mem_cons, List.not_mem_nil, or_false] at hb
    rcases hb with rfl | rfl <;> exact le_toNat_or_high _ _ (by decide)
  · rw [String.utf8EncodeChar_eq_cons_cons_cons h3] at hb
    simp only [List.mem_cons, List.not_mem_nil, or_false] at hb
    rcases hb with rfl | rfl | rfl <;> exact le_toNat_or_high _ _ (by decide)
  · rw [String.utf8EncodeChar_eq_cons_cons_cons_cons h4] at hb
    simp only [List.mem_cons, List.not_mem_nil, or_false] at hb
    rcases hb with rfl | rfl | rfl | rfl <;> exact le_toNat_or_high _ _ (by decide)

/-- After its first byte, a character is written with bytes beyond ASCII only. -/
theorem utf8EncodeChar_tail_high (c : Char) :
    ∀ b ∈ (String.utf8EncodeChar c).tail, 128 ≤ b.toNat := by
  by_cases hc : c.toNat < 128
  · rw [utf8EncodeChar_ascii hc]
    exact fun _ hb => absurd hb List.not_mem_nil
  · exact fun b hb => utf8EncodeChar_high (Nat.le_of_not_lt hc) b (List.mem_of_mem_tail hb)

/-- The bytes of a text are the bytes of its characters, one after the other. -/
theorem utf8Bytes_eq (s : String) : utf8Bytes s = s.toList.flatMap String.utf8EncodeChar := by
  obtain ⟨l, rfl⟩ := String.exists_eq_ofList s
  simp [utf8Bytes, List.utf8Encode, String.toList_ofList]

/-- The code of an ASCII character, as a byte, is the character's number. -/
theorem toNat_toUInt8_ascii {c : Char} (hc : c.toNat < 128) : c.toUInt8.toNat = c.toNat := by
  rw [← Char.toUInt8_val, UInt32.toNat_toUInt8]
  exact Nat.mod_eq_of_lt (by change c.toNat < 256; omega)

/-- Making an ASCII character small keeps it ASCII. -/
theorem toNat_toLower_ascii {c : Char} (hc : c.toNat < 128) :
    c.toLower.toNat = if 65 ≤ c.toNat ∧ c.toNat ≤ 90 then c.toNat + 32 else c.toNat := by
  have hval : c.toNat = c.val.toNat := rfl
  unfold Char.toLower
  split
  · rename_i h
    simp only [ge_iff_le, UInt32.le_iff_toNat_le] at h
    have h65 : ('A' : Char).val.toNat = 65 := rfl
    have h90 : ('Z' : Char).val.toNat = 90 := rfl
    rw [if_pos (by omega)]
    show (c.val + ('a'.val - 'A'.val)).toNat = c.toNat + 32
    rw [UInt32.toNat_add, hval]
    have h32 : ('a'.val - 'A'.val).toNat = 32 := rfl
    rw [h32]
    exact Nat.mod_eq_of_lt (by omega)
  · rename_i h
    simp only [ge_iff_le, UInt32.le_iff_toNat_le] at h
    have h65 : ('A' : Char).val.toNat = 65 := rfl
    have h90 : ('Z' : Char).val.toNat = 90 := rfl
    rw [if_neg (by omega)]

/-- A character beyond ASCII is not made small. -/
theorem toLower_high {c : Char} (hc : 128 ≤ c.toNat) : c.toLower = c := by
  unfold Char.toLower
  rw [dif_neg]
  simp only [ge_iff_le, UInt32.le_iff_toNat_le, not_and]
  have hval : c.toNat = c.val.toNat := rfl
  have h90 : ('Z' : Char).val.toNat = 90 := rfl
  omega

/-- The ASCII letters, in numbers. -/
theorem isAlpha_iff_toNat (c : Char) :
    c.isAlpha = true ↔ (65 ≤ c.toNat ∧ c.toNat ≤ 90) ∨ (97 ≤ c.toNat ∧ c.toNat ≤ 122) := by
  -- the two ranges of `Char.isUpper` and `Char.isLower`, read off the definitions
  show (decide (c.val ≥ 'A'.val ∧ c.val ≤ 'Z'.val) ||
      (decide (c.val ≥ 'a'.val) && decide (c.val ≤ 'z'.val))) = true ↔ _
  simp only [ge_iff_le, Bool.or_eq_true, Bool.and_eq_true, decide_eq_true_eq,
    UInt32.le_iff_toNat_le]
  rfl

theorem isLower_iff_toNat (c : Char) : c.isLower = true ↔ 97 ≤ c.toNat ∧ c.toNat ≤ 122 := by
  show (decide (c.val ≥ 'a'.val) && decide (c.val ≤ 'z'.val)) = true ↔ _
  simp only [ge_iff_le, Bool.and_eq_true, decide_eq_true_eq, UInt32.le_iff_toNat_le]
  rfl

/-- A character that is made into a small ASCII letter is an ASCII letter. -/
theorem isAlpha_of_isLower_toLower {c : Char} (h : c.toLower.isLower = true) :
    c.toNat < 128 ∧ c.isAlpha = true := by
  rw [isLower_iff_toNat] at h
  by_cases hc : c.toNat < 128
  · -- a small letter came from a capital or was one
    rw [toNat_toLower_ascii hc] at h
    refine ⟨hc, (isAlpha_iff_toNat c).2 ?_⟩
    split at h <;> omega
  · -- beyond ASCII the character stays, and is no small ASCII letter
    rw [toLower_high (Nat.le_of_not_lt hc)] at h
    omega

/-- A byte made small, in numbers: `A` to `Z` move up by 32, every other byte stays. -/
theorem toNat_lowerAsciiByte (b : UInt8) :
    (lowerAsciiByte b).toNat = if 65 ≤ b.toNat ∧ b.toNat ≤ 90 then b.toNat + 32 else b.toNat := by
  have hcap : (65 ≤ b ∧ b ≤ 90) ↔ (65 ≤ b.toNat ∧ b.toNat ≤ 90) := by
    rw [UInt8.le_iff_toNat_le, UInt8.le_iff_toNat_le]
    rfl
  unfold lowerAsciiByte
  by_cases h : 65 ≤ b.toNat ∧ b.toNat ≤ 90
  · rw [if_pos (hcap.2 h), if_pos h, UInt8.toNat_add]
    exact Nat.mod_eq_of_lt (by change b.toNat + 32 < 256; omega)
  · rw [if_neg (mt hcap.1 h), if_neg h]

/-- **Making ASCII capitals small byte by byte is making them small character by character.** An
ASCII character's byte changes as the character does; the bytes of any other character are beyond
the capitals and stay, as does the character. -/
theorem map_lowerAsciiByte_encode (c : Char) :
    (String.utf8EncodeChar c).map lowerAsciiByte = String.utf8EncodeChar c.toLower := by
  by_cases hc : c.toNat < 128
  · have hlow : c.toLower.toNat < 128 := by
      rw [toNat_toLower_ascii hc]
      split <;> omega
    rw [utf8EncodeChar_ascii hc, utf8EncodeChar_ascii hlow, List.map_singleton,
      List.singleton_inj]
    apply UInt8.toNat_inj.1
    rw [toNat_lowerAsciiByte, toNat_toUInt8_ascii hc, toNat_toUInt8_ascii hlow,
      toNat_toLower_ascii hc]
  · -- beyond ASCII: no byte is a capital, and the character is not one
    have hhigh := utf8EncodeChar_high (Nat.le_of_not_lt hc)
    rw [toLower_high (Nat.le_of_not_lt hc)]
    conv => rhs; rw [← List.map_id (String.utf8EncodeChar c)]
    apply List.map_congr_left
    intro b hb
    have h128 := hhigh b hb
    apply UInt8.toNat_inj.1
    rw [toNat_lowerAsciiByte, if_neg (by omega)]
    rfl

/-! ### Runs of bytes and runs of characters -/

/-- **A run is a contiguous piece.** -/
theorem containsRun_eq_true_iff {α : Type} [BEq α] [LawfulBEq α] (w l : List α) :
    containsRun w l = true ↔ w <:+: l := by
  induction l with
  | nil => simp [containsRun, List.infix_nil]
  | cons c cs ih => simp [containsRun, List.isPrefixOf_iff_prefix, ih, List.infix_cons_iff]

section Runs

variable {w : List Char}

/-- The bytes of ASCII characters are a prefix of the bytes of characters exactly when the
characters are a prefix: a byte beyond ASCII never matches, and ASCII codes are one to one. -/
theorem isPrefixOf_flatMap_encode (hw : ∀ a ∈ w, a.toNat < 128) (cs : List Char) :
    (w.flatMap String.utf8EncodeChar).isPrefixOf (cs.flatMap String.utf8EncodeChar) =
      w.isPrefixOf cs := by
  induction w generalizing cs with
  | nil => simp
  | cons a w ih =>
    have ha := hw a List.mem_cons_self
    have hrest := ih fun b hb => hw b (List.mem_cons_of_mem _ hb)
    cases cs with
    | nil => simp [utf8EncodeChar_ascii ha]
    | cons c cs =>
      by_cases hc : c.toNat < 128
      · -- two ASCII characters: their bytes agree exactly when they do
        have hcode : (a.toUInt8 == c.toUInt8) = (a == c) := by
          rw [Bool.eq_iff_iff, beq_iff_eq, beq_iff_eq, ← UInt8.toNat_inj,
            toNat_toUInt8_ascii ha, toNat_toUInt8_ascii hc, Char.toNat_inj]
        simp [List.flatMap_cons, utf8EncodeChar_ascii ha, utf8EncodeChar_ascii hc,
          List.isPrefixOf_cons_cons, hcode, hrest]
      · -- a character beyond ASCII: its first byte is no ASCII code
        obtain ⟨b, bs, hbs⟩ := List.exists_cons_of_ne_nil (String.utf8EncodeChar_ne_nil (c := c))
        have hb := utf8EncodeChar_high (Nat.le_of_not_lt hc) b (hbs ▸ List.mem_cons_self)
        have hbyte : (a.toUInt8 == b) = false := by
          have hne : a.toUInt8 ≠ b := fun h => by
            have := toNat_toUInt8_ascii ha
            rw [h] at this
            omega
          simp [hne]
        have hchar : (a == c) = false := by
          have hne : a ≠ c := fun h => hc (h ▸ ha)
          simp [hne]
        simp [List.flatMap_cons, utf8EncodeChar_ascii ha, hbs, List.isPrefixOf_cons_cons, hbyte,
          hchar]

/-- Bytes beyond ASCII in front of a text hold no run that begins with an ASCII byte. -/
theorem containsRun_high_append {W xs ys : List UInt8} (hW : ∀ b ∈ W.head?, b.toNat < 128)
    (hne : W ≠ []) (hxs : ∀ b ∈ xs, 128 ≤ b.toNat) :
    containsRun W (xs ++ ys) = containsRun W ys := by
  induction xs with
  | nil => rfl
  | cons x xs ih =>
    obtain ⟨w₀, W', rfl⟩ := List.exists_cons_of_ne_nil hne
    have hw₀ := hW w₀ rfl
    have hx := hxs x List.mem_cons_self
    have hfirst : (w₀ == x) = false := by
      have hne' : w₀ ≠ x := fun h => by rw [h] at hw₀; omega
      simp [hne']
    rw [List.cons_append, containsRun, List.isPrefixOf_cons_cons, hfirst, Bool.false_and,
      Bool.false_or, ih fun b hb => hxs b (List.mem_cons_of_mem _ hb)]

/-- **The bytes of a nonempty run of ASCII characters occur in the bytes of a text exactly when
the run occurs in its characters.** -/
theorem containsRun_flatMap_encode (hw : ∀ a ∈ w, a.toNat < 128) (hne : w ≠ [])
    (cs : List Char) :
    containsRun (w.flatMap String.utf8EncodeChar) (cs.flatMap String.utf8EncodeChar) =
      containsRun w cs := by
  obtain ⟨a, w', rfl⟩ := List.exists_cons_of_ne_nil hne
  have ha := hw a List.mem_cons_self
  have hhead : ∀ b ∈ ((a :: w').flatMap String.utf8EncodeChar).head?, b.toNat < 128 := by
    intro b hb
    simp only [List.flatMap_cons, utf8EncodeChar_ascii ha, List.singleton_append,
      List.head?_cons, Option.mem_def, Option.some.injEq] at hb
    rw [← hb, toNat_toUInt8_ascii ha]
    exact ha
  have hWne : (a :: w').flatMap String.utf8EncodeChar ≠ [] := by
    simp [utf8EncodeChar_ascii ha]
  induction cs with
  | nil => simp [containsRun, utf8EncodeChar_ascii ha]
  | cons c cs ih =>
    -- a match at the first byte of `c` is a match at `c`; none starts inside `c`
    obtain ⟨b, bs, hbs⟩ := List.exists_cons_of_ne_nil (String.utf8EncodeChar_ne_nil (c := c))
    have htail : ∀ x ∈ bs, 128 ≤ x.toNat := by
      have := utf8EncodeChar_tail_high c
      rw [hbs] at this
      exact this
    have hsplit : (c :: cs).flatMap String.utf8EncodeChar =
        b :: (bs ++ cs.flatMap String.utf8EncodeChar) := by
      rw [List.flatMap_cons, hbs, List.cons_append]
    rw [hsplit, containsRun, ← hsplit, isPrefixOf_flatMap_encode hw,
      containsRun_high_append hhead hWne htail, ih, containsRun]

end Runs

/-- The device names are runs of small ASCII letters. -/
theorem iosDevices_letters :
    ∀ d ∈ iosDevices, d.toList ≠ [] ∧ ∀ c ∈ d.toList, c.toNat < 128 ∧ c.isLower = true := by
  simp [iosDevices, isLower_iff_toNat]

/-- **The byte search is the character search**: the agent, with its ASCII capitals made small,
holds a device name as a run of characters. -/
theorem isIosAgent_eq_chars (ua : String) :
    isIosAgent ua = iosDevices.any fun d => containsRun d.toList (ua.toList.map Char.toLower) := by
  have hlowered : (utf8Bytes ua).map lowerAsciiByte =
      (ua.toList.map Char.toLower).flatMap String.utf8EncodeChar := by
    rw [utf8Bytes_eq, List.map_flatMap, List.flatMap_map]
    simp only [map_lowerAsciiByte_encode]
  rw [isIosAgent, hlowered, Bool.eq_iff_iff, List.any_eq_true, List.any_eq_true]
  refine exists_congr fun d => and_congr_right fun hd => ?_
  obtain ⟨hne, hletters⟩ := iosDevices_letters d hd
  rw [utf8Bytes_eq, containsRun_flatMap_encode (fun c hc => (hletters c hc).1) hne]

/-- A run of the agent made small is the agent's run made small. -/
theorem run_map_toLower_iff (ua : List Char) (d : List Char) :
    d <:+: ua.map Char.toLower ↔
      ∃ pre mid suf, ua = pre ++ mid ++ suf ∧ mid.map Char.toLower = d := by
  constructor
  · rintro ⟨s, t, hst⟩
    obtain ⟨front, suf, rfl, hfront, -⟩ := List.map_eq_append_iff.1 hst.symm
    obtain ⟨pre, mid, rfl, -, hmid⟩ := List.map_eq_append_iff.1 hfront
    exact ⟨pre, mid, suf, rfl, hmid⟩
  · rintro ⟨pre, mid, suf, rfl, hmid⟩
    exact ⟨pre.map Char.toLower, suf.map Char.toLower, by simp [hmid]⟩

/-- **An agent is told iOS exactly when it names a device, up to the case of ASCII letters**:
it holds a run of characters that becomes `iphone`, `ipad` or `ipod` when `A` to `Z`, and nothing
else, are made small. Hence the verdict does not change when the case of any ASCII letters does,
it stays when any text is added on either side, and every character of a matching run is an ASCII
letter: no character beyond ASCII (U+0130, the Kelvin sign, full-width letters) takes part. -/
theorem isIosAgent_iff_run (ua : String) :
    (isIosAgent ua = true ↔ ∃ d ∈ iosDevices, ∃ pre mid suf,
      ua.toList = pre ++ mid ++ suf ∧ mid.map Char.toLower = d.toList) ∧
    (∀ ua' : String, ua'.toList.map Char.toLower = ua.toList.map Char.toLower →
      isIosAgent ua' = isIosAgent ua) ∧
    (∀ x y : String, isIosAgent ua = true → isIosAgent (x ++ ua ++ y) = true) ∧
    (∀ d ∈ iosDevices, ∀ pre mid suf, ua.toList = pre ++ mid ++ suf →
      mid.map Char.toLower = d.toList → ∀ c ∈ mid, c.toNat < 128 ∧ c.isAlpha = true) := by
  -- the verdict on any agent, as a search of its characters
  have hrun : ∀ u : String, isIosAgent u = true ↔ ∃ d ∈ iosDevices, ∃ pre mid suf,
      u.toList = pre ++ mid ++ suf ∧ mid.map Char.toLower = d.toList := fun u => by
    rw [isIosAgent_eq_chars, List.any_eq_true]
    refine exists_congr fun d => and_congr_right fun _ => ?_
    rw [containsRun_eq_true_iff, run_map_toLower_iff]
  refine ⟨hrun ua, fun ua' hcase => ?_, fun x y hios => ?_, ?_⟩
  · rw [isIosAgent_eq_chars, isIosAgent_eq_chars, hcase]
  · obtain ⟨d, hd, pre, mid, suf, hua, hmid⟩ := (hrun ua).1 hios
    refine (hrun _).2 ⟨d, hd, x.toList ++ pre, mid, suf ++ y.toList, ?_, hmid⟩
    simp [String.toList_append, hua]
  · intro d hd pre mid suf _ hmid c hc
    -- made small, `c` is a letter of the device name
    have hmem : c.toLower ∈ d.toList := hmid ▸ List.mem_map_of_mem hc
    exact isAlpha_of_isLower_toLower ((iosDevices_letters d hd).2 _ hmem).2

/-- An agent that names an iPad still does inside any longer agent. -/
theorem iPad_agent_in_context :
    isIosAgent "iPad" = true ∧
    isIosAgent ("Mozilla/5.0 (" ++ "iPad" ++ "; CPU OS 16_6 like Mac OS X)") = true := by
  have hpad : isIosAgent "iPad" = true := by decide
  exact ⟨hpad, (isIosAgent_iff_run "iPad").2.2.1 _ _ hpad⟩

example : isIosAgent "İphone" = false := by decide

end Homescreen
