/-!
# Blank characters and trimming

A configuration text counts as empty when nothing but **blanks** is left after trimming it.
The blanks are the code points with the Unicode property White_Space, which is wider than
ASCII whitespace (it has the no-break space U+00A0, the ideographic space U+3000 and the line
and paragraph separators) and narrower than "invisible" (the zero-width space U+200B and the
byte-order mark U+FEFF are not blanks).

* `isBlank` — the White_Space table, 25 code points in 10 runs;
* `trimChars` / `trim` — drop the longest blank prefix and the longest blank suffix;
* `trimChars_eq_nil_iff` — a text trims to nothing exactly when all of it is blank.
-/

namespace Homescreen.Text

/-- A character is **blank** when it has the Unicode property White_Space: the ASCII controls
tab to carriage return, space, next line U+0085, no-break space U+00A0, ogham space mark
U+1680, the spaces U+2000 to U+200A, the line and paragraph separators U+2028 and U+2029,
narrow no-break space U+202F, medium mathematical space U+205F and ideographic space U+3000. -/
def isBlank (c : Char) : Bool :=
  let n := c.toNat
  (0x09 ≤ n && n ≤ 0x0D) || n == 0x20 || n == 0x85 || n == 0xA0 || n == 0x1680 ||
    (0x2000 ≤ n && n ≤ 0x200A) || n == 0x2028 || n == 0x2029 || n == 0x202F ||
    n == 0x205F || n == 0x3000

/-- The characters without their longest blank prefix and longest blank suffix. -/
def trimChars (cs : List Char) : List Char :=
  ((cs.dropWhile isBlank).reverse.dropWhile isBlank).reverse

/-- A text without its leading and trailing blanks. -/
def trim (s : String) : String :=
  String.ofList (trimChars s.toList)

/-- Every ASCII whitespace character that core knows is blank. -/
theorem isBlank_of_isWhitespace {c : Char} (h : c.isWhitespace = true) : isBlank c = true := by
  simp only [Char.isWhitespace, Bool.or_eq_true, decide_eq_true_eq] at h
  rcases h with ((h | h) | h) | h <;> simp [isBlank, h]

example : isBlank '\u00A0' ∧ isBlank '\u3000' ∧ isBlank '\u2029' := by decide
example : isBlank '\u200B' = false ∧ isBlank '\uFEFF' = false ∧ isBlank '\u180E' = false := by
  decide

theorem toList_trim (s : String) : (trim s).toList = trimChars s.toList := by
  simp [trim, String.toList_ofList]

theorem forall_mem_dropWhile_iff {p : Char → Bool} {l : List Char} :
    (∀ a ∈ l.dropWhile p, p a = true) ↔ ∀ a ∈ l, p a = true := by
  induction l with
  | nil => simp
  | cons a l ih => by_cases h : p a <;> simp [h, ih]

theorem dropWhile_eq_nil_iff {p : Char → Bool} {l : List Char} :
    l.dropWhile p = [] ↔ ∀ a ∈ l, p a = true := by
  induction l with
  | nil => simp
  | cons a l ih => by_cases h : p a <;> simp [h, ih]

/-- **A text trims to nothing exactly when all of it is blank.** -/
theorem trimChars_eq_nil_iff {cs : List Char} :
    trimChars cs = [] ↔ ∀ c ∈ cs, isBlank c = true := by
  simp only [trimChars, List.reverse_eq_nil_iff, dropWhile_eq_nil_iff, List.mem_reverse,
    forall_mem_dropWhile_iff]

end Homescreen.Text
