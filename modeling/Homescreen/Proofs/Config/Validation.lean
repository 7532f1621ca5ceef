import Mathlib.Data.List.Forall2
import Homescreen.Proofs.Config.WorkerScript

/-!
# What validation accepts

Validation checks the texts of a configuration in a fixed order: the worker script, the scope if
there is one, the refresh button id, the install button id and the standalone query. It fails on
the first text that breaks its rule, naming that field and the text as it stands. The rules read a
text **trimmed**: with its longest prefix and its longest suffix of White_Space cut off.

* `Text.trimChars_decompose` — trimming cuts a blank prefix and a blank suffix, and what it leaves
  is empty or begins and ends with a character that is not blank, so each cut is the longest;
* `Text.trimChars_pad` — blanks added on either side are cut again;
* `Config.checkedTexts`, `ConfigField.Admits` — the checked texts in order and the rule of each,
  said without the checks that run;
* `Config.validate_first_broken_rule` — validation accepts exactly when every checked text keeps
  its rule and otherwise fails with the first that breaks it; blanks added around the texts change
  neither the verdict nor the field named, while a worker script led by any other character
  that begins no script prefix, U+200B and U+FEFF among them, is refused.

The checks that run are Boolean (`isScriptLocation`, `hasText`); `Config.firstInvalid?_eq_find?`
puts them in the form of one search along the checked texts, and `ConfigField.admits_iff` ties each
check to its rule.
-/

namespace Homescreen

open Homescreen.Text

namespace Text

/-- Blanks in front of a text are cut off with the text's own. -/
theorem dropWhile_blank_append {pre cs : List Char} (hpre : ∀ c ∈ pre, isBlank c = true) :
    (pre ++ cs).dropWhile isBlank = cs.dropWhile isBlank := by
  rw [List.dropWhile_append, dropWhile_eq_nil_iff.2 hpre]
  rfl

/-- **Trimming cuts the longest blank prefix and the longest blank suffix.** -/
theorem trimChars_decompose (cs : List Char) :
    ∃ pre suf, cs = pre ++ trimChars cs ++ suf ∧
      (∀ c ∈ pre, isBlank c = true) ∧ (∀ c ∈ suf, isBlank c = true) ∧
      (∀ c ∈ (trimChars cs).head?, isBlank c = false) ∧
      (∀ c ∈ (trimChars cs).getLast?, isBlank c = false) := by
  -- what is left after the prefix, read backwards, splits into the cut suffix and the rest
  have hrest : cs.dropWhile isBlank =
      trimChars cs ++ ((cs.dropWhile isBlank).reverse.takeWhile isBlank).reverse :=
    calc cs.dropWhile isBlank
        = ((cs.dropWhile isBlank).reverse.takeWhile isBlank ++
            (cs.dropWhile isBlank).reverse.dropWhile isBlank).reverse := by
          rw [List.takeWhile_append_dropWhile, List.reverse_reverse]
      _ = trimChars cs ++ ((cs.dropWhile isBlank).reverse.takeWhile isBlank).reverse :=
          List.reverse_append
  refine ⟨cs.takeWhile isBlank, ((cs.dropWhile isBlank).reverse.takeWhile isBlank).reverse,
    ?_, ?_, ?_, fun c hc => ?_, fun c hc => ?_⟩
  · rw [List.append_assoc, ← hrest, List.takeWhile_append_dropWhile]
  · exact List.all_eq_true.1 List.all_takeWhile
  · intro c hc
    exact List.all_eq_true.1 List.all_takeWhile c (List.mem_reverse.1 hc)
  · -- the first character kept is the first not cut in front
    have hhead : (cs.dropWhile isBlank).head? = some c := by
      rw [hrest, List.head?_append, Option.mem_def.1 hc]
      rfl
    simpa [hhead] using List.head?_dropWhile_not isBlank cs
  · -- the last character kept is the first not cut from the back
    have hlast : ((cs.dropWhile isBlank).reverse.dropWhile isBlank).head? = some c := by
      rw [← List.getLast?_reverse]
      exact hc
    simpa [hlast] using List.head?_dropWhile_not isBlank (cs.dropWhile isBlank).reverse

/-- **Blanks added on either side of a text are cut again.** -/
theorem trimChars_pad {pre cs suf : List Char} (hpre : ∀ c ∈ pre, isBlank c = true)
    (hsuf : ∀ c ∈ suf, isBlank c = true) : trimChars (pre ++ cs ++ suf) = trimChars cs := by
  have hfront : trimChars (pre ++ cs ++ suf) = trimChars (cs ++ suf) := by
    rw [trimChars, List.append_assoc, dropWhile_blank_append hpre]
    rfl
  rw [hfront]
  by_cases hcs : ∀ c ∈ cs, isBlank c = true
  · -- a blank text, padded, is still blank
    rw [trimChars_eq_nil_iff.2 hcs, trimChars_eq_nil_iff]
    intro c hc
    rcases List.mem_append.1 hc with hc | hc
    · exact hcs c hc
    · exact hsuf c hc
  · -- otherwise the front cut stops inside the text, and the back cut crosses the padding first
    have hne : (cs.dropWhile isBlank).isEmpty = false := by
      simpa [List.isEmpty_iff, dropWhile_eq_nil_iff] using hcs
    have hback : ∀ c ∈ suf.reverse, isBlank c = true := fun c hc =>
      hsuf c (List.mem_reverse.1 hc)
    rw [trimChars, List.dropWhile_append, hne, if_neg Bool.false_ne_true, List.reverse_append,
      dropWhile_blank_append hback]
    rfl

/-- A text led by a character that is not blank trims to a text led by it. -/
theorem trimChars_cons_of_not_blank {ch : Char} {cs : List Char} (h : isBlank ch = false) :
    ∃ rest, trimChars (ch :: cs) = ch :: rest := by
  obtain ⟨pre, suf, heq, hpre, hsuf, -, -⟩ := trimChars_decompose (ch :: cs)
  -- nothing is cut in front, and not everything is cut behind
  cases pre with
  | cons p pre =>
    obtain ⟨hp, -⟩ := List.cons.inj heq
    have hblank := hpre p List.mem_cons_self
    rw [← hp, h] at hblank
    cases hblank
  | nil =>
    cases ht : trimChars (ch :: cs) with
    | nil =>
      rw [List.nil_append, ht, List.nil_append] at heq
      cases h.symm.trans (hsuf ch (heq ▸ List.mem_cons_self))
    | cons c rest =>
      rw [List.nil_append, ht, List.cons_append] at heq
      obtain ⟨rfl, -⟩ := List.cons.inj heq
      exact ⟨rest, rfl⟩

/-- `t` is `s` with blanks added on either side. -/
def Padded (s t : String) : Prop :=
  ∃ pre suf, (∀ c ∈ pre, isBlank c = true) ∧ (∀ c ∈ suf, isBlank c = true) ∧
    t.toList = pre ++ s.toList ++ suf

theorem trimChars_of_padded {s t : String} (h : Padded s t) :
    trimChars t.toList = trimChars s.toList := by
  obtain ⟨pre, suf, hpre, hsuf, heq⟩ := h
  rw [heq, trimChars_pad hpre hsuf]

end Text

/-- The rule a field's text keeps, read on the text trimmed of White_Space: the worker script
begins with `/`, `https://` or `http://`, case and all; the scope, the button ids and the
standalone query are not empty. The logging flag holds no text. -/
def ConfigField.Admits : ConfigField → String → Prop
  | .workerUrl, v => ∃ p ∈ scriptPrefixes, p.toList <+: trimChars v.toList
  | .workerScope, v => trimChars v.toList ≠ []
  | .refreshButtonId, v => trimChars v.toList ≠ []
  | .installButtonId, v => trimChars v.toList ≠ []
  | .standaloneQuery, v => trimChars v.toList ≠ []
  | .logRegistrations, _ => True

/-- The check that validation runs on a field's text. -/
def ConfigField.admits : ConfigField → String → Bool
  | .workerUrl, v => isScriptLocation v
  | .workerScope, v => hasText v
  | .refreshButtonId, v => hasText v
  | .installButtonId, v => hasText v
  | .standaloneQuery, v => hasText v
  | .logRegistrations, _ => true

/-- Each check is its field's rule. -/
theorem ConfigField.admits_iff (f : ConfigField) (v : String) : f.admits v = true ↔ f.Admits v := by
  cases f <;> simp [admits, Admits, isScriptLocation_iff, hasText]

/-- A check reads the text only trimmed, so blanks added around it change no check. -/
theorem ConfigField.admits_of_padded (f : ConfigField) {v v' : String} (h : Padded v v') :
    f.admits v' = f.admits v := by
  cases f <;> simp [admits, isScriptLocation, hasText, trimChars_of_padded h]

namespace Config

/-- The texts validation checks, with their fields, in the order it checks them: the worker
script, the scope if there is one, then the button ids and the standalone query. -/
def checkedTexts (c : Config) : List (ConfigField × String) :=
  (.workerUrl, c.workerUrl) :: ((c.workerScope.map ((.workerScope, ·))).toList ++ c.requiredTexts)

/-- **Validation is one search along the checked texts** for the first that fails its check. -/
theorem firstInvalid?_eq_find? (c : Config) :
    c.firstInvalid? = c.checkedTexts.find? fun fv => !fv.1.admits fv.2 := by
  rw [firstInvalid?, checkedTexts, firstBlank?, requiredTexts]
  -- the script first, then the scope if there is one, then the required texts
  cases hu : isScriptLocation c.workerUrl
  · simp only [List.find?_cons]
    simp [ConfigField.admits, hu]
  · cases c.workerScope with
    | none =>
      simp only [List.find?_cons, Option.map_none, Option.toList_none, List.nil_append]
      simp [ConfigField.admits, hu]
    | some s =>
      simp only [List.find?_cons, Option.map_some, Option.toList_some, List.singleton_append]
      cases hs : hasText s <;> simp [ConfigField.admits, hu, hs]

theorem validate_eq_error_iff (c : Config) (x : Fault) :
    c.validate = .error x ↔ ∃ f v, c.firstInvalid? = some (f, v) ∧ x = .invalidConfig f.key v := by
  rw [validate]
  cases h : c.firstInvalid? with
  | none => simp
  | some fv =>
    obtain ⟨f, v⟩ := fv
    constructor
    · intro hx
      cases hx
      exact ⟨f, v, rfl, rfl⟩
    · rintro ⟨f', v', hfv, rfl⟩
      cases hfv
      rfl

theorem validate_eq_ok_iff (c : Config) : c.validate = .ok () ↔ c.firstInvalid? = none := by
  rw [validate]
  split <;> simp_all

/-- `c'` is `c` with blanks added on either side of any of its texts. -/
def PaddedTo (c c' : Config) : Prop :=
  Padded c.workerUrl c'.workerUrl ∧
  (c.workerScope = none ∧ c'.workerScope = none ∨
    ∃ s s', c.workerScope = some s ∧ c'.workerScope = some s' ∧ Padded s s') ∧
  Padded c.refreshButtonId c'.refreshButtonId ∧ Padded c.installButtonId c'.installButtonId ∧
  Padded c.standaloneQuery c'.standaloneQuery

/-- The checked texts of a padded configuration are those of the configuration, padded. -/
theorem checkedTexts_padded {c c' : Config} (h : c.PaddedTo c') :
    List.Forall₂ (fun a b => a.1 = b.1 ∧ Padded a.2 b.2) c.checkedTexts c'.checkedTexts := by
  obtain ⟨hu, hs, hr, hi, hq⟩ := h
  -- the scope is checked on both or on neither
  rcases hs with ⟨hn, hn'⟩ | ⟨s, s', hsc, hsc', hss⟩
  · simp [checkedTexts, requiredTexts, hn, hn', hu, hr, hi, hq]
  · simp [checkedTexts, requiredTexts, hsc, hsc', hu, hss, hr, hi, hq]

/-- Searching texts for the first that fails its check stops at the same field on texts padded
one by one. -/
theorem find?_fst_of_padded {l l' : List (ConfigField × String)}
    (h : List.Forall₂ (fun a b => a.1 = b.1 ∧ Padded a.2 b.2) l l') :
    (l'.find? fun fv => !fv.1.admits fv.2).map Prod.fst =
      (l.find? fun fv => !fv.1.admits fv.2).map Prod.fst := by
  induction h with
  | nil => rfl
  | @cons a b l l' hab _ ih =>
    obtain ⟨hfield, hpad⟩ := hab
    have hcheck : b.1.admits b.2 = a.1.admits a.2 := by
      rw [← hfield]
      exact a.1.admits_of_padded hpad
    rw [List.find?_cons, List.find?_cons, hcheck]
    cases a.1.admits a.2
    · simp [hfield]
    · exact ih

/-- **What validation accepts.** Validation accepts a configuration exactly when every checked
text keeps its rule, reading texts trimmed of White_Space; otherwise it fails naming the first
checked text, in the order worker script, scope, refresh button id, install button id, standalone
query, that breaks its rule, with that text untrimmed. Hence blanks added on either side of any
texts change neither the verdict nor the field named; but a worker script led by a character that
is not blank and begins no script prefix, such as U+200B or U+FEFF, is refused, whatever follows. -/
theorem validate_first_broken_rule (c : Config) :
    (c.validate = .ok () ↔ ∀ fv ∈ c.checkedTexts, fv.1.Admits fv.2) ∧
    (∀ x, c.validate = .error x ↔
      ∃ pre f v post, c.checkedTexts = pre ++ (f, v) :: post ∧
        (∀ gw ∈ pre, gw.1.Admits gw.2) ∧ ¬ f.Admits v ∧ x = .invalidConfig f.key v) ∧
    (∀ c', c.PaddedTo c' →
      (c'.validate = .ok () ↔ c.validate = .ok ()) ∧
      ∀ k, (∃ v, c'.validate = .error (.invalidConfig k v)) ↔
        ∃ v, c.validate = .error (.invalidConfig k v)) ∧
    (∀ ch, isBlank ch = false → ch ≠ '/' → ch ≠ 'h' →
      validate { c with workerUrl := String.singleton ch ++ c.workerUrl } =
        .error (.invalidConfig ConfigField.workerUrl.key (String.singleton ch ++ c.workerUrl))) := by
  have hfind := firstInvalid?_eq_find? c
  refine ⟨?_, fun x => ?_, fun c' hpad => ?_, fun ch hch hslash hh => ?_⟩
  · -- nothing found: every text passes
    rw [validate_eq_ok_iff, hfind, List.find?_eq_none]
    simp [ConfigField.admits_iff]
  · -- found: the first text that fails, all before it passing
    rw [validate_eq_error_iff, hfind]
    simp only [List.find?_eq_some_iff_append, Bool.not_eq_true', Bool.not_not]
    constructor
    · rintro ⟨f, v, ⟨hfail, pre, post, heq, hpass⟩, rfl⟩
      refine ⟨pre, f, v, post, heq, fun gw hgw => (ConfigField.admits_iff _ _).1 (hpass gw hgw),
        fun hok => ?_, rfl⟩
      rw [← ConfigField.admits_iff, hfail] at hok
      cases hok
    · rintro ⟨pre, f, v, post, heq, hpass, hfail, rfl⟩
      refine ⟨f, v, ⟨Bool.eq_false_iff.2 (mt (ConfigField.admits_iff _ _).1 hfail), pre, post, heq,
        fun gw hgw => (ConfigField.admits_iff _ _).2 (hpass gw hgw)⟩, rfl⟩
  · have hfield : c'.firstInvalid?.map Prod.fst = c.firstInvalid?.map Prod.fst := by
      rw [firstInvalid?_eq_find?, firstInvalid?_eq_find?]
      exact find?_fst_of_padded (checkedTexts_padded hpad)
    refine ⟨?_, fun k => ?_⟩
    · rw [validate_eq_ok_iff, validate_eq_ok_iff, ← Option.map_eq_none_iff (f := Prod.fst), hfield,
        Option.map_eq_none_iff]
    · simp only [validate_eq_error_iff, Fault.invalidConfig.injEq]
      -- both searches stop at the same field, each at its own text
      constructor
      · rintro ⟨v, f, v', hf, rfl, rfl⟩
        have hstop : c.firstInvalid?.map Prod.fst = some f := by rw [← hfield, hf]; rfl
        obtain ⟨⟨f₀, v₀⟩, h₀, hf₀⟩ := Option.map_eq_some_iff.1 hstop
        cases hf₀
        exact ⟨v₀, f₀, v₀, h₀, rfl, rfl⟩
      · rintro ⟨v, f, v', hf, rfl, rfl⟩
        have hstop : c'.firstInvalid?.map Prod.fst = some f := by rw [hfield, hf]; rfl
        obtain ⟨⟨f₀, v₀⟩, h₀, hf₀⟩ := Option.map_eq_some_iff.1 hstop
        cases hf₀
        exact ⟨v₀, f₀, v₀, h₀, rfl, rfl⟩
  · -- the trimmed script begins with `ch`, and every script prefix begins with `/` or `h`
    have hloc : isScriptLocation (String.singleton ch ++ c.workerUrl) = false := by
      obtain ⟨rest, hrest⟩ := @trimChars_cons_of_not_blank ch c.workerUrl.toList hch
      rw [Bool.eq_false_iff, ne_eq, isScriptLocation_iff]
      simp only [String.toList_append, String.toList_singleton, List.singleton_append, hrest]
      simp [scriptPrefixes, List.cons_prefix_cons, Ne.symm hslash, Ne.symm hh]
    simp [validate, firstInvalid?, hloc]

/-- A worker script led by a zero-width space or a byte-order mark is refused, though neither
is blank. -/
theorem invisible_led_default_script :
    isBlank '\u200B' = false ∧ isBlank '\uFEFF' = false ∧
    validate { Config.default with workerUrl := String.singleton '\u200B' ++ "/static/public/sw.js" } =
      .error (.invalidConfig "service_worker_url" (String.singleton '\u200B' ++ "/static/public/sw.js")) ∧
    validate { Config.default with workerUrl := String.singleton '\uFEFF' ++ "/static/public/sw.js" } =
      .error (.invalidConfig "service_worker_url" (String.singleton '\uFEFF' ++ "/static/public/sw.js")) :=
  ⟨by simp [isBlank], by simp [isBlank],
    (validate_first_broken_rule Config.default).2.2.2 '\u200B' (by simp [isBlank]) (by decide)
      (by decide),
    (validate_first_broken_rule Config.default).2.2.2 '\uFEFF' (by simp [isBlank]) (by decide)
      (by decide)⟩

end Config

end Homescreen
