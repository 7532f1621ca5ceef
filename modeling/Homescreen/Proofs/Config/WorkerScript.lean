import Homescreen.Registration

/-!
# The worker script that validation certifies

Validation looks at the worker script **trimmed** of White_Space; registration hands the navigator
the field **as it stands**. The two agree on every script that does not begin with a blank, and on
no other: ` /sw.js` passes validation and is registered as ` /sw.js`, which is neither a path nor
an http(s) address.

* `WorkerHost.logged` — any navigator, made to keep the registrations asked of it;
* `registerWorker_logged` — with workers supported, registration asks for exactly one, with the
  configured script and scope unchanged;
* `Config.registered_script` — for a valid configuration that script is not empty, is a path or an
  http(s) address once trimmed, and is one as it stands exactly when its first character is not a
  blank;
* `Config.blankLed_script_registered` — the configuration with script ` /sw.js`: valid, registered
  as ` /sw.js`, and that is no path.

The trimming fact behind it is `trimChars_isPrefix_self`: without a leading blank, trimming only
cuts blanks off the end, so what it leaves is a prefix of the text.
-/

namespace Homescreen

open Homescreen.Text

/-! ### Trimming -/

/-- A text that does not begin with a blank is unchanged by dropping its leading blanks. -/
theorem dropWhile_isBlank_of_head {cs : List Char} (h : ∀ ch ∈ cs.head?, isBlank ch = false) :
    cs.dropWhile isBlank = cs := by
  cases cs with
  | nil => rfl
  | cons c r =>
    have hc : isBlank c = false := h c rfl
    simp [hc]

/-- **Trimming a text that does not begin with a blank leaves a prefix of it.** -/
theorem trimChars_isPrefix_self {cs : List Char} (h : ∀ ch ∈ cs.head?, isBlank ch = false) :
    trimChars cs <+: cs := by
  rw [trimChars, dropWhile_isBlank_of_head h]
  -- cutting blanks off the end of `cs` is cutting them off the front of its reverse
  have hsuffix : cs.reverse.dropWhile isBlank <:+ cs.reverse := List.dropWhile_suffix isBlank
  simpa using hsuffix.reverse

/-- A prefix of a text that begins with no blank does not begin the text with a blank. -/
theorem head_not_blank_of_prefix {p cs : List Char} (hp : p <+: cs) (hne : p ≠ [])
    (hnb : ∀ ch ∈ p, isBlank ch = false) : ∀ ch ∈ cs.head?, isBlank ch = false := by
  intro ch hch
  obtain ⟨q, rfl⟩ := hp
  cases p with
  | nil => exact absurd rfl hne
  | cons c r =>
    simp only [List.cons_append, List.head?_cons, Option.mem_def, Option.some.injEq] at hch
    exact hch ▸ hnb c (List.mem_cons_self)

/-- No beginning of a worker script holds a blank, and none is empty. -/
theorem scriptPrefixes_plain :
    ∀ p ∈ scriptPrefixes, p.toList ≠ [] ∧ ∀ ch ∈ p.toList, isBlank ch = false := by
  simp [scriptPrefixes, isBlank]

theorem isScriptLocation_iff (s : String) :
    isScriptLocation s = true ↔ ∃ p ∈ scriptPrefixes, p.toList <+: trimChars s.toList := by
  simp [isScriptLocation, List.isPrefixOf_iff_prefix]

/-- A valid configuration names a worker script that is a path or an http(s) address once
trimmed. -/
theorem Config.isScriptLocation_of_validate {c : Config} (hv : c.validate = .ok ()) :
    isScriptLocation c.workerUrl = true := by
  cases h : isScriptLocation c.workerUrl
  · -- the script is the first field checked, so its failure is the fault
    simp [Config.validate, Config.firstInvalid?, h] at hv
  · rfl

/-! ### Registration -/

variable {σ : Type}

/-- A navigator that keeps the registrations asked of it, script and scope, oldest first, and
answers them as `h` does. -/
def WorkerHost.logged (h : WorkerHost σ) : WorkerHost (σ × List (String × Option String)) where
  supportsWorkers p := h.supportsWorkers p.1
  register url scope p :=
    let (r, s') := h.register url scope p.1
    (r, (s', p.2 ++ [(url, scope)]))

/-- **Registration asks once, with the configured script and scope as they stand.** -/
theorem registerWorker_logged (h : WorkerHost σ) (s : σ) (log : List (String × Option String))
    (c : Config) (hs : h.supportsWorkers s = true) :
    (registerWorker h.logged (s, log) c).2.2 = log ++ [(c.workerUrl, c.workerScope)] := by
  have hsup : h.logged.supportsWorkers (s, log) = true := hs
  rw [registerWorker, if_pos hsup]
  cases hr : h.register c.workerUrl c.workerScope s with
  | mk r s' =>
    cases r <;> simp [WorkerHost.logged, hr]

namespace Config

/-- **The script registered for a valid configuration.** At a navigator that supports workers,
registration hands over the configured script unchanged; for a valid configuration it is not
empty and is a path or an http(s) address once trimmed of White_Space, and it is one as it stands
exactly when its first character is not a blank. -/
theorem registered_script (h : WorkerHost σ) (s : σ) (log : List (String × Option String))
    (c : Config) (hv : c.validate = .ok ()) (hs : h.supportsWorkers s = true) :
    (registerWorker h.logged (s, log) c).2.2 = log ++ [(c.workerUrl, c.workerScope)] ∧
    c.workerUrl.toList ≠ [] ∧
    (∃ p ∈ scriptPrefixes, p.toList <+: trimChars c.workerUrl.toList) ∧
    ((∃ p ∈ scriptPrefixes, p.toList <+: c.workerUrl.toList) ↔
      ∀ ch ∈ c.workerUrl.toList.head?, isBlank ch = false) := by
  obtain ⟨p, hp, hpre⟩ := (isScriptLocation_iff _).1 (isScriptLocation_of_validate hv)
  obtain ⟨hne, -⟩ := scriptPrefixes_plain p hp
  refine ⟨registerWorker_logged h s log c hs, ?_, ⟨p, hp, hpre⟩, ⟨?_, ?_⟩⟩
  · -- a script that trims to a beginning of a path or address is not empty
    intro hnil
    have htrim : trimChars ([] : List Char) = [] := rfl
    rw [hnil, htrim] at hpre
    exact hne (List.prefix_nil.1 hpre)
  · -- a script that begins with a path or address begins with no blank
    rintro ⟨q, hq, hqpre⟩
    obtain ⟨hqne, hqnb⟩ := scriptPrefixes_plain q hq
    exact head_not_blank_of_prefix hqpre hqne hqnb
  · -- without a leading blank, the trimmed script is a prefix of the script
    intro hhead
    exact ⟨p, hp, hpre.trans (trimChars_isPrefix_self hhead)⟩

/-- The default configuration at a navigator with workers registers `/static/public/sw.js`. -/
theorem registered_default_script :
    Config.default.validate = .ok () ∧
    Navigator.host.supportsWorkers
      ⟨true, none, "https://example.com/static/public/", []⟩ = true ∧
    (registerWorker Navigator.host.logged
      (⟨true, none, "https://example.com/static/public/", []⟩, []) Config.default).2.2 =
      [("/static/public/sw.js", none)] :=
  ⟨rfl, rfl,
    (registered_script Navigator.host ⟨true, none, "https://example.com/static/public/", []⟩ []
      Config.default rfl rfl).1⟩

/-- **A valid script that begins with a blank is registered as it stands**, and so as no path:
` /sw.js` passes validation and the navigator is asked to register ` /sw.js`. -/
theorem blankLed_script_registered :
    (⟨" /sw.js", none, "refresh-button", "install-button", "(display-mode: standalone)",
      false⟩ : Config).validate = .ok () ∧
    (registerWorker Navigator.host ⟨true, none, "https://example.com/static/public/", []⟩
      ⟨" /sw.js", none, "refresh-button", "install-button", "(display-mode: standalone)",
        false⟩).2.calls = [(" /sw.js", none)] ∧
    ¬ ∃ p ∈ scriptPrefixes, p.toList <+: " /sw.js".toList :=
  ⟨rfl, rfl, by simp [scriptPrefixes]⟩

end Config

end Homescreen
