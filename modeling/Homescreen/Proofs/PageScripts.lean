import Homescreen.Refresh

/-!
# Refreshes along a page script

A page script reports new visibility texts, makes reloads fail or work again, and refreshes.
What each refresh does is said here by the script alone: by the visibility text it last reported
and the failure it last set (`PageSettings`), or the ones the page started with.

* `PageSettings.final_page` — after any script the page is the one its settings describe, with one
  reload for each refresh taken while the text was `visible` and reloads worked;
* `Page.run_getElem?` — the report of a step is that step taken from the page its prefix leaves;
* `Page.refresh_follows_settings` — each refresh reloads, and is counted, exactly when the text
  last reported is `visible` and no failure is set; it skips a page reported hidden whatever the
  failure, leaving the page as it was; it returns the reload's fault, leaving the page as it was,
  when the page is visible and reloads fail. The reloads after a script are therefore the
  refreshes taken while visible and not failing.

The proofs run off one lemma per kind of step (`PageSettings.step_page`), carried along the script
by induction.
-/

namespace Homescreen

/-- Only the text `visible` reports a visible page. -/
@[simp] theorem Visibility.ofText_eq_visible_iff (s : String) :
    Visibility.ofText s = .visible ↔ s = "visible" := by
  by_cases h : s = "visible" <;> simp [Visibility.ofText, h]

namespace Page

/-! ### One refresh -/

/-- A hidden page is skipped and left as it is, whatever its reloads would do. -/
theorem refreshIfVisible_hidden {p : Page} (h : p.visibility = .hidden) :
    p.refreshIfVisible = (.ok .skippedHidden, p) := by
  simp [refreshIfVisible, h]

/-- A visible page whose reloads work is reloaded once. -/
theorem refreshIfVisible_reloaded {p : Page} (hv : p.visibility = .visible)
    (hf : p.failure = none) :
    p.refreshIfVisible = (.ok .reloaded, { p with reloads := p.reloads + 1 }) := by
  simp [refreshIfVisible, reload, hv, hf]

/-- A visible page whose reloads fail reports the reload's fault and is left as it is. -/
theorem refreshIfVisible_failed {p : Page} (hv : p.visibility = .visible) {reason : String}
    (hf : p.failure = some reason) :
    p.refreshIfVisible = (.error (.reloadFailed reason), p) := by
  simp [refreshIfVisible, reload, hv, hf]

/-! ### Reports of a script -/

/-- **The report of a step** is that step taken from the page the steps before it leave. -/
theorem run_getElem? (p : Page) (ss : List PageStep) (i : Nat) :
    (p.run ss)[i]? = ss[i]?.map (p.final (ss.take i)).step := by
  induction ss generalizing p i with
  | nil => simp [run]
  | cons s ss ih =>
    cases i with
    | zero => simp [run, final]
    | succ i => simp [run, final, ih]

end Page

/-- What a page script has set so far: the visibility text it last reported and the failure it
last set. -/
structure PageSettings where
  text : String
  failure : Option String
  deriving DecidableEq, Repr

namespace PageSettings

/-- The settings after one step. -/
def after (σ : PageSettings) : PageStep → PageSettings
  | .setVisibility t => { σ with text := t }
  | .setFailure r => { σ with failure := r }
  | .refresh => σ

/-- The settings after a script. -/
def afterAll (σ : PageSettings) (ss : List PageStep) : PageSettings :=
  ss.foldl after σ

/-- A refresh under these settings reloads the page: the text is `visible` and no failure is
set. -/
def Reloads (σ : PageSettings) : Prop :=
  σ.text = "visible" ∧ σ.failure = none

instance (σ : PageSettings) : Decidable σ.Reloads :=
  inferInstanceAs (Decidable (_ ∧ _))

/-- The page the settings describe, after `n` reloads. -/
def page (σ : PageSettings) (n : Nat) : Page :=
  ⟨Visibility.ofText σ.text, σ.failure, n⟩

/-- How many refresh steps of a script are taken under settings that reload the page. -/
def reloadingRefreshes (σ : PageSettings) : List PageStep → Nat
  | [] => 0
  | s :: ss => (if s = .refresh ∧ σ.Reloads then 1 else 0) + reloadingRefreshes (σ.after s) ss

@[simp] theorem afterAll_nil (σ : PageSettings) : σ.afterAll [] = σ := rfl

@[simp] theorem afterAll_cons (σ : PageSettings) (s : PageStep) (ss : List PageStep) :
    σ.afterAll (s :: ss) = (σ.after s).afterAll ss := rfl

@[simp] theorem page_visibility (σ : PageSettings) (n : Nat) :
    (σ.page n).visibility = Visibility.ofText σ.text := rfl

@[simp] theorem page_failure (σ : PageSettings) (n : Nat) : (σ.page n).failure = σ.failure := rfl

@[simp] theorem page_reloads (σ : PageSettings) (n : Nat) : (σ.page n).reloads = n := rfl

/-- Settings whose text is not `visible` describe a hidden page. -/
theorem page_hidden {σ : PageSettings} (hv : σ.text ≠ "visible") (n : Nat) :
    (σ.page n).visibility = .hidden := by
  cases h : Visibility.ofText σ.text with
  | visible => exact absurd ((Visibility.ofText_eq_visible_iff _).1 h) hv
  | hidden => simp [h]

/-- **What a refresh does under some settings**: it reloads a page reported `visible` whose
reloads work; it skips a page reported otherwise, whatever its reloads would do; it reports the
fault of a failing reload; and only a reload changes the page. -/
theorem refresh_step (σ : PageSettings) (n : Nat) :
    (σ.Reloads → (σ.page n).step .refresh = ⟨σ.page (n + 1), some (.ok .reloaded)⟩) ∧
    (σ.text ≠ "visible" → (σ.page n).step .refresh = ⟨σ.page n, some (.ok .skippedHidden)⟩) ∧
    (∀ reason, σ.text = "visible" → σ.failure = some reason →
      (σ.page n).step .refresh = ⟨σ.page n, some (.error (.reloadFailed reason))⟩) := by
  refine ⟨fun ⟨hv, hf⟩ => ?_, fun hv => ?_, fun reason hv hf => ?_⟩
  · rw [Page.step, Page.refreshIfVisible_reloaded (by simp [hv]) hf]
    rfl
  · rw [Page.step, Page.refreshIfVisible_hidden (page_hidden hv n)]
  · rw [Page.step, Page.refreshIfVisible_failed (by simp [hv]) hf]

/-- A refresh answers that it reloaded exactly under settings that reload. -/
theorem refresh_reloaded_iff (σ : PageSettings) (n : Nat) :
    ((σ.page n).step .refresh).refresh = some (.ok .reloaded) ↔ σ.Reloads := by
  obtain ⟨hreload, hhidden, hfailed⟩ := refresh_step σ n
  refine ⟨fun h => ?_, fun h => by rw [hreload h]⟩
  by_cases hv : σ.text = "visible"
  · -- visible: a failure set would have been reported instead
    cases hf : σ.failure with
    | none => exact ⟨hv, hf⟩
    | some reason => rw [hfailed reason hv hf] at h; cases h
  · rw [hhidden hv] at h
    cases h

/-- **One step of a script**: the page the settings describe goes to the page the next settings
describe, with one more reload exactly when the step is a refresh under settings that reload. -/
theorem step_page (σ : PageSettings) (n : Nat) (s : PageStep) :
    ((σ.page n).step s).page =
      (σ.after s).page (n + if s = .refresh ∧ σ.Reloads then 1 else 0) := by
  obtain ⟨hreload, hhidden, hfailed⟩ := refresh_step σ n
  cases s with
  | setVisibility t => rfl
  | setFailure r => rfl
  | refresh =>
    simp only [after, true_and]
    by_cases hr : σ.Reloads
    · rw [if_pos hr, hreload hr]
    · rw [if_neg hr, Nat.add_zero]
      by_cases hv : σ.text = "visible"
      · -- visible and not reloading: a failure is set
        obtain ⟨reason, hf⟩ := Option.ne_none_iff_exists'.1 fun hf => hr ⟨hv, hf⟩
        rw [hfailed reason hv hf]
      · rw [hhidden hv]

/-- **After a script** the page is the one its settings describe, with one reload for each refresh
taken under settings that reload. -/
theorem final_page (σ : PageSettings) (n : Nat) (ss : List PageStep) :
    (σ.page n).final ss = (σ.afterAll ss).page (n + σ.reloadingRefreshes ss) := by
  -- the settings and the reloads before the rest of the script are carried along
  induction ss generalizing σ n with
  | nil => rfl
  | cons s ss ih =>
    rw [Page.final, step_page, ih, afterAll_cons, reloadingRefreshes, Nat.add_assoc]

end PageSettings

namespace Page

/-- **Each refresh of a script follows the settings before it.** Starting from any visibility
text and failure, the `i`-th step of a script, when it is a refresh, finds the page its prefix
leaves: the page the prefix's settings describe, with one reload for each refresh before it taken
while the text was `visible` and reloads worked. The refresh answers that it reloaded exactly when
the text last reported is `visible` and no failure is set, and then counts one more reload; on a
page reported otherwise it is skipped and leaves the page as it was, whatever the failure; on a
visible page whose reloads fail it returns the reload's fault and leaves the page as it was. So
after the whole script the reloads are the refreshes taken while visible and not failing. -/
theorem refresh_follows_settings (text : String) (failure : Option String)
    (ss : List PageStep) :
    (∀ i, ss[i]? = some .refresh →
      let σ := (PageSettings.mk text failure).afterAll (ss.take i)
      let n := (PageSettings.mk text failure).reloadingRefreshes (ss.take i)
      ((PageSettings.mk text failure).page 0).final (ss.take i) = σ.page n ∧
      ∃ r, (((PageSettings.mk text failure).page 0).run ss)[i]? = some r ∧
        (r.refresh = some (.ok .reloaded) ↔ σ.Reloads) ∧
        (σ.Reloads → r = ⟨σ.page (n + 1), some (.ok .reloaded)⟩) ∧
        (σ.text ≠ "visible" → r = ⟨σ.page n, some (.ok .skippedHidden)⟩) ∧
        (∀ reason, σ.text = "visible" → σ.failure = some reason →
          r = ⟨σ.page n, some (.error (.reloadFailed reason))⟩)) ∧
    (((PageSettings.mk text failure).page 0).final ss).reloads =
      (PageSettings.mk text failure).reloadingRefreshes ss := by
  refine ⟨fun i hi => ?_, by rw [PageSettings.final_page]; simp⟩
  have hbefore := PageSettings.final_page ⟨text, failure⟩ 0 (ss.take i)
  rw [Nat.zero_add] at hbefore
  refine ⟨hbefore, _, ?_, PageSettings.refresh_reloaded_iff _ _,
    (PageSettings.refresh_step _ _).1, (PageSettings.refresh_step _ _).2.1,
    (PageSettings.refresh_step _ _).2.2⟩
  rw [run_getElem?, hi, Option.map_some, hbefore]

/-- A page reported `prerender`, then `visible` and refreshed, then made to fail and refreshed:
the first refresh reloads, the second reports the fault. -/
theorem refresh_after_prerender :
    ([PageStep.setVisibility "visible", .refresh, .setFailure (some "blocked"), .refresh] :
      List PageStep)[3]? = some .refresh ∧
    (((PageSettings.mk "prerender" none).page 0).run
      [.setVisibility "visible", .refresh, .setFailure (some "blocked"), .refresh])[3]? =
      some ⟨(PageSettings.mk "visible" (some "blocked")).page 1,
        some (.error (.reloadFailed "blocked"))⟩ := by
  refine ⟨rfl, ?_⟩
  obtain ⟨-, r, hr, -, -, -, hfailed⟩ :=
    (refresh_follows_settings "prerender" none
      [.setVisibility "visible", .refresh, .setFailure (some "blocked"), .refresh]).1 3 rfl
  rw [hr, hfailed "blocked" rfl rfl]
  rfl

end Page

end Homescreen
