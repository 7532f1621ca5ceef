import Homescreen.Install.Session
import Homescreen.Proofs.Install.History

/-!
# Install sessions follow their history

Every session reached from the start, by any interleaving of captures, clicks, answers and
withdrawals, is the one its history says (`Session.Tracks`): its phase is `History.phase` of what
happened, it has suppressed the browser's offer once per capture, it has shown exactly the events
`History.shown` lists, and every click still waiting took an event.

* `Session.Reaches` — the sessions a run reaches, with the history of the run: each step adds the
  action and then the clicks that finished during it, and a poll on its own adds the clicks it
  finishes;
* `Session.Reaches.phase_follows_history` — the phase is the history's, the prompt offers an event
  exactly when one was captured after the last click started, an answer or a withdrawal never
  takes a stored event away, and every action that names only captured events runs;
* `Session.Reaches.prompts_follow_history` — one suppression per capture, the events shown are the
  history's, in capture order, no more than were captured, never one replaced while stored; and a
  click that finds an event shows it, or finishes at once with the fault of showing it.

The proof is one invariant carried along the run. An action is cut in two (`Session.act_eq`): the
action's own part (`Session.perform`), which adds the action to the history and perhaps the click's
own finishing, and a poll of the waiting clicks (`Tracks.poll`), which adds the clicks that found
their answer. The poll's fold is said once by `Session.poll_eq`, a click once by
`Session.click_available` and `Session.click_unavailable`.
-/

namespace Homescreen

namespace History

/-- What an action adds to the history before any click finishes: a capture, or a click start. -/
def ofAction : Action → History
  | .capture _ f => [.captured f]
  | .click => [.clicked]
  | .resolve _ _ => []
  | .withdraw _ => []

/-- What a step adds to the history: its action, then the clicks that finished during it, the last
to finish first. -/
def ofStep (a : Action) (r : Report) : History :=
  (r.completed.map Prod.fst).reverse.map .completed ++ ofAction a

end History

/-- The event an action names, if it names one. -/
def Action.event? : Action → Option Nat
  | .resolve e _ => some e
  | .withdraw e => some e
  | _ => none

namespace Session

/-! ### One poll, one click, one settlement -/

/-- **Polling finishes every waiting click whose event has its answer**, oldest first, and leaves
`resolving` if any finishes. -/
theorem poll_eq (s : Session) :
    s.poll =
      ({ s with
          phase :=
            if s.waiting.any (fun w => (s.answerOf w.event).result.isSome) then s.phase.finish
            else s.phase
          waiting := s.waiting.filter fun w => (s.answerOf w.event).result.isNone },
        s.waiting.filterMap fun w => (s.answerOf w.event).result.map fun r => (w.click, r)) := by
  -- the fold from any accumulator, for a step that finishes answered clicks and keeps the rest:
  -- finishing is idempotent, so one finish stands for many
  have hfold : ∀ (F : Phase Nat × List Waiting × List (Nat × ClickResult) → Waiting →
        Phase Nat × List Waiting × List (Nat × ClickResult)),
      (∀ acc w r, (s.answerOf w.event).result = some r →
        F acc w = (acc.1.finish, acc.2.1, acc.2.2 ++ [(w.click, r)])) →
      (∀ acc w, (s.answerOf w.event).result = none →
        F acc w = (acc.1, acc.2.1 ++ [w], acc.2.2)) →
      ∀ (ws : List Waiting) (acc : Phase Nat × List Waiting × List (Nat × ClickResult)),
        ws.foldl F acc =
          (if ws.any (fun w => (s.answerOf w.event).result.isSome) then acc.1.finish else acc.1,
            acc.2.1 ++ ws.filter (fun w => (s.answerOf w.event).result.isNone),
            acc.2.2 ++ ws.filterMap fun w =>
              (s.answerOf w.event).result.map fun r => (w.click, r)) := by
    intro F hsome hnone ws
    induction ws with
    | nil => intro acc; simp
    | cons w ws ih =>
      intro acc
      rw [List.foldl_cons, ih]
      cases hr : (s.answerOf w.event).result with
      | some r => simp [hsome acc w r hr, hr, Phase.finish_finish]
      | none => simp [hnone acc w hr, hr]
  rw [poll, hfold]
  · simp
  · intro acc w r hr
    simp only [hr]
  · intro acc w hr
    simp only [hr]

/-- A click that finds no event stored finishes at once with nothing to show. -/
theorem click_unavailable {s : Session} (hp : ∀ e, s.phase ≠ .available e) :
    s.click = ({ s with clicks := s.clicks + 1 }, s.clicks, some (.ok none)) := by
  obtain ⟨phase, offers, suppressed, prompted, waiting, clicks⟩ := s
  cases phase with
  | available e => exact absurd rfl (hp e)
  | idle => rfl
  | resolving => rfl

/-- **A click that finds an event stored takes it and shows it**: if showing fails it finishes at
once with that fault and leaves the prompt idle; otherwise the event is shown, and the click
finishes at once if the answer is in and waits for it if not. -/
theorem click_available {s : Session} {e : Nat} (hp : s.phase = .available e) :
    s.click =
      match s.showFailureOf e with
      | some x =>
        ({ s with clicks := s.clicks + 1, phase := .idle }, s.clicks,
          some (.error (.promptFailed x)))
      | none =>
        match (s.answerOf e).result with
        | some r =>
          ({ s with clicks := s.clicks + 1, phase := .idle, prompted := s.prompted ++ [e] },
            s.clicks, some r)
        | none =>
          ({ s with
              clicks := s.clicks + 1, phase := .resolving, prompted := s.prompted ++ [e],
              waiting := s.waiting ++ [⟨s.clicks, e⟩] }, s.clicks, none) := by
  obtain ⟨phase, offers, suppressed, prompted, waiting, clicks⟩ := s
  subst hp
  rfl

/-- Settling an answer changes only answers: the failures of the offers stay, and so does the
rest of the session. -/
theorem settle_ok {s s₁ : Session} {e : Nat} {a : Answer} {b : Bool}
    (h : s.settle e a = .ok (s₁, b)) :
    ∃ offers : List Offer, s₁ = { s with offers := offers } ∧
      offers.map (·.showFailure) = s.offers.map (·.showFailure) := by
  unfold settle at h
  split at h
  · cases h
  · rename_i o ho
    split at h
    · -- a pending answer is replaced, in place, by one with the same failure
      cases h
      refine ⟨_, rfl, ?_⟩
      obtain ⟨he, rfl⟩ := List.getElem?_eq_some_iff.1 ho
      apply List.ext_getElem (by simp)
      intro i hi _
      rw [List.getElem_map, List.getElem_set]
      split
      · simp_all
      · rw [List.getElem_map]
    · cases h
      exact ⟨s.offers, rfl, rfl⟩

/-- Every event that was offered can be settled. -/
theorem settle_isOk {s : Session} {e : Nat} (a : Answer) (he : e < s.offers.length) :
    ∃ t, s.settle e a = .ok t := by
  unfold settle
  rw [List.getElem?_eq_getElem he]
  dsimp only
  split <;> exact ⟨_, rfl⟩

/-! ### An action and a poll -/

/-- An action before the waiting clicks are polled: the session, what the action reports of
itself, and the clicks that finished at once. -/
def perform (s : Session) : Action → Except Nat (Session × Detail × List (Nat × ClickResult))
  | .capture a f =>
    .ok ({ s with
        offers := s.offers ++ [Offer.mk f (Answer.initial a)]
        suppressed := s.suppressed + 1
        phase := s.phase.capture s.offers.length }, .captured s.offers.length, [])
  | .click =>
    let (s, k, r) := s.click
    .ok (s, .clicked k, (r.map fun r => (k, r)).toList)
  | .resolve e v => (s.settle e (.given v)).map fun (s, changed) => (s, .settled changed, [])
  | .withdraw e => (s.settle e .withdrawn).map fun (s, changed) => (s, .settled changed, [])

/-- **An action is its own part, then a poll of the waiting clicks.** -/
theorem act_eq (s : Session) (a : Action) :
    s.act a = (s.perform a).map fun t =>
      (t.1.poll.1, t.1.poll.1.report (t.2.2 ++ t.1.poll.2) t.2.1) := by
  cases a with
  | capture a f => rfl
  | click => rfl
  | resolve e v =>
    -- a refused settlement is refused by both; an accepted one is polled by both
    rw [act, perform]
    cases s.settle e (.given v) <;> rfl
  | withdraw e =>
    rw [act, perform]
    cases s.settle e .withdrawn <;> rfl

/-! ### The invariant -/

/-- **A session agrees with a history**: its offers fail to show as the captures recorded, its
phase is the history's, it counts the history's clicks and captures, it has shown what the history
says, and every click still waiting took an event. -/
structure Tracks (h : History) (s : Session) : Prop where
  failures : s.offers.map (·.showFailure) = h.showFailures
  phase : s.phase = h.phase
  clicks : s.clicks = h.clicks
  suppressed : s.suppressed = h.captures
  prompted : s.prompted = h.shown
  waiting : ∀ w ∈ s.waiting, w.click ∈ h.takers

namespace Tracks

variable {h : History} {s : Session}

theorem start : Tracks [] Session.start :=
  ⟨rfl, rfl, rfl, rfl, rfl, fun _ hw => nomatch hw⟩

theorem offers_length (ht : Tracks h s) : s.offers.length = h.captures := by
  rw [← List.length_map (f := fun o : Offer => o.showFailure), ht.failures,
    History.showFailures_length]

/-- The stored event fails to show as its capture recorded. -/
theorem showFailureOf_stored (ht : Tracks h s) {e : Nat} {f : Option String}
    (hs : h.stored = some (e, f)) : s.showFailureOf e = f := by
  have hget : (s.offers.map (·.showFailure))[e]? = some f := by
    rw [ht.failures]
    exact History.showFailures_getElem?_stored hs
  rw [List.getElem?_map] at hget
  rw [showFailureOf, hget]
  rfl

theorem capture (ht : Tracks h s) (a : Option Json.Value) (f : Option String) :
    Tracks (.captured f :: h)
      { s with
        offers := s.offers ++ [Offer.mk f (Answer.initial a)]
        suppressed := s.suppressed + 1
        phase := s.phase.capture s.offers.length } where
  failures := by simp [ht.failures]
  phase := by simp [ht.offers_length]
  clicks := ht.clicks
  suppressed := by simp [ht.suppressed]
  prompted := ht.prompted
  waiting := ht.waiting

/-- A click that finds nothing stored: it finishes at once and changes only the click count. -/
theorem click_unavailable (ht : Tracks h s) (hp : ∀ e, s.phase ≠ .available e) :
    Tracks (.completed s.clicks :: .clicked :: h) { s with clicks := s.clicks + 1 } := by
  have hs : h.stored = none := History.stored_eq_none (ht.phase ▸ hp)
  refine { ht with phase := ?_, clicks := ?_, prompted := ?_, waiting := ?_ }
  · rw [ht.clicks]
    exact ht.phase.trans (History.phase_unstored_click_completed hs).symm
  · simp [ht.clicks]
  · simp [hs, ht.prompted]
  · intro w hw
    simpa [hs] using ht.waiting w hw

/-- The clicks waiting when a click takes an event took theirs before it. -/
theorem waiting_clicked (ht : Tracks h s) {p : Nat × Option String} (hs : h.stored = some p) :
    ∀ w ∈ s.waiting, w.click ∈ History.takers (.clicked :: h) := by
  intro w hw
  rw [History.takers_clicked_of_stored hs]
  exact List.mem_cons_of_mem _ (ht.waiting w hw)

/-- A click that takes an event that fails to show: it finishes at once, shows nothing and leaves
the prompt idle. -/
theorem click_failing (ht : Tracks h s) {e : Nat} {x : String}
    (hs : h.stored = some (e, some x)) :
    Tracks (.completed s.clicks :: .clicked :: h)
      { s with clicks := s.clicks + 1, phase := .idle } :=
  { ht with
    phase := by
      rw [ht.clicks]
      exact (History.phase_stored_click_completed hs).symm
    clicks := by simp [ht.clicks]
    prompted := by simp [hs, ht.prompted]
    waiting := ht.waiting_clicked hs }

/-- A click that shows its event and finds the answer in: it finishes at once and leaves the prompt
idle. -/
theorem click_answered (ht : Tracks h s) {e : Nat} (hs : h.stored = some (e, none)) :
    Tracks (.completed s.clicks :: .clicked :: h)
      { s with clicks := s.clicks + 1, phase := .idle, prompted := s.prompted ++ [e] } :=
  { ht with
    phase := by
      rw [ht.clicks]
      exact (History.phase_stored_click_completed hs).symm
    clicks := by simp [ht.clicks]
    prompted := by simp [hs, ht.prompted]
    waiting := ht.waiting_clicked hs }

/-- A click that shows its event and waits for the answer, as a click that took an event. -/
theorem click_waits (ht : Tracks h s) {e : Nat} (hs : h.stored = some (e, none)) :
    Tracks (.clicked :: h)
      { s with
        clicks := s.clicks + 1, phase := .resolving, prompted := s.prompted ++ [e],
        waiting := s.waiting ++ [⟨s.clicks, e⟩] } := by
  refine { ht with
    phase := (History.phase_stored_click hs).symm
    clicks := by simp [ht.clicks]
    prompted := by simp [hs, ht.prompted]
    waiting := ?_ }
  intro w hw
  rcases List.mem_append.1 hw with hw | hw
  · exact ht.waiting_clicked hs w hw
  · -- the new waiting click is this one, which took the event
    rw [List.mem_singleton.1 hw, History.takers_clicked_of_stored hs, ht.clicks]
    exact List.mem_cons_self

theorem settle (ht : Tracks h s) {e : Nat} {a : Answer} {s₁ : Session} {b : Bool}
    (hs : s.settle e a = .ok (s₁, b)) : Tracks h s₁ := by
  obtain ⟨offers, rfl, hoffers⟩ := settle_ok hs
  exact { ht with failures := hoffers.trans ht.failures }

/-- **An action's own part keeps the invariant**, the history growing by the action and the
click that finished at once, if any. -/
theorem perform (ht : Tracks h s) {a : Action} {s₁ : Session} {d : Detail}
    {own : List (Nat × ClickResult)} (hp : s.perform a = .ok (s₁, d, own)) :
    Tracks ((own.map Prod.fst).reverse.map .completed ++ History.ofAction a ++ h) s₁ := by
  cases a with
  | capture a f =>
    cases hp
    exact ht.capture a f
  | click =>
    simp only [Session.perform] at hp
    by_cases hav : ∃ e, s.phase = .available e
    · obtain ⟨e, hpe⟩ := hav
      obtain ⟨f, hs⟩ := History.phase_available_iff.1 (ht.phase ▸ hpe)
      rw [Session.click_available hpe, ht.showFailureOf_stored hs] at hp
      -- the click fails to show, finds the answer in, or waits for it
      cases f with
      | some x =>
        cases hp
        exact ht.click_failing hs
      | none =>
        cases hr : (s.answerOf e).result with
        | some r =>
          rw [hr] at hp
          cases hp
          exact ht.click_answered hs
        | none =>
          rw [hr] at hp
          cases hp
          exact ht.click_waits hs
    · rw [Session.click_unavailable fun e he => hav ⟨e, he⟩] at hp
      cases hp
      exact ht.click_unavailable fun e he => hav ⟨e, he⟩
  | resolve e v =>
    cases hs : s.settle e (.given v) with
    | error n =>
      simp only [Session.perform, hs] at hp
      cases hp
    | ok t =>
      simp only [Session.perform, hs] at hp
      cases hp
      exact ht.settle hs
  | withdraw e =>
    cases hs : s.settle e .withdrawn with
    | error n =>
      simp only [Session.perform, hs] at hp
      cases hp
    | ok t =>
      simp only [Session.perform, hs] at hp
      cases hp
      exact ht.settle hs

/-- **A poll keeps the invariant**, the history growing by the clicks that finished. -/
theorem poll (ht : Tracks h s) :
    Tracks ((s.poll.2.map Prod.fst).reverse.map .completed ++ h) s.poll.1 := by
  rw [poll_eq]
  -- the finished clicks are waiting ones, so each took an event
  have htook : ∀ j ∈ ((s.waiting.filterMap fun w =>
      (s.answerOf w.event).result.map fun r => (w.click, r)).map Prod.fst).reverse,
      j ∈ h.takers := by
    intro j hj
    simp only [List.mem_reverse, List.mem_map, List.mem_filterMap, Option.map_eq_some_iff] at hj
    obtain ⟨_, ⟨w, hw, r, _, rfl⟩, rfl⟩ := hj
    exact ht.waiting w hw
  have hnone : ((s.waiting.filterMap fun w =>
      (s.answerOf w.event).result.map fun r => (w.click, r)).map Prod.fst).reverse = [] ↔
      s.waiting.any (fun w => (s.answerOf w.event).result.isSome) = false := by
    simp [List.filterMap_eq_nil_iff, Option.map_eq_none_iff]
  refine
    { failures := ?_, phase := ?_, clicks := ?_, suppressed := ?_, prompted := ?_, waiting := ?_ }
  · rw [History.completions_append History.showFailures (fun _ _ => rfl)]
    exact ht.failures
  · simp only
    rw [History.phase_completions _ _ htook, ht.phase]
    by_cases hany : s.waiting.any (fun w => (s.answerOf w.event).result.isSome) = true
    · rw [if_pos hany, if_neg (fun h => by simp [hnone.1 h] at hany)]
    · rw [if_neg hany, if_pos (hnone.2 (by simpa using hany))]
  · rw [History.completions_append History.clicks (fun _ _ => rfl)]
    exact ht.clicks
  · rw [History.completions_append History.captures (fun _ _ => rfl)]
    exact ht.suppressed
  · rw [History.completions_append History.shown (fun _ _ => rfl)]
    exact ht.prompted
  · intro w hw
    rw [History.completions_append History.takers (fun _ _ => rfl)]
    exact ht.waiting w (List.mem_filter.1 hw).1

/-- **A step keeps the invariant**, the history growing by the step. -/
theorem act (ht : Tracks h s) {a : Action} {s' : Session} {r : Report}
    (hact : s.act a = .ok (s', r)) : Tracks (History.ofStep a r ++ h) s' := by
  rw [act_eq] at hact
  cases hp : s.perform a with
  | error n => rw [hp] at hact; cases hact
  | ok t =>
    obtain ⟨s₁, d, own⟩ := t
    rw [hp] at hact
    cases hact
    have hpoll := (ht.perform hp).poll
    -- the step's finished clicks are the action's own, then the poll's
    have hstep : History.ofStep a (s₁.poll.1.report (own ++ s₁.poll.2) d) ++ h =
        (s₁.poll.2.map Prod.fst).reverse.map .completed ++
          ((own.map Prod.fst).reverse.map .completed ++ History.ofAction a ++ h) := by
      simp [History.ofStep, report]
    rw [hstep]
    exact hpoll

/-- Every action that names only captured events runs. -/
theorem act_isOk (ht : Tracks h s) (a : Action) (ha : ∀ e ∈ a.event?, e < h.captures) :
    ∃ s' r, s.act a = .ok (s', r) := by
  suffices hp : ∃ t, s.perform a = .ok t by
    obtain ⟨t, hp⟩ := hp
    exact ⟨_, _, by rw [act_eq, hp]; rfl⟩
  cases a with
  | capture a f => exact ⟨_, rfl⟩
  | click => exact ⟨_, rfl⟩
  | resolve e v =>
    obtain ⟨t, hs⟩ := settle_isOk (.given v) (ht.offers_length ▸ ha e rfl)
    exact ⟨_, by simp [Session.perform, hs]; rfl⟩
  | withdraw e =>
    obtain ⟨t, hs⟩ := settle_isOk .withdrawn (ht.offers_length ▸ ha e rfl)
    exact ⟨_, by simp [Session.perform, hs]; rfl⟩

end Tracks

/-! ### Runs -/

/-- The sessions a run reaches from the start, with the history of the run: each step is an
action, polled after, or one more poll of the waiting clicks on its own. -/
inductive Reaches : History → Session → Prop
  | start : Reaches [] Session.start
  | step {h : History} {s s' : Session} {a : Action} {r : Report} :
      Reaches h s → s.act a = .ok (s', r) → Reaches (History.ofStep a r ++ h) s'
  | poll {h : History} {s : Session} :
      Reaches h s → Reaches ((s.poll.2.map Prod.fst).reverse.map .completed ++ h) s.poll.1

namespace Reaches

variable {h : History} {s : Session}

/-- Every session a run reaches agrees with the run's history. -/
theorem tracks (hr : Reaches h s) : Tracks h s := by
  induction hr with
  | start => exact Tracks.start
  | step _ hact ih => exact ih.act hact
  | poll _ ih => exact ih.poll

/-- **The phase is the history's.** After any interleaving of captures, clicks, answers,
withdrawals and polls, the phase is `History.phase` of the run's history: the prompt offers event
`e` exactly when `e` is the most recent capture and only finished clicks came after it; it waits
for an answer exactly when the first click after the most recent capture showed that event and no
click that took an event, that click or an older one, has finished since; and it is idle
otherwise. So the prompt
offers an event exactly when one was captured after the last click started, an answer or a
withdrawal never takes a stored event away, and every action that names only captured events
runs. -/
theorem phase_follows_history (hr : Reaches h s) :
    s.phase = h.phase ∧
    (∀ e, s.phase = .available e ↔
      ∃ (js : List Nat) (f : Option String) (older : History),
        h = js.map .completed ++ .captured f :: older ∧ e = older.captures) ∧
    (s.phase = .resolving ↔
      ∃ (newer older : History) (e : Nat),
        h = newer ++ .clicked :: older ∧ older.stored = some (e, none) ∧
        ∀ x ∈ newer,
          x = .clicked ∨ ∃ j, x = .completed j ∧ j ∉ older.clicks :: older.takers) ∧
    (s.phase.isAvailable = true ↔
      ∃ newer f older, h = newer ++ .captured f :: older ∧ .clicked ∉ newer) ∧
    (∀ a, (∀ e ∈ a.event?, e < h.captures) → ∃ s' r, s.act a = .ok (s', r)) ∧
    ∀ e a s' r, s.phase = .available e → a.event?.isSome →
      s.act a = .ok (s', r) → s'.phase = .available e := by
  have ht := hr.tracks
  refine ⟨ht.phase, fun e => ?_, ?_, ?_, ht.act_isOk, ?_⟩
  · rw [ht.phase]
    exact History.phase_eq_available_iff
  · rw [ht.phase]
    exact History.phase_eq_resolving_iff
  · rw [ht.phase, History.isAvailable_phase]
    exact History.stored_isSome_iff h
  · intro e a s' r hp ha hact
    -- a settlement adds to the history only the clicks it finishes
    have hnone : History.ofAction a = [] := by
      cases a <;> simp_all [Action.event?, History.ofAction]
    rw [(ht.act hact).phase, History.ofStep, hnone, List.append_nil]
    exact History.phase_completions_available (ht.phase ▸ hp) _

/-- A capture of an event not yet answered, then a click: the event is shown, and the click waits
for its answer. -/
theorem capture_click :
    Reaches [.clicked, .captured none]
      ⟨.resolving, [⟨none, .pending⟩], 1, [0], [⟨0, 0⟩], 1⟩ := by
  have h₁ : Session.start.act (.capture none none) =
      .ok (⟨.available 0, [⟨none, .pending⟩], 1, [], [], 0⟩,
        ⟨.available 0, 1, [], [], [], .captured 0⟩) := rfl
  have h₂ : (⟨.available 0, [⟨none, .pending⟩], 1, [], [], 0⟩ : Session).act .click =
      .ok (⟨.resolving, [⟨none, .pending⟩], 1, [0], [⟨0, 0⟩], 1⟩,
        ⟨.resolving, 1, [0], [0], [], .clicked 0⟩) := rfl
  exact Reaches.step (Reaches.step Reaches.start h₁) h₂

theorem phase_after_capture_click :
    Reaches [.clicked, .captured none]
      ⟨.resolving, [⟨none, .pending⟩], 1, [0], [⟨0, 0⟩], 1⟩ ∧
    (⟨.resolving, [⟨none, .pending⟩], 1, [0], [⟨0, 0⟩], 1⟩ : Session).phase =
      History.phase [.clicked, .captured none] :=
  ⟨capture_click, (phase_follows_history capture_click).1⟩

/-- **Each event is suppressed once and shown at most once, in the order of capture.** After any
interleaving of captures, clicks, answers, withdrawals and polls: the browser's offer was
suppressed once per capture; the events shown are those the history says, the event stored at each
click start whose showing succeeds; they were shown in the order of capture, no more of them than
were captured, and none replaced by a newer capture while it was stored; and a click that finds an
event stored shows it, or finishes at once with the fault of showing it. -/
theorem prompts_follow_history (hr : Reaches h s) :
    s.suppressed = h.captures ∧
    s.prompted = h.shown ∧
    s.prompted.Pairwise (· < ·) ∧
    s.prompted.length ≤ h.captures ∧
    (∀ e ∈ h.replaced, e ∉ s.prompted) ∧
    ∀ e s' r, s.phase = .available e → s.act .click = .ok (s', r) →
      (s.showFailureOf e = none ∧ s'.prompted = s.prompted ++ [e]) ∨
      ∃ x, s.showFailureOf e = some x ∧ s'.prompted = s.prompted ∧
        (s.clicks, .error (.promptFailed x)) ∈ r.completed := by
  have ht := hr.tracks
  refine ⟨ht.suppressed, ht.prompted, ?_, ?_, ?_, ?_⟩
  · rw [ht.prompted]
    exact History.shown_pairwise h
  · rw [ht.prompted]
    exact History.shown_length_le h
  · intro e he
    rw [ht.prompted]
    exact History.replaced_not_shown he
  · intro e s' r hp hact
    -- the poll after the click changes nothing that was shown
    have hpoll : ∀ t : Session, t.poll.1.prompted = t.prompted := fun t => by rw [poll_eq]
    rw [act_eq, Session.perform, click_available hp] at hact
    cases hf : s.showFailureOf e with
    | some x =>
      rw [hf] at hact
      cases hact
      exact .inr ⟨x, rfl, hpoll _, by simp [report]⟩
    | none =>
      rw [hf] at hact
      refine .inl ⟨rfl, ?_⟩
      cases hres : (s.answerOf e).result with
      | some res => rw [hres] at hact; cases hact; exact hpoll _
      | none => rw [hres] at hact; cases hact; exact hpoll _

theorem prompted_after_capture_click :
    Reaches [.clicked, .captured none]
      ⟨.resolving, [⟨none, .pending⟩], 1, [0], [⟨0, 0⟩], 1⟩ ∧
    (⟨.resolving, [⟨none, .pending⟩], 1, [0], [⟨0, 0⟩], 1⟩ : Session).prompted =
      History.shown [.clicked, .captured none] :=
  ⟨capture_click, (prompts_follow_history capture_click).2.1⟩

end Reaches

end Session

end Homescreen
