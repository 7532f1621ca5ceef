import Mathlib.Data.List.Nodup
import Homescreen.Proofs.Install.Sessions

/-!
# A click answers with its own event

The life of one click, in any session a run reaches. A click that finds no event stored finishes
at once with nothing to show and changes nothing but the click count. A click that finds an event
takes it: if showing it fails, the click finishes at once with that fault and leaves the prompt
idle; otherwise it shows the event and waits, after every later step, exactly while that event's
answer is pending, and finishes in the step that settles the answer with the answer's own result.
Finishing moves the prompt out of `resolving` whatever the result.

* `Session.Suspended` — after every step, each waiting click waits on the pending answer of an
  offered event, under a number no other waiting click has (`Reaches.suspended`);
* `Session.Suspended.act_click` — so the poll after a click finishes nothing but the click itself;
* `Session.Suspended.act_waiting` — a waiting click follows its own event (`Waiting.Follows`) at
  every step, and its finishing is a `Phase.finish`;
* `Session.Reaches.click_follows_own_event` — the whole life of a click.

What a click can do is said once, by `Session.click_cases`; every fact about a click is read off
its four cases.
-/

namespace Homescreen

/-- A settled answer has a result; a pending one has none. -/
@[simp] theorem Answer.result_eq_none_iff {a : Answer} : a.result = none ↔ a = .pending := by
  cases a <;> simp [Answer.result]

/-- Only `resolving` is left by finishing: a phase that finishes into an offer was that offer. -/
theorem Phase.eq_of_finish_eq_available {ε : Type} {p : Phase ε} {e : ε}
    (h : p.finish = .available e) : p = .available e := by
  cases p <;> simp_all

/-- After a step that ended in `s` and reported `r`, the click `w.click` **follows its event**
`w.event`: it is waiting exactly while the event's answer is pending, and the step reports it
finished with a result exactly when that result is the answer's. -/
def Waiting.Follows (w : Waiting) (s : Session) (r : Report) : Prop :=
  (w ∈ s.waiting ↔ s.answerOf w.event = .pending) ∧
  ∀ res, (w.click, res) ∈ r.completed ↔ (s.answerOf w.event).result = some res

namespace Session

variable {s : Session}

/-! ### Polling -/

/-- Polling reads the offers and the click count and leaves them. -/
@[simp] theorem poll_offers (s : Session) : s.poll.1.offers = s.offers := by
  rw [poll_eq]

@[simp] theorem poll_clicks (s : Session) : s.poll.1.clicks = s.clicks := by
  rw [poll_eq]

@[simp] theorem poll_answerOf (s : Session) : s.poll.1.answerOf = s.answerOf := by
  rw [poll_eq]
  rfl

/-- Polling only ever drops waiting clicks. -/
theorem poll_waiting_subset (s : Session) : s.poll.1.waiting ⊆ s.waiting := by
  rw [poll_eq]
  exact List.filter_subset_self _

/-- **A poll with every waiting click blocked changes nothing.** -/
theorem poll_of_blocked (hb : ∀ w ∈ s.waiting, s.answerOf w.event = .pending) :
    s.poll = (s, []) := by
  have hnone : ∀ w ∈ s.waiting, (s.answerOf w.event).result = none := fun w hw => by
    simp [hb w hw]
  rw [poll_eq]
  have hany : s.waiting.any (fun w => (s.answerOf w.event).result.isSome) = false := by
    simpa using hnone
  have hkeep : s.waiting.filter (fun w => (s.answerOf w.event).result.isNone) = s.waiting := by
    simpa [List.filter_eq_self] using hnone
  have hdone : (s.waiting.filterMap fun w =>
      (s.answerOf w.event).result.map fun r => (w.click, r)) = [] := by
    simpa [List.filterMap_eq_nil_iff] using hnone
  rw [hany, hkeep, hdone]
  rfl

/-- **A poll finishes a waiting click exactly when its event has an answer**, with that answer's
result, when no two waiting clicks share a number. -/
theorem poll_waiting (hd : (s.waiting.map (·.click)).Nodup) {w : Waiting} (hw : w ∈ s.waiting) :
    (w ∈ s.poll.1.waiting ↔ s.answerOf w.event = .pending) ∧
    ∀ res, (w.click, res) ∈ s.poll.2 ↔ (s.answerOf w.event).result = some res := by
  rw [poll_eq]
  refine ⟨by simp [hw], fun res => ?_⟩
  simp only [List.mem_filterMap, Option.map_eq_some_iff, Prod.mk.injEq]
  constructor
  · rintro ⟨w', hw', res', hres', hclick, rfl⟩
    -- a click number names one waiting click
    obtain rfl : w' = w := List.inj_on_of_nodup_map hd hw' hw hclick
    exact hres'
  · intro hres
    exact ⟨w, hw, res, hres, rfl, rfl⟩

/-! ### What a click can do -/

/-- **The four ways a click goes.** It finds nothing stored and finishes with nothing to show; or
it takes the stored event and showing it fails; or it shows it and the answer is in; or it shows it
and waits for the answer. -/
theorem click_cases (s : Session) :
    ((∀ e, s.phase ≠ .available e) ∧
      s.click = ({ s with clicks := s.clicks + 1 }, s.clicks, some (.ok none))) ∨
    (∃ e x, s.phase = .available e ∧ s.showFailureOf e = some x ∧
      s.click = ({ s with clicks := s.clicks + 1, phase := .idle }, s.clicks,
        some (.error (.promptFailed x)))) ∨
    (∃ e res, s.phase = .available e ∧ s.showFailureOf e = none ∧
      (s.answerOf e).result = some res ∧
      s.click = ({ s with clicks := s.clicks + 1, phase := .idle, prompted := s.prompted ++ [e] },
        s.clicks, some res)) ∨
    (∃ e, s.phase = .available e ∧ s.showFailureOf e = none ∧ s.answerOf e = .pending ∧
      s.click = ({ s with
          clicks := s.clicks + 1, phase := .resolving, prompted := s.prompted ++ [e],
          waiting := s.waiting ++ [⟨s.clicks, e⟩] }, s.clicks, none)) := by
  by_cases hav : ∃ e, s.phase = .available e
  · obtain ⟨e, hp⟩ := hav
    have hc := click_available hp
    cases hf : s.showFailureOf e with
    | some x =>
      rw [hf] at hc
      exact .inr (.inl ⟨e, x, hp, hf, hc⟩)
    | none =>
      rw [hf] at hc
      cases hres : (s.answerOf e).result with
      | some res =>
        rw [hres] at hc
        exact .inr (.inr (.inl ⟨e, res, hp, hf, hres, hc⟩))
      | none =>
        rw [hres] at hc
        exact .inr (.inr (.inr ⟨e, hp, hf, Answer.result_eq_none_iff.1 hres, hc⟩))
  · have hp : ∀ e, s.phase ≠ .available e := fun e he => hav ⟨e, he⟩
    exact .inl ⟨hp, click_unavailable hp⟩

/-- A click answers under the next click number, reads no answer and changes none. -/
theorem click_number_offers (s : Session) :
    s.click.2.1 = s.clicks ∧ s.click.1.offers = s.offers := by
  rcases click_cases s with ⟨-, hc⟩ | ⟨e, x, -, -, hc⟩ | ⟨e, res, -, -, -, hc⟩ | ⟨e, -, -, -, hc⟩ <;>
    rw [hc] <;> exact ⟨rfl, rfl⟩

/-- An action's own part for a click is the click. -/
theorem perform_click (s : Session) :
    s.perform .click =
      .ok (s.click.1, .clicked s.click.2.1, (s.click.2.2.map fun r => (s.click.2.1, r)).toList) :=
  rfl

/-! ### The invariant -/

/-- **The waiting clicks are in order**: each waits for an offered event, under a number already
given out and no other waiting click's, and a stored event was offered. -/
structure Orderly (s : Session) : Prop where
  offered : ∀ w ∈ s.waiting, w.event < s.offers.length
  numbered : ∀ w ∈ s.waiting, w.click < s.clicks
  distinct : (s.waiting.map (·.click)).Nodup
  stored : ∀ e, s.phase = .available e → e < s.offers.length

/-- **Every waiting click is suspended**: the waiting clicks are in order and each waits for an
answer still pending, so polling again finishes none. -/
structure Suspended (s : Session) : Prop extends Orderly s where
  blocked : ∀ w ∈ s.waiting, s.answerOf w.event = .pending

namespace Orderly

/-- A click keeps the waiting clicks in order; the click that waits is numbered anew. -/
theorem click (ho : Orderly s) : Orderly s.click.1 := by
  rcases click_cases s with ⟨-, hc⟩ | ⟨e, x, -, -, hc⟩ | ⟨e, res, -, -, -, hc⟩ |
      ⟨e, hp, -, -, hc⟩ <;> rw [hc]
  · exact { ho with numbered := fun w hw => Nat.lt_succ_of_lt (ho.numbered w hw) }
  · exact { ho with
      numbered := fun w hw => Nat.lt_succ_of_lt (ho.numbered w hw)
      stored := fun e he => by cases he }
  · exact { ho with
      numbered := fun w hw => Nat.lt_succ_of_lt (ho.numbered w hw)
      stored := fun e he => by cases he }
  · refine
      { offered := ?_, numbered := ?_, distinct := ?_, stored := fun e he => by cases he }
    · intro w hw
      rcases List.mem_append.1 hw with hw | hw
      · exact ho.offered w hw
      · rw [List.mem_singleton.1 hw]
        exact ho.stored e hp
    · intro w hw
      rcases List.mem_append.1 hw with hw | hw
      · exact Nat.lt_succ_of_lt (ho.numbered w hw)
      · rw [List.mem_singleton.1 hw]
        exact Nat.lt_succ_self _
    · -- the new number is above every waiting one
      simp only [List.map_append, List.map_cons, List.map_nil]
      refine List.nodup_append.2 ⟨ho.distinct, List.nodup_singleton _, ?_⟩
      intro j hj k hk
      obtain ⟨w, hw, rfl⟩ := List.mem_map.1 hj
      rw [List.mem_singleton.1 hk]
      exact Nat.ne_of_lt (ho.numbered w hw)

/-- **An action's own part keeps the waiting clicks in order.** -/
theorem perform (ho : Orderly s) {a : Action} {s₁ : Session} {d : Detail}
    {own : List (Nat × ClickResult)} (hp : s.perform a = .ok (s₁, d, own)) : Orderly s₁ := by
  cases a with
  | capture a f =>
    cases hp
    -- the new event is offered last, and is the one stored
    refine { ho with offered := ?_, stored := ?_ }
    · intro w hw
      simpa using Nat.lt_succ_of_lt (ho.offered w hw)
    · intro e he
      simp only [Phase.capture_eq, Phase.available.injEq] at he
      simp [he]
  | click =>
    rw [perform_click] at hp
    cases hp
    exact ho.click
  | resolve e v =>
    cases hs : s.settle e (.given v) with
    | error n =>
      simp only [Session.perform, hs] at hp
      cases hp
    | ok t =>
      obtain ⟨s₂, b⟩ := t
      simp only [Session.perform, hs] at hp
      cases hp
      obtain ⟨offers, rfl, hfail⟩ := settle_ok hs
      have hlen : offers.length = s.offers.length := by
        simpa using congrArg List.length hfail
      exact { ho with offered := hlen ▸ ho.offered, stored := hlen ▸ ho.stored }
  | withdraw e =>
    cases hs : s.settle e .withdrawn with
    | error n =>
      simp only [Session.perform, hs] at hp
      cases hp
    | ok t =>
      obtain ⟨s₂, b⟩ := t
      simp only [Session.perform, hs] at hp
      cases hp
      obtain ⟨offers, rfl, hfail⟩ := settle_ok hs
      have hlen : offers.length = s.offers.length := by
        simpa using congrArg List.length hfail
      exact { ho with offered := hlen ▸ ho.offered, stored := hlen ▸ ho.stored }

/-- **A poll suspends every click it leaves waiting.** -/
theorem poll (ho : Orderly s) : Suspended s.poll.1 := by
  have hsub := poll_waiting_subset s
  refine
    { offered := ?_, numbered := ?_, distinct := ?_, stored := ?_, blocked := ?_ }
  · intro w hw
    rw [poll_offers]
    exact ho.offered w (hsub hw)
  · intro w hw
    rw [poll_clicks]
    exact ho.numbered w (hsub hw)
  · rw [poll_eq]
    exact ho.distinct.sublist ((List.filter_sublist).map _)
  · -- finishing stores nothing new
    intro e he
    rw [poll_eq] at he ⊢
    dsimp only at he
    split at he
    · exact ho.stored e (Phase.eq_of_finish_eq_available he)
    · exact ho.stored e he
  · intro w hw
    rw [poll_answerOf]
    rw [poll_eq] at hw
    simpa using (List.mem_filter.1 hw).2

end Orderly

namespace Suspended

theorem start : Suspended Session.start :=
  ⟨⟨nofun, nofun, List.nodup_nil, nofun⟩, nofun⟩

/-- **A step leaves every waiting click suspended.** -/
theorem act (hs : Suspended s) {a : Action} {s' : Session} {r : Report}
    (hact : s.act a = .ok (s', r)) : Suspended s' := by
  rw [act_eq] at hact
  cases hp : s.perform a with
  | error n => rw [hp] at hact; cases hact
  | ok t =>
    obtain ⟨s₁, d, own⟩ := t
    rw [hp] at hact
    cases hact
    exact (hs.toOrderly.perform hp).poll

/-- After a click, still no waiting click has its answer: the click's own event, if it waits, has
none either. -/
theorem click_blocked (hs : Suspended s) :
    ∀ w ∈ s.click.1.waiting, s.click.1.answerOf w.event = .pending := by
  rcases click_cases s with ⟨-, hc⟩ | ⟨e, x, -, -, hc⟩ | ⟨e, res, -, -, -, hc⟩ |
      ⟨e, -, -, hpend, hc⟩ <;> rw [hc]
  · exact hs.blocked
  · exact hs.blocked
  · exact hs.blocked
  · intro w hw
    rcases List.mem_append.1 hw with hw | hw
    · exact hs.blocked w hw
    · rw [List.mem_singleton.1 hw]
      exact hpend

/-- **The poll after a click finishes nothing but the click**: a click step is the click alone. -/
theorem act_click (hs : Suspended s) :
    s.act .click =
      .ok (s.click.1, s.click.1.report
        ((s.click.2.2.map fun r => (s.click.2.1, r)).toList) (.clicked s.click.2.1)) := by
  rw [act_eq, perform_click]
  show Except.ok (s.click.1.poll.1, _) = _
  rw [poll_of_blocked hs.click_blocked, List.append_nil]

/-- **A waiting click follows its own event at every step**, and if it finishes, the prompt is
finished from where it was, whatever the result. A click step reads no answer, so the click waits
on; an answer or a withdrawal of its event finishes it with that answer's result; of another event,
it leaves it waiting. -/
theorem act_waiting (hs : Suspended s) {a : Action} {s' : Session} {r : Report}
    (hact : s.act a = .ok (s', r)) {w : Waiting} (hw : w ∈ s.waiting) :
    w.Follows s' r ∧ (w ∉ s'.waiting → s'.phase = s.phase.finish) := by
  rw [act_eq] at hact
  cases hp : s.perform a with
  | error n => rw [hp] at hact; cases hact
  | ok t =>
    obtain ⟨s₁, d, own⟩ := t
    rw [hp] at hact
    cases hact
    -- what the action's own part does to the click: it stays, is not reported, and either its
    -- answer is still pending or the phase did not move
    have hown : w ∈ s₁.waiting ∧ (∀ res, (w.click, res) ∉ own) ∧
        (s₁.answerOf w.event = .pending ∨ s₁.phase = s.phase) := by
      cases a with
      | capture a f =>
        cases hp
        refine ⟨hw, fun _ => List.not_mem_nil, .inl ?_⟩
        rw [← hs.blocked w hw]
        simp [answerOf, List.getElem?_append_left (hs.offered w hw)]
      | click =>
        rw [perform_click] at hp
        cases hp
        obtain ⟨hnum, hoffers⟩ := click_number_offers s
        refine ⟨?_, ?_, .inl ?_⟩
        · rcases click_cases s with ⟨-, hc⟩ | ⟨e, x, -, -, hc⟩ | ⟨e, res, -, -, -, hc⟩ |
              ⟨e, -, -, -, hc⟩ <;> rw [hc]
          · exact hw
          · exact hw
          · exact hw
          · exact List.mem_append_left _ hw
        · -- the click itself has a newer number
          intro res hmem
          rw [hnum] at hmem
          cases hr : s.click.2.2 with
          | none => rw [hr] at hmem; cases hmem
          | some r =>
            rw [hr] at hmem
            simp only [Option.map_some, Option.toList_some, List.mem_singleton,
              Prod.mk.injEq] at hmem
            exact Nat.ne_of_lt (hs.numbered w hw) hmem.1
        · rw [← hs.blocked w hw]
          simp [answerOf, hoffers]
      | resolve e v =>
        cases hset : s.settle e (.given v) with
        | error n => simp only [Session.perform, hset] at hp; cases hp
        | ok t =>
          obtain ⟨s₂, b⟩ := t
          simp only [Session.perform, hset] at hp
          cases hp
          obtain ⟨offers, rfl, -⟩ := settle_ok hset
          exact ⟨hw, fun _ => List.not_mem_nil, .inr rfl⟩
      | withdraw e =>
        cases hset : s.settle e .withdrawn with
        | error n => simp only [Session.perform, hset] at hp; cases hp
        | ok t =>
          obtain ⟨s₂, b⟩ := t
          simp only [Session.perform, hset] at hp
          cases hp
          obtain ⟨offers, rfl, -⟩ := settle_ok hset
          exact ⟨hw, fun _ => List.not_mem_nil, .inr rfl⟩
    obtain ⟨hw₁, hnot, hmoved⟩ := hown
    obtain ⟨hstay, hfinished⟩ :=
      poll_waiting (hs.toOrderly.perform hp).distinct hw₁
    refine ⟨⟨?_, fun res => ?_⟩, fun hgone => ?_⟩
    · rw [poll_answerOf]
      exact hstay
    · rw [poll_answerOf]
      simp only [report, List.mem_append]
      rw [← hfinished res]
      exact ⟨fun h => h.resolve_left (hnot res), .inr⟩
    · -- the click finished, so its answer is in: the action moved no phase, and the poll finished
      have hsettled : s₁.answerOf w.event ≠ .pending := fun h => hgone (hstay.2 h)
      have hphase : s₁.phase = s.phase := hmoved.resolve_left hsettled
      have hany : s₁.waiting.any (fun w => (s₁.answerOf w.event).result.isSome) = true :=
        List.any_eq_true.2 ⟨w, hw₁, by simpa [Option.isSome_iff_ne_none] using hsettled⟩
      rw [poll_eq, if_pos hany, hphase]

end Suspended

namespace Reaches

variable {h : History}

/-- Every session a run reaches has each waiting click suspended. -/
theorem suspended (hr : Reaches h s) : Suspended s := by
  induction hr with
  | start => exact Suspended.start
  | step _ hact ih => exact ih.act hact
  | poll _ ih => exact ih.toOrderly.poll

/-- **A click answers with its own event.** In every session a run reaches, by any interleaving of
captures, clicks, answers, withdrawals and polls:

* polling again changes nothing;
* a click that finds no event stored finishes at once with nothing to show, and changes nothing
  but the click count: no event is shown and the phase stays;
* a click that takes an event that fails to show finishes at once with that fault, shows nothing
  and leaves the prompt idle;
* a click that shows its event `e` follows `e`: it waits exactly when `e`'s answer is pending, and
  otherwise finishes at once with that answer's result; the prompt is `resolving` while it waits
  and idle if it finished;
* at every later step, each waiting click follows its own event, so it finishes only in the step
  that settles that event's answer and only with that answer's result, accepted or dismissed, or
  the fault of an answer that is no choice or was withdrawn; and its finishing moves the prompt by
  `Phase.finish` whatever the result. -/
theorem click_follows_own_event (hr : Reaches h s) :
    s.poll = (s, []) ∧
    ((∀ e, s.phase ≠ .available e) →
      ∃ r, s.act .click = .ok ({ s with clicks := s.clicks + 1 }, r) ∧
        r.completed = [(s.clicks, .ok none)]) ∧
    (∀ e x, s.phase = .available e → s.showFailureOf e = some x →
      ∃ r, s.act .click = .ok ({ s with clicks := s.clicks + 1, phase := .idle }, r) ∧
        r.completed = [(s.clicks, .error (.promptFailed x))]) ∧
    (∀ e, s.phase = .available e → s.showFailureOf e = none →
      ∃ s' r, s.act .click = .ok (s', r) ∧ s'.prompted = s.prompted ++ [e] ∧
        Waiting.Follows ⟨s.clicks, e⟩ s' r ∧
        s'.phase = if ⟨s.clicks, e⟩ ∈ s'.waiting then .resolving else .idle) ∧
    ∀ a s' r, s.act a = .ok (s', r) → ∀ w ∈ s.waiting,
      w.Follows s' r ∧ (w ∉ s'.waiting → s'.phase = s.phase.finish) := by
  have hs := hr.suspended
  refine ⟨poll_of_blocked hs.blocked, fun hp => ?_, fun e x hp hf => ?_, fun e hp hf => ?_,
    fun a s' r hact w hw => hs.act_waiting hact hw⟩
  · rw [hs.act_click, click_unavailable hp]
    exact ⟨_, rfl, rfl⟩
  · rw [hs.act_click, click_available hp, hf]
    exact ⟨_, rfl, rfl⟩
  · -- the click is new, so no waiting click has its number
    have hnew : (⟨s.clicks, e⟩ : Waiting) ∉ s.waiting := fun hw =>
      Nat.lt_irrefl _ (hs.numbered _ hw)
    rcases click_cases s with ⟨hnp, -⟩ | ⟨e', x, hp', hf', -⟩ | ⟨e', res, hp', -, hres, hc⟩ |
        ⟨e', hp', -, hpend, hc⟩
    · exact absurd hp (hnp e)
    · rw [hp, Phase.available.injEq] at hp'
      rw [← hp', hf] at hf'
      cases hf'
    · -- the answer is in: the click finishes at once with it
      rw [hp, Phase.available.injEq] at hp'
      subst hp'
      rw [hs.act_click, hc]
      refine ⟨_, _, rfl, rfl, ⟨?_, fun res' => ?_⟩, ?_⟩
      · show (⟨s.clicks, e⟩ : Waiting) ∈ s.waiting ↔ s.answerOf e = .pending
        refine iff_of_false hnew fun hpend => ?_
        rw [hpend] at hres
        cases hres
      · show (s.clicks, res') ∈ [(s.clicks, res)] ↔ (s.answerOf e).result = some res'
        rw [hres]
        simp [eq_comm]
      · exact (if_neg hnew).symm
    · -- the answer is pending: the click waits for it
      rw [hp, Phase.available.injEq] at hp'
      subst hp'
      rw [hs.act_click, hc]
      have hmem : (⟨s.clicks, e⟩ : Waiting) ∈ s.waiting ++ [⟨s.clicks, e⟩] :=
        List.mem_append_right _ (List.mem_singleton_self _)
      refine ⟨_, _, rfl, rfl, ⟨iff_of_true hmem hpend, fun res' => ?_⟩, (if_pos hmem).symm⟩
      show (s.clicks, res') ∈ [] ↔ (s.answerOf e).result = some res'
      rw [hpend]
      simp [Answer.result]

/-- A click waiting on the event it took after a capture follows that event at the next step. -/
theorem waiting_click_follows_event :
    Reaches [.clicked, .captured none]
      ⟨.resolving, [⟨none, .pending⟩], 1, [0], [⟨0, 0⟩], 1⟩ ∧
    ∀ a s' r, (⟨.resolving, [⟨none, .pending⟩], 1, [0], [⟨0, 0⟩], 1⟩ : Session).act a = .ok (s', r) →
      ∀ w ∈ (⟨.resolving, [⟨none, .pending⟩], 1, [0], [⟨0, 0⟩], 1⟩ : Session).waiting,
        w.Follows s' r ∧ (w ∉ s'.waiting → s'.phase = Phase.resolving.finish) :=
  ⟨capture_click, (click_follows_own_event capture_click).2.2.2.2⟩

end Reaches

end Session

end Homescreen
