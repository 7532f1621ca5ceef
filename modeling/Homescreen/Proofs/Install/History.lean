import Homescreen.Install.Prompt

/-!
# The install prompt as a function of its history

A session of the install prompt interleaves captures, clicks and the clicks' finishing in any
order. This module says, from the record of what happened alone and without running a session,
what the prompt must hold and what it must have shown: the phase a history leaves
(`History.phase`), the event it leaves stored (`History.stored`), the clicks that took an event
(`History.takers`) and the events shown (`History.shown`).

A history lists the newest happening first. Events are numbered from 0 in the order of capture and
clicks from 0 in the order they start, so `History.captures h` is the number the next event gets
and `History.clicks h` the number of the next click.

The phase is read off in three cases:

* `available e` when an event was captured and no click started since the most recent capture,
  `e` being that event (`History.stored`);
* `resolving` when otherwise the first click after the most recent capture took that event and
  showed it, and no click that took an event, that click or an older one, has finished since
  (`History.resolvingSince`);
* `idle` in every other case.

The definition walks the history back once; `phase_eq_available_iff` and `phase_eq_resolving_iff`
read the same cases off a split of the history into what came before and after the capture or the
click that decides them. The stored event is pinned down the same way (`stored_eq_some_iff`), and
the facts about it follow from that split rather than from a walk of their own.

The facts a session's steps need are how the phase moves when an event is captured
(`phase_captured`), when a click starts (`phase_clicked`) and when clicks that took events finish
(`phase_completions`: it leaves `resolving` and nothing else). The walk gathers the finished
clicks as it goes; `resolvingSince_eq` is what turns it into a statement about one more finished
click.

For the shown events: they are shown in the order of capture (`shown_pairwise`), each at most
once, no more of them than captures (`shown_length_le`), and an event replaced by a newer capture
while it was stored is never shown (`replaced_not_shown`).
-/

namespace Homescreen

/-- What happens to the install prompt, as its history records it. -/
inductive Happening where
  /-- An event was captured, with why showing it fails, if it does. -/
  | captured (showFailure : Option String)
  /-- A click started. -/
  | clicked
  /-- The click with this number finished. -/
  | completed (click : Nat)
  deriving DecidableEq, Repr

/-- What happened to the install prompt, newest first. -/
abbrev History := List Happening

/-- Finishing twice is finishing once. -/
theorem Phase.finish_finish {ε : Type} (p : Phase ε) : p.finish.finish = p.finish := by
  cases p <;> rfl

namespace History

/-! ### Counts and the stored event -/

/-- The number of events captured, which is also the number the next event gets. -/
@[simp] def captures : History → Nat
  | [] => 0
  | .captured _ :: h => captures h + 1
  | .clicked :: h => captures h
  | .completed _ :: h => captures h

/-- The number of clicks started, which is also the number the next click gets. -/
@[simp] def clicks : History → Nat
  | [] => 0
  | .captured _ :: h => clicks h
  | .clicked :: h => clicks h + 1
  | .completed _ :: h => clicks h

/-- Why showing each captured event fails, if it does, in the order of capture. -/
@[simp] def showFailures : History → List (Option String)
  | [] => []
  | .captured f :: h => showFailures h ++ [f]
  | .clicked :: h => showFailures h
  | .completed _ :: h => showFailures h

/-- The event left stored for the next click, with why showing it fails: the most recent capture,
if no click started after it. -/
@[simp] def stored : History → Option (Nat × Option String)
  | [] => none
  | .captured f :: h => some (captures h, f)
  | .clicked :: _ => none
  | .completed _ :: h => stored h

/-- The clicks that took an event: each click that started while one was stored. -/
@[simp] def takers : History → List Nat
  | [] => []
  | .captured _ :: h => takers h
  | .clicked :: h => if (stored h).isSome then clicks h :: takers h else takers h
  | .completed _ :: h => takers h

/-- A count or list of the history that no finishing click changes is changed by none. -/
theorem completions_append {β : Type} (g : History → β)
    (hg : ∀ j h, g (.completed j :: h) = g h) (cs : List Nat) (h : History) :
    g (cs.map .completed ++ h) = g h := by
  induction cs with
  | nil => rfl
  | cons c cs ih => rw [List.map_cons, List.cons_append, hg, ih]

/-- **The stored event is the most recent capture, with only finished clicks after it**; its
number is how many captures came before it. -/
theorem stored_eq_some_iff {h : History} {e : Nat} {f : Option String} :
    stored h = some (e, f) ↔
      ∃ (js : List Nat) (older : History),
        h = js.map .completed ++ .captured f :: older ∧ e = captures older := by
  induction h with
  | nil => simp
  | cons x h ih =>
    cases x with
    | captured g =>
      -- the capture on top is the stored one: nothing finished after it
      simp only [stored, Option.some.injEq, Prod.mk.injEq]
      constructor
      · rintro ⟨rfl, rfl⟩
        exact ⟨[], h, rfl, rfl⟩
      · rintro ⟨js, older, heq, rfl⟩
        cases js with
        | nil =>
          obtain ⟨hg, rfl⟩ := List.cons.inj heq
          cases hg
          exact ⟨rfl, rfl⟩
        | cons j js => cases heq
    | clicked =>
      simp only [stored, reduceCtorEq, false_iff, not_exists, not_and]
      intro js older heq
      cases js <;> cases heq
    | completed j =>
      simp only [stored, ih]
      constructor
      · rintro ⟨js, older, rfl, rfl⟩
        exact ⟨j :: js, older, rfl, rfl⟩
      · rintro ⟨js, older, heq, rfl⟩
        cases js with
        | nil => cases heq
        | cons i js =>
          obtain ⟨-, rfl⟩ := List.cons.inj heq
          exact ⟨js, older, rfl, rfl⟩

theorem stored_lt {h : History} {e : Nat} {f : Option String} (hs : stored h = some (e, f)) :
    e < captures h := by
  obtain ⟨js, older, rfl, rfl⟩ := stored_eq_some_iff.1 hs
  rw [completions_append captures (fun _ _ => rfl)]
  exact Nat.lt_succ_self _

theorem showFailures_length (h : History) : (showFailures h).length = captures h := by
  induction h with
  | nil => rfl
  | cons x h ih => cases x <;> simp [ih]

/-- The stored event's failure is the one its capture recorded. -/
theorem showFailures_getElem?_stored {h : History} {e : Nat} {f : Option String}
    (hs : stored h = some (e, f)) : (showFailures h)[e]? = some f := by
  obtain ⟨js, older, rfl, rfl⟩ := stored_eq_some_iff.1 hs
  rw [completions_append showFailures (fun _ _ => rfl)]
  simp [← showFailures_length older]

theorem takers_lt {h : History} {j : Nat} (hj : j ∈ takers h) : j < clicks h := by
  induction h with
  | nil => cases hj
  | cons x h ih =>
    cases x with
    | captured f => exact ih hj
    | clicked =>
      simp only [takers] at hj
      split at hj
      · rcases List.mem_cons.1 hj with rfl | hj
        · simp
        · simpa using Nat.lt_succ_of_lt (ih hj)
      · simpa using Nat.lt_succ_of_lt (ih hj)
    | completed i => exact ih hj

/-- **An event is stored exactly when one was captured after the last click started.** -/
theorem stored_isSome_iff (h : History) :
    (stored h).isSome = true ↔
      ∃ newer f older, h = newer ++ .captured f :: older ∧ .clicked ∉ newer := by
  induction h with
  | nil => simp
  | cons x h ih =>
    cases x with
    | captured f =>
      simp only [stored, Option.isSome_some, true_iff]
      exact ⟨[], f, h, rfl, List.not_mem_nil⟩
    | clicked =>
      -- a capture below a click has the click among the newer happenings
      simp only [stored, Option.isSome_none, Bool.false_eq_true, false_iff, not_exists, not_and]
      intro newer f older heq
      cases newer with
      | nil => cases heq
      | cons y newer =>
        obtain ⟨rfl, -⟩ := List.cons.inj heq
        exact absurd List.mem_cons_self
    | completed j =>
      simp only [stored, ih]
      constructor
      · rintro ⟨newer, f, older, rfl, hn⟩
        refine ⟨.completed j :: newer, f, older, rfl, ?_⟩
        simpa using hn
      · rintro ⟨newer, f, older, heq, hn⟩
        cases newer with
        | nil => cases heq
        | cons y newer =>
          obtain ⟨rfl, rfl⟩ := List.cons.inj heq
          exact ⟨newer, f, older, rfl, fun hm => hn (List.mem_cons_of_mem _ hm)⟩

/-- Below a click, with only clicks and finished clicks since, nothing is stored. -/
theorem stored_append_clicked {newer older : History}
    (hn : ∀ x ∈ newer, x = .clicked ∨ ∃ j, x = .completed j) :
    stored (newer ++ .clicked :: older) = none := by
  induction newer with
  | nil => rfl
  | cons x newer ih =>
    have hrest := ih fun y hy => hn y (List.mem_cons_of_mem _ hy)
    rcases hn x List.mem_cons_self with rfl | ⟨j, rfl⟩
    · rfl
    · exact hrest

/-! ### The phase -/

/-- Read from the newest happening back, with `done` the clicks seen finishing on the way:
whether the first click after the most recent capture took that event and showed it, and no click
that took an event, that click or an older one, is among the finished. -/
def resolvingSince (done : List Nat) : History → Bool
  | [] => false
  | .captured _ :: _ => false
  | .clicked :: h =>
    match stored h with
    | some (_, f) => f.isNone && done.all fun j => j ∉ clicks h :: takers h
    | none => resolvingSince done h
  | .completed j :: h => resolvingSince (j :: done) h

/-- The phase a history leaves the prompt in. -/
def phase (h : History) : Phase Nat :=
  match stored h with
  | some (e, _) => .available e
  | none => if resolvingSince [] h then .resolving else .idle

/-- The finished clicks can be gathered one at a time: walking back with `done` is walking back
with none and asking that no click of `done` took an event. -/
theorem resolvingSince_eq (done : List Nat) (h : History) :
    resolvingSince done h = (resolvingSince [] h && done.all fun j => j ∉ takers h) := by
  induction h generalizing done with
  | nil => rfl
  | cons x h ih =>
    cases x with
    | captured f => rfl
    | clicked =>
      cases hs : stored h with
      | none => simp [resolvingSince, hs, ih done]
      | some p => simp [resolvingSince, hs]
    | completed j =>
      have htakers : takers (.completed j :: h) = takers h := rfl
      rw [resolvingSince, resolvingSince, htakers, ih (j :: done), ih [j]]
      simp [Bool.and_assoc]

/-- **Walking back finds a click that shows the stored event, and no finished taker.** Read
declaratively: the history is a click on top of an `older` one that stores an event that shows,
followed only by clicks and by finished clicks that took no event up to that click, nor any
click of `done`. -/
theorem resolvingSince_iff (done : List Nat) (h : History) :
    resolvingSince done h = true ↔
      ∃ (newer older : History) (e : Nat),
        h = newer ++ .clicked :: older ∧ stored older = some (e, none) ∧
        (∀ x ∈ newer,
          x = .clicked ∨ ∃ j, x = .completed j ∧ j ∉ clicks older :: takers older) ∧
        ∀ j ∈ done, j ∉ clicks older :: takers older := by
  induction h generalizing done with
  | nil => simp [resolvingSince]
  | cons x h ih =>
    cases x with
    | captured f =>
      -- a capture on top is neither a click nor a finished click
      simp only [resolvingSince, Bool.false_eq_true, false_iff, not_exists, not_and]
      intro newer older e heq _ hnewer
      cases newer with
      | nil => cases heq
      | cons y newer =>
        obtain ⟨rfl, -⟩ := List.cons.inj heq
        rcases hnewer _ List.mem_cons_self with h | ⟨j, h, -⟩ <;> cases h
    | clicked =>
      cases hs : stored h with
      | some p =>
        -- this click is the first after the most recent capture: the decomposition is here
        obtain ⟨e, f⟩ := p
        simp only [resolvingSince, hs, Bool.and_eq_true, Option.isNone_iff_eq_none,
          List.all_eq_true, decide_eq_true_eq]
        constructor
        · rintro ⟨rfl, hdone⟩
          exact ⟨[], h, e, rfl, hs, nofun, hdone⟩
        · rintro ⟨newer, older, e', heq, hs', hnewer, hdone⟩
          cases newer with
          | nil =>
            obtain ⟨-, rfl⟩ := List.cons.inj heq
            rw [hs] at hs'
            cases hs'
            exact ⟨rfl, hdone⟩
          | cons y newer =>
            -- a later click would have found nothing stored
            obtain ⟨-, rfl⟩ := List.cons.inj heq
            have hnone : stored (newer ++ .clicked :: older) = none :=
              stored_append_clicked fun z hz =>
                (hnewer z (List.mem_cons_of_mem _ hz)).imp_right fun ⟨j, hj, _⟩ => ⟨j, hj⟩
            cases hs.symm.trans hnone
      | none =>
        -- this click took nothing: the decomposition is further down
        simp only [resolvingSince, hs, ih]
        constructor
        · rintro ⟨newer, older, e, rfl, hs', hnewer, hdone⟩
          refine ⟨.clicked :: newer, older, e, rfl, hs', ?_, hdone⟩
          intro z hz
          rcases List.mem_cons.1 hz with rfl | hz
          · exact .inl rfl
          · exact hnewer z hz
        · rintro ⟨newer, older, e, heq, hs', hnewer, hdone⟩
          cases newer with
          | nil =>
            obtain ⟨-, rfl⟩ := List.cons.inj heq
            rw [hs] at hs'
            cases hs'
          | cons y newer =>
            obtain ⟨-, rfl⟩ := List.cons.inj heq
            exact ⟨newer, older, e, rfl, hs', fun z hz => hnewer z (List.mem_cons_of_mem _ hz),
              hdone⟩
    | completed j =>
      -- the finished click joins `done`
      simp only [resolvingSince, ih, List.mem_cons, forall_eq_or_imp]
      constructor
      · rintro ⟨newer, older, e, rfl, hs, hnewer, hj, hdone⟩
        refine ⟨.completed j :: newer, older, e, rfl, hs, ?_, hdone⟩
        intro z hz
        rcases List.mem_cons.1 hz with rfl | hz
        · exact .inr ⟨j, rfl, by simpa using hj⟩
        · exact hnewer z hz
      · rintro ⟨newer, older, e, heq, hs, hnewer, hdone⟩
        cases newer with
        | nil => cases heq
        | cons y newer =>
          obtain ⟨rfl, rfl⟩ := List.cons.inj heq
          obtain ⟨i, hi, hj⟩ := (hnewer _ List.mem_cons_self).resolve_left nofun
          cases hi
          exact ⟨newer, older, e, rfl, hs, fun z hz => hnewer z (List.mem_cons_of_mem _ hz),
            by simpa using hj, hdone⟩

theorem phase_available_iff {h : History} {e : Nat} :
    phase h = .available e ↔ ∃ f, stored h = some (e, f) := by
  unfold phase
  split
  · rename_i e' f hs
    simp [hs]
  · rename_i hs
    simp only [hs, reduceCtorEq, exists_false, iff_false]
    split <;> exact nofun

/-- **The prompt offers the most recent capture when only finished clicks came after it.** -/
theorem phase_eq_available_iff {h : History} {e : Nat} :
    phase h = .available e ↔
      ∃ (js : List Nat) (f : Option String) (older : History),
        h = js.map .completed ++ .captured f :: older ∧ e = captures older := by
  rw [phase_available_iff]
  constructor
  · rintro ⟨f, hs⟩
    obtain ⟨js, older, rfl, rfl⟩ := stored_eq_some_iff.1 hs
    exact ⟨js, f, older, rfl, rfl⟩
  · rintro ⟨js, f, older, heq, he⟩
    exact ⟨f, stored_eq_some_iff.2 ⟨js, older, heq, he⟩⟩

/-- **The prompt waits for an answer when the first click after the most recent capture showed
it, and no click that took an event, that click or an older one, has finished since.** -/
theorem phase_eq_resolving_iff {h : History} :
    phase h = .resolving ↔
      ∃ (newer older : History) (e : Nat),
        h = newer ++ .clicked :: older ∧ stored older = some (e, none) ∧
        ∀ x ∈ newer,
          x = .clicked ∨ ∃ j, x = .completed j ∧ j ∉ clicks older :: takers older := by
  have hwalk : resolvingSince [] h = true ↔ _ := resolvingSince_iff [] h
  simp only [List.not_mem_nil, false_implies, implies_true, and_true] at hwalk
  rw [← hwalk]
  unfold phase
  cases hs : stored h with
  | some p =>
    -- with an event stored, no click came after the most recent capture
    simp only [reduceCtorEq, false_iff]
    intro hres
    obtain ⟨newer, older, e, rfl, -, hnewer, -⟩ := (resolvingSince_iff [] h).1 hres
    rw [stored_append_clicked fun z hz => (hnewer z hz).imp_right fun ⟨j, hj, _⟩ => ⟨j, hj⟩]
      at hs
    cases hs
  | none => cases resolvingSince [] h <;> simp

/-- **The prompt offers an event exactly when one is stored.** -/
theorem isAvailable_phase (h : History) : (phase h).isAvailable = (stored h).isSome := by
  unfold phase
  split
  · rename_i hs
    rw [hs]
    rfl
  · rename_i hs
    rw [hs]
    split <;> rfl

theorem stored_eq_none {h : History} (hp : ∀ e, phase h ≠ .available e) : stored h = none := by
  cases hs : stored h with
  | none => rfl
  | some p => exact absurd (phase_available_iff.2 ⟨p.2, hs⟩) (hp p.1)

/-- **A capture stores the new event, whatever the phase.** -/
@[simp] theorem phase_captured (f : Option String) (h : History) :
    phase (.captured f :: h) = .available (captures h) := rfl

/-- **A click takes the stored event**, and the prompt waits for the answer if showing it
succeeds; with nothing stored the phase stays. -/
theorem phase_clicked (h : History) :
    phase (.clicked :: h) =
      match stored h with
      | some (_, f) => if f.isNone then .resolving else .idle
      | none => phase h := by
  cases hs : stored h with
  | none => simp [phase, resolvingSince, hs]
  | some p =>
    obtain ⟨e, f⟩ := p
    simp [phase, resolvingSince, hs]

/-- **A finishing click leaves `resolving` if it took an event**, and changes nothing else. -/
theorem phase_completed (j : Nat) (h : History) :
    phase (.completed j :: h) = if j ∈ takers h then (phase h).finish else phase h := by
  have hres : resolvingSince [] (.completed j :: h) =
      (resolvingSince [] h && decide (j ∉ takers h)) := by
    rw [resolvingSince, resolvingSince_eq]
    simp
  unfold phase
  cases hs : stored h with
  | some p => simp [hs]
  | none =>
    simp only [stored, hs, hres]
    by_cases hj : j ∈ takers h
    · cases resolvingSince [] h <;> simp [hj]
    · simp [hj]

/-! ### Finished clicks -/

/-- **Clicks that took events, finishing, leave `resolving` and change nothing else.** -/
theorem phase_completions (cs : List Nat) (h : History) (hcs : ∀ j ∈ cs, j ∈ takers h) :
    phase (cs.map .completed ++ h) = if cs = [] then phase h else (phase h).finish := by
  induction cs with
  | nil => rfl
  | cons c cs ih =>
    have htakers : takers (cs.map .completed ++ h) = takers h :=
      completions_append takers (fun _ _ => rfl) cs h
    have hc : c ∈ takers (cs.map .completed ++ h) := htakers ▸ hcs c List.mem_cons_self
    rw [List.map_cons, List.cons_append, phase_completed, if_pos hc,
      ih fun j hj => hcs j (List.mem_cons_of_mem _ hj)]
    split <;> simp [Phase.finish_finish]

/-- **Finishing clicks never take away a stored event.** -/
theorem phase_completions_available {h : History} {e : Nat} (hp : phase h = .available e)
    (cs : List Nat) : phase (cs.map .completed ++ h) = .available e := by
  obtain ⟨f, hs⟩ := phase_available_iff.1 hp
  have hstored : stored (cs.map .completed ++ h) = stored h :=
    completions_append stored (fun _ _ => rfl) cs h
  exact phase_available_iff.2 ⟨f, hstored ▸ hs⟩

/-! ### Clicks -/

section Clicks

variable {h : History}

theorem takers_clicked_of_stored {p : Nat × Option String} (hs : stored h = some p) :
    takers (.clicked :: h) = clicks h :: takers h := by
  simp [hs]

theorem takers_clicked_of_unstored (hs : stored h = none) :
    takers (.clicked :: h) = takers h := by
  simp [hs]

/-- A click that finds nothing stored, finishing, leaves the phase as it found it. -/
theorem phase_unstored_click_completed (hs : stored h = none) :
    phase (.completed (clicks h) :: .clicked :: h) = phase h := by
  have hnot : clicks h ∉ takers (.clicked :: h) := by
    rw [takers_clicked_of_unstored hs]
    exact fun hm => Nat.lt_irrefl _ (takers_lt hm)
  rw [phase_completed, if_neg hnot, phase_clicked, hs]

/-- A click that took an event, finishing at once, leaves the prompt idle. -/
theorem phase_stored_click_completed {e : Nat} {f : Option String} (hs : stored h = some (e, f)) :
    phase (.completed (clicks h) :: .clicked :: h) = .idle := by
  rw [phase_completed, if_pos (by simp [hs]), phase_clicked, hs]
  cases f <;> rfl

theorem phase_stored_click {e : Nat} (hs : stored h = some (e, none)) :
    phase (.clicked :: h) = .resolving := by
  rw [phase_clicked, hs]
  rfl

end Clicks

/-! ### Shown and replaced events -/

/-- The events shown, in the order they were shown: at each click start, the stored event, if
showing it succeeds. -/
@[simp] def shown : History → List Nat
  | [] => []
  | .captured _ :: h => shown h
  | .clicked :: h =>
    match stored h with
    | some (e, none) => shown h ++ [e]
    | _ => shown h
  | .completed _ :: h => shown h

/-- The events replaced while stored: at each capture, the event it finds stored. -/
@[simp] def replaced : History → List Nat
  | [] => []
  | .captured _ :: h =>
    match stored h with
    | some (e, _) => e :: replaced h
    | none => replaced h
  | .clicked :: h => replaced h
  | .completed _ :: h => replaced h

theorem shown_lt {h : History} {x : Nat} (hx : x ∈ shown h) : x < captures h := by
  induction h with
  | nil => cases hx
  | cons y h ih =>
    cases y with
    | captured f => exact Nat.lt_succ_of_lt (ih hx)
    | clicked =>
      simp only [shown] at hx
      split at hx
      · rename_i e hs
        rcases List.mem_append.1 hx with hx | hx
        · exact ih hx
        · rw [List.mem_singleton.1 hx]
          exact (stored_lt hs : _ < captures h)
      · exact ih hx
    | completed j => exact ih hx

/-- Every event shown was captured before the one stored. -/
theorem shown_lt_stored {h : History} {e : Nat} {f : Option String} (hs : stored h = some (e, f))
    {x : Nat} (hx : x ∈ shown h) : x < e := by
  -- what was shown was shown before the stored event's capture
  obtain ⟨js, older, rfl, rfl⟩ := stored_eq_some_iff.1 hs
  rw [completions_append shown (fun _ _ => rfl)] at hx
  exact shown_lt (show x ∈ shown older from hx)

/-- **Events are shown in the order of capture**, so none is shown twice. -/
theorem shown_pairwise (h : History) : (shown h).Pairwise (· < ·) := by
  induction h with
  | nil => exact List.Pairwise.nil
  | cons y h ih =>
    cases y with
    | captured f => exact ih
    | clicked =>
      simp only [shown]
      split
      · rename_i e hs
        exact List.pairwise_append.2
          ⟨ih, List.pairwise_singleton _ _,
            fun x hx _ hy => List.mem_singleton.1 hy ▸ shown_lt_stored hs hx⟩
      · exact ih
    | completed j => exact ih

/-- Each event is shown at most once, and the stored one not yet: no more are shown than were
captured. -/
theorem shown_length_add_stored (h : History) :
    (shown h).length + (if (stored h).isSome then 1 else 0) ≤ captures h := by
  induction h with
  | nil => simp
  | cons y h ih =>
    cases y with
    | captured f =>
      simp only [shown, stored, Option.isSome_some, if_true, captures]
      have : (shown h).length ≤ captures h := Nat.le_trans (Nat.le_add_right _ _) ih
      omega
    | clicked =>
      -- the event a click shows is the stored one, counted by the hypothesis
      simp only [shown, stored, Option.isSome_none, captures]
      split
      · rename_i e hs
        simp only [hs, Option.isSome_some, if_true] at ih
        simp
        omega
      · exact Nat.le_trans (Nat.le_add_right _ _) ih
    | completed j => exact ih

theorem shown_length_le (h : History) : (shown h).length ≤ captures h :=
  Nat.le_trans (Nat.le_add_right _ _) (shown_length_add_stored h)

theorem replaced_lt {h : History} {x : Nat} (hx : x ∈ replaced h) : x < captures h := by
  induction h with
  | nil => cases hx
  | cons y h ih =>
    cases y with
    | captured f =>
      simp only [replaced] at hx
      split at hx
      · rename_i e g hs
        rcases List.mem_cons.1 hx with rfl | hx
        · exact Nat.lt_succ_of_lt (stored_lt hs)
        · exact Nat.lt_succ_of_lt (ih hx)
      · exact Nat.lt_succ_of_lt (ih hx)
    | clicked => exact ih hx
    | completed j => exact ih hx

/-- Every replaced event was captured before the one stored. -/
theorem replaced_lt_stored {h : History} {e : Nat} {f : Option String}
    (hs : stored h = some (e, f)) {x : Nat} (hx : x ∈ replaced h) : x < e := by
  obtain ⟨js, older, rfl, rfl⟩ := stored_eq_some_iff.1 hs
  rw [completions_append replaced (fun _ _ => rfl)] at hx
  -- what the stored event's capture replaced, and what was replaced before, came before it
  simp only [replaced] at hx
  split at hx
  · rename_i e' g hs'
    rcases List.mem_cons.1 hx with rfl | hx
    · exact stored_lt hs'
    · exact replaced_lt hx
  · exact replaced_lt hx

/-- **An event replaced by a newer capture while it was stored is never shown.** -/
theorem replaced_not_shown {h : History} {x : Nat} (hx : x ∈ replaced h) : x ∉ shown h := by
  induction h with
  | nil => cases hx
  | cons y h ih =>
    cases y with
    | captured f =>
      simp only [replaced] at hx
      simp only [shown]
      split at hx
      · rename_i e g hs
        rcases List.mem_cons.1 hx with rfl | hx
        · exact fun hm => Nat.lt_irrefl _ (shown_lt_stored hs hm)
        · exact ih hx
      · exact ih hx
    | clicked =>
      -- the event this click shows is the stored one, newer than everything replaced
      simp only [replaced] at hx
      simp only [shown]
      split
      · rename_i e hs
        intro hm
        rcases List.mem_append.1 hm with hm | hm
        · exact ih hx hm
        · exact Nat.lt_irrefl _ (List.mem_singleton.1 hm ▸ replaced_lt_stored hs hx)
      · exact ih hx
    | completed j => exact ih hx

end History

end Homescreen
