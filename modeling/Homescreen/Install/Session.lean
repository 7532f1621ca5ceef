import Homescreen.Install.Prompt
import Homescreen.Install.Choice
import Homescreen.Fault

/-!
# Install sessions

A session replays, one action at a time, what a page sees of the install prompt: the browser
offers events (`capture`), the user clicks the install button (`click`), and the browser answers
an event's question "what did the user choose?" (`resolve`) or gives up on it (`withdraw`).

Each offered event is numbered in the order of offers, may fail to show, and has an answer that
is pending until it is given or withdrawn, once. A click takes the stored event if there is one,
shows it and then waits for that event's answer, so several clicks may wait at once. After each
action the waiting clicks are polled, oldest first: a click whose event has its answer finishes,
and its finishing moves the prompt out of `resolving` (`Phase.finish`). A click that finds
nothing to show finishes at once with no outcome.

A finished click returns the outcome of its own event's answer, read as a `Choice`: an answer
that is no choice, or a withdrawn one, is a prompt fault.
-/

namespace Homescreen

open Homescreen.Json

/-- The answer of an offered event to "what did the user choose?". -/
inductive Answer where
  | pending
  | given (v : Value)
  | withdrawn
  deriving Inhabited

/-- The answer an event starts with: given already, or pending. -/
def Answer.initial : Option Value → Answer
  | some v => .given v
  | none => .pending

/-- An offered event: why showing it fails, if it does, and its answer. -/
structure Offer where
  showFailure : Option String
  answer : Answer
  deriving Inhabited

/-- A click that waits for the answer of an event. -/
structure Waiting where
  click : Nat
  event : Nat
  deriving DecidableEq, Repr

/-- What a finished click returns: the user's outcome, nothing when there was nothing to show,
or a fault. -/
abbrev ClickResult := Except Fault (Option Outcome)

/-- What a click returns once its event has an answer; `none` while the answer is pending. -/
def Answer.result : Answer → Option ClickResult
  | .pending => none
  | .given v =>
    some (match Choice.ofValue v with
      | .ok c => .ok (some c.outcome)
      | .error p => .error (.promptFailed ("unexpected userChoice: " ++ p.message)))
  | .withdrawn => some (.error (.promptFailed "userChoice dropped"))

/-- The state of a session. -/
structure Session where
  phase : Phase Nat
  /-- The offered events, by number. -/
  offers : List Offer
  /-- How many events had the browser's own install offer suppressed. -/
  suppressed : Nat
  /-- The events shown, in the order they were shown. -/
  prompted : List Nat
  /-- The clicks still waiting, oldest first. -/
  waiting : List Waiting
  /-- How many clicks started. -/
  clicks : Nat

/-- An action of a session. -/
inductive Action where
  /-- The browser offers an event, perhaps already answered, perhaps failing to show. -/
  | capture (answer : Option Value) (showFailure : Option String)
  /-- The user clicks the install button. -/
  | click
  /-- The browser answers an event. -/
  | resolve (event : Nat) (answer : Value)
  /-- The browser gives up on an event. -/
  | withdraw (event : Nat)

/-- What an action itself reports, besides the session. -/
inductive Detail where
  /-- The number of the offered event. -/
  | captured (event : Nat)
  /-- The number of the click. -/
  | clicked (click : Nat)
  /-- Whether the answer changed: only a pending answer does. -/
  | settled (changed : Bool)
  deriving DecidableEq, Repr

/-- The session after an action, as the page reports it. -/
structure Report where
  phase : Phase Nat
  suppressed : Nat
  prompted : List Nat
  /-- The clicks still waiting. -/
  pending : List Nat
  /-- The clicks that finished during the action, in the order they finished. -/
  completed : List (Nat × ClickResult)
  detail : Detail

namespace Session

/-- A session before any action. -/
def start : Session :=
  ⟨.idle, [], 0, [], [], 0⟩

/-- The answer of an event. -/
def answerOf (s : Session) (e : Nat) : Answer :=
  (s.offers[e]?.map (·.answer)).getD .pending

/-- Why showing an event fails, if it does. -/
def showFailureOf (s : Session) (e : Nat) : Option String :=
  (s.offers[e]?.map (·.showFailure)).join

/-- Polls the waiting clicks once, oldest first: each whose event has its answer finishes. -/
def poll (s : Session) : Session × List (Nat × ClickResult) :=
  let (phase, still, done) := s.waiting.foldl (fun (acc : Phase Nat × List Waiting × List (Nat × ClickResult)) w =>
      match (s.answerOf w.event).result with
      | some r => (acc.1.finish, acc.2.1, acc.2.2 ++ [(w.click, r)])
      | none => (acc.1, acc.2.1 ++ [w], acc.2.2)) (s.phase, [], [])
  ({ s with phase := phase, waiting := still }, done)

/-- Starts a click and runs it as far as it goes at once: the session, the click's number and
its result if it finished. -/
def click (s : Session) : Session × Nat × Option ClickResult :=
  let k := s.clicks
  let s := { s with clicks := k + 1 }
  match s.phase.take with
  | (none, p) => ({ s with phase := p }, k, some (.ok none))
  | (some e, p) =>
    match s.showFailureOf e with
    | some r => ({ s with phase := p.finish }, k, some (.error (.promptFailed r)))
    | none =>
      let s := { s with phase := p, prompted := s.prompted ++ [e] }
      match (s.answerOf e).result with
      | some r => ({ s with phase := s.phase.finish }, k, some r)
      | none => ({ s with waiting := s.waiting ++ [⟨k, e⟩] }, k, none)

/-- Settles the pending answer of an event; a settled answer stays. An event never offered is
refused with its number. -/
def settle (s : Session) (e : Nat) (a : Answer) : Except Nat (Session × Bool) :=
  match s.offers[e]? with
  | none => .error e
  | some o =>
    match o.answer with
    | .pending => .ok ({ s with offers := s.offers.set e { o with answer := a } }, true)
    | _ => .ok (s, false)

/-- The report of a session after an action. -/
def report (s : Session) (completed : List (Nat × ClickResult)) (d : Detail) : Report :=
  ⟨s.phase, s.suppressed, s.prompted, s.waiting.map (·.click), completed, d⟩

/-- Runs one action, then polls the waiting clicks. An action that names an event never offered
is refused with the event's number. -/
def act (s : Session) : Action → Except Nat (Session × Report)
  | .capture a f =>
    let n := s.offers.length
    let s := { s with
      offers := s.offers ++ [Offer.mk f (Answer.initial a)]
      suppressed := s.suppressed + 1
      phase := s.phase.capture n }
    let (s, done) := s.poll
    pure (s, s.report done (.captured n))
  | .click =>
    let (s, k, r) := s.click
    let (s, done) := s.poll
    pure (s, s.report ((r.map fun r => (k, r)).toList ++ done) (.clicked k))
  | .resolve e v => do
    let (s, changed) ← s.settle e (.given v)
    let (s, done) := s.poll
    pure (s, s.report done (.settled changed))
  | .withdraw e => do
    let (s, changed) ← s.settle e .withdrawn
    let (s, done) := s.poll
    pure (s, s.report done (.settled changed))

/-- Runs actions in turn: the report of each, or the number of the first event named before it
was offered. -/
def run (s : Session) : List Action → Except Nat (List Report)
  | [] => pure []
  | a :: as => do
    let (s', r) ← s.act a
    let rs ← s'.run as
    pure (r :: rs)

end Session

end Homescreen
