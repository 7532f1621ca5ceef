/-!
# The install prompt

The browser offers to install the page by firing an event; the page holds the event back and
shows it when the user clicks the install button. The **phase** of the prompt says what is held:

* `idle` — nothing: no event came yet, or the last one was used;
* `available e` — the event `e`, which the next click may show;
* `resolving` — an event was shown and the user's answer is awaited.

Three moves change the phase. `capture` stores a new event, whatever the phase. `take` hands a
stored event to a click and moves to `resolving`; in any other phase it hands nothing and
changes nothing. `finish` returns to `idle` when resolving, and otherwise changes nothing, so
a click that finishes late never drops an event captured while it waited.
-/

namespace Homescreen

/-- What the install prompt holds, for events of type `ε`. -/
inductive Phase (ε : Type) where
  | idle
  | available (e : ε)
  | resolving
  deriving DecidableEq, Repr

namespace Phase

variable {ε : Type}

/-- The name of a phase. -/
def name : Phase ε → String
  | .idle => "idle"
  | .available _ => "prompt-available"
  | .resolving => "resolving"

/-- An event is stored and the next click may show it. -/
def isAvailable : Phase ε → Bool
  | .available _ => true
  | _ => false

/-- Stores a newly offered event. -/
def capture (e : ε) (_ : Phase ε) : Phase ε :=
  .available e

/-- Hands the stored event to a click, moving to `resolving`; hands nothing in another phase. -/
def take : Phase ε → Option ε × Phase ε
  | .available e => (some e, .resolving)
  | p => (none, p)

/-- Back to `idle` after a click, unless a newer event was stored meanwhile. -/
def finish : Phase ε → Phase ε
  | .resolving => .idle
  | p => p

@[simp] theorem capture_eq (e : ε) (p : Phase ε) : p.capture e = .available e := rfl

@[simp] theorem take_available (e : ε) : (Phase.available e).take = (some e, .resolving) := rfl

@[simp] theorem take_idle : (Phase.idle : Phase ε).take = (none, .idle) := rfl

@[simp] theorem take_resolving : (Phase.resolving : Phase ε).take = (none, .resolving) := rfl

@[simp] theorem finish_resolving : (Phase.resolving : Phase ε).finish = .idle := rfl

@[simp] theorem finish_idle : (Phase.idle : Phase ε).finish = .idle := rfl

@[simp] theorem finish_available (e : ε) : (Phase.available e).finish = .available e := rfl

end Phase

end Homescreen
