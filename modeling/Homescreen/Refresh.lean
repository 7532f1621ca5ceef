import Homescreen.Fault

/-!
# Refreshing the page

A page is refreshed only while it is visible; a hidden page is left alone, whatever would have
happened on a reload. The page reports its visibility as a text, and only the exact text
`visible` means visible.

A `Page` here is the page as the refresh feature sees it: its visibility, the reason its
reloads fail if they do, and how many reloads happened. `Page.run` replays a script of steps
that change the visibility, change the failure, or refresh, and reports the page after each.
What a script does, refresh by refresh, and how many reloads it leaves, is worked out in
`Homescreen.Proofs.PageScripts` (`PageSettings.final_page`, `Page.refresh_follows_settings`).
-/

namespace Homescreen

/-- Whether the page is seen. -/
inductive Visibility where
  | visible
  | hidden
  deriving DecidableEq, Repr

/-- The visibility a page reports: only the text `visible` is visible. -/
def Visibility.ofText (s : String) : Visibility :=
  if s = "visible" then .visible else .hidden

/-- The name of a visibility. -/
def Visibility.name : Visibility → String
  | .visible => "visible"
  | .hidden => "hidden"

/-- What a refresh did. -/
inductive RefreshDecision where
  | reloaded
  | skippedHidden
  deriving DecidableEq, Repr

/-- The name of a refresh decision. -/
def RefreshDecision.name : RefreshDecision → String
  | .reloaded => "reloaded"
  | .skippedHidden => "skipped-hidden"

/-- A page as the refresh feature sees it. -/
structure Page where
  visibility : Visibility
  /-- Why a reload fails, while reloads fail. -/
  failure : Option String
  /-- The reloads so far. -/
  reloads : Nat
  deriving DecidableEq, Repr

namespace Page

/-- Reloads the page, or fails with the reason reloads fail. -/
def reload (p : Page) : Except Fault Page :=
  match p.failure with
  | some r => .error (.reloadFailed r)
  | none => .ok { p with reloads := p.reloads + 1 }

/-- Reloads the page if it is visible. A failed reload leaves the page as it was. -/
def refreshIfVisible (p : Page) : Except Fault RefreshDecision × Page :=
  match p.visibility with
  | .visible =>
    match p.reload with
    | .ok q => (.ok .reloaded, q)
    | .error e => (.error e, p)
  | .hidden => (.ok .skippedHidden, p)

end Page

/-- A step of a page script. -/
inductive PageStep where
  /-- The page reports a new visibility text. -/
  | setVisibility (text : String)
  /-- Reloads start failing for a reason, or stop failing. -/
  | setFailure (reason : Option String)
  /-- The refresh feature runs. -/
  | refresh
  deriving DecidableEq, Repr

/-- The page after a step, and what a refresh step returned. -/
structure PageReport where
  page : Page
  refresh : Option (Except Fault RefreshDecision)

namespace Page

/-- One step of a script. -/
def step (p : Page) : PageStep → PageReport
  | .setVisibility t => ⟨{ p with visibility := Visibility.ofText t }, none⟩
  | .setFailure r => ⟨{ p with failure := r }, none⟩
  | .refresh =>
    let (r, q) := p.refreshIfVisible
    ⟨q, some r⟩

/-- The reports of a script, one per step. -/
def run (p : Page) : List PageStep → List PageReport
  | [] => []
  | s :: ss =>
    let r := p.step s
    r :: run r.page ss

/-- The page after a script. -/
def final (p : Page) : List PageStep → Page
  | [] => p
  | s :: ss => final (p.step s).page ss

end Page

end Homescreen
