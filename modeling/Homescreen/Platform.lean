/-!
# Platform

Installed web apps on iOS do not get a fresh page when they come back to the foreground, so
such sessions refresh when the page becomes visible again. The platform is told by the user
agent: it names an iPhone, iPad or iPod, ignoring the case of ASCII letters only.

* `isIosAgent` — the user agent holds `iphone`, `ipad` or `ipod` as a run of UTF-8 bytes, once
  its ASCII capitals are made small;
* `Platform.wantsVisibilityRefresh` — an installed session on iOS;
* `WiringPlan.of` — which listeners the bootstrap installs.
-/

namespace Homescreen

/-- A list holds another as a run of consecutive elements. -/
def containsRun {α : Type} [BEq α] (w : List α) : List α → Bool
  | [] => w.isEmpty
  | c :: cs => w.isPrefixOf (c :: cs) || containsRun w cs

/-- The device names that mark an iOS user agent. -/
def iosDevices : List String :=
  ["iphone", "ipad", "ipod"]

/-- The bytes of a text in UTF-8. -/
def utf8Bytes (s : String) : List UInt8 :=
  s.toUTF8.data.toList

/-- A byte with an ASCII capital `A` to `Z` made small; every other byte, those of characters
beyond ASCII included, stays as it is. -/
def lowerAsciiByte (b : UInt8) : UInt8 :=
  if 65 ≤ b ∧ b ≤ 90 then b + 32 else b

/-- A user agent names an iOS device. The search runs on UTF-8 bytes: the agent's bytes, with the
ASCII capitals made small, hold the bytes of a device name as a run. -/
def isIosAgent (agent : String) : Bool :=
  let lowered := (utf8Bytes agent).map lowerAsciiByte
  iosDevices.any fun d => containsRun (utf8Bytes d) lowered

/-- What the bootstrap knows about where it runs. -/
structure Platform where
  /-- The page runs as an installed app. -/
  standalone : Bool
  /-- The device runs iOS. -/
  ios : Bool
  deriving DecidableEq, Repr

/-- The platform of a session, the device told by its user agent. -/
def Platform.ofAgent (standalone : Bool) (agent : String) : Platform :=
  ⟨standalone, isIosAgent agent⟩

/-- An installed session on iOS refreshes when it becomes visible. -/
def Platform.wantsVisibilityRefresh (p : Platform) : Bool :=
  p.standalone && p.ios

/-- The listeners the bootstrap installs. -/
structure WiringPlan where
  /-- Refresh when the page becomes visible. -/
  visibilityRefresh : Bool
  /-- Refresh on a click of the refresh button. -/
  refreshButton : Bool
  /-- Capture the install prompt and show it on a click of the install button. -/
  installPrompt : Bool
  deriving DecidableEq, Repr

/-- The plan for a platform and the buttons the page has. -/
def WiringPlan.of (p : Platform) (hasRefreshButton hasInstallButton : Bool) : WiringPlan :=
  ⟨p.wantsVisibilityRefresh, hasRefreshButton, hasInstallButton⟩

example : isIosAgent "Mozilla/5.0 (iPhone; CPU iPhone OS 17_0 like Mac OS X)" = true := by decide
example : isIosAgent "Hipodrome" = true := by decide
example : isIosAgent "İphone" = false := by decide

end Homescreen
