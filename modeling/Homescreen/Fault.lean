/-!
# Faults

Every failure of the library is one of six **faults**, each carrying what a person needs to see
to act on it: the browser interface that is missing, the worker script that could not be
registered and why, and so on. `Fault.message` is the one wording of each fault.

Only a missing browser interface means "this browser cannot do it"
(`Fault.isUnsupported`); every other fault is an error of a browser that could.
-/

namespace Homescreen

/-- Why an operation of the library failed. -/
inductive Fault where
  /-- A browser interface the library needs is missing. -/
  | apiUnavailable (api : String)
  /-- The worker script could not be registered. -/
  | registrationFailed (scriptUrl reason : String)
  /-- The page could not be reloaded. -/
  | reloadFailed (reason : String)
  /-- The install prompt could not be shown or answered. -/
  | promptFailed (reason : String)
  /-- An event listener could not be installed. -/
  | listenerFailed (event reason : String)
  /-- A configuration field holds a value it may not hold. -/
  | invalidConfig (field value : String)
  deriving DecidableEq, Repr

namespace Fault

/-- The wording of a fault. -/
def message : Fault → String
  | .apiUnavailable api => "Browser API unavailable: " ++ api
  | .registrationFailed url reason => "Service worker registration failed: " ++ url ++ " - " ++ reason
  | .reloadFailed reason => "Page reload failed: " ++ reason
  | .promptFailed reason => "Install prompt error: " ++ reason
  | .listenerFailed event reason => "Event listener error: " ++ event ++ " - " ++ reason
  | .invalidConfig field value => "Configuration error: " ++ field ++ " = " ++ value

/-- The fault of a browser that lacks an interface, as opposed to one that failed. -/
def isUnsupported : Fault → Bool
  | .apiUnavailable _ => true
  | _ => false

@[simp] theorem isUnsupported_iff (f : Fault) : f.isUnsupported = true ↔ ∃ api, f = .apiUnavailable api := by
  cases f <;> simp [isUnsupported]

end Fault

end Homescreen
