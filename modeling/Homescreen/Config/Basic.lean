import Homescreen.Text.Blank
import Homescreen.Fault

/-!
# Bootstrap configuration

What the bootstrap needs to know about the page: where the worker script lives and under which
scope to register it, the ids of the refresh and install buttons, the media query that reports
an installed (standalone) session, and whether successful registrations are logged. Every field
has a default.

A configuration is **valid** when

1. its worker script, trimmed, is a path or an http(s) address: it starts with `/`, `https://`
   or `http://`, case and all;
2. its scope, if it has one, is not blank;
3. its refresh button id, install button id and standalone query are not blank,

where trimming and blankness are by the Unicode White_Space characters (`Text.isBlank`).
`Config.firstInvalid?` names the first field, in that order, that breaks its rule, with the
text it holds as given; `Config.validate` turns it into a fault.
-/

namespace Homescreen

open Homescreen.Text

/-- The settings of the bootstrap. -/
structure Config where
  /-- The worker script to register. -/
  workerUrl : String
  /-- The scope to register the worker under; the browser's default when absent. -/
  workerScope : Option String
  /-- The element id of the refresh button. -/
  refreshButtonId : String
  /-- The element id of the install button. -/
  installButtonId : String
  /-- The media query that holds in an installed session. -/
  standaloneQuery : String
  /-- Whether successful registrations are logged as well as failures. -/
  logRegistrations : Bool
  deriving DecidableEq, Repr

namespace Config

/-- The default settings. -/
def default : Config where
  workerUrl := "/static/public/sw.js"
  workerScope := none
  refreshButtonId := "refresh-button"
  installButtonId := "install-button"
  standaloneQuery := "(display-mode: standalone)"
  logRegistrations := false

instance : Inhabited Config := ⟨Config.default⟩

end Config

/-- The fields of a configuration, in the order they are written and checked. -/
inductive ConfigField where
  | workerUrl
  | workerScope
  | refreshButtonId
  | installButtonId
  | standaloneQuery
  | logRegistrations
  deriving DecidableEq, Repr

/-- The key of a field in a configuration document. -/
def ConfigField.key : ConfigField → String
  | .workerUrl => "service_worker_url"
  | .workerScope => "service_worker_scope"
  | .refreshButtonId => "refresh_button_id"
  | .installButtonId => "install_button_id"
  | .standaloneQuery => "standalone_media_query"
  | .logRegistrations => "log_registration_success"

/-- A text has something in it besides blanks. -/
def hasText (s : String) : Bool :=
  !(trimChars s.toList).isEmpty

/-- The beginnings of a worker script location. -/
def scriptPrefixes : List String :=
  ["/", "https://", "http://"]

/-- A worker script location, after trimming, is a path or an http(s) address. -/
def isScriptLocation (s : String) : Bool :=
  let t := trimChars s.toList
  scriptPrefixes.any fun p => p.toList.isPrefixOf t

namespace Config

/-- The button and query fields with the texts they hold, in the order they are checked. -/
def requiredTexts (c : Config) : List (ConfigField × String) :=
  [(.refreshButtonId, c.refreshButtonId), (.installButtonId, c.installButtonId),
    (.standaloneQuery, c.standaloneQuery)]

/-- The first blank button or query field, with the text it holds. -/
def firstBlank? (c : Config) : Option (ConfigField × String) :=
  c.requiredTexts.find? fun (_, s) => !hasText s

/-- The first field that breaks its rule, with the text it holds. -/
def firstInvalid? (c : Config) : Option (ConfigField × String) :=
  if !isScriptLocation c.workerUrl then some (.workerUrl, c.workerUrl)
  else
    match c.workerScope with
    | some s => if !hasText s then some (.workerScope, s) else c.firstBlank?
    | none => c.firstBlank?

/-- Checks a configuration: the first field that breaks its rule is an invalid-configuration
fault naming the field's key and its text as given. -/
def validate (c : Config) : Except Fault Unit :=
  match c.firstInvalid? with
  | some (f, v) => .error (.invalidConfig f.key v)
  | none => .ok ()

example : Config.default.firstInvalid? = none := by decide

end Config

end Homescreen
