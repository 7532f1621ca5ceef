import Homescreen.Config.Basic
import Homescreen.Json.Record
import Homescreen.Json.Write

/-!
# Configuration documents

A configuration is written as a JSON record of six fields, in this order:
`service_worker_url`, `service_worker_scope` (a string or null), `refresh_button_id`,
`install_button_id`, `standalone_media_query` (strings) and `log_registration_success` (a
boolean). Every field may be left out and then keeps its default; keys of no field are skipped.

* `Config.toText` — the document of a configuration, all six fields in order, no scope as null;
* `Config.decode` — a configuration from a document, or the reading failure;
* `Config.ofJson` — decodes and validates: a document that cannot be read is an
  invalid-configuration fault of the field `json` whose value is the reading failure's message;
* `Config.ofValue` — a configuration from a value in memory.
-/

namespace Homescreen

open Homescreen.Json

namespace Config

/-- The record layout of a configuration document. -/
def schema : Schema where
  name := "PwaConfig"
  fields :=
    [⟨ConfigField.workerUrl.key, .text, false⟩,
      ⟨ConfigField.workerScope.key, .optionalText, false⟩,
      ⟨ConfigField.refreshButtonId.key, .text, false⟩,
      ⟨ConfigField.installButtonId.key, .text, false⟩,
      ⟨ConfigField.standaloneQuery.key, .text, false⟩,
      ⟨ConfigField.logRegistrations.key, .flag, false⟩]

/-- The text of a string field, or its default. -/
def textOr (e : Option Entry) (dflt : String) : String :=
  match e with
  | some (.text s) => s
  | _ => dflt

/-- The scope field: a string, null, or its default. -/
def scopeOr (e : Option Entry) (dflt : Option String) : Option String :=
  match e with
  | some (.text s) => some s
  | some .null => none
  | _ => dflt

/-- The flag field, or its default. -/
def flagOr (e : Option Entry) (dflt : Bool) : Bool :=
  match e with
  | some (.flag b) => b
  | _ => dflt

/-- The configuration of a draft: the default, with each field the draft gives replaced. -/
def ofDraft (d : Draft) : Config where
  workerUrl := textOr d[0]?.join default.workerUrl
  workerScope := scopeOr d[1]?.join default.workerScope
  refreshButtonId := textOr d[2]?.join default.refreshButtonId
  installButtonId := textOr d[3]?.join default.installButtonId
  standaloneQuery := textOr d[4]?.join default.standaloneQuery
  logRegistrations := flagOr d[5]?.join default.logRegistrations

/-- The document of a configuration as a value, its fields in order. -/
def toValue (c : Config) : Value :=
  .obj [(ConfigField.workerUrl.key, .str c.workerUrl),
    (ConfigField.workerScope.key, match c.workerScope with
      | some s => .str s
      | none => .null),
    (ConfigField.refreshButtonId.key, .str c.refreshButtonId),
    (ConfigField.installButtonId.key, .str c.installButtonId),
    (ConfigField.standaloneQuery.key, .str c.standaloneQuery),
    (ConfigField.logRegistrations.key, .bool c.logRegistrations)]

/-- The compact document of a configuration. -/
def toText (c : Config) : String :=
  c.toValue.write

/-- Reads a configuration document, without validating it. -/
def decode (text : String) : Except Failure Config :=
  ofDraft <$> schema.ofText text

/-- Reads a configuration from a value in memory, without validating it. -/
def ofValue (v : Value) : Except Problem Config :=
  ofDraft <$> schema.ofValue v

/-- Reads and validates a configuration document. -/
def ofJson (text : String) : Except Fault Config :=
  match decode text with
  | .error f => .error (.invalidConfig "json" (f.message text))
  | .ok c => c.validate.map fun _ => c

end Config

end Homescreen
