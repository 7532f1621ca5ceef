import Homescreen.Config.Json
import Homescreen.Proofs.Json.RecordRoundTrip

/-!
# Configuration documents read back

The document of a configuration is the record of its six fields, in the order they are declared,
a missing scope written as null. Reading that document gives the configuration back, for every
text its fields hold: every character a string can hold is written so that the string reader
takes it back, quotes, backslashes and controls included. So reading never refuses a written
configuration, and only validation can:

* `Config.decode_toText` — a written configuration reads back as itself;
* `Config.document_roundTrip` — the document lists the six fields in order, reads back, and
  `Config.ofJson` of it is the configuration exactly when it is valid and otherwise the very fault
  validation gives; hence writing is a fixed point of reading and writing again on every document
  `Config.ofJson` accepts.

The reading half is `Schema.ofText_write`; what is left here is that a configuration is written as
its record (`Config.toValue_eq`) and that the record's entries give the configuration back
(`Config.ofDraft_entries`).
-/

namespace Homescreen

open Homescreen.Json

namespace Config

/-- The entries a configuration is written from, in field order. -/
def entries (c : Config) : List Entry :=
  [.text c.workerUrl,
    (match c.workerScope with
      | some s => .text s
      | none => .null),
    .text c.refreshButtonId, .text c.installButtonId, .text c.standaloneQuery,
    .flag c.logRegistrations]

/-- The document of a configuration is the record of its entries. -/
theorem toValue_eq (c : Config) : c.toValue = schema.valueOf c.entries := by
  cases h : c.workerScope <;>
    simp [toValue, entries, h, schema, Schema.valueOf, Schema.members, Slot.valueOf]

/-- The entries of a configuration, all present, give the configuration back. -/
theorem ofDraft_entries (c : Config) : ofDraft (c.entries.map some) = c := by
  obtain ⟨url, scope, refresh, install, query, log⟩ := c
  cases scope <;> rfl

theorem schema_keysDistinct : schema.KeysDistinct := by
  unfold Schema.KeysDistinct
  decide

theorem entries_fit (c : Config) : ∀ p ∈ schema.fields.zip c.entries, p.1.slot.Fits p.2 := by
  cases h : c.workerScope <;> simp [schema, entries, h, Slot.Fits]

/-- **A written configuration reads back as itself.** -/
theorem decode_toText (c : Config) : decode c.toText = .ok c := by
  have hread : schema.ofText (schema.valueOf c.entries).write = .ok (c.entries.map some) :=
    Schema.ofText_write schema_keysDistinct rfl (entries_fit c)
  rw [decode, toText, toValue_eq, hread]
  simp only [Functor.map, Except.map, ofDraft_entries]

/-- The characters of the document of a configuration: its six fields in declaration order, a
missing scope as `null`. -/
theorem toText_toList (c : Config) :
    c.toText.toList =
      '\x7b' :: quoteChars "service_worker_url" ++ ':' :: quoteChars c.workerUrl ++
      ',' :: quoteChars "service_worker_scope" ++ ':' ::
        (match c.workerScope with
          | some s => quoteChars s
          | none => "null".toList) ++
      ',' :: quoteChars "refresh_button_id" ++ ':' :: quoteChars c.refreshButtonId ++
      ',' :: quoteChars "install_button_id" ++ ':' :: quoteChars c.installButtonId ++
      ',' :: quoteChars "standalone_media_query" ++ ':' :: quoteChars c.standaloneQuery ++
      ',' :: quoteChars "log_registration_success" ++ ':' ::
        (if c.logRegistrations then "true" else "false").toList ++ ['\x7d'] := by
  obtain ⟨url, scope, refresh, install, query, log⟩ := c
  cases scope <;> cases log <;>
    simp [toText, toValue, Value.write, Value.writeChars, writeMembers, ConfigField.key]

/-- **The document of a configuration reads back, and only validation can refuse it.** The
document lists the six fields in declaration order with a missing scope as null; reading it gives
the configuration; `Config.ofJson` of it gives the configuration when it is valid and otherwise
exactly the fault validation gives; and on every document `Config.ofJson` accepts, reading and
writing again gives the document of what was read. -/
theorem document_roundTrip (c : Config) :
    c.toText.toList =
      '\x7b' :: quoteChars "service_worker_url" ++ ':' :: quoteChars c.workerUrl ++
      ',' :: quoteChars "service_worker_scope" ++ ':' ::
        (match c.workerScope with
          | some s => quoteChars s
          | none => "null".toList) ++
      ',' :: quoteChars "refresh_button_id" ++ ':' :: quoteChars c.refreshButtonId ++
      ',' :: quoteChars "install_button_id" ++ ':' :: quoteChars c.installButtonId ++
      ',' :: quoteChars "standalone_media_query" ++ ':' :: quoteChars c.standaloneQuery ++
      ',' :: quoteChars "log_registration_success" ++ ':' ::
        (if c.logRegistrations then "true" else "false").toList ++ ['\x7d'] ∧
    decode c.toText = .ok c ∧
    (c.validate = .ok () → ofJson c.toText = .ok c) ∧
    (∀ f, c.validate = .error f → ofJson c.toText = .error f) ∧
    ∀ text c', ofJson text = .ok c' → (ofJson c'.toText).map toText = .ok c'.toText := by
  have hjson : ∀ c : Config, ofJson c.toText = c.validate.map fun _ => c := by
    intro c
    rw [ofJson, decode_toText]
  refine ⟨toText_toList c, decode_toText c, fun hv => ?_, fun f hf => ?_, fun text c' h => ?_⟩
  · rw [hjson, hv]
    rfl
  · rw [hjson, hf]
    rfl
  · -- an accepted document read as `c'` says that `c'` is valid
    have hv : c'.validate = .ok () := by
      rw [ofJson] at h
      split at h
      · cases h
      · rename_i c₀ _
        cases hval : c₀.validate with
        | error e => rw [hval] at h; cases h
        | ok u =>
          rw [hval] at h
          cases h
          exact hval
    rw [hjson, hv]
    rfl

end Config

end Homescreen
