import Homescreen.Json.Record
import Homescreen.Json.Write

/-!
# The user's choice

When the install prompt is shown, the user accepts or dismisses it; the browser reports the
**choice** as a record of the outcome and the platform the app would be installed on. The
outcome is written by its variant name, `accepted` or `dismissed`: the identifier of its variant
in lowercase. It is shown by a name of its own, which is the same text
(`Outcome.variantName_eq_name`). The platform is a string and may be left out, meaning the empty
string.

* `Choice.toText` — the document `{"outcome":…,"platform":…}`;
* `Choice.decode` — a choice from a document, the outcome required;
* `Choice.ofValue` — a choice from a value in memory.
-/

namespace Homescreen

open Homescreen.Json

/-- How the user answered the install prompt. -/
inductive Outcome where
  | accepted
  | dismissed
  deriving DecidableEq, Repr

namespace Outcome

/-- The outcomes, in the order of their positions. -/
def all : List Outcome :=
  [.accepted, .dismissed]

/-- The identifier of an outcome's variant. -/
def ident : Outcome → String
  | .accepted => "Accepted"
  | .dismissed => "Dismissed"

/-- The name a document gives an outcome: its variant identifier with every letter in lowercase,
as the serialiser's lowercase renaming writes it. -/
def variantName (o : Outcome) : String :=
  String.ofList (o.ident.toList.map Char.toLower)

/-- The name an outcome is shown by. -/
def name : Outcome → String
  | .accepted => "accepted"
  | .dismissed => "dismissed"

/-- A document names an outcome as it is shown. -/
@[simp] theorem variantName_eq_name (o : Outcome) : o.variantName = o.name := by
  cases o <;> simp [variantName, ident, name]

/-- The names documents give the outcomes, in the order of `all`. -/
def names : List String :=
  all.map variantName

/-- The outcome at a position of `all`; the last one past the end. -/
def ofIndex (i : Nat) : Outcome :=
  if i = 0 then .accepted else .dismissed

end Outcome

/-- The user's answer to the install prompt. -/
structure Choice where
  outcome : Outcome
  platform : String
  deriving DecidableEq, Repr

namespace Choice

/-- The record layout of a choice document. -/
def schema : Schema where
  name := "UserChoice"
  fields := [⟨"outcome", .tag Outcome.names, true⟩, ⟨"platform", .text, false⟩]

/-- The choice of a draft. The outcome is present in every draft a reader returns. -/
def ofDraft (d : Draft) : Choice where
  outcome := match (d[0]?.join : Option Entry) with
    | some (.tag i) => Outcome.ofIndex i
    | _ => .accepted
  platform := match (d[1]?.join : Option Entry) with
    | some (.text s) => s
    | _ => ""

/-- The document of a choice as a value. -/
def toValue (c : Choice) : Value :=
  .obj [("outcome", .str c.outcome.variantName), ("platform", .str c.platform)]

/-- The compact document of a choice. -/
def toText (c : Choice) : String :=
  c.toValue.write

/-- Reads a choice document. -/
def decode (text : String) : Except Failure Choice :=
  ofDraft <$> schema.ofText text

/-- Reads a choice from a value in memory. -/
def ofValue (v : Value) : Except Problem Choice :=
  ofDraft <$> schema.ofValue v

end Choice

end Homescreen
