import Homescreen.Proofs.Config.Documents
import Homescreen.Proofs.Json.Drafts

/-!
# Configuration documents in any layout

A configuration document may be any JSON object: its members in any order, with blanks anywhere
between tokens, strings escaped in any way, and members of no field holding any value. It may
also be an array of the field values in field order. What `Config.ofJson` makes of it is said by
the members alone (`Config.ofMembers?`): the default configuration with each field the members
name set to the value they name for it, when no field is named twice and every value named has
its field's type: a string for the four texts, a string or null for the scope, a boolean for the
logging flag. The document is refused otherwise, with a fault of the field `json`.

* `Config.ofJson_object` — `Config.ofJson` on an object, and on an array of at most six items,
  which it reads as the object naming the first fields with them; an array of more items is
  refused. Neither the order of the members nor members of no field change the answer.

The documents are the texts of the grammar of `Homescreen.Proofs.Json.Texts`, whose strings all
stand for characters. A member of no field whose value holds a string with a lone surrogate
escape is skipped by the reader, and its document is read too; it is the text of no `Item`, and
nothing is said of it here.
-/

namespace Homescreen

open Homescreen.Json

namespace Config

/-- The text of a whole document: a value with the blanks around it. -/
def document (it : Item) : String :=
  String.ofList it.text

/-- The configuration the members of a document give, if the document is read: the default with
each field the members name set to the value they name for it, when no field is named twice and
every value named has its field's type. -/
def ofMembers? (ms : List (String × Written)) : Option Config :=
  if schema.Accepts ms then some (ofDraft (schema.draftOf ms)) else none

/-- How `Config.ofJson` answers a document: with a fault of the field `json` when the document is
refused, and otherwise with the configuration it reads, validated. -/
def Answers (r : Except Fault Config) : Option Config → Prop
  | none => ∃ msg, r = .error (.invalidConfig "json" msg)
  | some c => r = c.validate.map fun _ => c

/-- A document the record reader reads as a draft is answered with the configuration of that
draft; one it refuses is answered with a fault of the field `json`. -/
theorem answers_of_toOption {text : String} {x : Option Draft}
    (h : (schema.ofText text).toOption = x) : Answers (ofJson text) (x.map ofDraft) := by
  unfold ofJson decode
  cases hread : schema.ofText text with
  | error f =>
    rw [hread] at h
    subst h
    exact ⟨f.message text, rfl⟩
  | ok d =>
    rw [hread] at h
    subst h
    rfl

/-- Members the configuration reads give the configuration of their draft. -/
theorem readMembers_map (ms : List (String × Written)) :
    (schema.readMembers ms).map ofDraft = ofMembers? ms := by
  rw [Schema.readMembers_eq schema_keysDistinct, ofMembers?]
  split_ifs <;> rfl

/-- **Configuration documents in any layout**, with any blanks around the value and before its
closing bracket:

* an object is answered as its members say: with the configuration `ofMembers?` gives from them,
  validated, or with a fault of the field `json` when a field is named twice or a value named for
  a field has the wrong type;
* two objects whose members of fields are the same, in any order, are answered alike, whatever
  members of no field they hold;
* an array of at most six items is answered as the object naming the first fields, in field
  order, with its items; an array of more items is refused.

The texts are those of the grammar, whose strings stand for characters: a document with a lone
surrogate escape in a member of no field is read as well, but it is not among them. -/
theorem ofJson_object (before after inner : Gap) :
    (∀ members : List Member,
      Answers (ofJson (document (.mk before (.obj members inner) after)))
        (ofMembers? (members.map Member.pair))) ∧
    (∀ members members' : List Member,
      (schema.known (members.map Member.pair)).Perm (schema.known (members'.map Member.pair)) →
      ∃ x, Answers (ofJson (document (.mk before (.obj members inner) after))) x ∧
        Answers (ofJson (document (.mk before (.obj members' inner) after))) x) ∧
    (∀ items : List Item,
      Answers (ofJson (document (.mk before (.arr items inner) after)))
        (if items.length ≤ 6 then ofMembers? (schema.keys.zip (items.map Item.value))
        else none)) := by
  -- an object, by the record reader on any object and the law of its members
  have hobject : ∀ members : List Member,
      Answers (ofJson (document (.mk before (.obj members inner) after)))
        (ofMembers? (members.map Member.pair)) := by
    intro members
    rw [← readMembers_map]
    exact answers_of_toOption (Schema.ofText_object schema before after inner members)
  refine ⟨hobject, fun members members' hperm => ?_, fun items => ?_⟩
  · -- the same members of fields give the same configuration, if any
    have hsame : ofMembers? (members'.map Member.pair) = ofMembers? (members.map Member.pair) := by
      rw [← readMembers_map, ← readMembers_map,
        Schema.readMembers_known_perm schema_keysDistinct hperm]
    exact ⟨_, hobject members, hsame ▸ hobject members'⟩
  · -- an array, by the record reader on any array and the law of its items
    have h := answers_of_toOption (Schema.ofText_array schema before after inner items)
    rw [Schema.readArray_eq schema_keysDistinct, List.length_map] at h
    have hlen : schema.fields.length = 6 := rfl
    rw [hlen] at h
    split_ifs at h ⊢
    · rwa [readMembers_map] at h
    · exact h

end Config

end Homescreen
