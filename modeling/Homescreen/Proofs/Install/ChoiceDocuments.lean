import Homescreen.Install.Choice
import Homescreen.Proofs.Json.Drafts

/-!
# Choice documents

The browser reports the user's choice as a document `{"outcome":…,"platform":…}`. This module says
which JSON texts are read as which choice, and that a written choice reads back:

* `Choice.decode_toText` — the document of a choice writes the outcome by its variant name, which
  is the name it is shown by (`Outcome.variantName_eq_name`), and the platform as a string, and
  reads back as the choice, for every platform string;
* `Written.Names` — the values that name an outcome: its name as a string, or an object whose one
  member has the name as its key and null as its value, which is how a unit variant may also be
  written;
* `Written.IsChoice` — the values read as a choice `c`: an object that names neither field twice,
  whose `outcome` member names `c.outcome` and whose `platform` member, if any, is the string
  `c.platform` (the empty string without one), members of no field aside; or an array of a value
  naming the outcome and, optionally, the platform's string;
* `Choice.decode_document_iff` — a JSON text is read as `c` exactly when its value is one of those.

A JSON text here is the text of an `Item`, whose strings all stand for characters. The reader
also reads a document whose members of no field hold a string with a lone surrogate escape, since
it only checks what it skips; such a text is the text of no `Item`, and nothing is said of it.

The reading half rests on the record laws of `Schema.ofText_object` and `Schema.ofText_array`;
what is left here is the record's two fields, said by what the keys `outcome` and `platform` find
(`Choice.accepts_ofDraft_iff`).
-/

namespace Homescreen

open Homescreen.Json

namespace Outcome

/-- The position of an outcome's name among `names`. -/
def index : Outcome → Nat
  | .accepted => 0
  | .dismissed => 1

@[simp] theorem ofIndex_index (o : Outcome) : ofIndex o.index = o := by
  cases o <;> rfl

@[simp] theorem getElem?_names_index (o : Outcome) : names[o.index]? = some o.name := by
  cases o <;> simp [names, all, index]

/-- An outcome's name needs no escape: it is written between quotes as it is. -/
@[simp] theorem quoteChars_name (o : Outcome) : quoteChars o.name = '"' :: o.name.toList ++ ['"'] := by
  cases o <;> simp [quoteChars, name, escapeChar]

/-- The names find the two outcomes' names, at their positions, and nothing else. -/
theorem indexIn_names (s : String) :
    indexIn names s =
      if s = "accepted" then some 0 else if s = "dismissed" then some 1 else none := by
  simp only [indexIn, names, all, variantName_eq_name, name, List.map_cons, List.map_nil,
    List.findIdx?_cons, List.findIdx?_nil, beq_iff_eq]
  by_cases h1 : s = "accepted"
  · subst h1
    simp
  · by_cases h2 : s = "dismissed"
    · subst h2
      simp
    · simp [Ne.symm h1, Ne.symm h2, h1, h2]

/-- **An outcome is read back from its name, and only from it.** -/
theorem indexIn_names_eq_some_iff {s : String} {i : Nat} :
    indexIn names s = some i ↔ ∃ o : Outcome, o.name = s ∧ o.index = i := by
  rw [indexIn_names]
  constructor
  · intro h
    by_cases h1 : s = "accepted"
    · rw [if_pos h1] at h
      exact ⟨.accepted, h1.symm, Option.some.inj h⟩
    · by_cases h2 : s = "dismissed"
      · rw [if_neg h1, if_pos h2] at h
        exact ⟨.dismissed, h2.symm, Option.some.inj h⟩
      · rw [if_neg h1, if_neg h2] at h
        cases h
  · rintro ⟨o, rfl, rfl⟩
    cases o <;> simp [name, index]

end Outcome

namespace Json

/-- A value names an outcome: the outcome's name as a string, or an object whose one member has
that name as its key and null as its value. -/
def Written.Names (v : Written) (o : Homescreen.Outcome) : Prop :=
  v.string? = some o.name ∨
    ∃ kb k ka vb va inner, v = .obj [.mk kb k ka (.mk vb .null va)] inner ∧ k.text = o.name

/-- The names a value gives: a string, or the key of an object whose one member has null as its
value. -/
theorem Written.tagName?_eq_some_iff (names : List String) (v : Written) (i : Nat) :
    v.tagName? names = some i ↔
      (∃ q, v = .str q ∧ indexIn names q.text = some i) ∨
      ∃ kb k ka vb va inner, v = .obj [.mk kb k ka (.mk vb .null va)] inner ∧
        indexIn names k.text = some i := by
  cases v with
  | str q => simp [Written.tagName?]
  | obj members inner =>
    -- only an object of one member whose value is null gives a name
    rcases members with _ | ⟨⟨kb, k, ka, ⟨vb, w, va⟩⟩, _ | ⟨m, ms⟩⟩
    · simp [Written.tagName?]
    · cases w <;> simp [Written.tagName?]
    · simp [Written.tagName?]
  | _ => simp [Written.tagName?]

/-- **A value gives the position of an outcome exactly when it names that outcome.** -/
theorem Written.tagName?_names_eq_some_iff (v : Written) (i : Nat) :
    v.tagName? Outcome.names = some i ↔ ∃ o, v.Names o ∧ o.index = i := by
  rw [Written.tagName?_eq_some_iff]
  constructor
  · rintro (⟨q, rfl, hq⟩ | ⟨kb, k, ka, vb, va, inner, rfl, hk⟩)
    · obtain ⟨o, ho, rfl⟩ := Outcome.indexIn_names_eq_some_iff.1 hq
      exact ⟨o, .inl (by simp [Written.string?, ho]), rfl⟩
    · obtain ⟨o, ho, rfl⟩ := Outcome.indexIn_names_eq_some_iff.1 hk
      exact ⟨o, .inr ⟨kb, k, ka, vb, va, inner, rfl, ho.symm⟩, rfl⟩
  · rintro ⟨o, hv | ⟨kb, k, ka, vb, va, inner, rfl, hk⟩, rfl⟩
    · -- the name as a string
      cases v with
      | str q =>
        have hq : q.text = o.name := by simpa [Written.string?] using hv
        exact .inl ⟨q, rfl, Outcome.indexIn_names_eq_some_iff.2 ⟨o, hq.symm, rfl⟩⟩
      | _ => simp [Written.string?] at hv
    · exact .inr ⟨kb, k, ka, vb, va, inner, rfl,
        Outcome.indexIn_names_eq_some_iff.2 ⟨o, hk.symm, rfl⟩⟩

/-- The body of a string with no quote, no backslash and no control character is the string
itself. -/
theorem Spells.self {cs : List Char} (h : ∀ c ∈ cs, c ≠ '"' ∧ c ≠ '\\' ∧ 0x20 ≤ c.toNat) :
    Spells cs cs := by
  induction cs with
  | nil => exact .nil
  | cons c cs ih =>
    obtain ⟨hq, hb, hp⟩ := h c List.mem_cons_self
    exact .plain hq hb hp (ih fun d hd => h d (List.mem_cons_of_mem _ hd))

/-- A string with no quote, no backslash and no control character, written as it is. -/
def Quoted.plain (s : String) (h : ∀ c ∈ s.toList, c ≠ '"' ∧ c ≠ '\\' ∧ 0x20 ≤ c.toNat) :
    Quoted :=
  ⟨s.toList, s, Spells.self h⟩

/-- A value that names an outcome gives that outcome's position. -/
theorem Written.Names.tagName?_eq {v : Written} {o : Homescreen.Outcome} (h : v.Names o) :
    v.tagName? Outcome.names = some o.index :=
  (Written.tagName?_names_eq_some_iff v o.index).2 ⟨o, h, rfl⟩

/-- A value names at most one outcome. -/
theorem Written.Names.unique {v : Written} {o o' : Homescreen.Outcome} (h : v.Names o)
    (h' : v.Names o') : o = o' := by
  have hidx : some o.index = some o'.index := h.tagName?_eq.symm.trans h'.tagName?_eq
  simpa using congrArg (Option.map Outcome.ofIndex) hidx

namespace Schema

variable {s : Schema}

/-- Among members that name no field twice, a member of a field is what its key finds. -/
theorem lookup_of_mem_known {ms : List (String × Written)}
    (hnd : ((ms.map Prod.fst).filter (· ∈ s.keys)).Nodup) {k : String} {v : Written}
    (hk : k ∈ s.keys) (hm : (k, v) ∈ ms) : ms.lookup k = some v := by
  rw [← lookup_known hk, lookup_eq_some_iff_mem (by rwa [map_fst_known])]
  exact List.mem_filter.2 ⟨hm, by simpa using hk⟩

/-- **Members that fit, by what the keys find**: no field is named twice, and the value each
field's key finds is one the field's slot takes. -/
theorem fits_iff_lookup (ms : List (String × Written)) :
    s.Fits ms ↔ ((ms.map Prod.fst).filter (· ∈ s.keys)).Nodup ∧
      ∀ f ∈ s.fields, ∀ v, ms.lookup f.key = some v → (f.slot.take v).isSome := by
  constructor
  · rintro ⟨hnd, htake⟩
    refine ⟨hnd, fun f hf v hv => htake (f.key, v) ?_ f hf rfl⟩
    obtain ⟨l₁, l₂, hms, -⟩ := List.lookup_eq_some_iff.1 hv
    simp [hms]
  · rintro ⟨hnd, htake⟩
    refine ⟨hnd, fun m hm f hf hk => htake f hf m.2 ?_⟩
    apply lookup_of_mem_known hnd (key_mem_keys hf)
    rw [hk]
    exact hm

/-- A key is named exactly when it finds a value. -/
theorem mem_map_fst_iff_lookup_isSome (ms : List (String × Written)) (k : String) :
    k ∈ ms.map Prod.fst ↔ (ms.lookup k).isSome := by
  rw [List.lookup_isSome_iff, List.mem_map]
  constructor
  · rintro ⟨p, hp, rfl⟩
    exact ⟨p, hp, by simp⟩
  · rintro ⟨p, hp, hk⟩
    exact ⟨p, hp, (beq_iff_eq.1 hk).symm⟩

/-- **A text whose value is neither an object nor an array is read as no record**: the reader
meets a value that starts with neither bracket and refuses it. -/
theorem ofText_scalar (s : Schema) (before after : Gap) {v : Written} (hb : v.head ≠ '[')
    (ho : v.head ≠ '\x7b') :
    (s.ofText (String.ofList (Item.mk before v after).text)).toOption = none := by
  apply s.ofText_toOption
  intro o
  have hfails : Fails (Reader.record s Reader.depthBudget) (before.chars ++ v.text) := by
    unfold Reader.record
    refine Fails.placed (Fails.written fun p => Fails.gap_peek before v.head_not_delimiter.1 ?_)
    split
    case h_1 heq => cases heq
    case h_2 heq => exact absurd (Option.some.inj heq) hb
    case h_3 heq => exact absurd (Option.some.inj heq) ho
    case h_4 => exact (alwaysFails_foundAhead _).fails _
  exact hfails after.chars o

end Schema

end Json

namespace Choice

theorem schema_keysDistinct : schema.KeysDistinct := by
  simp [Schema.KeysDistinct, schema]

@[simp] theorem schema_keys : schema.keys = ["outcome", "platform"] := rfl

/-- The draft of some members: the outcome the key `outcome` finds, and the platform the key
`platform` finds. -/
theorem draftOf_eq (ms : List (String × Written)) :
    schema.draftOf ms =
      [(ms.lookup "outcome").bind fun v => Entry.tag <$> v.tagName? Outcome.names,
        (ms.lookup "platform").bind fun v => Entry.text <$> v.string?] := rfl

/-- The choice of a draft of two entries. -/
theorem ofDraft_pair (a b : Option Entry) :
    ofDraft [a, b] =
      ⟨match a with
        | some (.tag i) => Outcome.ofIndex i
        | _ => .accepted,
       match b with
        | some (.text s) => s
        | _ => ""⟩ := rfl

/-! ### Objects -/

/-- The members of a document give the choice `c`: neither field is named twice, the `outcome`
member names `c.outcome`, and the `platform` member, if there is one, is the string `c.platform`,
which is empty without one. Members of no field are not looked at. -/
def OfMembers (ms : List (String × Written)) (c : Choice) : Prop :=
  ((ms.map Prod.fst).filter (· ∈ ["outcome", "platform"])).Nodup ∧
  (∃ v, ms.lookup "outcome" = some v ∧ v.Names c.outcome) ∧
  (ms.lookup "platform" = none ∧ c.platform = "" ∨
    ∃ v, ms.lookup "platform" = some v ∧ v.string? = some c.platform)

/-- The record accepts some members exactly when neither field is named twice, the key `outcome`
finds a value naming an outcome, and the key `platform`, if it finds anything, finds a string. -/
theorem accepts_iff (ms : List (String × Written)) :
    schema.Accepts ms ↔ ((ms.map Prod.fst).filter (· ∈ ["outcome", "platform"])).Nodup ∧
      (∃ v, ms.lookup "outcome" = some v ∧ (v.tagName? Outcome.names).isSome) ∧
      ∀ v, ms.lookup "platform" = some v → v.string?.isSome := by
  rw [Schema.Accepts, Schema.fits_iff_lookup, schema_keys]
  simp only [schema, List.mem_cons, List.not_mem_nil, or_false, forall_eq_or_imp, forall_eq,
    Slot.take, Option.map_eq_map, Option.isSome_map, Schema.mem_map_fst_iff_lookup_isSome,
    true_implies, Bool.false_eq_true, false_implies, and_true]
  constructor
  · rintro ⟨⟨hnd, hout, hplat⟩, hreq⟩
    obtain ⟨v, hv⟩ := Option.isSome_iff_exists.1 hreq
    exact ⟨hnd, ⟨v, hv, hout v hv⟩, hplat⟩
  · rintro ⟨hnd, ⟨v, hv, hname⟩, hplat⟩
    refine ⟨⟨hnd, fun w hw => ?_, hplat⟩, by simp [hv]⟩
    rw [hv] at hw
    cases hw
    exact hname

theorem eq_iff {c c' : Choice} : c = c' ↔ c.outcome = c'.outcome ∧ c.platform = c'.platform := by
  obtain ⟨o, p⟩ := c
  obtain ⟨o', p'⟩ := c'
  simp

/-- The outcome of the draft of an object: present, naming an outcome, and that outcome is `o`,
exactly when the value the key `outcome` finds names `o`. -/
theorem outcome_ofDraft_iff (out? : Option Written) (b : Option Entry) (o : Outcome) :
    ((∃ v, out? = some v ∧ (v.tagName? Outcome.names).isSome) ∧
      (ofDraft [out?.bind fun v => Entry.tag <$> v.tagName? Outcome.names, b]).outcome = o) ↔
    ∃ v, out? = some v ∧ v.Names o := by
  cases out? with
  | none => simp
  | some v =>
    simp only [Option.some.injEq, exists_eq_left', Option.bind_some]
    cases hi : v.tagName? Outcome.names with
    | none =>
      -- a value that gives no position names no outcome
      refine iff_of_false (by simp) fun hname => ?_
      rw [hname.tagName?_eq] at hi
      cases hi
    | some i =>
      obtain ⟨o', hname', rfl⟩ := (Written.tagName?_names_eq_some_iff v i).1 hi
      have hout : (ofDraft [Entry.tag <$> some o'.index, b]).outcome = o' := by
        simp [ofDraft_pair]
      rw [hout]
      exact ⟨fun ⟨_, ho⟩ => ho ▸ hname', fun hname => ⟨rfl, hname'.unique hname⟩⟩

/-- The platform of the draft of an object: the string the key `platform` finds, or the empty
string when it finds nothing; a value that is no string is refused. -/
theorem platform_ofDraft_iff (plat? : Option Written) (a : Option Entry) (p : String) :
    ((∀ v, plat? = some v → v.string?.isSome) ∧
      (ofDraft [a, plat?.bind fun v => Entry.text <$> v.string?]).platform = p) ↔
    plat? = none ∧ p = "" ∨ ∃ v, plat? = some v ∧ v.string? = some p := by
  cases plat? with
  | none =>
    have hp : (ofDraft [a, none]).platform = "" := rfl
    simp only [Option.bind_none, hp, reduceCtorEq, false_implies, implies_true, true_and,
      false_and, exists_false, or_false]
    exact eq_comm
  | some w =>
    cases hw : w.string? with
    | none => simp [hw]
    | some s => simp [hw, ofDraft_pair]

/-- **What a choice takes from an object's members**: the record accepts them and makes `c` of
them exactly when they give `c`. -/
theorem accepts_ofDraft_iff (ms : List (String × Written)) (c : Choice) :
    schema.Accepts ms ∧ ofDraft (schema.draftOf ms) = c ↔ OfMembers ms c := by
  rw [accepts_iff, draftOf_eq, OfMembers, and_assoc, eq_iff]
  refine and_congr_right fun _ => ?_
  -- the outcome and the platform are taken apart, each from what its own key finds
  rw [and_and_and_comm, outcome_ofDraft_iff, platform_ofDraft_iff]

/-- Members read by the record give `c` exactly when they give `c` by what their keys find. -/
theorem readMembers_ofDraft_iff (ms : List (String × Written)) (c : Choice) :
    (∃ d, schema.readMembers ms = some d ∧ ofDraft d = c) ↔ OfMembers ms c := by
  rw [Schema.readMembers_eq schema_keysDistinct, ← accepts_ofDraft_iff]
  by_cases h : schema.Accepts ms <;> simp [h]

/-! ### Written choices -/

/-- The entries a choice is written from: the position of its outcome and its platform. -/
def entries (c : Choice) : List Entry :=
  [.tag c.outcome.index, .text c.platform]

/-- The document of a choice is the record of its entries. -/
theorem toValue_eq (c : Choice) : c.toValue = schema.valueOf c.entries := by
  simp [toValue, entries, schema, Schema.valueOf, Schema.members, Slot.valueOf]

theorem ofDraft_entries (c : Choice) : ofDraft (c.entries.map some) = c := by
  obtain ⟨o, p⟩ := c
  cases o <;> rfl

theorem entries_fit (c : Choice) : ∀ p ∈ schema.fields.zip c.entries, p.1.slot.Fits p.2 := by
  have hname : indexIn Outcome.names c.outcome.name = some c.outcome.index :=
    Outcome.indexIn_names_eq_some_iff.2 ⟨c.outcome, rfl, rfl⟩
  simp [schema, entries, Slot.Fits, hname]

/-- **A written choice reads back as itself.** -/
theorem decode_toText (c : Choice) : decode c.toText = .ok c := by
  have hread : schema.ofText (schema.valueOf c.entries).write = .ok (c.entries.map some) :=
    Schema.ofText_write schema_keysDistinct rfl (entries_fit c)
  rw [decode, toText, toValue_eq, hread]
  simp only [Functor.map, Except.map, ofDraft_entries]

/-- The characters of the document of a choice: the outcome's variant name, which is its shown
name, then the platform's string. -/
theorem toText_toList (c : Choice) :
    c.toText.toList =
      '\x7b' :: quoteChars "outcome" ++ ':' :: ('"' :: c.outcome.name.toList ++ ['"']) ++
        ',' :: quoteChars "platform" ++ ':' :: quoteChars c.platform ++ ['\x7d'] := by
  simp [toText, toValue, Value.write, Value.writeChars, writeMembers]

/-! ### Reading any JSON text -/

/-- A text is read as `c` exactly when the record reader reads a draft of it that makes `c`. -/
theorem decode_eq_ok_iff (text : String) (c : Choice) :
    decode text = .ok c ↔ ∃ d, (schema.ofText text).toOption = some d ∧ ofDraft d = c := by
  unfold decode
  cases schema.ofText text <;> simp [Functor.map, Except.map, Except.toOption]

/-- **A text whose value is an object** is read as `c` exactly when its members give `c`, whatever
blanks stand between its tokens. -/
theorem decode_object_iff (before after inner : Gap) (members : List Member) (c : Choice) :
    decode (String.ofList (Item.mk before (.obj members inner) after).text) = .ok c ↔
      OfMembers (members.map Member.pair) c := by
  rw [decode_eq_ok_iff, Schema.ofText_object, readMembers_ofDraft_iff]

/-- **A text whose value is an array** is read as `c` exactly when the array holds a value naming
`c.outcome` and, unless the platform is empty, then the string `c.platform`. -/
theorem decode_array_iff (before after inner : Gap) (items : List Item) (c : Choice) :
    decode (String.ofList (Item.mk before (.arr items inner) after).text) = .ok c ↔
      (∃ v, items.map Item.value = [v] ∧ v.Names c.outcome ∧ c.platform = "") ∨
      ∃ v w, items.map Item.value = [v, w] ∧ v.Names c.outcome ∧ w.string? = some c.platform := by
  have hlen : schema.fields.length = 2 := rfl
  rw [decode_eq_ok_iff, Schema.ofText_array, Schema.readArray_eq schema_keysDistinct, hlen,
    schema_keys]
  generalize items.map Item.value = vs
  -- the items stand for the members naming the first keys; more items than fields are refused
  rcases vs with _ | ⟨v, _ | ⟨w, _ | ⟨x, vs⟩⟩⟩
  · have h := readMembers_ofDraft_iff [] c
    simp only [OfMembers, List.lookup_nil, reduceCtorEq, false_and, exists_false,
      and_false] at h
    simpa using h
  · have h := readMembers_ofDraft_iff [("outcome", v)] c
    simp only [OfMembers, List.lookup_cons, List.lookup_nil] at h
    simpa using h
  · have h := readMembers_ofDraft_iff [("outcome", v), ("platform", w)] c
    simp only [OfMembers, List.lookup_cons, List.lookup_nil] at h
    simpa using h
  · simp

/-- A text whose value is neither an object nor an array is read as no choice. -/
theorem decode_scalar (before after : Gap) {v : Written} (hb : v.head ≠ '[')
    (ho : v.head ≠ '\x7b') (c : Choice) :
    decode (String.ofList (Item.mk before v after).text) ≠ .ok c := by
  rw [Ne, decode_eq_ok_iff, Schema.ofText_scalar schema before after hb ho]
  simp

end Choice

/-- The values read as the choice `c`: an object whose members give `c`; or an array of a value
naming `c.outcome` and, unless the platform is empty, the string `c.platform`. -/
def Json.Written.IsChoice (v : Written) (c : Choice) : Prop :=
  match v with
  | .obj members _ => Choice.OfMembers (members.map Member.pair) c
  | .arr items _ =>
    (∃ v, items.map Item.value = [v] ∧ v.Names c.outcome ∧ c.platform = "") ∨
    ∃ v w, items.map Item.value = [v, w] ∧ v.Names c.outcome ∧ w.string? = some c.platform
  | _ => False

namespace Choice

/-- **Which JSON texts are read as which choice**: a text is read as `c` exactly when its value,
with any blanks around it, is read as `c`. The texts are those of the grammar, whose strings
stand for characters; a lone surrogate escape in a skipped member puts a text outside it. -/
theorem decode_document_iff (it : Item) (c : Choice) :
    decode (String.ofList it.text) = .ok c ↔ it.value.IsChoice c := by
  obtain ⟨before, v, after⟩ := it
  rcases v with _ | ⟨_ | _⟩ | n | q | ⟨items, inner⟩ | ⟨members, inner⟩
  case arr => exact decode_array_iff before after inner items c
  case obj => exact decode_object_iff before after inner members c
  all_goals
    -- a value of any other kind starts with neither bracket, and is read as no record
    exact iff_of_false (decode_scalar before after (by simp [Written.head])
      (by simp [Written.head]) c) (by simp [Item.value, Written.IsChoice])

/-- **Choice documents read back, and a JSON text is read exactly as its value says.** The
document of every choice writes the outcome by its variant name, which is the name it is shown by,
and the platform as a string, and reads back as the choice, whatever the platform holds; a choice
read from any text is written as a document that reads back as it. A JSON text of the grammar,
its strings standing for characters, is read as `c` exactly when its value is an object that
names neither field twice, whose `outcome` member names `c.outcome` (as the string of its name, or
as an object whose one member has the name as its key and null as its value) and whose `platform`
member, if any, is the string `c.platform` (empty without one), members of no field aside; or an
array of a value naming `c.outcome` and, unless the platform is empty, the string `c.platform`. -/
theorem documents_read_exactly :
    (∀ c : Choice,
      c.toText.toList =
        '\x7b' :: quoteChars "outcome" ++ ':' :: ('"' :: c.outcome.name.toList ++ ['"']) ++
          ',' :: quoteChars "platform" ++ ':' :: quoteChars c.platform ++ ['\x7d'] ∧
      decode c.toText = .ok c) ∧
    (∀ text c, decode text = .ok c → decode c.toText = .ok c) ∧
    ∀ (it : Item) (c : Choice), decode (String.ofList it.text) = .ok c ↔ it.value.IsChoice c :=
  ⟨fun c => ⟨toText_toList c, decode_toText c⟩, fun _ c _ => decode_toText c,
    decode_document_iff⟩

/-- The array `["dismissed","web"]` is read as the choice `dismissed` on `web`, and that choice's
own document reads back as it. -/
theorem dismissed_web_reread :
    decode "[\"dismissed\",\"web\"]" = .ok ⟨.dismissed, "web"⟩ ∧
      decode (toText ⟨.dismissed, "web"⟩) = .ok ⟨.dismissed, "web"⟩ := by
  let dismissed := Quoted.plain "dismissed" (by simp)
  let web := Quoted.plain "web" (by simp)
  let it : Item := .mk Gap.empty
    (.arr [.mk Gap.empty (.str dismissed) Gap.empty, .mk Gap.empty (.str web) Gap.empty]
      Gap.empty) Gap.empty
  have htext : "[\"dismissed\",\"web\"]" = String.ofList it.text := by
    rw [← String.ofList_toList (s := "[\"dismissed\",\"web\"]")]
    congr 1
  have hread : decode "[\"dismissed\",\"web\"]" = .ok ⟨.dismissed, "web"⟩ := by
    rw [htext, documents_read_exactly.2.2 it _]
    exact .inr ⟨.str dismissed, .str web, rfl, .inl rfl, rfl⟩
  exact ⟨hread, documents_read_exactly.2.1 _ _ hread⟩

/-- **An outcome written as an object is read too**: `{"outcome":{"accepted":null}}`, whose
outcome is no string, is read as the choice `accepted` with an empty platform. -/
theorem objectOutcome_decodes :
    decode "\x7b\"outcome\":\x7b\"accepted\":null\x7d\x7d" = .ok ⟨.accepted, ""⟩ := by
  let outcome := Quoted.plain "outcome" (by simp)
  let accepted := Quoted.plain "accepted" (by simp)
  let it : Item := .mk Gap.empty
    (.obj [.mk Gap.empty outcome Gap.empty (.mk Gap.empty
      (.obj [.mk Gap.empty accepted Gap.empty (.mk Gap.empty .null Gap.empty)] Gap.empty)
      Gap.empty)] Gap.empty) Gap.empty
  have htext : "\x7b\"outcome\":\x7b\"accepted\":null\x7d\x7d" = String.ofList it.text := by
    rw [← String.ofList_toList (s := "\x7b\"outcome\":\x7b\"accepted\":null\x7d\x7d")]
    congr 1
  rw [htext, decode_document_iff]
  -- one member, so no field named twice; it names `accepted` as an object, and no platform
  exact ⟨List.filter_sublist.nodup (List.nodup_singleton _),
    ⟨_, rfl, .inr ⟨_, accepted, _, _, _, _, rfl, rfl⟩⟩, .inl ⟨rfl, rfl⟩⟩

end Choice

end Homescreen
