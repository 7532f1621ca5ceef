import Mathlib.Data.List.Nodup
import Homescreen.Proofs.Json.RecordTexts

/-!
# What a record takes from an object

The member loop puts an object's members into a draft one after the other and may stop half-way
(`Schema.fillOne`). Here what it computes is said by the members as a whole:

* `Schema.draftOf ms` — for each field, the entry its slot takes from the value the members name
  for its key;
* `Schema.Fits ms` — no key of a field is named twice and every value named for a field is one
  its slot takes; `Schema.Accepts ms` — the members fit and name every required field.

For a schema whose keys are distinct:

* `Schema.foldlM_fillOne` — the member loop gives `draftOf ms` exactly when the members fit, and
  nothing otherwise. The step is `fillOne_draftOf`: a member put into the draft of members that
  fit gives the draft of both, if they still fit;
* `Schema.readMembers_eq` — reading an object's members gives `draftOf ms` exactly when the
  record accepts them;
* `Schema.readMembers_known_perm` — neither the order of the members nor members of no field
  change what is read;
* `Schema.readArray_eq` — an array is read as the object naming the first keys with its items,
  when it has no more items than the record has fields.
-/

namespace Homescreen.Json

namespace Schema

variable {s : Schema}

/-- The keys of a record's fields, in field order. -/
def keys (s : Schema) : List String :=
  s.fields.map (·.key)

/-- The draft an object gives by what it says: for each field, the entry the field's slot takes
from the value of its key, if the object names the key. -/
def draftOf (s : Schema) (ms : List (String × Written)) : Draft :=
  s.fields.map fun f => (ms.lookup f.key).bind f.slot.take

/-- Members that a record's fields take: no key of a field comes twice, and the value of each key
of a field is one the field's slot takes. -/
def Fits (s : Schema) (ms : List (String × Written)) : Prop :=
  ((ms.map Prod.fst).filter (· ∈ s.keys)).Nodup ∧
    ∀ m ∈ ms, ∀ f ∈ s.fields, f.key = m.1 → (f.slot.take m.2).isSome

/-- Members a record is read from: they fit, and every required field is given. -/
def Accepts (s : Schema) (ms : List (String × Written)) : Prop :=
  s.Fits ms ∧ ∀ f ∈ s.fields, f.required → f.key ∈ ms.map Prod.fst

instance (s : Schema) (ms : List (String × Written)) : Decidable (s.Fits ms) :=
  inferInstanceAs (Decidable (_ ∧ _))

instance (s : Schema) (ms : List (String × Written)) : Decidable (s.Accepts ms) :=
  inferInstanceAs (Decidable (_ ∧ _))

/-! ### Keys -/

theorem index?_eq_none_iff {k : String} : s.index? k = none ↔ k ∉ s.keys := by
  simp [index?, indexIn, keys, List.findIdx?_eq_none_iff]

/-- A key that finds a position is the key of the field there. -/
theorem field_of_index? {k : String} {i : Nat} (h : s.index? k = some i) :
    ∃ f, s.fields[i]? = some f ∧ f.key = k := by
  rw [index?, indexIn, List.findIdx?_eq_some_iff_getElem] at h
  obtain ⟨hi, hk, -⟩ := h
  have hlt : i < s.fields.length := by simpa using hi
  refine ⟨s.fields[i], List.getElem?_eq_getElem hlt, ?_⟩
  simpa using hk

theorem key_mem_keys {f : Field} (hf : f ∈ s.fields) : f.key ∈ s.keys :=
  List.mem_map_of_mem hf

/-- In a schema whose keys are distinct, a key names one field. -/
theorem eq_of_key_eq (hs : s.KeysDistinct) {f g : Field} (hf : f ∈ s.fields) (hg : g ∈ s.fields)
    (h : f.key = g.key) : f = g :=
  List.inj_on_of_nodup_map hs hf hg h

/-! ### Drafts -/

/-- A member added at the end is not found under another key. -/
theorem lookup_append_of_ne {pre : List (String × Written)} {k k' : String} (v : Written)
    (hne : k' ≠ k) : (pre ++ [(k, v)]).lookup k' = pre.lookup k' := by
  have hbeq : (k' == k) = false := beq_eq_false_iff_ne.2 hne
  rw [List.lookup_append, List.lookup_cons, hbeq, List.lookup_nil, Option.or_none]

theorem draftOf_nil : s.draftOf [] = s.empty := by
  simp [draftOf, empty]

theorem getElem?_draftOf (ms : List (String × Written)) (i : Nat) :
    (s.draftOf ms)[i]? = s.fields[i]?.map fun f => (ms.lookup f.key).bind f.slot.take := by
  simp [draftOf]

/-- A member of no field changes nothing in the draft. -/
theorem draftOf_append_unknown {k : String} (hk : k ∉ s.keys) (pre : List (String × Written))
    (v : Written) : s.draftOf (pre ++ [(k, v)]) = s.draftOf pre := by
  apply List.map_congr_left
  intro f hf
  have hne : f.key ≠ k := by
    rintro rfl
    exact hk (key_mem_keys hf)
  rw [lookup_append_of_ne v hne]

/-- A member of a field not named before fills that field. -/
theorem draftOf_append_new (hs : s.KeysDistinct) {i : Nat} {f : Field}
    (hf : s.fields[i]? = some f) {pre : List (String × Written)}
    (hin : f.key ∉ pre.map Prod.fst) {v : Written} {e : Entry} (he : f.slot.take v = some e) :
    s.draftOf (pre ++ [(f.key, v)]) = (s.draftOf pre).set i (some e) := by
  apply List.ext_getElem?
  intro j
  rw [getElem?_draftOf, List.getElem?_set, getElem?_draftOf]
  by_cases hij : i = j
  · subst hij
    have hlen : i < (s.draftOf pre).length := by
      simpa [draftOf] using (List.getElem?_eq_some_iff.1 hf).1
    have hnone : pre.lookup f.key = none := by
      rw [List.lookup_eq_none_iff]
      intro p hp
      have hne : f.key ≠ p.1 := fun h => hin (h ▸ List.mem_map_of_mem hp)
      simpa using hne
    simp [hf, hlen, List.lookup_append, hnone, he]
  · rw [if_neg hij]
    cases hg : s.fields[j]? with
    | none => rfl
    | some g =>
      -- another field has another key
      have hne : g.key ≠ f.key := by
        intro hkey
        have hki : s.keys[i]? = some f.key := by simp [keys, hf]
        have hkj : s.keys[j]? = some f.key := by simp [keys, hg, hkey]
        have hlt : i < s.keys.length := by simpa [keys] using (List.getElem?_eq_some_iff.1 hf).1
        exact hij ((List.getElem?_inj hlt hs).1 (hki.trans hkj.symm))
      simp only [Option.map_some, lookup_append_of_ne v hne]

/-! ### Members that fit -/

theorem Fits.of_append {l₁ l₂ : List (String × Written)} (h : s.Fits (l₁ ++ l₂)) :
    s.Fits l₁ := by
  refine ⟨?_, fun m hm => h.2 m (List.mem_append_left _ hm)⟩
  have hnodup := h.1
  rw [List.map_append, List.filter_append] at hnodup
  exact (List.nodup_append.1 hnodup).1

/-- A member of no field fits after any members that fit. -/
theorem Fits.append_unknown {pre : List (String × Written)} (h : s.Fits pre) {k : String}
    (hk : k ∉ s.keys) (v : Written) : s.Fits (pre ++ [(k, v)]) := by
  refine ⟨?_, ?_⟩
  · simpa [List.filter_append, hk] using h.1
  · intro m hm f hf hkey
    rcases List.mem_append.1 hm with hm | hm
    · exact h.2 m hm f hf hkey
    · obtain rfl := List.mem_singleton.1 hm
      have hkf : k = f.key := hkey.symm
      exact absurd (hkf ▸ key_mem_keys hf) hk

/-- A member of a field not named before, with a value the field's slot takes, fits. -/
theorem Fits.append_new (hs : s.KeysDistinct) {pre : List (String × Written)} (h : s.Fits pre)
    {f : Field} (hf : f ∈ s.fields) (hin : f.key ∉ pre.map Prod.fst) {v : Written}
    (he : (f.slot.take v).isSome) : s.Fits (pre ++ [(f.key, v)]) := by
  refine ⟨?_, ?_⟩
  · rw [List.map_append, List.filter_append, List.nodup_append]
    refine ⟨h.1, List.Sublist.nodup (List.filter_sublist) (List.nodup_singleton _), ?_⟩
    intro a ha b hb hab
    have hb' : b = f.key := by simpa using (List.mem_filter.1 hb).1
    subst hb' hab
    exact hin (List.mem_filter.1 ha).1
  · intro m hm g hg hkey
    rcases List.mem_append.1 hm with hm | hm
    · exact h.2 m hm g hg hkey
    · obtain rfl := List.mem_singleton.1 hm
      obtain rfl := eq_of_key_eq hs hg hf hkey
      exact he

/-- A field named twice does not fit. -/
theorem not_fits_append_named {pre : List (String × Written)} {k : String} (hk : k ∈ s.keys)
    (hin : k ∈ pre.map Prod.fst) (v : Written) : ¬ s.Fits (pre ++ [(k, v)]) := by
  intro h
  have hnodup := h.1
  rw [List.map_append, List.filter_append, List.nodup_append] at hnodup
  exact hnodup.2.2 k (List.mem_filter.2 ⟨hin, by simpa using hk⟩) k (by simp [hk]) rfl

/-- A value the field's slot does not take does not fit. -/
theorem not_fits_append_untaken {pre : List (String × Written)} {f : Field} (hf : f ∈ s.fields)
    {v : Written} (he : f.slot.take v = none) : ¬ s.Fits (pre ++ [(f.key, v)]) := by
  intro h
  have htaken := h.2 (f.key, v) (by simp) f hf rfl
  simp [he] at htaken

/-- Under members that fit, a field has an entry exactly when its key is named. -/
theorem Fits.isSome_entry_iff {ms : List (String × Written)} (h : s.Fits ms) {f : Field}
    (hf : f ∈ s.fields) :
    ((ms.lookup f.key).bind f.slot.take).isSome ↔ f.key ∈ ms.map Prod.fst := by
  cases hl : ms.lookup f.key with
  | none =>
    simp only [Option.bind_none, Option.isSome_none, Bool.false_eq_true, false_iff]
    intro hmem
    obtain ⟨p, hp, hpk⟩ := List.mem_map.1 hmem
    have hne := (List.lookup_eq_none_iff.1 hl) p hp
    simp [hpk] at hne
  | some w =>
    obtain ⟨l₁, l₂, hms, -⟩ := List.lookup_eq_some_iff.1 hl
    have hmem : (f.key, w) ∈ ms := by simp [hms]
    simp only [Option.bind_some]
    exact ⟨fun _ => List.mem_map_of_mem hmem, fun _ => h.2 _ hmem f hf rfl⟩

/-- Under members that fit, a field is filled exactly when its key is named. -/
theorem Fits.filled_iff {pre : List (String × Written)} (h : s.Fits pre) {i : Nat} {f : Field}
    (hf : s.fields[i]? = some f) :
    ((s.draftOf pre)[i]?).join.isSome ↔ f.key ∈ pre.map Prod.fst := by
  rw [getElem?_draftOf, hf, Option.map_some, Option.join_some]
  exact h.isSome_entry_iff (List.mem_of_getElem? hf)

/-! ### The member loop -/

/-- **One member put into the draft of members that fit**: the draft of the members with it, if
they still fit, and nothing otherwise. -/
theorem fillOne_draftOf (hs : s.KeysDistinct) {pre : List (String × Written)} (h : s.Fits pre)
    (m : String × Written) :
    s.fillOne (s.draftOf pre) m =
      if s.Fits (pre ++ [m]) then some (s.draftOf (pre ++ [m])) else none := by
  obtain ⟨k, v⟩ := m
  unfold fillOne
  cases hi : s.index? k with
  | none =>
    -- a key of no field
    have hk : k ∉ s.keys := index?_eq_none_iff.1 hi
    rw [if_pos (h.append_unknown hk v), draftOf_append_unknown hk]
  | some i =>
    obtain ⟨f, hf, rfl⟩ := field_of_index? hi
    have hfmem : f ∈ s.fields := List.mem_of_getElem? hf
    dsimp only
    by_cases hin : f.key ∈ pre.map Prod.fst
    · -- the field was named before
      rw [if_pos ((h.filled_iff hf).2 hin),
        if_neg (not_fits_append_named (key_mem_keys hfmem) hin v)]
    · rw [if_neg (fun hfilled => hin ((h.filled_iff hf).1 hfilled)), hf]
      dsimp only
      cases he : f.slot.take v with
      | none => rw [if_neg (not_fits_append_untaken hfmem he), Option.map_none]
      | some e =>
        rw [if_pos (h.append_new hs hfmem hin (by simp [he])), Option.map_some,
          draftOf_append_new hs hf hin he]

/-- **The member loop, as a whole**: putting members into the draft one by one, starting from
members that fit, gives the draft of all of them when they all fit, and nothing otherwise. -/
theorem foldlM_fillOne_draftOf (hs : s.KeysDistinct) (ms : List (String × Written)) :
    ∀ pre, s.Fits pre →
      ms.foldlM s.fillOne (s.draftOf pre) =
        if s.Fits (pre ++ ms) then some (s.draftOf (pre ++ ms)) else none := by
  induction ms with
  | nil =>
    intro pre h
    simp [h]
  | cons m ms ih =>
    intro pre h
    rw [List.foldlM_cons, fillOne_draftOf hs h m]
    by_cases hm : s.Fits (pre ++ [m])
    · -- the loop goes on from the members with `m`
      rw [if_pos hm]
      have hnext := ih (pre ++ [m]) hm
      simpa using hnext
    · -- a prefix that does not fit: the members do not fit either
      have hprefix : ¬ s.Fits (pre ++ m :: ms) := fun hall =>
        hm (Fits.of_append (by simpa using hall : s.Fits (pre ++ [m] ++ ms)))
      rw [if_neg hm, if_neg hprefix]
      rfl

/-- **What the member loop computes**: members put into the empty draft one by one give the
draft of all of them exactly when they fit, and nothing otherwise. -/
theorem foldlM_fillOne (hs : s.KeysDistinct) (ms : List (String × Written)) :
    ms.foldlM s.fillOne s.empty = if s.Fits ms then some (s.draftOf ms) else none := by
  have hnil : s.Fits [] := ⟨by simp, by simp⟩
  simpa [draftOf_nil] using foldlM_fillOne_draftOf hs ms [] hnil

/-! ### Required fields -/

theorem zip_draftOf (ms : List (String × Written)) :
    s.fields.zip (s.draftOf ms) =
      s.fields.map fun f => (f, (ms.lookup f.key).bind f.slot.take) := by
  unfold draftOf
  induction s.fields with
  | nil => rfl
  | cons f fs ih => simp [ih]

/-- Under members that fit, no required field is missing exactly when every required field is
named. -/
theorem Fits.firstMissing?_eq_none_iff {ms : List (String × Written)} (h : s.Fits ms) :
    s.firstMissing? (s.draftOf ms) = none ↔
      ∀ f ∈ s.fields, f.required → f.key ∈ ms.map Prod.fst := by
  rw [firstMissing?, zip_draftOf, Option.map_eq_none_iff, List.find?_eq_none]
  simp only [List.mem_map, forall_exists_index, and_imp, forall_apply_eq_imp_iff₂,
    Bool.and_eq_true, not_and, Option.isNone_iff_eq_none]
  refine forall₂_congr fun f hf => ?_
  rw [← Option.not_isSome_iff_eq_none, h.isSome_entry_iff hf, not_not, List.mem_map]

/-- **What reading an object's members gives**: the draft of the members exactly when the record
accepts them, and nothing otherwise. -/
theorem readMembers_eq (hs : s.KeysDistinct) (ms : List (String × Written)) :
    s.readMembers ms = if s.Accepts ms then some (s.draftOf ms) else none := by
  unfold readMembers
  rw [foldlM_fillOne hs]
  by_cases h : s.Fits ms
  · rw [if_pos h, Option.bind_some]
    by_cases hp : ∀ f ∈ s.fields, f.required → f.key ∈ ms.map Prod.fst
    · rw [h.firstMissing?_eq_none_iff.2 hp, if_pos ⟨h, hp⟩]
    · obtain ⟨f, hf⟩ := Option.ne_none_iff_exists'.1
        (fun hn => hp (h.firstMissing?_eq_none_iff.1 hn))
      rw [hf, if_neg (fun hacc => hp hacc.2)]
  · rw [if_neg h, if_neg (fun hacc => h hacc.1)]
    rfl

/-! ### Order and members of no field -/

/-- The members of fields among some members, in their order. -/
def known (s : Schema) (ms : List (String × Written)) : List (String × Written) :=
  ms.filter (·.1 ∈ s.keys)

theorem lookup_known {k : String} (hk : k ∈ s.keys) (ms : List (String × Written)) :
    (s.known ms).lookup k = ms.lookup k := by
  induction ms with
  | nil => rfl
  | cons m ms ih =>
    obtain ⟨k', v⟩ := m
    by_cases hk' : k' ∈ s.keys
    · simp [known, hk', List.lookup_cons, ← ih]
    · have hne : (k == k') = false := beq_eq_false_iff_ne.2 fun h => hk' (h ▸ hk)
      simp [known, hk', List.lookup_cons, hne, ← ih]

/-- Members of no field give nothing to the draft. -/
theorem draftOf_known (ms : List (String × Written)) : s.draftOf (s.known ms) = s.draftOf ms :=
  List.map_congr_left fun f hf => by rw [lookup_known (key_mem_keys hf)]

theorem map_fst_known (ms : List (String × Written)) :
    (s.known ms).map Prod.fst = (ms.map Prod.fst).filter (· ∈ s.keys) := by
  simp [known, List.filter_map, Function.comp_def]

/-- Members that fit name each field once. -/
theorem Fits.nodup_known {ms : List (String × Written)} (h : s.Fits ms) :
    ((s.known ms).map Prod.fst).Nodup := by
  rw [map_fst_known]
  exact h.1

/-- Members of no field change nothing in what a record accepts. -/
theorem accepts_known (ms : List (String × Written)) :
    s.Accepts (s.known ms) ↔ s.Accepts ms := by
  have hmap := @map_fst_known s ms
  have hnodup : ((s.known ms).map Prod.fst).filter (· ∈ s.keys) =
      (ms.map Prod.fst).filter (· ∈ s.keys) := by
    rw [hmap, List.filter_filter]
    simp
  have hkeys : ∀ {k : String}, k ∈ s.keys →
      (k ∈ (s.known ms).map Prod.fst ↔ k ∈ ms.map Prod.fst) := fun hk => by
    rw [hmap, List.mem_filter]
    simp [hk]
  unfold Accepts Fits
  rw [hnodup]
  refine and_congr (and_congr Iff.rfl ⟨fun h m hm f hf hk => ?_,
    fun h m hm f hf hk => h m (List.mem_filter.1 hm).1 f hf hk⟩)
    (forall₂_congr fun f hf => imp_congr_right fun _ => hkeys (key_mem_keys hf))
  -- a member that names a field is a member of a field
  exact h m (List.mem_filter.2 ⟨hm, by simpa [← hk] using key_mem_keys hf⟩) f hf hk

/-- Under distinct keys, a key finds exactly the value it names. -/
theorem lookup_eq_some_iff_mem {ms : List (String × Written)} (hnd : (ms.map Prod.fst).Nodup)
    {k : String} {v : Written} : ms.lookup k = some v ↔ (k, v) ∈ ms := by
  have hmem_of : ∀ {w}, ms.lookup k = some w → (k, w) ∈ ms := fun h => by
    obtain ⟨l₁, l₂, hms, -⟩ := List.lookup_eq_some_iff.1 h
    simp [hms]
  refine ⟨hmem_of, fun hmem => ?_⟩
  have hsome : (ms.lookup k).isSome := List.lookup_isSome_iff.2 ⟨(k, v), hmem, by simp⟩
  obtain ⟨w, hw⟩ := Option.isSome_iff_exists.1 hsome
  have hpair := List.inj_on_of_nodup_map hnd hmem (hmem_of hw) rfl
  rw [hw, (Prod.mk.inj hpair).2]

/-- Under distinct keys, the order of the members changes no key's value. -/
theorem lookup_perm {ms ms' : List (String × Written)} (h : ms.Perm ms')
    (hnd : (ms.map Prod.fst).Nodup) (k : String) : ms.lookup k = ms'.lookup k := by
  have hnd' : (ms'.map Prod.fst).Nodup := ((h.map Prod.fst).nodup_iff).1 hnd
  apply Option.ext
  intro v
  rw [lookup_eq_some_iff_mem hnd, lookup_eq_some_iff_mem hnd', h.mem_iff]

theorem draftOf_perm {ms ms' : List (String × Written)} (h : ms.Perm ms')
    (hnd : (ms.map Prod.fst).Nodup) : s.draftOf ms = s.draftOf ms' :=
  List.map_congr_left fun f _ => by rw [lookup_perm h hnd]

theorem accepts_perm {ms ms' : List (String × Written)} (h : ms.Perm ms') :
    s.Accepts ms ↔ s.Accepts ms' := by
  unfold Accepts Fits
  rw [(((h.map Prod.fst).filter _).nodup_iff)]
  simp only [h.mem_iff, (h.map Prod.fst).mem_iff]

/-- **Order and members of no field do not matter**: members whose members of fields are the
same, in any order, give the same record. -/
theorem readMembers_known_perm (hs : s.KeysDistinct) {ms ms' : List (String × Written)}
    (h : (s.known ms).Perm (s.known ms')) : s.readMembers ms = s.readMembers ms' := by
  rw [readMembers_eq hs, readMembers_eq hs]
  have hacc : s.Accepts ms ↔ s.Accepts ms' := by
    rw [← accepts_known ms, ← accepts_known ms', accepts_perm h]
  by_cases hA : s.Accepts ms
  · rw [if_pos hA, if_pos (hacc.1 hA), ← draftOf_known ms,
      draftOf_perm h hA.1.nodup_known, draftOf_known]
  · rw [if_neg hA, if_neg (fun hA' => hA (hacc.2 hA'))]

/-! ### Arrays -/

/-- Items named by distinct keys name each key once. -/
theorem nodup_map_fst_zip {ks : List String} (hks : ks.Nodup) (vs : List Written) :
    ((ks.zip vs).map Prod.fst).Nodup := by
  induction ks generalizing vs with
  | nil => simp
  | cons k ks ih =>
    cases vs with
    | nil => simp
    | cons v vs =>
      rw [List.nodup_cons] at hks
      simp only [List.zip_cons_cons, List.map_cons, List.nodup_cons]
      refine ⟨fun hk => hks.1 ?_, ih hks.2 vs⟩
      obtain ⟨p, hp, hpk⟩ := List.mem_map.1 hk
      exact hpk ▸ (List.of_mem_zip hp).1

/-- The members an array's items stand for: the first key with the first item, and the rest
after it. -/
theorem accepts_cons_iff {name : String} {f : Field} {fs : List Field}
    (hs : (Schema.mk name (f :: fs)).KeysDistinct) (v : Written) (vs : List Written) :
    (Schema.mk name (f :: fs)).Accepts ((f.key, v) :: (fs.map (·.key)).zip vs) ↔
      (f.slot.take v).isSome ∧ (Schema.mk name fs).Accepts ((fs.map (·.key)).zip vs) := by
  have hnd : (f.key :: fs.map (·.key)).Nodup := hs
  rw [List.nodup_cons] at hnd
  -- the keys the items stand for are later keys, each once
  have hZ : ∀ m ∈ (fs.map (·.key)).zip vs, m.1 ∈ fs.map (·.key) :=
    fun m hm => (List.of_mem_zip hm).1
  have hne : ∀ m ∈ (fs.map (·.key)).zip vs, m.1 ≠ f.key :=
    fun m hm hk => hnd.1 (hk ▸ hZ m hm)
  have hZnd := nodup_map_fst_zip hnd.2 vs
  have hfs : ∀ g ∈ fs, g.key ≠ f.key := fun g hg hk => hnd.1 (hk ▸ List.mem_map_of_mem hg)
  constructor
  · rintro ⟨⟨-, htyped⟩, hpresent⟩
    refine ⟨htyped _ List.mem_cons_self f List.mem_cons_self rfl,
      ⟨hZnd.filter _, fun m hm g hg hk => htyped m (List.mem_cons_of_mem _ hm) g
        (List.mem_cons_of_mem _ hg) hk⟩, fun g hg hreq => ?_⟩
    rcases List.mem_cons.1 (hpresent g (List.mem_cons_of_mem _ hg) hreq) with hk | hk
    · exact absurd hk (hfs g hg)
    · exact hk
  · rintro ⟨hv, ⟨-, htyped⟩, hpresent⟩
    refine ⟨⟨?_, ?_⟩, ?_⟩
    · refine List.Nodup.filter _ (List.nodup_cons.2 ⟨fun hk => ?_, hZnd⟩)
      obtain ⟨m, hm, hmk⟩ := List.mem_map.1 hk
      exact hne m hm hmk
    · intro m hm g hg hk
      rcases List.mem_cons.1 hm with rfl | hmZ
      · rcases List.mem_cons.1 hg with rfl | hgs
        · exact hv
        · exact absurd hk (hfs g hgs)
      · rcases List.mem_cons.1 hg with rfl | hgs
        · exact absurd hk.symm (hne m hmZ)
        · exact htyped m hmZ g hgs hk
    · intro g hg hreq
      rcases List.mem_cons.1 hg with rfl | hg
      · exact List.mem_cons_self
      · exact List.mem_cons_of_mem _ (hpresent g hg hreq)

/-- Nothing is accepted for a record with a required field. -/
theorem accepts_nil_iff : s.Accepts [] ↔ ∀ f ∈ s.fields, f.required = false := by
  simp [Accepts, Fits]

/-- A field's key, named first, is not found again among later fields' keys. -/
theorem draftOf_cons_of_not_mem {name : String} {fs : List Field} {k : String}
    (hk : k ∉ fs.map (·.key)) (v : Written) (ms : List (String × Written)) :
    (Schema.mk name fs).draftOf ((k, v) :: ms) = (Schema.mk name fs).draftOf ms := by
  apply List.map_congr_left
  intro g hg
  have hne : (g.key == k) = false :=
    beq_eq_false_iff_ne.2 fun hgk => hk (hgk ▸ List.mem_map_of_mem hg)
  rw [List.lookup_cons, hne]

/-- **The items of an array, read for the fields in order**, give what the members naming the
first keys with them give, when there are no more items than fields. -/
theorem readItems_eq (name : String) : ∀ (fs : List Field) (vs : List Written),
    (Schema.mk name fs).KeysDistinct → vs.length ≤ fs.length →
      readItems fs vs =
        if (Schema.mk name fs).Accepts ((fs.map (·.key)).zip vs) then
          some ((Schema.mk name fs).draftOf ((fs.map (·.key)).zip vs))
        else none
  | [], vs, _, hlen => by
    obtain rfl : vs = [] := List.eq_nil_of_length_eq_zero (by simpa using hlen)
    simp [readItems, Accepts, Fits, draftOf]
  | f :: fs, [], hs, _ => by
    -- no item for the field: left out, unless required
    have hnd : (fs.map (·.key)).Nodup := (List.nodup_cons.1 hs).2
    have ih := readItems_eq name fs [] hnd (by simp)
    simp only [List.zip_nil_right] at ih ⊢
    rw [readItems, ih]
    have hiff : (Schema.mk name (f :: fs)).Accepts [] ↔
        f.required = false ∧ (Schema.mk name fs).Accepts [] := by
      rw [accepts_nil_iff, accepts_nil_iff]
      exact List.forall_mem_cons
    have hdraft : (Schema.mk name (f :: fs)).draftOf [] =
        none :: (Schema.mk name fs).draftOf [] := rfl
    rw [hdraft]
    cases hreq : f.required
    · by_cases hA : (Schema.mk name fs).Accepts [] <;> simp [hiff, hreq, hA]
    · simp [hiff, hreq]
  | f :: fs, v :: vs, hs, hlen => by
    -- the first item, for the first field
    have hnd := List.nodup_cons.1 hs
    have ih := readItems_eq name fs vs hnd.2 (by simpa using hlen)
    rw [List.map_cons, List.zip_cons_cons, readItems, ih]
    have hdraft : (Schema.mk name (f :: fs)).draftOf ((f.key, v) :: (fs.map (·.key)).zip vs) =
        f.slot.take v :: (Schema.mk name fs).draftOf ((fs.map (·.key)).zip vs) := by
      rw [draftOf, List.map_cons, List.lookup_cons_self, Option.bind_some]
      exact congrArg _ (draftOf_cons_of_not_mem hnd.1 v _)
    rw [hdraft]
    by_cases hA : (Schema.mk name fs).Accepts ((fs.map (·.key)).zip vs)
    · cases he : f.slot.take v with
      | none => simp [accepts_cons_iff hs, he]
      | some e => simp [accepts_cons_iff hs, he, hA]
    · simp [accepts_cons_iff hs, hA]

/-- **An array is read as the object naming the first keys with its items**, when it has no
more items than the record has fields, and fails otherwise. -/
theorem readArray_eq (hs : s.KeysDistinct) (vs : List Written) :
    s.readArray vs =
      if vs.length ≤ s.fields.length then s.readMembers (s.keys.zip vs) else none := by
  unfold readArray
  split_ifs with hlen
  · rw [readMembers_eq hs]
    exact readItems_eq s.name s.fields vs hs hlen
  · rfl

end Schema

end Homescreen.Json
