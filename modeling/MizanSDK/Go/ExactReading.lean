import MizanSDK.Go.Acknowledgement
import MizanSDK.Go.SettledBodies

/-!
# The reading of ledger webhooks

On which bodies the exact names of the stream selection and the names of any letter
case of the event's decoder come to the same.

Main results:

- Theorem `settled_of_eq`: members of other letter case have a say unless the body is
  settled.
- Theorem `readsExactly_iff`: when an acknowledged event is that of the exactly
  named members.
-/

namespace MizanSDK.Go

open JsonText LastWins Slices

/-! ## New values for members of other letter case -/

/-- A member is the same as itself. -/
theorem sameMember_refl (fields : List String) (inside : Text → Json → Json → Prop)
    (m : Text × Json) : SameMember fields inside m m :=
  ⟨rfl, .inl rfl⟩

/-- Documents with one related member in a place. -/
theorem sameMembers_replace {fields : List String} {inside : Text → Json → Json → Prop}
    {m m' : Text × Json} (h : SameMember fields inside m m') (front back : Document) :
    SameMembers fields inside (front ++ m :: back) (front ++ m' :: back) := by
  have hrefl : ∀ members, SameMembers fields inside members members :=
    fun members => List.forall₂_same.mpr fun m _ => sameMember_refl fields inside m
  exact List.rel_append (hrefl front) (.cons h (hrefl back))

/-- The member of a foreign entry. -/
theorem split_of_entries {members : Document} {name : String} {front back : List (Option Json)}
    (h : entries members name = front ++ none :: back) :
    ∃ pre m post, members = pre ++ m :: post ∧ IsVariant name m.1 ∧
      entries post name = back := by
  induction members generalizing front with
  | nil => simp [entries] at h
  | cons m rest ih =>
      rcases name_cases name m.1 with hexact | hvariant | hne
      · rw [entries_cons_of_eq m rest name hexact] at h
        cases front with
        | nil => cases h
        | cons e front =>
            rw [List.cons_append, List.cons.injEq] at h
            rcases ih h.2 with ⟨pre, m', post, rfl, hm, hback⟩
            exact ⟨m :: pre, m', post, rfl, hm, hback⟩
      · rw [entries_cons_of_variant m rest name hvariant] at h
        cases front with
        | nil =>
            rw [List.nil_append, List.cons.injEq] at h
            exact ⟨[], m, rest, rfl, hvariant, h.2⟩
        | cons e front =>
            rw [List.cons_append, List.cons.injEq] at h
            rcases ih h.2 with ⟨pre, m', post, rfl, hm, hback⟩
            exact ⟨m :: pre, m', post, rfl, hm, hback⟩
      · rw [entries_cons_of_ne m rest name hne] at h
        rcases ih h with ⟨pre, m', post, rfl, hm, hback⟩
        exact ⟨m :: pre, m', post, rfl, hm, hback⟩

/-- The values of a field around one of its members. -/
theorem matching_place {m : Text × Json} {name : String}
    (h : foldName m.1 = foldName (Text.ofString name)) (front back : Document) :
    matching (front ++ m :: back) name = matching front name ++ m.2 :: matching back name := by
  rw [matching_append, matching_cons_of_fold m back name h]

/-- The fields of other names receive the same values. -/
def SameOthers (name : String) (members members' : Document) : Prop :=
  ∀ other, foldName (Text.ofString other) ≠ foldName (Text.ofString name) →
    matching members' other = matching members other

/-- Fields of other names are read alike. -/
theorem SameOthers.field_eq {name : String} {members members' : Document}
    (h : SameOthers name members members') {α : Type} (decode : Json → α → Option α) (zero : α)
    {other : String} (hother : foldName (Text.ofString other) ≠ foldName (Text.ofString name)) :
    field decode zero members' other = field decode zero members other := by
  unfold field
  rw [h other hother]

/-- Any content can be replaced by another one. -/
def Varies {α : Type} (decode : Json → α → Option α) (skips : Json → Bool) (zero : α) : Prop :=
  ∀ a, ∃ json b, skips json = false ∧ decode json zero = some b ∧ b ≠ a

/-- Text can be made another text. -/
theorem varies_string : Varies decodeString isNull "" := by
  intro a
  by_cases h : a = ""
  · refine ⟨.string (Text.ofString "x"), _, rfl, rfl, ?_⟩
    rw [Text.toScalars_ofString, h]
    decide
  · refine ⟨.string (Text.ofString ""), _, rfl, rfl, ?_⟩
    rw [Text.toScalars_ofString]
    exact Ne.symm h

/-- An integer can be made another integer. -/
theorem varies_int64 : Varies decodeInt64 isNull 0 := by
  intro a
  by_cases h : a = 1
  · refine ⟨.number (.integer false 2), 2, rfl, by decide, ?_⟩
    omega
  · exact ⟨.number (.integer false 1), 1, rfl, by decide, Ne.symm h⟩

/-- A pointer can be made another one. -/
theorem varies_pointer : Varies decodePointer isNothing none := by
  intro a
  by_cases h : a = none
  · refine ⟨.string [], some _, rfl, rfl, ?_⟩
    rw [h]
    exact Option.some_ne_none _
  · exact ⟨.null, none, rfl, rfl, Ne.symm h⟩

/-- Raw JSON can be made other JSON. -/
theorem varies_raw : Varies decodeRaw isNothing none := by
  intro a
  by_cases h : a = some .null
  · refine ⟨.bool true, _, rfl, rfl, ?_⟩
    rw [h]
    simp
  · exact ⟨.null, _, rfl, rfl, Ne.symm h⟩

section Replace

variable {α : Type} {decode : Json → α → Option α} {skips : Json → Bool} {zero : α}
  {name : String}

/-- The content of a field with a new value behind which everything is skipped. -/
theorem field_last_word (h : Overwrites decode skips) {front middle back : Document} {key : Text}
    (hkey : foldName key = foldName (Text.ofString name))
    (hback : ∀ v ∈ matching back name, skips v = true) {a b : α}
    (ha : field decode zero (front ++ middle) name = some a) {json : Json}
    (hcounts : skips json = false) (hb : decode json zero = some b) :
    field decode zero (front ++ (key, json) :: back) name = some b := by
  change receive decode zero (matching (front ++ middle) name) = some a at ha
  change receive decode zero (matching (front ++ (key, json) :: back) name) = some b
  rw [matching_append] at ha
  rw [matching_append, matching_cons_of_fold _ back name hkey]
  exact h.last_word hback hcounts ha hb

/-- The other fields take no notice of the value. -/
theorem sameOthers_replace {front back : Document} {m : Text × Json}
    (hkey : foldName m.1 = foldName (Text.ofString name)) (json : Json) :
    SameOthers name (front ++ m :: back) (front ++ (m.1, json) :: back) := by
  intro other hother
  have hne : foldName m.1 ≠ foldName (Text.ofString other) := fun heq =>
    hother (heq.symm.trans hkey)
  rw [matching_append, matching_append, matching_cons_of_ne (m.1, json) back other hne,
    matching_cons_of_ne m back other hne]

/-- A field that is not decided gets another content from a new value of a member in
another letter case. -/
theorem exists_changed (h : Overwrites decode skips) (hvaries : Varies decode skips zero)
    (fields : List String) (inside : Text → Json → Json → Prop) (hname : name ∈ fields)
    {members : Document} (hundecided : ¬ Decided skips (entries members name)) {a : α}
    (ha : field decode zero members name = some a) :
    ∃ members' b, SameMembers fields inside members members' ∧
      SameOthers name members members' ∧
      field decode zero members' name = some b ∧ b ≠ a := by
  rcases hvaries a with ⟨json, b, hcounts, hb, hne⟩
  rcases exists_last_foreign hundecided with ⟨front, back, hentries, hskipped⟩
  rcases split_of_entries hentries with ⟨pre, m, post, rfl, hvariant, rfl⟩
  have hmember : SameMember fields inside m (m.1, json) :=
    ⟨rfl, .inr (.inl ⟨name, hname, hvariant⟩)⟩
  refine ⟨pre ++ (m.1, json) :: post, b, sameMembers_replace hmember pre post, ?_, ?_, hne⟩
  · exact sameOthers_replace hvariant.1 json
  · have hback := (expands_entries post name).forall_mem hskipped
    exact field_last_word h hvariant.1 hback ha hcounts hb

end Replace

/-! ### The entry -/

/-- A place among the members of the entry where one of this name can be written, with
those that it hides and what the field takes behind it. -/
def EntryPlace (members : Document) (name : String) (back : List (Option Json)) : Prop :=
  ∃ pre m post before hidden key after, members = pre ++ m :: post ∧
    foldName m.1 = foldName (Text.ofString "entry") ∧
    innerMembers m.2 = before ++ hidden ++ after ∧
    foldName key = foldName (Text.ofString name) ∧
    (∀ other, foldName (Text.ofString other) ≠ foldName (Text.ofString name) →
      matching hidden other = []) ∧
    Expands back (matching (after ++ entryMembers post) name) ∧
    ∀ json, SameMember ledgerNames InsideLedger m (m.1, .object (before ++ (key, json) :: after))

/-- A place in an entry is one in a longer body. -/
theorem EntryPlace.cons {rest : Document} {name : String} {back : List (Option Json)}
    (h : EntryPlace rest name back) (m : Text × Json) : EntryPlace (m :: rest) name back := by
  rcases h with ⟨pre, m', post, before, hidden, key, after, rfl, hplace⟩
  exact ⟨m :: pre, m', post, before, hidden, key, after, rfl, hplace⟩

/-- The place of a foreign entry among the members of the entry. -/
theorem split_of_entryEntries {members : Document} {name : String} (hname : name ∈ entryNames)
    {front back : List (Option Json)} (h : entryEntries members name = front ++ none :: back) :
    EntryPlace members name back := by
  induction members generalizing front with
  | nil => simp [entryEntries] at h
  | cons m rest ih =>
      rcases name_cases "entry" m.1 with hexact | hvariant | hne
      · rw [entryEntries_cons_of_eq m rest name hexact] at h
        rcases List.append_eq_append_iff.mp h with ⟨front', -, hlater⟩ | ⟨tail, hhead, hlater⟩
        · exact (ih hlater).cons m
        · cases tail with
          | nil => exact EntryPlace.cons (@ih [] hlater.symm) m
          | cons e tail =>
              rw [List.cons_append, List.cons.injEq] at hlater
              rw [← hlater.1] at hhead
              rcases split_of_entries hhead with ⟨before, x, after, hinner, hx, htail⟩
              refine ⟨[], m, rest, before, [x], x.1, after, rfl, hexact ▸ rfl, ?_, hx.1, ?_, ?_, ?_⟩
              · rw [hinner, List.append_assoc, List.singleton_append]
              · intro other hother
                refine matching_cons_of_ne x [] other ?_
                exact fun heq => hother (heq.symm.trans hx.1)
              · rw [hlater.2, matching_append, ← htail]
                exact (expands_entries after name).append (expands_entryEntries rest name)
              · intro json
                refine ⟨rfl, .inr (.inr (.inl ⟨hexact, before ++ x :: after, _, ?_, rfl, ?_⟩))⟩
                · cases hvalue : m.2 with
                  | object inner =>
                      rw [hvalue] at hinner
                      exact congrArg Json.object hinner
                  | _ =>
                      rw [hvalue] at hinner
                      simp [innerMembers] at hinner
                · have hmember : SameMember entryNames (fun _ _ _ => False) x (x.1, json) :=
                    ⟨rfl, .inr (.inl ⟨name, hname, hx⟩)⟩
                  exact sameMembers_replace hmember before after
      · rw [entryEntries_cons_of_variant m rest name hvariant] at h
        cases front with
        | cons e front =>
            rw [List.cons_append, List.cons.injEq] at h
            exact (ih h.2).cons m
        | nil =>
            rw [List.nil_append, List.cons.injEq] at h
            refine ⟨[], m, rest, innerMembers m.2, [], Text.ofString name, [], rfl, hvariant.1, ?_,
              rfl, fun _ _ => rfl, ?_, ?_⟩
            · rw [List.append_nil, List.append_nil]
            · rw [List.nil_append, ← h.2]
              exact expands_entryEntries rest name
            · have hmem : "entry" ∈ ledgerNames := by decide
              exact fun json => ⟨rfl, .inr (.inl ⟨"entry", hmem, hvariant⟩)⟩
      · rw [entryEntries_cons_of_ne m rest name hne] at h
        exact (ih h).cons m

/-- A field of the entry that is not decided gets another content from a new value of
a member in another letter case. -/
theorem exists_entry_changed {α : Type} {decode : Json → α → Option α} {skips : Json → Bool}
    {zero : α} {name : String} (h : Overwrites decode skips) (hvaries : Varies decode skips zero)
    (hname : name ∈ entryNames) {members : Document}
    (hundecided : ¬ Decided skips (entryEntries members name))
    (hentry : field decodeStruct [] members "entry" = some (entryMembers members)) {a : α}
    (ha : field decode zero (entryMembers members) name = some a) :
    ∃ members' b, SameLedger members members' ∧ SameOthers "entry" members members' ∧
      field decodeStruct [] members' "entry" = some (entryMembers members') ∧
      SameOthers name (entryMembers members) (entryMembers members') ∧
      field decode zero (entryMembers members') name = some b ∧ b ≠ a := by
  rcases hvaries a with ⟨json, b, hcounts, hb, hne⟩
  rcases exists_last_foreign hundecided with ⟨front, back, hentries, hskipped⟩
  rcases split_of_entryEntries hname hentries with
    ⟨pre, m, post, before, hidden, key, after, rfl, hfold, hinner, hkey, hhidden, hback, hsame⟩
  have hmembers : entryMembers (pre ++ m :: post) =
      entryMembers pre ++ (before ++ hidden ++ after) ++ entryMembers post := by
    rw [entryMembers_append, entryMembers_cons hfold, hinner, List.append_assoc (entryMembers pre)]
  have hmembers' : entryMembers (pre ++ (m.1, .object (before ++ (key, json) :: after)) :: post) =
      (entryMembers pre ++ before) ++ (key, json) :: (after ++ entryMembers post) := by
    have hobject : foldName (m.1, Json.object (before ++ (key, json) :: after)).1 =
        foldName (Text.ofString "entry") := hfold
    rw [entryMembers_append, entryMembers_cons hobject]
    simp [innerMembers]
  refine ⟨pre ++ (m.1, .object (before ++ (key, json) :: after)) :: post, b,
    sameMembers_replace (hsame json) pre post, sameOthers_replace hfold _, ?_, ?_, ?_, hne⟩
  · rw [field_entry_eq_some_iff] at hentry ⊢
    have hold := hentry.1
    rw [matching_place hfold, List.forall_mem_append, List.forall_mem_cons] at hold
    refine ⟨?_, rfl⟩
    have hobject : foldName (m.1, Json.object (before ++ (key, json) :: after)).1 =
        foldName (Text.ofString "entry") := hfold
    rw [matching_place hobject, List.forall_mem_append, List.forall_mem_cons]
    exact ⟨hold.1, .inr ⟨_, rfl⟩, hold.2.2⟩
  · intro other hother
    have hdiffers : foldName key ≠ foldName (Text.ofString other) := fun heq =>
      hother (heq.symm.trans hkey)
    rw [hmembers, hmembers', matching_append, matching_cons_of_ne _ _ other hdiffers]
    simp only [matching_append, hhidden other hother, List.nil_append, List.append_assoc]
  · have hregroup : entryMembers (pre ++ m :: post) =
        (entryMembers pre ++ before) ++ (hidden ++ after ++ entryMembers post) := by
      rw [hmembers]
      simp only [List.append_assoc]
    rw [hregroup] at ha
    rw [hmembers']
    exact field_last_word h hkey (hback.forall_mem hskipped) ha hcounts hb

/-! ## Bodies in which other letter case has a say -/

/-- Fields that were read stay readable when one field gets a new value. -/
theorem SameOthers.isSome {fields : List String} (hfields : Distinct fields) {name : String}
    (hname : name ∈ fields) {members members' : Document} (h : SameOthers name members members')
    {α : Type} {decode : Json → α → Option α} {zero : α} {other : String} (hother : other ∈ fields)
    (hread : (field decode zero members other).isSome)
    (hnew : other = name → (field decode zero members' other).isSome) :
    (field decode zero members' other).isSome := by
  by_cases heq : other = name
  · exact hnew heq
  · rw [h.field_eq decode zero fun hfold => heq (hfields other hother name hname hfold)]
    exact hread

section Fields

variable {texts pointers : List String} {members members' : Document}

/-- All fields stay readable when one gets a new value that it reads. -/
theorem Readable.of_changed (h : Readable texts pointers members)
    (hfields : Distinct (texts ++ pointers ++ ["metadata"])) {name : String}
    (hname : name ∈ texts ++ pointers ++ ["metadata"]) (hothers : SameOthers name members members')
    (htext : name ∈ texts → (field decodeString "" members' name).isSome)
    (hpointer : name ∈ pointers → (field decodePointer none members' name).isSome)
    (hmetadata : name = "metadata" → (field decodeRaw none members' name).isSome) :
    Readable texts pointers members' where
  texts other hother := by
    apply hothers.isSome hfields hname (by simp [hother]) (h.texts other hother)
    rintro rfl
    exact htext hother
  pointers other hother := by
    apply hothers.isSome hfields hname (by simp [hother]) (h.pointers other hother)
    rintro rfl
    exact hpointer hother
  metadata := by
    apply hothers.isSome hfields hname (by simp) h.metadata
    rintro rfl
    exact hmetadata rfl

/-- Texts, pointers and metadata of which no two names are one up to letter case. -/
structure WellNamed (texts pointers : List String) : Prop where
  distinct : Distinct (texts ++ pointers ++ ["metadata"])
  disjoint : ∀ name ∈ texts, name ∉ pointers
  texts : "metadata" ∉ texts
  pointers : "metadata" ∉ pointers

/-- The field of this name is read with this decoder, and all fields stay readable when it
gets new values that the decoder takes. -/
structure ReadsBy {α : Type} (texts pointers : List String) (name : String)
    (decode : Json → α → Option α) (zero : α) : Prop where
  reads : ∀ members, Readable texts pointers members →
    (field decode zero members name).isSome = true
  keeps : ∀ members members', Readable texts pointers members → SameOthers name members members' →
    (field decode zero members' name).isSome = true → Readable texts pointers members'

/-- A text of well-named fields is read on its own. -/
theorem WellNamed.readsBy_text (h : WellNamed texts pointers) {name : String}
    (hname : name ∈ texts) : ReadsBy texts pointers name decodeString "" where
  reads members hread := hread.texts name hname
  keeps members members' hread hothers hnew := by
    apply hread.of_changed h.distinct (by simp [hname]) hothers
    · exact fun _ => hnew
    · exact fun hpointer => absurd hpointer (h.disjoint name hname)
    · rintro rfl
      exact absurd hname h.texts

/-- So is a pointer. -/
theorem WellNamed.readsBy_pointer (h : WellNamed texts pointers) {name : String}
    (hname : name ∈ pointers) : ReadsBy texts pointers name decodePointer none where
  reads members hread := hread.pointers name hname
  keeps members members' hread hothers hnew := by
    apply hread.of_changed h.distinct (by simp [hname]) hothers
    · exact fun htext => absurd hname (h.disjoint name htext)
    · exact fun _ => hnew
    · rintro rfl
      exact absurd hname h.pointers

/-- So are the metadata. -/
theorem WellNamed.readsBy_metadata (h : WellNamed texts pointers) :
    ReadsBy texts pointers "metadata" decodeRaw none where
  reads members hread := hread.metadata
  keeps members members' hread hothers hnew := by
    apply hread.of_changed h.distinct (by simp) hothers
    · exact fun htext => absurd htext h.texts
    · exact fun hpointer => absurd hpointer h.pointers
    · exact fun _ => hnew

/-- The names of an entry are told apart. -/
theorem wellNamed_entry : WellNamed entryTexts entryPointers :=
  ⟨distinct_entryNames, by decide, by decide, by decide⟩

/-- So are those of a posting. -/
theorem wellNamed_posting : WellNamed postingTexts postingPointers :=
  ⟨distinct_postingNames, by decide, by decide, by decide⟩

/-- Members of which no readable change is seen are settled, if every field that is
not decided can be changed. -/
theorem fieldsSettled_of_alike {entriesOf : String → List (Option Json)}
    (Related : Document → Prop) (hnamed : WellNamed texts pointers)
    (hread : Readable texts pointers members)
    (halike : ∀ members', Related members' → Readable texts pointers members' →
      Alike texts pointers members members')
    (hchange : ∀ name ∈ texts ++ pointers ++ ["metadata"], ∀ {α : Type}
      {decode : Json → α → Option α} {skips : Json → Bool} {zero a : α}, Overwrites decode skips →
      Varies decode skips zero → ¬ Decided skips (entriesOf name) →
      field decode zero members name = some a → ∃ members' b, Related members' ∧
        SameOthers name members members' ∧ field decode zero members' name = some b ∧ b ≠ a) :
    FieldsSettled texts pointers fun skips name => Decided skips (entriesOf name) where
  texts name hname := by
    by_contra hopen
    rcases Option.isSome_iff_exists.mp (hread.texts name hname) with ⟨a, ha⟩
    rcases hchange name (by simp [hname]) overwrites_string varies_string hopen ha with
      ⟨members', b, hrelated, hothers, hb, hne⟩
    have hread' := (hnamed.readsBy_text hname).keeps members members' hread hothers
      (Option.isSome_of_eq_some hb)
    have heq := (halike members' hrelated hread').texts name hname
    rw [ha, hb] at heq
    exact hne (Option.some.inj heq)
  pointers name hname := by
    by_contra hopen
    rcases Option.isSome_iff_exists.mp (hread.pointers name hname) with ⟨a, ha⟩
    rcases hchange name (by simp [hname]) overwrites_pointer varies_pointer hopen ha with
      ⟨members', b, hrelated, hothers, hb, hne⟩
    have hread' := (hnamed.readsBy_pointer hname).keeps members members' hread hothers
      (Option.isSome_of_eq_some hb)
    have heq := (halike members' hrelated hread').pointers name hname
    rw [ha, hb] at heq
    exact hne (Option.some.inj heq)
  metadata := by
    by_contra hopen
    rcases Option.isSome_iff_exists.mp hread.metadata with ⟨a, ha⟩
    rcases hchange _ (by simp) overwrites_raw varies_raw hopen ha with
      ⟨members', b, hrelated, hothers, hb, hne⟩
    have hread' := hnamed.readsBy_metadata.keeps members members' hread hothers
      (Option.isSome_of_eq_some hb)
    have heq := (halike members' hrelated hread').metadata
    rw [ha, hb] at heq
    exact hne (Option.some.inj heq)

end Fields

/-! ### The postings -/

/-- Items are the same as themselves. -/
theorem samePosting_refl (items : List Json) : List.Forall₂ SamePosting items items :=
  List.forall₂_same.mpr fun _ _ => .inl rfl

/-- The postings of a body with other values under their name. -/
theorem field_postings_replace {pre post : Document} {m : Text × Json} (json : Json)
    (hfold : foldName m.1 = foldName (Text.ofString "postings"))
    (hread : (field decodePostings .empty (pre ++ m :: post) "postings").isSome = true)
    (hnew : ReadsPostings m.2 → ReadsPostings json) :
    (field decodePostings .empty (pre ++ (m.1, json) :: post) "postings").isSome = true := by
  have hfold' : foldName (m.1, json).1 = foldName (Text.ofString "postings") := hfold
  rw [field_postings_isSome_iff, matching_place hfold, List.forall_mem_append,
    List.forall_mem_cons] at hread
  rw [field_postings_isSome_iff, matching_place hfold', List.forall_mem_append,
    List.forall_mem_cons]
  exact ⟨hread.1, hnew hread.2.1, hread.2.2⟩

/-- Postings of which the last ones are foreign can become others. -/
theorem exists_last_postings_changed {members : Document}
    (hopen : ¬ Decided isNothing (entries members "postings"))
    {postings : Slice LedgerPostingWebhook}
    (hread : field decodePostings .empty members "postings" = some postings) :
    ∃ members' postings', SameLedger members members' ∧ SameOthers "postings" members members' ∧
      field decodePostings .empty members' "postings" = some postings' ∧
      postings'.elems ≠ postings.elems := by
  rcases exists_last_foreign hopen with ⟨front, back, hentries, hskipped⟩
  rcases split_of_entries hentries with ⟨pre, m, post, rfl, hvariant, hpost⟩
  -- Nothing is skipped, so nothing stands behind it.
  have hnone : matching post "postings" = [] := by
    have hexpands := expands_entries post "postings"
    rw [hpost] at hexpands
    cases hvalues : matching post "postings" with
    | nil => rfl
    | cons json rest =>
        rw [hvalues] at hexpands
        have hfalse := hexpands.forall_mem hskipped json List.mem_cons_self
        cases hfalse
  -- As many postings as there were none.
  have hjson : ∃ items, ReadsPostings (.array items) ∧
      ∀ n, n = items.length → n ≠ postings.elems.length := by
    by_cases hempty : postings.elems.length = 0
    · refine ⟨[.null], .inr ⟨_, rfl, ?_⟩, ?_⟩
      · rw [List.forall_mem_singleton]
        exact (decodePosting_isSome_iff .null .zero).mp rfl
      · rintro n rfl
        rw [hempty]
        exact Nat.one_ne_zero
    · refine ⟨[], .inr ⟨_, rfl, List.forall_mem_nil _⟩, ?_⟩
      rintro n rfl
      exact Ne.symm hempty
  rcases hjson with ⟨items, hitems, hlength⟩
  have hsome := field_postings_replace (.array items) hvariant.1
    (Option.isSome_of_eq_some hread) fun _ => hitems
  rcases Option.isSome_iff_exists.mp hsome with ⟨postings', hread'⟩
  refine ⟨pre ++ (m.1, .array items) :: post, postings', ?_,
    sameOthers_replace hvariant.1 _, hread', fun heq => ?_⟩
  · have hmem : "postings" ∈ ledgerNames := by decide
    have hmember : SameMember ledgerNames InsideLedger m (m.1, .array items) :=
      ⟨rfl, .inr (.inl ⟨"postings", hmem, hvariant⟩)⟩
    exact sameMembers_replace hmember pre post
  · refine hlength postings'.elems.length ?_ (congrArg List.length heq)
    have hfold : foldName (m.1, Json.array items).1 = foldName (Text.ofString "postings") :=
      hvariant.1
    rw [field, matching_place hfold, hnone] at hread'
    change receive decodePostings .empty _ = _ at hread'
    rw [receive_append, Option.bind_eq_some_iff] at hread'
    rcases hread' with ⟨start, -, hread'⟩
    rw [receive_cons, Option.bind_eq_some_iff] at hread'
    rcases hread' with ⟨last, hlast, hread'⟩
    cases hread'
    exact length_of_refill hlast

section PostingPlace

variable {α : Type} {decode : Json → α → Option α} {skips : Json → Bool} {zero : α}
  {place : ℕ} {name : String}

/-- Another value for a field is read if the decoder takes it. -/
theorem readable_replaced (hdecode : Overwrites decode skips)
    (hreads : ReadsBy postingTexts postingPointers name decode zero) {before after : Document}
    {x : Text × Json} (hx : foldName x.1 = foldName (Text.ofString name)) {json : Json}
    (hjson : (decode json zero).isSome = true)
    (hread : Readable postingTexts postingPointers (before ++ x :: after)) :
    Readable postingTexts postingPointers (before ++ (x.1, json) :: after) := by
  have hfold : foldName (x.1, json).1 = foldName (Text.ofString name) := hx
  have hvalues := hreads.reads _ hread
  rw [field_isSome_iff hdecode _ zero zero, matching_place hx, List.forall_mem_append,
    List.forall_mem_cons] at hvalues
  refine hreads.keeps _ _ hread (sameOthers_replace hx json) ?_
  rw [field_isSome_iff hdecode _ zero zero, matching_place hfold, List.forall_mem_append,
    List.forall_mem_cons]
  exact ⟨hvalues.1, hjson, hvalues.2.2⟩

/-- A value for a field is read alone. -/
theorem readable_single (hdecode : Overwrites decode skips)
    (hreads : ReadsBy postingTexts postingPointers name decode zero) {json : Json}
    (hjson : (decode json zero).isSome = true) :
    Readable postingTexts postingPointers [(Text.ofString name, json)] := by
  have hnone : Readable postingTexts postingPointers [] := ⟨fun _ _ => rfl, fun _ _ => rfl, rfl⟩
  refine hreads.keeps [] _ hnone ?_ ?_
  · intro other hother
    exact matching_cons_of_ne _ [] other (Ne.symm hother)
  · rw [field_isSome_iff hdecode _ zero zero, matching_cons_of_fold _ [] name rfl,
      List.forall_mem_cons]
    exact ⟨hjson, List.forall_mem_nil _⟩

/-- A member of the postings to which a value for a field of the posting in a place can be
written, and what the field takes behind it. -/
structure PostingPlace (decode : Json → α → Option α) (zero : α) (place : ℕ) (name : String)
    (back : List (Option (Option Json))) (m : Text × Json) (post : Document)
    (changed : Json → Json) : Prop where
  fold : foldName m.1 = foldName (Text.ofString "postings")
  same : ∀ json, SameMember ledgerNames InsideLedger m (m.1, changed json)
  reads : ∀ json, (decode json zero).isSome = true → ReadsPostings m.2 →
    ReadsPostings (changed json)
  writes : ∀ json, ∃ before after,
    (postingWrites (changed json) place).flatMap (fieldWrites name) =
        before ++ some json :: after ∧
      Expands back (after ++ postingValues post place name)

/-- The item of a foreign entry among what an exact value does to a posting. -/
theorem split_of_writes {json : Json} {front back : List (Option (Option Json))}
    (h : (postingWrites json place).flatMap (fieldEntries name) = front ++ none :: back) :
    ∃ before x after others further, json = .array (others ++ .object (before ++ x :: after) ::
        further) ∧ others.length = place ∧ IsVariant name x.1 ∧
      back = (entries after name).map (Option.map some) := by
  have hnone : none ∈ (postingWrites json place).flatMap (fieldEntries name) := by
    rw [h]
    exact List.mem_append_right _ List.mem_cons_self
  cases json with
  | null | bool | number | string | object => simp [postingWrites, fieldEntries] at hnone
  | array items =>
      have hempty : items.isEmpty = false := by
        cases items with
        | nil => simp [postingWrites, strokes, fieldEntries] at hnone
        | cons => rfl
      rw [postingWrites, strokes, hempty, if_neg Bool.false_ne_true] at h hnone
      cases hitem : items[place]? with
      | none => simp [hitem] at hnone
      | some item =>
          rcases List.getElem?_eq_some_iff.mp hitem with ⟨hplace, rfl⟩
          have hsplit : items = items.take place ++ items[place] :: items.drop (place + 1) := by
            rw [List.getElem_cons_drop, List.take_append_drop]
          simp only [hitem, Option.toList_some, List.map_cons, List.map_nil, List.flatMap_cons,
            List.flatMap_nil, List.append_nil, fieldEntries, List.map_eq_append_iff] at h
          rcases h with ⟨front', tail, hentries, -, htail⟩
          rcases List.map_eq_cons_iff.mp htail with ⟨e, back', rfl, he, rfl⟩
          obtain rfl : e = none := by simpa using he
          rcases split_of_entries hentries with ⟨before, x, after, hinner, hx, rfl⟩
          refine ⟨before, x, after, items.take place, items.drop (place + 1), ?_, ?_, hx, rfl⟩
          · have hobject : items[place] = .object (before ++ x :: after) := by
              generalize items[place] = item at hinner
              cases item with
              | object inner => exact congrArg Json.object hinner
              | _ => simp [innerMembers] at hinner
            rw [← hobject, ← hsplit]
          · exact List.length_take_of_le hplace.le

/-- What an array does to the posting behind these items. -/
theorem postingWrites_behind {others : List Json} (h : others.length = place) (item : Json)
    (further : List Json) :
    postingWrites (.array (others ++ item :: further)) place = [some item] := by
  subst h
  simp [postingWrites, strokes]

/-- The place of a foreign entry in an exact value. -/
theorem postingPlace_of_exact (hdecode : Overwrites decode skips)
    (hreads : ReadsBy postingTexts postingPointers name decode zero) (hname : name ∈ postingNames)
    {m : Text × Json} (hexact : m.1 = Text.ofString "postings") (post : Document)
    {front back : List (Option (Option Json))}
    (h : (postingWrites m.2 place).flatMap (fieldEntries name) = front ++ none :: back) :
    ∃ changed, PostingPlace decode zero place name (back ++ postingEntries post place name) m post
      changed := by
  rcases split_of_writes h with
    ⟨before, x, after, others, further, hvalue, hplace, hx, rfl⟩
  refine ⟨fun json => .array (others ++ .object (before ++ (x.1, json) :: after) :: further),
    hexact ▸ rfl, ?_, ?_, ?_⟩
  · intro json
    have hmember : SameMember postingNames (fun _ _ _ => False) x (x.1, json) :=
      ⟨rfl, .inr (.inl ⟨name, hname, hx⟩)⟩
    have hitem : SamePosting (.object (before ++ x :: after))
        (.object (before ++ (x.1, json) :: after)) :=
      .inr ⟨_, _, rfl, rfl, sameMembers_replace hmember before after⟩
    have hitems : List.Forall₂ SamePosting (others ++ .object (before ++ x :: after) :: further)
        (others ++ .object (before ++ (x.1, json) :: after) :: further) :=
      List.rel_append (samePosting_refl others) (.cons hitem (samePosting_refl further))
    exact ⟨rfl, .inr (.inr (.inr ⟨hexact, _, _, hvalue, rfl, hitems⟩))⟩
  · intro json hjson hread
    rw [hvalue] at hread
    rcases hread with hnull | ⟨items, heq, hitems⟩
    · cases hnull
    · rw [← Json.array.inj heq, List.forall_mem_append, List.forall_mem_cons] at hitems
      refine .inr ⟨_, rfl, ?_⟩
      rw [List.forall_mem_append, List.forall_mem_cons]
      refine ⟨hitems.1, ⟨.inr ⟨_, rfl⟩, ?_⟩, hitems.2.2⟩
      exact readable_replaced hdecode hreads hx.1 hjson hitems.2.1.2
  · intro json
    have hfold : foldName (x.1, json).1 = foldName (Text.ofString name) := hx.1
    refine ⟨(matching before name).map some, (matching after name).map some, ?_, ?_⟩
    · rw [postingWrites_behind hplace, List.flatMap_singleton, fieldWrites, innerMembers,
        matching_place hfold, List.map_append, List.map_cons]
    · exact ((expands_entries after name).map some).append (expands_postingEntries post place name)

/-- The place of a foreign value. -/
theorem postingPlace_of_variant (hdecode : Overwrites decode skips)
    (hreads : ReadsBy postingTexts postingPointers name decode zero) {m : Text × Json}
    (hvariant : IsVariant "postings" m.1) (place : ℕ) (post : Document) :
    ∃ changed, PostingPlace decode zero place name (postingEntries post place name) m post
      changed := by
  refine ⟨fun json => .array (List.replicate place .null ++ [.object [(Text.ofString name, json)]]),
    hvariant.1, ?_, ?_, ?_⟩
  · intro json
    have hmem : "postings" ∈ ledgerNames := by decide
    exact ⟨rfl, .inr (.inl ⟨"postings", hmem, hvariant⟩)⟩
  · intro json hjson _
    refine .inr ⟨_, rfl, ?_⟩
    rw [List.forall_mem_append, List.forall_mem_singleton]
    refine ⟨?_, .inr ⟨_, rfl⟩, readable_single hdecode hreads hjson⟩
    intro item hitem
    rw [List.eq_of_mem_replicate hitem]
    exact (decodePosting_isSome_iff .null .zero).mp rfl
  · intro json
    refine ⟨[], [], ?_, expands_postingEntries post place name⟩
    rw [postingWrites_behind List.length_replicate, List.flatMap_singleton, fieldWrites,
      innerMembers, matching_cons_of_fold _ [] name rfl]
    rfl

/-- The place of a foreign entry among the postings. -/
theorem split_of_postingEntries (hdecode : Overwrites decode skips)
    (hreads : ReadsBy postingTexts postingPointers name decode zero) (hname : name ∈ postingNames)
    {members : Document} {front back : List (Option (Option Json))}
    (h : postingEntries members place name = front ++ none :: back) :
    ∃ pre m post changed, members = pre ++ m :: post ∧
      PostingPlace decode zero place name back m post changed := by
  induction members generalizing front with
  | nil => simp [postingEntries] at h
  | cons m rest ih =>
      have hlater : ∀ front, postingEntries rest place name = front ++ none :: back →
          ∃ pre m' post changed, m :: rest = pre ++ m' :: post ∧
            PostingPlace decode zero place name back m' post changed := by
        intro front hrest
        rcases ih hrest with ⟨pre, m', post, changed, rfl, hplace⟩
        exact ⟨m :: pre, m', post, changed, rfl, hplace⟩
      rcases name_cases "postings" m.1 with hexact | hvariant | hne
      · rw [postingEntries_cons_of_eq m rest place name hexact] at h
        rcases List.append_eq_append_iff.mp h with ⟨front', -, hrest⟩ | ⟨tail, hhead, hrest⟩
        · exact hlater front' hrest
        · cases tail with
          | nil => exact hlater [] hrest.symm
          | cons e tail =>
              rw [List.cons_append, List.cons.injEq] at hrest
              rw [← hrest.1] at hhead
              rcases postingPlace_of_exact hdecode hreads hname hexact rest hhead with
                ⟨changed, hplace⟩
              rw [← hrest.2] at hplace
              exact ⟨[], m, rest, changed, rfl, hplace⟩
      · rw [postingEntries_cons_of_variant m rest place name hvariant] at h
        cases front with
        | cons e front =>
            rw [List.cons_append, List.cons.injEq] at h
            exact hlater front h.2
        | nil =>
            rw [List.nil_append, List.cons.injEq] at h
            rcases postingPlace_of_variant hdecode hreads hvariant place rest with
              ⟨changed, hplace⟩
            rw [h.2] at hplace
            exact ⟨[], m, rest, changed, rfl, hplace⟩
      · rw [postingEntries_cons_of_ne m rest place name hne] at h
        exact hlater front h

/-- A field of a posting that is not decided gets another content from a new value of a member
in another letter case. -/
theorem exists_posting_changed {get : LedgerPostingWebhook → α}
    (hfield : PostingField decode zero name get) (hdecode : Overwrites decode skips)
    (hvaries : Varies decode skips zero)
    (hreads : ReadsBy postingTexts postingPointers name decode zero) (hname : name ∈ postingNames)
    {members : Document}
    (hopen : ¬ Decided (unlessReset skips) (postingEntries members place name))
    {postings : Slice LedgerPostingWebhook}
    (hread : field decodePostings .empty members "postings" = some postings) :
    ∃ members' postings', SameLedger members members' ∧ SameOthers "postings" members members' ∧
      field decodePostings .empty members' "postings" = some postings' ∧
      get (postings'.slot .zero place) ≠ get (postings.slot .zero place) := by
  rcases hvaries (get (postings.slot .zero place)) with ⟨json, b, hcounts, hb, hne⟩
  rcases exists_last_foreign hopen with ⟨front, back, hentries, hskipped⟩
  rcases split_of_postingEntries hdecode hreads hname hentries with
    ⟨pre, m, post, changed, rfl, hplace⟩
  have hsome := field_postings_replace _ hplace.fold (Option.isSome_of_eq_some hread)
    (hplace.reads json (Option.isSome_of_eq_some hb))
  rcases Option.isSome_iff_exists.mp hsome with ⟨postings', hread'⟩
  refine ⟨pre ++ (m.1, changed json) :: post, postings',
    sameMembers_replace (hplace.same json) pre post, sameOthers_replace hplace.fold _, hread', ?_⟩
  have hfold : foldName (m.1, changed json).1 = foldName (Text.ofString "postings") := hplace.fold
  have hslot := hfield.receive_slot hread' place
  rcases hplace.writes json with ⟨before, after, hwrites, hback⟩
  rw [postingValues_append, postingValues_cons_of_fold _ post place name hfold, hwrites,
    List.append_assoc, List.cons_append, ← List.append_assoc] at hslot
  have hword := (hdecode.orReset zero).content_of_word (v := some json)
    (hback.forall_mem hskipped) hcounts hslot zero
  have hsame : some b = some (get (postings'.slot .zero place)) := hb.symm.trans hword
  rw [← Option.some.inj hsame]
  exact hne

end PostingPlace

/-! ### The event -/

/-- The other fields of the event receive the same values. -/
theorem SameOthers.ledger_eq {name : String} {members members' : Document}
    (h : SameOthers name members members') (hname : name ∈ ledgerNames) {α : Type}
    {decode : Json → α → Option α} {zero : α} {other : String} (hother : other ∈ ledgerNames)
    (hne : other ≠ name) :
    field decode zero members' other = field decode zero members other :=
  h.field_eq decode zero fun hfold => hne (distinct_ledgerNames other hother name hname hfold)

/-- What the entry is read from is the same. -/
theorem SameOthers.entryMembers_eq {name : String} {members members' : Document}
    (h : SameOthers name members members') (hname : name ∈ ledgerNames) (hne : "entry" ≠ name) :
    entryMembers members' = entryMembers members := by
  have hmatching := h "entry" fun hfold =>
    hne (distinct_ledgerNames "entry" (by decide) name hname hfold)
  rw [entryMembers, hmatching, entryMembers]

/-- The event is read from the document, apart from the field of this name. -/
structure LedgerWebhook.ReadApart (name : String) (event : LedgerWebhook) (members : Document) :
    Prop where
  eventID : "event_id" ≠ name → field decodeString "" members "event_id" = some event.eventID
  businessID :
    "business_id" ≠ name → field decodeString "" members "business_id" = some event.businessID
  businessSequence : "business_sequence" ≠ name →
    field decodeInt64 0 members "business_sequence" = some event.businessSequence
  isEntry : "entry" ≠ name → field decodeStruct [] members "entry" = some (entryMembers members)
  entry : "entry" ≠ name → event.entry.ReadFrom (entryMembers members)
  postings : "postings" ≠ name →
    (field decodePostings .empty members "postings").map Slice.elems = some event.postings

/-- The other fields are read as before. -/
theorem LedgerWebhook.ReadFrom.apart {name : String} {members members' : Document}
    {event : LedgerWebhook} (hread : event.ReadFrom members) (hname : name ∈ ledgerNames)
    (hothers : SameOthers name members members') : event.ReadApart name members' where
  eventID hne := (hothers.ledger_eq hname (by decide) hne).trans hread.eventID
  businessID hne := (hothers.ledger_eq hname (by decide) hne).trans hread.businessID
  businessSequence hne := (hothers.ledger_eq hname (by decide) hne).trans hread.businessSequence
  isEntry hne := by
    rw [hothers.ledger_eq hname (by decide) hne, hothers.entryMembers_eq hname hne]
    exact hread.isEntry
  entry hne := by
    rw [hothers.entryMembers_eq hname hne]
    exact hread.entry
  postings hne := by
    rw [hothers.ledger_eq hname (by decide) hne]
    exact hread.postings

/-- A field of which no other content is seen is decided. -/
theorem decided_of_unseen {members : Document} {name : String} (hname : name ∈ ledgerNames)
    {α : Type} {decode : Json → α → Option α} {skips : Json → Bool} {zero a : α}
    (hdecode : Overwrites decode skips) (hvaries : Varies decode skips zero)
    (ha : field decode zero members name = some a)
    (hunseen : ∀ members' b, SameLedger members members' → SameOthers name members members' →
      field decode zero members' name = some b → b = a) :
    Decided skips (entries members name) := by
  by_contra hopen
  rcases exists_changed hdecode hvaries ledgerNames InsideLedger hname hopen ha with
    ⟨members', b, hledger, hothers, hb, hne⟩
  exact hne (hunseen members' b hledger hothers hb)

section Event

variable {members : Document} {event : LedgerWebhook} (hread : event.ReadFrom members)
  (hsame : ∀ members' event', SameLedger members members' →
    LedgerWebhook.ReadFrom event' members' → event' = event)
include hread hsame

/-! Other content that is read into one field belongs to another event. -/

/-- If the event reads exactly, no change of other members changes its ID. -/
theorem eventID_unseen {members' : Document} {eventID : String}
    (hledger : SameLedger members members') (hothers : SameOthers "event_id" members members')
    (hchanged : field decodeString "" members' "event_id" = some eventID) :
    eventID = event.eventID := by
  have hrest := hread.apart (by decide) hothers
  have heq := hsame members' { event with eventID := eventID } hledger
    { eventID := hchanged
      businessID := hrest.businessID (by decide)
      businessSequence := hrest.businessSequence (by decide)
      isEntry := hrest.isEntry (by decide)
      entry := hrest.entry (by decide)
      postings := hrest.postings (by decide) }
  exact congrArg LedgerWebhook.eventID heq

/-- Nor its business. -/
theorem businessID_unseen {members' : Document} {businessID : String}
    (hledger : SameLedger members members') (hothers : SameOthers "business_id" members members')
    (hchanged : field decodeString "" members' "business_id" = some businessID) :
    businessID = event.businessID := by
  have hrest := hread.apart (by decide) hothers
  have heq := hsame members' { event with businessID := businessID } hledger
    { eventID := hrest.eventID (by decide)
      businessID := hchanged
      businessSequence := hrest.businessSequence (by decide)
      isEntry := hrest.isEntry (by decide)
      entry := hrest.entry (by decide)
      postings := hrest.postings (by decide) }
  exact congrArg LedgerWebhook.businessID heq

/-- Nor its sequence. -/
theorem businessSequence_unseen {members' : Document} {sequence : ℤ}
    (hledger : SameLedger members members')
    (hothers : SameOthers "business_sequence" members members')
    (hchanged : field decodeInt64 0 members' "business_sequence" = some sequence) :
    sequence = event.businessSequence := by
  have hrest := hread.apart (by decide) hothers
  have heq := hsame members' { event with businessSequence := sequence } hledger
    { eventID := hrest.eventID (by decide)
      businessID := hrest.businessID (by decide)
      businessSequence := hchanged
      isEntry := hrest.isEntry (by decide)
      entry := hrest.entry (by decide)
      postings := hrest.postings (by decide) }
  exact congrArg LedgerWebhook.businessSequence heq

/-- Nor its entry. -/
theorem entry_unseen {members' : Document} {entry : LedgerEntryWebhook}
    (hledger : SameLedger members members') (hothers : SameOthers "entry" members members')
    (hstruct : field decodeStruct [] members' "entry" = some (entryMembers members'))
    (hchanged : entry.ReadFrom (entryMembers members')) : entry = event.entry := by
  have hrest := hread.apart (by decide) hothers
  have heq := hsame members' { event with entry := entry } hledger
    { eventID := hrest.eventID (by decide)
      businessID := hrest.businessID (by decide)
      businessSequence := hrest.businessSequence (by decide)
      isEntry := hstruct
      entry := hchanged
      postings := hrest.postings (by decide) }
  exact congrArg LedgerWebhook.entry heq

/-- Nor its postings. -/
theorem postings_unseen {members' : Document} {postings : Slice LedgerPostingWebhook}
    (hledger : SameLedger members members') (hothers : SameOthers "postings" members members')
    (hchanged : field decodePostings .empty members' "postings" = some postings) :
    postings.elems = event.postings := by
  have hrest := hread.apart (by decide) hothers
  have heq := hsame members' { event with postings := postings.elems } hledger
    { eventID := hrest.eventID (by decide)
      businessID := hrest.businessID (by decide)
      businessSequence := hrest.businessSequence (by decide)
      isEntry := hrest.isEntry (by decide)
      entry := hrest.entry (by decide)
      postings := Option.map_eq_some_iff.mpr ⟨postings, hchanged, rfl⟩ }
  exact congrArg LedgerWebhook.postings heq

/-- The entry is settled when no change of it is seen. -/
theorem entry_settled : FieldsSettled entryTexts entryPointers fun skips name =>
    Decided skips (entryEntries members name) := by
  apply fieldsSettled_of_alike (fun inner => ∃ members', SameLedger members members' ∧
      SameOthers "entry" members members' ∧
      field decodeStruct [] members' "entry" = some (entryMembers members') ∧
      inner = entryMembers members')
    wellNamed_entry (LedgerEntryWebhook.readable_iff.mp ⟨event.entry, hread.entry⟩)
  · rintro _ ⟨members', hledger, hothers, hstruct, rfl⟩ hreadable
    rcases LedgerEntryWebhook.readable_iff.mpr hreadable with ⟨entry', hentry'⟩
    exact (hread.entry.alike_iff hentry').mpr
      (entry_unseen hread hsame hledger hothers hstruct hentry')
  · intro name hname α decode skips zero a hdecode hvaries hundecided ha
    rcases exists_entry_changed hdecode hvaries hname hundecided hread.isEntry ha with
      ⟨members', b, hledger, hothers, hstruct, hinner, hb, hne⟩
    exact ⟨_, b, ⟨members', hledger, hothers, hstruct, rfl⟩, hinner, hb, hne⟩

/-- The last postings have the exact name when no change of them is seen. -/
theorem postings_decided : Decided isNothing (entries members "postings") := by
  rcases Option.map_eq_some_iff.mp hread.postings with ⟨postings, hpostings, helems⟩
  by_contra hopen
  rcases exists_last_postings_changed hopen hpostings with
    ⟨members', postings', hledger, hothers, hpostings', hne⟩
  apply hne
  rw [postings_unseen hread hsame hledger hothers hpostings', helems]

/-- A field of a posting in the event is decided when no change of it is seen. -/
theorem postingField_decided {α : Type} {decode : Json → α → Option α} {skips : Json → Bool}
    {zero : α} {name : String} {get : LedgerPostingWebhook → α}
    (hfield : PostingField decode zero name get) (hdecode : Overwrites decode skips)
    (hvaries : Varies decode skips zero)
    (hreads : ReadsBy postingTexts postingPointers name decode zero) (hname : name ∈ postingNames)
    {place : ℕ} (hplace : place < event.postings.length) :
    Decided (unlessReset skips) (postingEntries members place name) := by
  rcases Option.map_eq_some_iff.mp hread.postings with ⟨postings, hpostings, helems⟩
  by_contra hopen
  rcases exists_posting_changed hfield hdecode hvaries hreads hname hopen hpostings with
    ⟨members', postings', hledger, hothers, hpostings', hne⟩
  have helems' := postings_unseen hread hsame hledger hothers hpostings'
  apply hne
  have hbound : place < postings.elems.length := helems ▸ hplace
  have hbound' : place < postings'.elems.length := helems' ▸ hplace
  rw [Slice.slot_eq_getElem hbound, Slice.slot_eq_getElem hbound']
  simp only [helems, helems']

/-- A posting of the event is settled when no change of it is seen. -/
theorem posting_settled {place : ℕ} (hplace : place < event.postings.length) :
    PostingSettled members place := by
  have htext : ∀ {name get}, PostingField decodeString "" name get → name ∈ postingTexts →
      Decided (unlessReset isNull) (postingEntries members place name) := by
    intro name get hfield hname
    exact postingField_decided hread hsame hfield overwrites_string varies_string
      (wellNamed_posting.readsBy_text hname) (by simp [postingNames, hname]) hplace
  refine ⟨?_, ?_, ?_⟩
  · simp only [postingTexts, List.forall_mem_cons]
    exact ⟨htext postingField_rail (by decide), htext postingField_accountCode (by decide),
      htext postingField_amount (by decide), htext postingField_unit (by decide),
      List.forall_mem_nil _⟩
  · simp only [postingPointers, List.forall_mem_singleton]
    exact postingField_decided hread hsame postingField_lotID overwrites_pointer varies_pointer
      (wellNamed_posting.readsBy_pointer (by decide)) (by decide) hplace
  · exact postingField_decided hread hsame postingField_metadata overwrites_raw varies_raw
      wellNamed_posting.readsBy_metadata (by decide) hplace

/-- If no change of members of other letter case is seen, the body is settled. -/
theorem settled_of_eq : Settled members := by
  have heventID : Decided isNull (entries members "event_id") :=
    decided_of_unseen (by decide) overwrites_string varies_string hread.eventID
      fun _ _ => eventID_unseen hread hsame
  have hbusinessID : Decided isNull (entries members "business_id") :=
    decided_of_unseen (by decide) overwrites_string varies_string hread.businessID
      fun _ _ => businessID_unseen hread hsame
  have hsequence : Decided isNull (entries members "business_sequence") :=
    decided_of_unseen (by decide) overwrites_int64 varies_int64 hread.businessSequence
      fun _ _ => businessSequence_unseen hread hsame
  have hpostings := postings_decided hread hsame
  refine ⟨?_, entry_settled hread hsame, hpostings, ?_⟩
  · intro name hname
    simp only [List.mem_cons, List.not_mem_nil, or_false] at hname
    rcases hname with rfl | rfl | rfl
    · exact heventID
    · exact hbusinessID
    · exact hsequence
  · intro json hlast place hplace
    rcases Option.map_eq_some_iff.mp hread.postings with ⟨postings, hfield, helems⟩
    rw [← length_postings_of_last hpostings hlast hfield, helems] at hplace
    exact posting_settled hread hsame hplace

end Event

/-! ## Acknowledged events -/

/-- The acknowledged sequence and the identifier of the event are those under the exact
names, and the values under other names do not matter to the event. -/
structure ReadsExactly (members : Document) (event : LedgerWebhook) (ack : String) : Prop where
  sequence : ∃ negative digits,
    lookupLast members (Text.ofString "business_sequence") =
        some (.number (.integer negative digits)) ∧
      ack = toString (signed negative digits)
  eventID : ∃ t, lookupLast members (Text.ofString "event_id") = some (.string t) ∧
    t.toScalars = event.eventID
  entryID : ∃ entry t, lookupLast members (Text.ofString "entry") = some (.object entry) ∧
    lookupLast entry (Text.ofString "id") = some (.string t) ∧ t.toScalars = event.eventID
  keeps : ∀ members' event', SameLedger members members' →
    decodeLedgerWebhook members' = some event' → event' = event

/-- The members that identify an event have their exact names, and the last of each is
not `null`. -/
structure NamesExactly (members : Document) : Prop where
  sequence : ∃ json, lookupLast members (Text.ofString "business_sequence") = some json ∧
    json ≠ .null
  eventID : ∃ json, lookupLast members (Text.ofString "event_id") = some json ∧ json ≠ .null
  entryID : ∃ entry json, lookupLast members (Text.ofString "entry") = some (.object entry) ∧
    lookupLast entry (Text.ofString "id") = some json ∧ json ≠ .null

/-- What is not `null` is not taken for it. -/
theorem isNull_eq_false {json : Json} (h : json ≠ .null) : isNull json = false := by
  cases json with
  | null => exact absurd rfl h
  | _ => rfl

/-- What a text was decoded from. -/
theorem exists_of_decodeString {json : Json} (hnull : json ≠ .null) {start a : String}
    (h : decodeString json start = some a) : ∃ t, json = .string t ∧ t.toScalars = a := by
  cases json with
  | null => exact absurd rfl hnull
  | string t => exact ⟨t, rfl, Option.some.inj h⟩
  | _ => cases h

/-- What an integer was decoded from. -/
theorem exists_of_decodeInt64 {json : Json} (hnull : json ≠ .null) {start n : ℤ}
    (h : decodeInt64 json start = some n) :
    ∃ negative digits, json = .number (.integer negative digits) ∧ n = signed negative digits := by
  cases json with
  | null => exact absurd rfl hnull
  | number literal =>
      cases literal with
      | integer negative digits =>
          rw [decodeInt64] at h
          split at h
          · exact ⟨negative, digits, rfl, (Option.some.inj h).symm⟩
          · cases h
      | _ => cases h
  | _ => cases h

/-- A valid event is read from the exactly named members in and only in settled
bodies that name them. -/
theorem LedgerWebhook.ReadFrom.exact_iff {members : Document} {event : LedgerWebhook}
    (hread : event.ReadFrom members) (hvalid : event.Valid) :
    ReadsExactly members event (toString event.businessSequence) ↔
      Settled members ∧ NamesExactly members := by
  constructor
  · intro h
    constructor
    · apply settled_of_eq hread
      intro members' event' hsame hread'
      exact h.keeps members' event' hsame ((decodeLedgerWebhook_readFrom_iff _ _).mpr hread')
    · rcases h.sequence with ⟨negative, digits, hsequence, -⟩
      rcases h.eventID with ⟨t, heventID, -⟩
      rcases h.entryID with ⟨entry, s, hentry, hid, -⟩
      refine ⟨⟨_, hsequence, ?_⟩, ⟨_, heventID, ?_⟩, ⟨entry, _, hentry, hid, ?_⟩⟩
      all_goals exact fun hnull => Json.noConfusion hnull
  · rintro ⟨hsettled, hnames⟩
    refine ⟨?_, ?_, ?_, ?_⟩
    · rcases hnames.sequence with ⟨json, hlast, hnull⟩
      have hdecided := hsettled.scalars "business_sequence" (by decide)
      have hdecode := field_of_last overwrites_int64 hdecided hlast (isNull_eq_false hnull)
        hread.businessSequence
      rcases exists_of_decodeInt64 hnull hdecode with ⟨negative, digits, rfl, hsequence⟩
      exact ⟨negative, digits, hlast, congrArg toString hsequence⟩
    · rcases hnames.eventID with ⟨json, hlast, hnull⟩
      have hdecided := hsettled.scalars "event_id" (by decide)
      have hdecode := field_of_last overwrites_string hdecided hlast (isNull_eq_false hnull)
        hread.eventID
      rcases exists_of_decodeString hnull hdecode with ⟨t, rfl, ht⟩
      exact ⟨t, hlast, ht⟩
    · rcases hnames.entryID with ⟨entry, json, hentry, hlast, hnull⟩
      have hdecided := hsettled.entry.texts "id" (by decide)
      have hdecode := entryField_of_last overwrites_string hdecided hentry hlast
        (isNull_eq_false hnull) hread.isEntry hread.entry.id
      rcases exists_of_decodeString hnull hdecode with ⟨t, rfl, ht⟩
      exact ⟨entry, t, hentry, hlast, ht.trans hvalid.entryID.symm⟩
    · intro members' event' hsame hdecode
      have hread' := (decodeLedgerWebhook_readFrom_iff members' event').mp hdecode
      exact (hsame.event_eq hsettled hread hread').symm

/-- An acknowledged body was handed over as an event, which is that of the exactly
named members if and only if no member of other letter case has the last word on a
field and none of the identifying members is missing or `null`. -/
theorem WebhookReceiver.readsExactly_iff (r : WebhookReceiver) (parse : JsonParser)
    (headers : Header) (body : List UInt8) {ack : String}
    (hack : (r.receive parse headers body).response.headers.lookup "X-Mizan-Ack-Sequence" =
      some [ack]) :
    ∃ members event delivery, parse body = some (.object members) ∧
      (r.receive parse headers body).invoked = [.ledger event delivery] ∧
      (ReadsExactly members event ack ↔ Settled members ∧ NamesExactly members) := by
  cases hdispatch : r.dispatch parse headers body with
  | respond response =>
      rw [receive_of_respond hdispatch, (dispatch_refuses hdispatch).lookup_ack] at hack
      cases hack
  | invoke handler invocation =>
      rw [receive_of_invoke hdispatch] at hack ⊢
      rcases (dispatch_eq_invoke_iff r parse headers body handler invocation).mp hdispatch with
        ⟨-, -, members, hparse, hselects⟩
      cases hrun : invocation.run handler with
      | some error =>
          rw [hrun, (Invocation.respond_error_refuses invocation error).lookup_ack] at hack
          cases hack
      | none =>
          rw [hrun] at hack
          cases hselects with
          | notification => cases hack
          | @ledger event stream decodes valid =>
              rw [Invocation.respond_none_ledger_ack, Option.some.injEq, List.cons.injEq] at hack
              rw [← hack.1]
              have hread := (decodeLedgerWebhook_readFrom_iff members event).mp decodes
              have hvalid := (validateLedgerWebhook_eq_none_iff event).mp valid
              exact ⟨members, event, _, hparse, rfl, hread.exact_iff hvalid⟩

/-- A receiver whose callbacks succeed. -/
def acceptingReceiver : WebhookReceiver :=
  { handler := some ⟨fun _ _ => none, fun _ _ => none⟩
    bearerToken := ""
    maxBodyBytes := 0 }

/-- The headers of a delivery. -/
def deliveryHeaders : Header := (∅ : Header).insert "X-Mizan-Outbox-Id" ["outbox-1"]

/-- A rejected usage whose sequence is followed by these bytes. -/
def rejectedUsageBody (further : String) : List UInt8 :=
  asciiBytes "\x7b\"event_id\":\"e\",\"business_id\":\"b\",\"business_sequence\":1" ++
    asciiBytes further ++ asciiBytes ",\"entry\":\x7b\"id\":\"e\"," ++
    asciiBytes "\"entry_type\":\"usage_rejected\",\"source_command\":\"c\"," ++
    asciiBytes "\"source_event_id\":\"s\",\"effective_at\":\"t\",\"catalog_version\":\"v\"," ++
    asciiBytes "\"policy_version\":\"p\",\"metadata\":\x7b\x7d\x7d\x7d"

/-- Its members. -/
def rejectedUsage (further : Document) : Document :=
  [(Text.ofString "event_id", .string (Text.ofString "e")),
    (Text.ofString "business_id", .string (Text.ofString "b")),
    (Text.ofString "business_sequence", .number (.integer false 1))] ++ further ++
  [(Text.ofString "entry", .object
    [(Text.ofString "id", .string (Text.ofString "e")),
      (Text.ofString "entry_type", .string (Text.ofString "usage_rejected")),
      (Text.ofString "source_command", .string (Text.ofString "c")),
      (Text.ofString "source_event_id", .string (Text.ofString "s")),
      (Text.ofString "effective_at", .string (Text.ofString "t")),
      (Text.ofString "catalog_version", .string (Text.ofString "v")),
      (Text.ofString "policy_version", .string (Text.ofString "p")),
      (Text.ofString "metadata", .object [])])]

/-- A parser that knows one body. -/
def parseOne (body : List UInt8) (members : Document) : JsonParser :=
  fun raw => if raw = body then some (.object members) else none

/-- A body of an event that passes is handed over and acknowledged. -/
theorem acceptingReceiver_receive {body : List UInt8} (members : Document) {event : LedgerWebhook}
    (hlength : 0 < body.length ∧ body.length ≤ 1048576)
    (hselects : Selects members (deliveryContext deliveryHeaders body)
      (.ledger event (deliveryContext deliveryHeaders body))) :
    acceptingReceiver.receive (parseOne body members) deliveryHeaders body =
      ⟨(Invocation.ledger event (deliveryContext deliveryHeaders body)).respond none,
        [.ledger event (deliveryContext deliveryHeaders body)]⟩ := by
  have hadmits : acceptingReceiver.Admits deliveryHeaders body := by
    refine ⟨hlength.1, ?_, rfl, by decide⟩
    have hlimit : acceptingReceiver.bodyLimit = 1048576 := by decide
    rw [hlimit]
    exact_mod_cast hlength.2
  have hdispatch : acceptingReceiver.dispatch (parseOne body members) deliveryHeaders body =
      .invoke ⟨fun _ _ => none, fun _ _ => none⟩
        (.ledger event (deliveryContext deliveryHeaders body)) := by
    rw [WebhookReceiver.dispatch_eq_invoke_iff]
    exact ⟨hadmits, rfl, members, if_pos rfl, hselects⟩
  rw [WebhookReceiver.receive_of_invoke hdispatch]
  rfl

/-- A receiver whose callbacks accept everything acknowledges a valid event. -/
theorem acceptingReceiver_ack {body : List UInt8} (members : Document) {event : LedgerWebhook}
    (hlength : 0 < body.length ∧ body.length ≤ 1048576)
    (hselects : Selects members (deliveryContext deliveryHeaders body)
      (.ledger event (deliveryContext deliveryHeaders body))) :
    (acceptingReceiver.receive (parseOne body members) deliveryHeaders
        body).response.headers.lookup "X-Mizan-Ack-Sequence" =
      some [toString event.businessSequence] := by
  rw [acceptingReceiver_receive members hlength hselects]
  exact Invocation.respond_none_ledger_ack event (deliveryContext deliveryHeaders body)

/-- Own entries alone are decided, whatever is skipped. -/
theorem decided_of_all {skips : Json → Bool} {es : List (Option Json)}
    (h : es.all Option.isSome = true) : Decided skips es := by
  apply decided_of_own
  intro hnone
  rw [List.all_eq_true] at h
  cases h none hnone

/-- A body without names of other letter case is settled. -/
theorem rejectedUsage_settled : Settled (rejectedUsage []) where
  scalars name hname := by
    apply decided_of_all
    revert name
    decide
  entry := by
    refine ⟨fun name hname => ?_, fun name hname => ?_, ?_⟩
    · apply decided_of_all
      revert name
      decide
    · apply decided_of_all
      revert name
      decide
    · apply decided_of_all
      decide
  postings := by
    apply decided_of_all
    decide
  items json hlast := by cases hlast

/-- Its identifying members are there. -/
theorem rejectedUsage_namesExactly : NamesExactly (rejectedUsage []) where
  sequence := ⟨.number (.integer false 1), rfl, Json.noConfusion⟩
  eventID := ⟨.string (Text.ofString "e"), rfl, Json.noConfusion⟩
  entryID := ⟨_, .string (Text.ofString "e"), rfl, rfl, Json.noConfusion⟩

/-- The event of that body is that of its exactly named members. -/
theorem rejectedUsage_readsExactly :
    ∃ members event delivery,
      parseOne (rejectedUsageBody "") (rejectedUsage []) (rejectedUsageBody "") =
        some (.object members) ∧
      (acceptingReceiver.receive (parseOne (rejectedUsageBody "") (rejectedUsage []))
        deliveryHeaders (rejectedUsageBody "")).invoked = [.ledger event delivery] ∧
      ReadsExactly members event "1" := by
  have hlength : 0 < (rejectedUsageBody "").length ∧
      (rejectedUsageBody "").length ≤ 1048576 := by
    simp only [rejectedUsageBody, List.length_append]
    decide
  have hack := acceptingReceiver_ack (rejectedUsage []) hlength (.ledger rfl rfl rfl)
  rcases acceptingReceiver.readsExactly_iff _ _ _ hack with
    ⟨members, event, delivery, hparse, hinvoked, hiff⟩
  refine ⟨members, event, delivery, hparse, hinvoked, hiff.mpr ?_⟩
  have hmembers : rejectedUsage [] = members := by
    have hknown : parseOne (rejectedUsageBody "") (rejectedUsage []) (rejectedUsageBody "") =
        some (.object (rejectedUsage [])) := if_pos rfl
    rw [hknown, Option.some.injEq] at hparse
    exact Json.object.inj hparse
  rw [← hmembers]
  exact ⟨rejectedUsage_settled, rejectedUsage_namesExactly⟩

/-- The sequence under a name of other letter case is acknowledged, and with it the one
the sender wrote under the exact name is skipped. -/
theorem variant_acknowledged :
    ∃ event delivery,
      acceptingReceiver.receive (parseOne (rejectedUsageBody ",\"Business_Sequence\":2")
          (rejectedUsage [(Text.ofString "Business_Sequence", .number (.integer false 2))]))
        deliveryHeaders (rejectedUsageBody ",\"Business_Sequence\":2") =
          ⟨(Invocation.ledger event delivery).respond none, [.ledger event delivery]⟩ ∧
      ((Invocation.ledger event delivery).respond none).headers.lookup "X-Mizan-Ack-Sequence" =
        some ["2"] ∧
      ¬ ReadsExactly
        (rejectedUsage [(Text.ofString "Business_Sequence", .number (.integer false 2))])
        event "2" := by
  have hlength : 0 < (rejectedUsageBody ",\"Business_Sequence\":2").length ∧
      (rejectedUsageBody ",\"Business_Sequence\":2").length ≤ 1048576 := by
    simp only [rejectedUsageBody, List.length_append]
    decide
  refine ⟨_, _, acceptingReceiver_receive _ hlength (.ledger rfl rfl rfl), ?_, ?_⟩
  · exact Invocation.respond_none_ledger_ack _ _
  · intro h
    rcases h.sequence with ⟨negative, digits, hlast, hack⟩
    have hexact : lookupLast
        (rejectedUsage [(Text.ofString "Business_Sequence", .number (.integer false 2))])
        (Text.ofString "business_sequence") = some (.number (.integer false 1)) := by
      rfl
    rw [hexact, Option.some.injEq, Json.number.injEq, Number.integer.injEq] at hlast
    rw [← hlast.1, ← hlast.2] at hack
    revert hack
    decide

end MizanSDK.Go
