import MizanSDK.Go.Acknowledgement
import MizanSDK.Library.LastWins

/-!
# Letter case in ledger webhooks

`Receive` selects the stream by the exact names of the members, while the event
is decoded by `encoding/json`, which takes members whatever the letter case of
their names.  This file says what each field of the event receives from a body, and which of
it comes from members of other letter case.

Main results:

- Theorem `field_of_last`: what a struct field holds if the members of other letter
  case have no say.
- Theorem `expands_entryEntries`: what a field of the entry receives from all the entries of
  a body.
- Theorem `PostingField.receive_slot`: what a field of a posting receives from all the
  postings of a body.
-/

namespace MizanSDK.Go

open JsonText LastWins Slices

/-- The members of an object, in document order. -/
abbrev Document := List (Text × Json)

/-! ## Names -/

/-- A name that a struct field takes although it is spelled in another letter
case. -/
def IsVariant (name : String) (t : Text) : Prop :=
  foldName t = foldName (Text.ofString name) ∧ t ≠ Text.ofString name

/-- The members a struct field takes: those of its exact name with their values,
and the others. -/
def entries (members : Document) (name : String) : List (Option Json) :=
  members.filterMap fun m =>
    if m.1 = Text.ofString name then some (some m.2)
    else if foldName m.1 = foldName (Text.ofString name) then some none
    else none

section Names

variable (m : Text × Json) (rest : Document) (name : String)

/-- A member of the name in any letter case is a value of the field. -/
theorem matching_cons_of_fold (h : foldName m.1 = foldName (Text.ofString name)) :
    matching (m :: rest) name = m.2 :: matching rest name := by
  simp [matching, h]

/-- Other members are none. -/
theorem matching_cons_of_ne (h : foldName m.1 ≠ foldName (Text.ofString name)) :
    matching (m :: rest) name = matching rest name := by
  unfold matching
  rw [List.filter_cons_of_neg]
  simpa using h

/-- A member of the exact name is an own entry. -/
theorem entries_cons_of_eq (h : m.1 = Text.ofString name) :
    entries (m :: rest) name = some m.2 :: entries rest name := by
  simp [entries, h]

/-- One in another letter case is a foreign entry. -/
theorem entries_cons_of_variant (h : IsVariant name m.1) :
    entries (m :: rest) name = none :: entries rest name := by
  simp [entries, h.1, h.2]

/-- A member of another name is no entry. -/
theorem entries_cons_of_ne (h : foldName m.1 ≠ foldName (Text.ofString name)) :
    entries (m :: rest) name = entries rest name := by
  have hne : m.1 ≠ Text.ofString name := fun heq => h (heq ▸ rfl)
  simp [entries, h, hne]

/-- A member is named exactly, in another letter case, or differently. -/
theorem name_cases (t : Text) :
    t = Text.ofString name ∨ IsVariant name t ∨
      foldName t ≠ foldName (Text.ofString name) := by
  by_cases hfold : foldName t = foldName (Text.ofString name)
  · by_cases heq : t = Text.ofString name
    · exact .inl heq
    · exact .inr (.inl ⟨hfold, heq⟩)
  · exact .inr (.inr hfold)

end Names

/-- The values of a field in two runs of members. -/
theorem matching_append (front back : Document) (name : String) :
    matching (front ++ back) name = matching front name ++ matching back name := by
  simp [matching]

/-- The entries of a field in two runs of members. -/
theorem entries_append (front back : Document) (name : String) :
    entries (front ++ back) name = entries front name ++ entries back name :=
  List.filterMap_append

/-- A field receives the values of its entries. -/
theorem expands_entries (members : Document) (name : String) :
    Expands (entries members name) (matching members name) := by
  induction members with
  | nil => exact .nil
  | cons m rest ih =>
      rcases name_cases name m.1 with heq | hvariant | hne
      · rw [entries_cons_of_eq m rest name heq, matching_cons_of_fold m rest name (heq ▸ rfl)]
        exact .own m.2 ih
      · rw [entries_cons_of_variant m rest name hvariant,
          matching_cons_of_fold m rest name hvariant.1]
        exact .foreign [m.2] ih
      · rw [entries_cons_of_ne m rest name hne, matching_cons_of_ne m rest name hne]
        exact ih

/-- A member of another name than the exact one is no own entry. -/
theorem entries_cons_ne_some {m : Text × Json} {name : String} (h : m.1 ≠ Text.ofString name) :
    ∀ e ∈ entries [m] name, e = none := by
  intro e he
  rcases name_cases name m.1 with hexact | hvariant | hne
  · exact absurd hexact h
  · rw [entries_cons_of_variant m [] name hvariant] at he
    exact List.mem_singleton.mp he
  · rw [entries_cons_of_ne m [] name hne] at he
    cases he

/-- Members of other names have only foreign entries. -/
theorem entries_of_ne {members : Document} {name : String}
    (h : ∀ m ∈ members, m.1 ≠ Text.ofString name) : ∀ e ∈ entries members name, e = none := by
  induction members with
  | nil =>
      intro e he
      cases he
  | cons m rest ih =>
      rw [List.forall_mem_cons] at h
      intro e he
      rw [← List.singleton_append, entries_append, List.mem_append] at he
      rcases he with he | he
      · exact entries_cons_ne_some h.1 e he
      · exact ih h.2 e he

/-- Behind the last member of an exact name there are only foreign entries. -/
theorem entries_of_lookupLast {members : Document} {name : String} {json : Json}
    (h : lookupLast members (Text.ofString name) = some json) :
    ∃ front back, entries members name = front ++ some json :: back ∧
      ∀ e ∈ back, e = none := by
  rcases split_of_lookupLast h with ⟨front, back, rfl, hback⟩
  refine ⟨entries front name, entries back name, ?_, entries_of_ne hback⟩
  rw [entries_append, entries_cons_of_eq _ back name rfl]

/-! ## Decoders of fields -/

/-- What leaves a text or a number alone. -/
def isNull : Json → Bool
  | .null => true
  | _ => false

/-- Nothing leaves a pointer or raw JSON alone. -/
def isNothing (_ : Json) : Bool := false

/-- Text is overwritten by everything but `null`. -/
theorem overwrites_string : Overwrites decodeString isNull where
  skip v h a := by
    cases v with
    | null => rfl
    | _ => cases h
  set v h a b := by
    cases v with
    | null => cases h
    | _ => rfl

/-- So is an integer. -/
theorem overwrites_int64 : Overwrites decodeInt64 isNull where
  skip v h a := by
    cases v with
    | null => rfl
    | _ => cases h
  set v h a b := by
    cases v with
    | null => cases h
    | number literal => cases literal <;> rfl
    | _ => rfl

/-- A pointer is overwritten by `null` too. -/
theorem overwrites_pointer : Overwrites decodePointer isNothing where
  skip v h := by cases h
  set v _ a b := by cases v <;> rfl

/-- Raw JSON is overwritten by everything. -/
theorem overwrites_raw : Overwrites decodeRaw isNothing where
  skip v h := by cases h
  set v _ a b := rfl

section Field

variable {α : Type} {decode : Json → α → Option α} {skips : Json → Bool} {zero : α}
  {name : String}

/-- With the same decided entries a field gets the same content. -/
theorem field_agree (h : Overwrites decode skips) {members members' : Document}
    (hdecided : Decided skips (entries members name))
    (hsame : entries members name = entries members' name) {a a' : α}
    (ha : field decode zero members name = some a)
    (ha' : field decode zero members' name = some a') : a = a' := by
  refine h.agree hdecided (expands_entries members name) ?_ ha ha'
  rw [hsame]
  exact expands_entries members' name

/-- A decided field holds what the last member of its exact name says. -/
theorem field_of_last (h : Overwrites decode skips) {members : Document}
    (hdecided : Decided skips (entries members name)) {json : Json}
    (hlast : lookupLast members (Text.ofString name) = some json) (hcounts : skips json = false)
    {a : α} (ha : field decode zero members name = some a) : decode json zero = some a := by
  rcases entries_of_lookupLast hlast with ⟨front, back, heq, hback⟩
  have hexpands := expands_entries members name
  rw [heq] at hexpands hdecided
  exact h.content_of_last hdecided hback hcounts hexpands ha

/-- A field is read if each of its values is. -/
theorem field_isSome_iff (h : Overwrites decode skips) (members : Document) (start a : α) :
    (field decode start members name).isSome = true ↔
      ∀ json ∈ matching members name, (decode json a).isSome = true :=
  h.receive_isSome_iff (matching members name) start a

/-- Whether it is read does not depend on its content. -/
theorem field_isSome_eq (h : Overwrites decode skips) (members : Document) (a b : α) :
    (field decode a members name).isSome = (field decode b members name).isSome := by
  rw [Bool.eq_iff_iff, field_isSome_iff h members a b, field_isSome_iff h members b b]

end Field

/-! ## The entry -/

/-- The members of a value; only an object has some. -/
def innerMembers : Json → Document
  | .object members => members
  | _ => []

/-- The items of a value; only an array has some. -/
def innerItems : Json → List Json
  | .array items => items
  | _ => []

/-- The members of the objects a body has under the name of the entry: the
decoder puts them together. -/
def entryMembers (members : Document) : Document :=
  (matching members "entry").flatMap innerMembers

/-- The members a field of the entry takes.  An object under a name in another
letter case can hold any. -/
def entryEntries (members : Document) (name : String) : List (Option Json) :=
  members.flatMap fun m =>
    if m.1 = Text.ofString "entry" then entries (innerMembers m.2) name
    else if foldName m.1 = foldName (Text.ofString "entry") then [none]
    else []

/-- Objects add up in a struct. -/
theorem receive_struct_eq_some_iff (values : List Json) (start inner : Document) :
    receive decodeStruct start values = some inner ↔
      (∀ v ∈ values, v = .null ∨ ∃ ms, v = .object ms) ∧
        inner = start ++ values.flatMap innerMembers := by
  induction values generalizing start with
  | nil =>
      have hnil : receive decodeStruct start [] = some start := rfl
      rw [hnil, Option.some.injEq]
      simp [eq_comm]
  | cons v values ih =>
      rw [receive_cons]
      cases v with
      | null =>
          rw [decodeStruct, Option.bind_some, ih]
          simp [innerMembers]
      | object more =>
          rw [decodeStruct, Option.bind_some, ih]
          simp [innerMembers]
      | bool | number | string | array => simp [decodeStruct]

/-- The entry receives the members of all objects under its name. -/
theorem field_entry_eq_some_iff (members inner : Document) :
    field decodeStruct [] members "entry" = some inner ↔
      (∀ v ∈ matching members "entry", v = .null ∨ ∃ ms, v = .object ms) ∧
        inner = entryMembers members :=
  receive_struct_eq_some_iff (matching members "entry") [] inner

section EntryEntries

variable (m : Text × Json) (rest : Document) (name : String)

/-- An object under the exact name adds its own entries. -/
theorem entryEntries_cons_of_eq (h : m.1 = Text.ofString "entry") :
    entryEntries (m :: rest) name = entries (innerMembers m.2) name ++ entryEntries rest name := by
  simp [entryEntries, h]

/-- An object under a variant of the name is a foreign entry of every field. -/
theorem entryEntries_cons_of_variant (h : IsVariant "entry" m.1) :
    entryEntries (m :: rest) name = none :: entryEntries rest name := by
  simp [entryEntries, h.1, h.2]

/-- Other members add no entries. -/
theorem entryEntries_cons_of_ne (h : foldName m.1 ≠ foldName (Text.ofString "entry")) :
    entryEntries (m :: rest) name = entryEntries rest name := by
  have hne : m.1 ≠ Text.ofString "entry" := fun heq => h (heq ▸ rfl)
  simp [entryEntries, h, hne]

end EntryEntries

/-- The members of the entry in two runs of members. -/
theorem entryMembers_append (front back : Document) :
    entryMembers (front ++ back) = entryMembers front ++ entryMembers back := by
  rw [entryMembers, matching_append, List.flatMap_append]
  rfl

/-- Each object under the name adds its members. -/
theorem entryMembers_cons {m : Text × Json}
    (h : foldName m.1 = foldName (Text.ofString "entry")) (rest : Document) :
    entryMembers (m :: rest) = innerMembers m.2 ++ entryMembers rest := by
  rw [entryMembers, matching_cons_of_fold m rest "entry" h, List.flatMap_cons]
  rfl

/-- A field of the entry receives the values of its entries. -/
theorem expands_entryEntries (members : Document) (name : String) :
    Expands (entryEntries members name) (matching (entryMembers members) name) := by
  induction members with
  | nil => exact .nil
  | cons m rest ih =>
      rcases name_cases "entry" m.1 with hexact | hvariant | hne
      · rw [entryEntries_cons_of_eq m rest name hexact, entryMembers_cons (hexact ▸ rfl),
          matching_append]
        exact (expands_entries (innerMembers m.2) name).append ih
      · rw [entryEntries_cons_of_variant m rest name hvariant, entryMembers_cons hvariant.1,
          matching_append]
        exact .foreign (matching (innerMembers m.2) name) ih
      · rw [entryEntries_cons_of_ne m rest name hne, entryMembers,
          matching_cons_of_ne m rest "entry" hne]
        exact ih

/-- The entries of a field of the entry in two runs of members. -/
theorem entryEntries_append (front back : Document) (name : String) :
    entryEntries (front ++ back) name = entryEntries front name ++ entryEntries back name :=
  List.flatMap_append

/-- A decided field of the entry holds what the last member of its exact name in the
last exact entry says. -/
theorem entryField_of_last {α : Type} {decode : Json → α → Option α} {skips : Json → Bool}
    {zero : α} {name : String} (h : Overwrites decode skips) {members inner last : Document}
    (hdecided : Decided skips (entryEntries members name))
    (hentry : lookupLast members (Text.ofString "entry") = some (.object last)) {json : Json}
    (hlast : lookupLast last (Text.ofString name) = some json) (hcounts : skips json = false)
    (hinner : field decodeStruct [] members "entry" = some inner) {a : α}
    (ha : field decode zero inner name = some a) : decode json zero = some a := by
  rw [field_entry_eq_some_iff] at hinner
  have hexpands := expands_entryEntries members name
  rw [← hinner.2] at hexpands
  rcases split_of_lookupLast hentry with ⟨before, after, rfl, hafter⟩
  rcases entries_of_lookupLast hlast with ⟨front, back, heq, hback⟩
  have hforeign : ∀ e ∈ entryEntries after name, e = none := by
    intro e he
    rcases List.mem_flatMap.mp he with ⟨m, hm, he⟩
    rw [if_neg (hafter m hm)] at he
    split at he
    · exact List.mem_singleton.mp he
    · cases he
  have hentries : entryEntries (before ++ (Text.ofString "entry", .object last) :: after) name =
      (entryEntries before name ++ front) ++ some json :: (back ++ entryEntries after name) := by
    have hlastEntries : entryEntries [(Text.ofString "entry", .object last)] name =
        entries last name := by
      simp [entryEntries, innerMembers]
    rw [entryEntries_append, ← List.singleton_append, entryEntries_append, hlastEntries, heq]
    simp
  rw [hentries] at hexpands hdecided
  refine h.content_of_last hdecided ?_ hcounts hexpands ha
  intro e he
  rcases List.mem_append.mp he with he | he
  · exact hback e he
  · exact hforeign e he

/-! ## The postings -/

/-- What a value under the name of the postings does to the posting in a place: it is
decoded into it, or makes it new. -/
def postingWrites : Json → ℕ → List (Option Json)
  | .null, _ => [none]
  | .array items, place => strokes items place
  | _, _ => []

/-- The values a field of a posting receives from what is done to the posting. -/
def fieldWrites (name : String) : Option Json → List (Option Json)
  | none => [none]
  | some item => (matching (innerMembers item) name).map some

/-- Their entries. -/
def fieldEntries (name : String) : Option Json → List (Option (Option Json))
  | none => [some none]
  | some item => (entries (innerMembers item) name).map (Option.map some)

/-- The values a field of the posting in a place receives from all the postings of a body. -/
def postingValues (members : Document) (place : ℕ) (name : String) : List (Option Json) :=
  ((matching members "postings").flatMap (postingWrites · place)).flatMap (fieldWrites name)

/-- The members a field of the posting in a place takes, where `some none` makes the posting
new.  Postings under a name in another letter case can do anything to it. -/
def postingEntries (members : Document) (place : ℕ) (name : String) :
    List (Option (Option Json)) :=
  members.flatMap fun m =>
    if m.1 = Text.ofString "postings" then
      (postingWrites m.2 place).flatMap (fieldEntries name)
    else if foldName m.1 = foldName (Text.ofString "postings") then [none]
    else []

/-- What items write into a field is what their entries stand for. -/
theorem expands_fieldEntries (name : String) (writes : List (Option Json)) :
    Expands (writes.flatMap (fieldEntries name)) (writes.flatMap (fieldWrites name)) := by
  induction writes with
  | nil => exact .nil
  | cons write writes ih =>
      rw [List.flatMap_cons, List.flatMap_cons]
      refine Expands.append ?_ ih
      cases write with
      | none => exact .own none .nil
      | some item => exact (expands_entries (innerMembers item) name).map some

section PostingEntries

variable (m : Text × Json) (rest : Document) (place : ℕ) (name : String)

/-- Postings under the exact name add what their items write in the place. -/
theorem postingEntries_cons_of_eq (h : m.1 = Text.ofString "postings") :
    postingEntries (m :: rest) place name =
      (postingWrites m.2 place).flatMap (fieldEntries name) ++ postingEntries rest place name := by
  simp [postingEntries, h]

/-- Postings under a variant of the name are a foreign entry. -/
theorem postingEntries_cons_of_variant (h : IsVariant "postings" m.1) :
    postingEntries (m :: rest) place name = none :: postingEntries rest place name := by
  simp [postingEntries, h.1, h.2]

/-- Other members write nothing into the postings. -/
theorem postingEntries_cons_of_ne (h : foldName m.1 ≠ foldName (Text.ofString "postings")) :
    postingEntries (m :: rest) place name = postingEntries rest place name := by
  have hne : m.1 ≠ Text.ofString "postings" := fun heq => h (heq ▸ rfl)
  simp [postingEntries, h, hne]

/-- Postings under the name in any letter case write into the place. -/
theorem postingValues_cons_of_fold (h : foldName m.1 = foldName (Text.ofString "postings")) :
    postingValues (m :: rest) place name =
      (postingWrites m.2 place).flatMap (fieldWrites name) ++ postingValues rest place name := by
  rw [postingValues, matching_cons_of_fold m rest "postings" h, List.flatMap_cons,
    List.flatMap_append]
  rfl

/-- Other members do not. -/
theorem postingValues_cons_of_ne (h : foldName m.1 ≠ foldName (Text.ofString "postings")) :
    postingValues (m :: rest) place name = postingValues rest place name := by
  rw [postingValues, matching_cons_of_ne m rest "postings" h]
  rfl

end PostingEntries

/-- What two runs of members write into a place. -/
theorem postingValues_append (front back : Document) (place : ℕ) (name : String) :
    postingValues (front ++ back) place name =
      postingValues front place name ++ postingValues back place name := by
  rw [postingValues, matching_append, List.flatMap_append, List.flatMap_append]
  rfl

/-- A field of a posting receives the values of its entries. -/
theorem expands_postingEntries (members : Document) (place : ℕ) (name : String) :
    Expands (postingEntries members place name) (postingValues members place name) := by
  induction members with
  | nil => exact .nil
  | cons m rest ih =>
      rcases name_cases "postings" m.1 with hexact | hvariant | hne
      · rw [postingEntries_cons_of_eq m rest place name hexact,
          postingValues_cons_of_fold m rest place name (hexact ▸ rfl)]
        exact (expands_fieldEntries name (postingWrites m.2 place)).append ih
      · rw [postingEntries_cons_of_variant m rest place name hvariant,
          postingValues_cons_of_fold m rest place name hvariant.1]
        exact .foreign _ ih
      · rw [postingEntries_cons_of_ne m rest place name hne,
          postingValues_cons_of_ne m rest place name hne]
        exact ih

/-- A posting read from the members of an item into what the memory holds in its place. -/
structure LedgerPostingWebhook.ReadFrom (posting start : LedgerPostingWebhook)
    (members : Document) : Prop where
  rail : field decodeString start.rail members "rail" = some posting.rail
  accountCode : field decodeString start.accountCode members "account_code" =
    some posting.accountCode
  amount : field decodeString start.amount members "amount" = some posting.amount
  unit : field decodeString start.unit members "unit" = some posting.unit
  lotID : field decodePointer start.lotID members "lot_id" = some posting.lotID
  metadata : field decodeRaw start.metadata members "metadata" = some posting.metadata

/-- A posting is decoded from an object field by field, or left alone by `null`. -/
theorem decodePosting_readFrom_iff (item : Json) (start posting : LedgerPostingWebhook) :
    decodePosting item start = some posting ↔
      (item = .null ∨ ∃ members, item = .object members) ∧
        posting.ReadFrom start (innerMembers item) := by
  have hmembers : ∀ members, decodeStruct item [] = some members ↔
      (item = .null ∨ ∃ members, item = .object members) ∧ members = innerMembers item := by
    intro members
    cases item <;> simp [decodeStruct, innerMembers, eq_comm]
  unfold decodePosting
  simp only [Option.bind_eq_bind, Option.bind_eq_some_iff, hmembers]
  constructor
  · rintro ⟨_, ⟨hitem, rfl⟩, rail, hrail, account, haccount, amount, hamount, unit, hunit, lot,
      hlot, metadata, hmetadata, hposting⟩
    obtain rfl := Option.some.inj hposting
    exact ⟨hitem, hrail, haccount, hamount, hunit, hlot, hmetadata⟩
  · rintro ⟨hitem, h⟩
    exact ⟨_, ⟨hitem, rfl⟩, _, h.rail, _, h.accountCode, _, h.amount, _, h.unit, _, h.lotID, _,
      h.metadata, rfl⟩

/-- A field of a posting: where it starts, and what an item does to it. -/
structure PostingField {α : Type} (decode : Json → α → Option α) (zero : α) (name : String)
    (get : LedgerPostingWebhook → α) : Prop where
  zero : get .zero = zero
  reads : ∀ item start posting, decodePosting item start = some posting →
    field decode (get start) (innerMembers item) name = some (get posting)

/-- The rail is a field of a posting. -/
theorem postingField_rail : PostingField decodeString "" "rail" LedgerPostingWebhook.rail :=
  ⟨rfl, fun _ _ _ h => ((decodePosting_readFrom_iff _ _ _).mp h).2.rail⟩

/-- So is the account code. -/
theorem postingField_accountCode :
    PostingField decodeString "" "account_code" LedgerPostingWebhook.accountCode :=
  ⟨rfl, fun _ _ _ h => ((decodePosting_readFrom_iff _ _ _).mp h).2.accountCode⟩

/-- So is the amount. -/
theorem postingField_amount : PostingField decodeString "" "amount" LedgerPostingWebhook.amount :=
  ⟨rfl, fun _ _ _ h => ((decodePosting_readFrom_iff _ _ _).mp h).2.amount⟩

/-- So is the unit. -/
theorem postingField_unit : PostingField decodeString "" "unit" LedgerPostingWebhook.unit :=
  ⟨rfl, fun _ _ _ h => ((decodePosting_readFrom_iff _ _ _).mp h).2.unit⟩

/-- The lot is a field of a posting that is a pointer. -/
theorem postingField_lotID : PostingField decodePointer none "lot_id" LedgerPostingWebhook.lotID :=
  ⟨rfl, fun _ _ _ h => ((decodePosting_readFrom_iff _ _ _).mp h).2.lotID⟩

/-- The metadata are a field of a posting that is raw JSON. -/
theorem postingField_metadata :
    PostingField decodeRaw none "metadata" LedgerPostingWebhook.metadata :=
  ⟨rfl, fun _ _ _ h => ((decodePosting_readFrom_iff _ _ _).mp h).2.metadata⟩

/-- What is done to a posting by all the postings of a body. -/
theorem receive_postings_slot {values : List Json} {start postings : Slice LedgerPostingWebhook}
    (h : receive decodePostings start values = some postings) (place : ℕ) :
    receive (orReset decodePosting .zero) (start.slot .zero place)
      (values.flatMap (postingWrites · place)) = some (postings.slot .zero place) := by
  induction values generalizing start with
  | nil =>
      cases h
      rfl
  | cons json values ih =>
      rw [receive_cons, Option.bind_eq_some_iff] at h
      rcases h with ⟨next, hnext, h⟩
      have hplace : receive (orReset decodePosting .zero) (start.slot .zero place)
          (postingWrites json place) = some (next.slot .zero place) := by
        cases json with
        | null =>
            cases hnext
            rfl
        | array items => exact refill_slot hnext place
        | bool | number | string | object => cases hnext
      rw [List.flatMap_cons, receive_append, hplace, Option.bind_some]
      exact ih h

section PostingField

variable {α : Type} {decode : Json → α → Option α} {zero : α} {name : String}
  {get : LedgerPostingWebhook → α}

/-- What is done to a posting is done to its fields. -/
theorem PostingField.receive (h : PostingField decode zero name get) {writes : List (Option Json)}
    {start posting : LedgerPostingWebhook}
    (hposting : receive (orReset decodePosting .zero) start writes = some posting) :
    receive (orReset decode zero) (get start) (writes.flatMap (fieldWrites name)) =
      some (get posting) := by
  induction writes generalizing start with
  | nil =>
      cases hposting
      rfl
  | cons write writes ih =>
      rw [receive_cons, Option.bind_eq_some_iff] at hposting
      rcases hposting with ⟨next, hnext, hposting⟩
      have hwrite : LastWins.receive (orReset decode zero) (get start) (fieldWrites name write) =
          some (get next) := by
        cases write with
        | none =>
            cases hnext
            exact congrArg some h.zero.symm
        | some item =>
            rw [fieldWrites, receive_orReset_map_some]
            exact h.reads item start next hnext
      rw [List.flatMap_cons, receive_append, hwrite, Option.bind_some]
      exact ih hposting

/-- What a field of a posting receives from all the postings of a body. -/
theorem PostingField.receive_slot (h : PostingField decode zero name get) {members : Document}
    {postings : Slice LedgerPostingWebhook}
    (hread : field decodePostings .empty members "postings" = some postings) (place : ℕ) :
    LastWins.receive (orReset decode zero) zero (postingValues members place name) =
      some (get (postings.slot .zero place)) := by
  have hslot := h.receive (receive_postings_slot hread place)
  have hstart : get (Slice.empty.slot .zero place) = zero := h.zero
  rw [hstart] at hslot
  exact hslot

end PostingField

/-- A rail that stands under a name of other letter case only. -/
example :
    (field decodePostings .empty
      [(Text.ofString "Postings", .array [.object
          [(Text.ofString "rail", .string (Text.ofString "invoice"))]]),
        (Text.ofString "postings", .array [.object []])]
      "postings").map (fun postings => postings.elems.map LedgerPostingWebhook.rail) =
        some ["invoice"] := by
  decide +kernel

/-- The last postings of a body have their length. -/
theorem length_postings_of_last {members : Document}
    (hdecided : Decided isNothing (entries members "postings")) {json : Json}
    (hlast : lookupLast members (Text.ofString "postings") = some json)
    {postings : Slice LedgerPostingWebhook}
    (hread : field decodePostings .empty members "postings" = some postings) :
    postings.elems.length = (innerItems json).length := by
  rcases entries_of_lookupLast hlast with ⟨front, back, heq, hback⟩
  have hexpands := expands_entries members "postings"
  rw [heq] at hexpands hdecided
  obtain rfl := hdecided.last hback
  rcases hexpands.split with ⟨before, last, hvalues, -, hlastValue⟩
  cases hlastValue with
  | own _ rest =>
      cases rest
      change LastWins.receive decodePostings .empty (matching members "postings") = _ at hread
      rw [hvalues, receive_append, Option.bind_eq_some_iff] at hread
      rcases hread with ⟨start, -, hread⟩
      rw [receive_cons, Option.bind_eq_some_iff] at hread
      rcases hread with ⟨last, hdecode, hread⟩
      cases hread
      cases json with
      | null =>
          cases hdecode
          rfl
      | array items => exact length_of_refill hdecode
      | bool | number | string | object => cases hdecode

end MizanSDK.Go
