import MizanSDK.Go.LetterCase

/-!
# Settled ledger webhooks

On which bodies members of other letter case have no say: another value of such a member
leaves the event as it is.

Main results:

- Theorem `decodeLedgerWebhook_readFrom_iff`: the event field by field.
- Theorem `SameLedger.event_eq`: settled bodies that differ in the values of members of
  other letter case are read as one event.
-/

namespace MizanSDK.Go

open JsonText LastWins Slices

/-! ## Documents that differ in the members of other letter case -/

/-- The member names of a ledger event, of its entry and of a posting. -/
def ledgerNames : List String :=
  ["event_id", "business_id", "business_sequence", "entry", "postings"]

/-- The texts of an entry. -/
def entryTexts : List String :=
  ["id", "entry_type", "source_command", "source_event_id", "effective_at", "catalog_version",
    "policy_version"]

/-- Its pointers to texts. -/
def entryPointers : List String := ["subscription_id", "feature_code"]

/-- The member names of an entry. -/
def entryNames : List String := entryTexts ++ entryPointers ++ ["metadata"]

/-- The texts of a posting. -/
def postingTexts : List String := ["rail", "account_code", "amount", "unit"]

/-- Its pointer to a text. -/
def postingPointers : List String := ["lot_id"]

/-- The member names of a posting. -/
def postingNames : List String := postingTexts ++ postingPointers ++ ["metadata"]

/-- Members of one name that have the same value unless the name is that of a field
in another letter case, or their values are related by what may differ inside. -/
def SameMember (fields : List String) (inside : Text → Json → Json → Prop)
    (m m' : Text × Json) : Prop :=
  m.1 = m'.1 ∧ (m.2 = m'.2 ∨ (∃ name ∈ fields, IsVariant name m.1) ∨ inside m.1 m.2 m'.2)

/-- The same for two objects, member by member. -/
def SameMembers (fields : List String) (inside : Text → Json → Json → Prop)
    (members members' : Document) : Prop :=
  List.Forall₂ (SameMember fields inside) members members'

/-- Objects that differ in members of other letter case only. -/
def SameObject (fields : List String) (json json' : Json) : Prop :=
  ∃ members members', json = .object members ∧ json' = .object members' ∧
    SameMembers fields (fun _ _ _ => False) members members'

/-- Items of the postings that differ in members of other letter case only. -/
def SamePosting (item item' : Json) : Prop := item = item' ∨ SameObject postingNames item item'

/-- What may differ inside the entry and the postings of a ledger event. -/
def InsideLedger (name : Text) (json json' : Json) : Prop :=
  (name = Text.ofString "entry" ∧ SameObject entryNames json json') ∨
    name = Text.ofString "postings" ∧ ∃ items items', json = .array items ∧
      json' = .array items' ∧ List.Forall₂ SamePosting items items'

/-- Ledger bodies that differ in the values of members of other letter case only. -/
def SameLedger (members members' : Document) : Prop :=
  SameMembers ledgerNames InsideLedger members members'

/-- Names whose letter case does not hide another one of the list. -/
def Distinct (fields : List String) : Prop :=
  ∀ name ∈ fields, ∀ name' ∈ fields,
    foldName (Text.ofString name) = foldName (Text.ofString name') → name = name'

/-- The names of an event are told apart in every letter case. -/
theorem distinct_ledgerNames : Distinct ledgerNames := by
  unfold Distinct
  decide +kernel

/-- So are those of an entry. -/
theorem distinct_entryNames : Distinct entryNames := by
  unfold Distinct
  decide +kernel

/-- So are those of a posting. -/
theorem distinct_postingNames : Distinct postingNames := by
  unfold Distinct
  decide +kernel

/-- An exactly named member has one value in both documents, or values related by
what may differ inside. -/
theorem SameMember.value {fields : List String} {inside : Text → Json → Json → Prop}
    {m m' : Text × Json} (h : SameMember fields inside m m') (hfields : Distinct fields)
    {name : String} (hname : name ∈ fields) (hexact : m.1 = Text.ofString name) :
    m.2 = m'.2 ∨ inside m.1 m.2 m'.2 := by
  rcases h.2 with hsame | ⟨other, hother, hvariant⟩ | hinside
  · exact .inl hsame
  · rw [hexact] at hvariant
    rw [hfields name hname other hother hvariant.1] at hvariant
    exact absurd rfl hvariant.2
  · exact .inr hinside

/-- A field takes the same entries from both documents if nothing may differ inside
its value. -/
theorem SameMembers.entries_eq {fields : List String} {inside : Text → Json → Json → Prop}
    {members members' : Document} (h : SameMembers fields inside members members')
    (hfields : Distinct fields) {name : String} (hname : name ∈ fields)
    (hinside : ∀ json json', ¬ inside (Text.ofString name) json json') :
    entries members name = entries members' name := by
  induction h with
  | nil => rfl
  | @cons m m' rest rest' hm _ ih =>
      rcases name_cases name m.1 with hexact | hvariant | hne
      · rw [entries_cons_of_eq m rest name hexact,
          entries_cons_of_eq m' rest' name (hm.1 ▸ hexact), ih]
        rcases hm.value hfields hname hexact with hsame | hrelated
        · rw [hsame]
        · rw [hexact] at hrelated
          exact absurd hrelated (hinside _ _)
      · rw [entries_cons_of_variant m rest name hvariant,
          entries_cons_of_variant m' rest' name (hm.1 ▸ hvariant), ih]
      · rw [entries_cons_of_ne m rest name hne, entries_cons_of_ne m' rest' name (hm.1 ▸ hne), ih]

/-- The same for the fields of objects. -/
theorem SameObject.entries_eq {fields : List String} {json json' : Json}
    (h : SameObject fields json json') (hfields : Distinct fields) {name : String}
    (hname : name ∈ fields) :
    entries (innerMembers json) name = entries (innerMembers json') name := by
  rcases h with ⟨members, members', rfl, rfl, hsame⟩
  exact hsame.entries_eq hfields hname fun _ _ h => h

/-- Nothing may differ inside the values of the other members. -/
theorem not_insideLedger {name : String} (hentry : name ≠ "entry") (hpostings : name ≠ "postings")
    (json json' : Json) : ¬ InsideLedger (Text.ofString name) json json' := by
  rintro (⟨heq, -⟩ | ⟨heq, -⟩)
  · exact hentry (Text.ofString_inj.mp heq)
  · exact hpostings (Text.ofString_inj.mp heq)

/-- The fields of the entry take the same entries from both documents. -/
theorem SameLedger.entryEntries_eq {members members' : Document}
    (h : SameLedger members members') {name : String} (hname : name ∈ entryNames) :
    entryEntries members name = entryEntries members' name := by
  induction h with
  | nil => rfl
  | @cons m m' rest rest' hm _ ih =>
      have hhead : entryEntries [m] name = entryEntries [m'] name := by
        have hmem : "entry" ∈ ledgerNames := by decide
        rcases name_cases "entry" m.1 with hexact | hvariant | hne
        · have hvalues : entries (innerMembers m.2) name = entries (innerMembers m'.2) name := by
            rcases hm.value distinct_ledgerNames hmem hexact with hsame | hrelated | hpostings
            · rw [hsame]
            · exact hrelated.2.entries_eq distinct_entryNames hname
            · rw [hexact, Text.ofString_inj] at hpostings
              exact absurd hpostings.1 (by decide)
          simp [entryEntries, ← hm.1, hexact, hvalues]
        · simp [entryEntries, ← hm.1, hvariant.1, hvariant.2]
        · have hother : m.1 ≠ Text.ofString "entry" := fun heq => hne (heq ▸ rfl)
          simp [entryEntries, ← hm.1, hne, hother]
      rw [← List.singleton_append, entryEntries_append, hhead, ih, ← entryEntries_append,
        List.singleton_append]

/-! ## What is read -/

/-- An entry read from its members. -/
structure LedgerEntryWebhook.ReadFrom (entry : LedgerEntryWebhook) (members : Document) :
    Prop where
  id : field decodeString "" members "id" = some entry.id
  entryType : field decodeString "" members "entry_type" = some entry.entryType
  sourceCommand : field decodeString "" members "source_command" = some entry.sourceCommand
  sourceEventID : field decodeString "" members "source_event_id" = some entry.sourceEventID
  subscriptionID :
    field decodePointer none members "subscription_id" = some entry.subscriptionID
  featureCode : field decodePointer none members "feature_code" = some entry.featureCode
  effectiveAt : field decodeString "" members "effective_at" = some entry.effectiveAt
  catalogVersion : field decodeString "" members "catalog_version" = some entry.catalogVersion
  policyVersion : field decodeString "" members "policy_version" = some entry.policyVersion
  metadata : field decodeRaw none members "metadata" = some entry.metadata

/-- An entry is decoded field by field. -/
theorem decodeEntry_readFrom_iff (members : Document) (entry : LedgerEntryWebhook) :
    decodeEntry members = some entry ↔ entry.ReadFrom members := by
  unfold decodeEntry
  simp only [Option.bind_eq_bind, Option.bind_eq_some_iff]
  constructor
  · rintro ⟨id, hid, type, htype, command, hcommand, event, hevent, subscription,
      hsubscription, feature, hfeature, effective, heffective, catalog, hcatalog, policy,
      hpolicy, metadata, hmetadata, hentry⟩
    obtain rfl := Option.some.inj hentry
    exact ⟨hid, htype, hcommand, hevent, hsubscription, hfeature, heffective, hcatalog, hpolicy,
      hmetadata⟩
  · intro h
    exact ⟨_, h.id, _, h.entryType, _, h.sourceCommand, _, h.sourceEventID, _,
      h.subscriptionID, _, h.featureCode, _, h.effectiveAt, _, h.catalogVersion, _,
      h.policyVersion, _, h.metadata, rfl⟩

/-- An event read from the members of a body. -/
structure LedgerWebhook.ReadFrom (event : LedgerWebhook) (members : Document) : Prop where
  eventID : field decodeString "" members "event_id" = some event.eventID
  businessID : field decodeString "" members "business_id" = some event.businessID
  businessSequence :
    field decodeInt64 0 members "business_sequence" = some event.businessSequence
  isEntry : field decodeStruct [] members "entry" = some (entryMembers members)
  entry : event.entry.ReadFrom (entryMembers members)
  postings : (field decodePostings .empty members "postings").map Slice.elems =
    some event.postings

/-- So is an event. -/
theorem decodeLedgerWebhook_readFrom_iff (members : Document) (event : LedgerWebhook) :
    decodeLedgerWebhook members = some event ↔ event.ReadFrom members := by
  unfold decodeLedgerWebhook
  simp only [Option.bind_eq_bind, Option.bind_eq_some_iff]
  constructor
  · rintro ⟨eventID, hevent, business, hbusiness, sequence, hsequence, inner, hinner, entry,
      hentry, postings, hpostings, hresult⟩
    obtain rfl := Option.some.inj hresult
    obtain rfl := ((field_entry_eq_some_iff members inner).mp hinner).2
    exact ⟨hevent, hbusiness, hsequence, hinner, (decodeEntry_readFrom_iff _ _).mp hentry,
      Option.map_eq_some_iff.mpr ⟨postings, hpostings, rfl⟩⟩
  · intro h
    rcases Option.map_eq_some_iff.mp h.postings with ⟨postings, hpostings, helems⟩
    refine ⟨_, h.eventID, _, h.businessID, _, h.businessSequence, _, h.isEntry, _,
      (decodeEntry_readFrom_iff _ _).mpr h.entry, postings, hpostings, ?_⟩
    rw [helems]
    rfl

/-! ## Texts, pointers and metadata -/

section Fields

variable {texts pointers : List String} {members members' : Document}

/-- What a posting and an entry have in common: texts, pointers to texts and
metadata. -/
structure Readable (texts pointers : List String) (members : Document) : Prop where
  texts : ∀ name ∈ texts, (field decodeString "" members name).isSome
  pointers : ∀ name ∈ pointers, (field decodePointer none members name).isSome
  metadata : (field decodeRaw none members "metadata").isSome

/-- The same texts, pointers and metadata are read. -/
structure Alike (texts pointers : List String) (members members' : Document) : Prop where
  texts : ∀ name ∈ texts, field decodeString "" members' name = field decodeString "" members name
  pointers : ∀ name ∈ pointers,
    field decodePointer none members' name = field decodePointer none members name
  metadata : field decodeRaw none members' "metadata" = field decodeRaw none members "metadata"

/-- The texts, the pointers and the metadata are decided, each with the values it skips. -/
structure FieldsSettled (texts pointers : List String) (decided : (Json → Bool) → String → Prop) :
    Prop where
  texts : ∀ name ∈ texts, decided isNull name
  pointers : ∀ name ∈ pointers, decided isNothing name
  metadata : decided isNothing "metadata"

/-- Settled fields that receive the same entries are read alike. -/
theorem FieldsSettled.alike {entriesOf : String → List (Option Json)}
    (h : FieldsSettled texts pointers fun skips name => Decided skips (entriesOf name))
    (hexpands : ∀ name, Expands (entriesOf name) (matching members name))
    (hexpands' : ∀ name ∈ texts ++ pointers ++ ["metadata"],
      Expands (entriesOf name) (matching members' name))
    (hread : Readable texts pointers members) (hread' : Readable texts pointers members') :
    Alike texts pointers members members' := by
  have hagree : ∀ {α : Type} {decode : Json → α → Option α} {skips : Json → Bool} {zero : α}
      {name : String}, Overwrites decode skips → name ∈ texts ++ pointers ++ ["metadata"] →
      Decided skips (entriesOf name) → (field decode zero members name).isSome →
      (field decode zero members' name).isSome →
      field decode zero members' name = field decode zero members name := by
    intro α decode skips zero name hdecode hname hdecided hsome hsome'
    rcases Option.isSome_iff_exists.mp hsome with ⟨a, ha⟩
    rcases Option.isSome_iff_exists.mp hsome' with ⟨a', ha'⟩
    rw [ha, ha', hdecode.agree hdecided (hexpands name) (hexpands' name hname) ha ha']
  refine ⟨fun name hname => ?_, fun name hname => ?_, ?_⟩
  · exact hagree overwrites_string (by simp [hname]) (h.texts name hname) (hread.texts name hname)
      (hread'.texts name hname)
  · exact hagree overwrites_pointer (by simp [hname]) (h.pointers name hname)
      (hread.pointers name hname) (hread'.pointers name hname)
  · exact hagree overwrites_raw (by simp) h.metadata hread.metadata hread'.metadata

end Fields

section Posting

/-- An item that a posting is read from. -/
def ReadsPosting (item : Json) : Prop :=
  (item = .null ∨ ∃ members, item = .object members) ∧
    Readable postingTexts postingPointers (innerMembers item)

/-- Whether a posting is read does not depend on the memory in its place. -/
theorem decodePosting_isSome_iff (item : Json) (start : LedgerPostingWebhook) :
    (decodePosting item start).isSome = true ↔ ReadsPosting item := by
  constructor
  · intro h
    rcases Option.isSome_iff_exists.mp h with ⟨posting, hposting⟩
    rcases (decodePosting_readFrom_iff item start posting).mp hposting with ⟨hitem, hread⟩
    have htext : ∀ {name a b}, field decodeString a (innerMembers item) name = some b →
        (field decodeString "" (innerMembers item) name).isSome = true := by
      intro name a b hfield
      rw [field_isSome_eq overwrites_string (innerMembers item) "" a, hfield, Option.isSome_some]
    refine ⟨hitem, ?_, ?_, ?_⟩
    · simp [postingTexts, htext hread.rail, htext hread.accountCode, htext hread.amount,
        htext hread.unit]
    · rw [postingPointers, List.forall_mem_singleton,
        field_isSome_eq overwrites_pointer _ none start.lotID, hread.lotID, Option.isSome_some]
    · rw [field_isSome_eq overwrites_raw _ none start.metadata, hread.metadata,
        Option.isSome_some]
  · rintro ⟨hitem, hread⟩
    have htext : ∀ name ∈ postingTexts, ∀ a,
        ∃ b, field decodeString a (innerMembers item) name = some b := by
      intro name hname a
      rw [← Option.isSome_iff_exists, field_isSome_eq overwrites_string _ a ""]
      exact hread.texts name hname
    rcases htext "rail" (by decide) start.rail with ⟨rail, hrail⟩
    rcases htext "account_code" (by decide) start.accountCode with ⟨account, haccount⟩
    rcases htext "amount" (by decide) start.amount with ⟨amount, hamount⟩
    rcases htext "unit" (by decide) start.unit with ⟨unit, hunit⟩
    have hpointer := hread.pointers "lot_id" (by decide)
    rw [field_isSome_eq overwrites_pointer _ none start.lotID, Option.isSome_iff_exists]
      at hpointer
    rcases hpointer with ⟨lot, hlot⟩
    have hmetadata := hread.metadata
    rw [field_isSome_eq overwrites_raw _ none start.metadata, Option.isSome_iff_exists]
      at hmetadata
    rcases hmetadata with ⟨metadata, hmetadata⟩
    rw [Option.isSome_iff_exists]
    refine ⟨⟨rail, account, amount, unit, lot, metadata⟩, ?_⟩
    exact (decodePosting_readFrom_iff item start _).mpr
      ⟨hitem, hrail, haccount, hamount, hunit, hlot, hmetadata⟩

/-- A value that postings are read from. -/
def ReadsPostings (json : Json) : Prop :=
  json = .null ∨ ∃ items, json = .array items ∧ ∀ item ∈ items, ReadsPosting item

/-- Whether postings are read does not depend on the memory behind them. -/
theorem decodePostings_isSome_iff (json : Json) (start : Slice LedgerPostingWebhook) :
    (decodePostings json start).isSome = true ↔ ReadsPostings json := by
  unfold ReadsPostings
  cases json with
  | null => exact iff_of_true rfl (.inl rfl)
  | array items =>
      rw [decodePostings, refill_isSome_iff fun item _ => decodePosting_isSome_iff item]
      simp
  | bool | number | string | object => simp [decodePostings]

/-- The postings of a body are read if each of its values under their name is. -/
theorem field_postings_isSome_iff (members : Document) :
    (field decodePostings .empty members "postings").isSome = true ↔
      ∀ json ∈ matching members "postings", ReadsPostings json :=
  receive_isSome_iff (fun json _ => decodePostings_isSome_iff json) .empty

end Posting

section Entry

variable {members members' : Document} {entry entry' : LedgerEntryWebhook}

/-- An entry is read from members whose texts, pointers and metadata can be. -/
theorem LedgerEntryWebhook.readable_iff : (∃ entry : LedgerEntryWebhook,
    entry.ReadFrom members) ↔ Readable entryTexts entryPointers members := by
  constructor
  · rintro ⟨entry, h⟩
    refine ⟨?_, ?_, ?_⟩
    · simp [entryTexts, h.id, h.entryType, h.sourceCommand, h.sourceEventID, h.effectiveAt,
        h.catalogVersion, h.policyVersion]
    · simp [entryPointers, h.subscriptionID, h.featureCode]
    · rw [h.metadata]
      rfl
  · intro h
    have htext : ∀ name ∈ entryTexts, ∃ text, field decodeString "" members name = some text :=
      fun name hname => Option.isSome_iff_exists.mp (h.texts name hname)
    rcases htext "id" (by decide) with ⟨id, hid⟩
    rcases htext "entry_type" (by decide) with ⟨type, htype⟩
    rcases htext "source_command" (by decide) with ⟨command, hcommand⟩
    rcases htext "source_event_id" (by decide) with ⟨event, hevent⟩
    rcases htext "effective_at" (by decide) with ⟨effective, heffective⟩
    rcases htext "catalog_version" (by decide) with ⟨catalog, hcatalog⟩
    rcases htext "policy_version" (by decide) with ⟨policy, hpolicy⟩
    rcases Option.isSome_iff_exists.mp (h.pointers "subscription_id" (by decide)) with
      ⟨subscription, hsubscription⟩
    rcases Option.isSome_iff_exists.mp (h.pointers "feature_code" (by decide)) with
      ⟨feature, hfeature⟩
    rcases Option.isSome_iff_exists.mp h.metadata with ⟨metadata, hmetadata⟩
    exact ⟨⟨id, type, command, event, subscription, feature, effective, catalog, policy, metadata⟩,
      hid, htype, hcommand, hevent, hsubscription, hfeature, heffective, hcatalog, hpolicy,
      hmetadata⟩

/-- Two readings are one entry if they are alike. -/
theorem LedgerEntryWebhook.ReadFrom.alike_iff (h : entry.ReadFrom members)
    (h' : entry'.ReadFrom members') :
    Alike entryTexts entryPointers members members' ↔ entry' = entry := by
  constructor
  · intro halike
    have hid := halike.texts "id" (by decide)
    have htype := halike.texts "entry_type" (by decide)
    have hcommand := halike.texts "source_command" (by decide)
    have hevent := halike.texts "source_event_id" (by decide)
    have heffective := halike.texts "effective_at" (by decide)
    have hcatalog := halike.texts "catalog_version" (by decide)
    have hpolicy := halike.texts "policy_version" (by decide)
    have hsubscription := halike.pointers "subscription_id" (by decide)
    have hfeature := halike.pointers "feature_code" (by decide)
    have hmetadata := halike.metadata
    rw [h.id, h'.id, Option.some.injEq] at hid
    rw [h.entryType, h'.entryType, Option.some.injEq] at htype
    rw [h.sourceCommand, h'.sourceCommand, Option.some.injEq] at hcommand
    rw [h.sourceEventID, h'.sourceEventID, Option.some.injEq] at hevent
    rw [h.effectiveAt, h'.effectiveAt, Option.some.injEq] at heffective
    rw [h.catalogVersion, h'.catalogVersion, Option.some.injEq] at hcatalog
    rw [h.policyVersion, h'.policyVersion, Option.some.injEq] at hpolicy
    rw [h.subscriptionID, h'.subscriptionID, Option.some.injEq] at hsubscription
    rw [h.featureCode, h'.featureCode, Option.some.injEq] at hfeature
    rw [h.metadata, h'.metadata, Option.some.injEq] at hmetadata
    cases entry
    cases entry'
    simp_all
  · rintro rfl
    refine ⟨?_, ?_, ?_⟩
    · simp [entryTexts, h.id, h.entryType, h.sourceCommand, h.sourceEventID, h.effectiveAt,
        h.catalogVersion, h.policyVersion, h'.id, h'.entryType, h'.sourceCommand,
        h'.sourceEventID, h'.effectiveAt, h'.catalogVersion, h'.policyVersion]
    · simp [entryPointers, h.subscriptionID, h.featureCode, h'.subscriptionID, h'.featureCode]
    · rw [h.metadata, h'.metadata]

end Entry

/-! ## Bodies without a say for other letter case -/

/-- The entries of the fields of the posting in a place are decided. -/
def PostingSettled (members : Document) (place : ℕ) : Prop :=
  FieldsSettled postingTexts postingPointers fun skips name =>
    Decided (unlessReset skips) (postingEntries members place name)

/-- Every member that a field takes in another letter case is followed by one of the
exact name: one that is not `null` where `null` would leave the field alone.  The postings
are settled place by place, up to the number of the last ones. -/
structure Settled (members : Document) : Prop where
  scalars : ∀ name ∈ ["event_id", "business_id", "business_sequence"],
    Decided isNull (entries members name)
  entry : FieldsSettled entryTexts entryPointers fun skips name =>
    Decided skips (entryEntries members name)
  postings : Decided isNothing (entries members "postings")
  items : ∀ json, lookupLast members (Text.ofString "postings") = some json →
    ∀ place < (innerItems json).length, PostingSettled members place

/-- Whether entries are decided where nothing is skipped is a matter of which of them
are foreign. -/
theorem decided_of_map_isSome {es es' : List (Option Json)} (h : Decided isNothing es)
    (hmap : es.map Option.isSome = es'.map Option.isSome) : Decided isNothing es' := by
  rintro front back rfl
  rw [List.map_append, List.map_cons, List.map_eq_append_iff] at hmap
  rcases hmap with ⟨front', rest', rfl, -, hrest⟩
  rcases List.map_eq_cons_iff.mp hrest with ⟨e, back', rfl, he, hback⟩
  obtain rfl : e = none := by simpa using he
  rcases h front' back' rfl with ⟨v, hv, -⟩
  have hmem : true ∈ back.map Option.isSome := by
    rw [← hback]
    exact List.mem_map_of_mem (f := Option.isSome) hv
  rcases List.mem_map.mp hmem with ⟨e', he', hsome⟩
  rcases Option.isSome_iff_exists.mp hsome with ⟨w, rfl⟩
  exact ⟨w, he', rfl⟩

/-- Decided entries of which none is exact are none. -/
theorem entries_eq_nil {members : Document} {name : String}
    (hdecided : Decided isNothing (entries members name))
    (hlookup : lookupLast members (Text.ofString name) = none) : entries members name = [] := by
  have hforeign := entries_of_ne (lookupLast_eq_none_iff.mp hlookup)
  cases hentries : entries members name with
  | nil => rfl
  | cons e rest =>
      rw [hentries] at hdecided hforeign
      obtain rfl := hforeign e List.mem_cons_self
      rcases hdecided [] rest rfl with ⟨v, hv, -⟩
      cases hforeign (some v) (List.mem_cons_of_mem _ hv)

/-- A field without entries keeps its content. -/
theorem field_of_no_entries {α : Type*} {decode : Json → α → Option α} {zero : α}
    {members : Document} {name : String} (h : entries members name = []) :
    field decode zero members name = some zero := by
  have hexpands := expands_entries members name
  rw [h] at hexpands
  have hvalues : matching members name = [] := by
    generalize matching members name = values at hexpands
    cases hexpands
    rfl
  rw [field, hvalues]
  rfl

/-- Items that differ in members of other letter case do the same to the exact ones. -/
theorem strokes_fieldEntries_eq {items items' : List Json}
    (h : List.Forall₂ SamePosting items items') (place : ℕ) {name : String}
    (hname : name ∈ postingNames) :
    (strokes items place).flatMap (fieldEntries name) =
      (strokes items' place).flatMap (fieldEntries name) := by
  have hitem : ∀ item item', SamePosting item item' →
      fieldEntries name (some item) = fieldEntries name (some item') := by
    rintro item item' (rfl | hsame)
    · rfl
    · rw [fieldEntries, fieldEntries, hsame.entries_eq distinct_postingNames hname]
  have hplaces : ∀ place : ℕ, (items[place]?.toList.map some).flatMap (fieldEntries name) =
      (items'[place]?.toList.map some).flatMap (fieldEntries name) := by
    induction h with
    | nil => exact fun _ => rfl
    | cons hfirst _ ih =>
        intro place
        cases place with
        | zero => simp [hitem _ _ hfirst]
        | succ place =>
            rw [List.getElem?_cons_succ, List.getElem?_cons_succ]
            exact ih place
  cases h with
  | nil => rfl
  | cons => exact hplaces place

section SameLedger

variable {members members' : Document} (h : SameLedger members members')
include h

/-- Both documents have own and foreign entries in the same places. -/
theorem SameLedger.map_isSome (name : String) :
    (entries members name).map Option.isSome = (entries members' name).map Option.isSome := by
  induction h with
  | nil => rfl
  | @cons m m' rest rest' hm _ ih =>
      rcases name_cases name m.1 with hexact | hvariant | hne
      · rw [entries_cons_of_eq m rest name hexact,
          entries_cons_of_eq m' rest' name (hm.1 ▸ hexact), List.map_cons, List.map_cons, ih]
        rfl
      · rw [entries_cons_of_variant m rest name hvariant,
          entries_cons_of_variant m' rest' name (hm.1 ▸ hvariant), List.map_cons,
          List.map_cons, ih]
      · rw [entries_cons_of_ne m rest name hne, entries_cons_of_ne m' rest' name (hm.1 ▸ hne), ih]

/-- The last exact postings of both documents are the same or related item by item. -/
theorem SameLedger.lookup_postings :
    (lookupLast members (Text.ofString "postings") = none ∧
        lookupLast members' (Text.ofString "postings") = none) ∨
      ∃ json json', lookupLast members (Text.ofString "postings") = some json ∧
        lookupLast members' (Text.ofString "postings") = some json' ∧
        (json = json' ∨ ∃ items items', json = .array items ∧ json' = .array items' ∧
          List.Forall₂ SamePosting items items') := by
  induction h with
  | nil => exact .inl ⟨rfl, rfl⟩
  | @cons m m' rest rest' hm _ ih =>
      rw [show m = (m.1, m.2) from rfl, show m' = (m'.1, m'.2) from rfl, lookupLast_cons,
        lookupLast_cons, ← hm.1]
      rcases ih with ⟨hnone, hnone'⟩ | ⟨json, json', hjson, hjson', hsame⟩
      · rw [hnone, hnone', Option.none_or, Option.none_or]
        by_cases hexact : m.1 = Text.ofString "postings"
        · rw [if_pos hexact, if_pos hexact]
          right
          refine ⟨m.2, m'.2, rfl, rfl, ?_⟩
          have hmem : "postings" ∈ ledgerNames := by decide
          rcases hm.value distinct_ledgerNames hmem hexact with hsame | hentry | hpostings
          · exact .inl hsame
          · rw [hexact, Text.ofString_inj] at hentry
            exact absurd hentry.1 (by decide)
          · exact .inr hpostings.2
        · rw [if_neg hexact, if_neg hexact]
          exact .inl ⟨rfl, rfl⟩
      · rw [hjson, hjson', Option.some_or, Option.some_or]
        exact .inr ⟨json, json', rfl, rfl, hsame⟩

/-- The fields of the posting in a place take the same entries from both documents. -/
theorem SameLedger.postingEntries_eq (place : ℕ) {name : String} (hname : name ∈ postingNames) :
    postingEntries members place name = postingEntries members' place name := by
  induction h with
  | nil => rfl
  | @cons m m' rest rest' hm _ ih =>
      rcases name_cases "postings" m.1 with hexact | hvariant | hne
      · rw [postingEntries_cons_of_eq m rest place name hexact,
          postingEntries_cons_of_eq m' rest' place name (hm.1 ▸ hexact), ih]
        have hmem : "postings" ∈ ledgerNames := by decide
        rcases hm.value distinct_ledgerNames hmem hexact with hsame | hentry | hpostings
        · rw [hsame]
        · rw [hexact, Text.ofString_inj] at hentry
          exact absurd hentry.1 (by decide)
        · rcases hpostings.2 with ⟨items, items', hitems, hitems', hsame⟩
          rw [hitems, hitems', postingWrites, postingWrites,
            strokes_fieldEntries_eq hsame place hname]
      · rw [postingEntries_cons_of_variant m rest place name hvariant,
          postingEntries_cons_of_variant m' rest' place name (hm.1 ▸ hvariant), ih]
      · rw [postingEntries_cons_of_ne m rest place name hne,
          postingEntries_cons_of_ne m' rest' place name (hm.1 ▸ hne), ih]

/-- A decided field of a posting is read alike. -/
theorem SameLedger.get_slot_eq {α : Type} {decode : Json → α → Option α} {skips : Json → Bool}
    {zero : α} {name : String} {get : LedgerPostingWebhook → α}
    (hfield : PostingField decode zero name get) (hdecode : Overwrites decode skips)
    (hname : name ∈ postingNames) {place : ℕ}
    (hdecided : Decided (unlessReset skips) (postingEntries members place name))
    {postings postings' : Slice LedgerPostingWebhook}
    (hread : field decodePostings .empty members "postings" = some postings)
    (hread' : field decodePostings .empty members' "postings" = some postings') :
    get (postings.slot .zero place) = get (postings'.slot .zero place) := by
  have hexpands := expands_postingEntries members' place name
  rw [← h.postingEntries_eq place hname] at hexpands
  exact (hdecode.orReset zero).agree hdecided (expands_postingEntries members place name) hexpands
    (hfield.receive_slot hread place) (hfield.receive_slot hread' place)

/-- A settled posting is read alike. -/
theorem SameLedger.slot_eq {place : ℕ} (hsettled : PostingSettled members place)
    {postings postings' : Slice LedgerPostingWebhook}
    (hread : field decodePostings .empty members "postings" = some postings)
    (hread' : field decodePostings .empty members' "postings" = some postings') :
    postings.slot .zero place = postings'.slot .zero place := by
  have hrail := h.get_slot_eq postingField_rail overwrites_string (by decide)
    (hsettled.texts "rail" (by decide)) hread hread'
  have haccount := h.get_slot_eq postingField_accountCode overwrites_string (by decide)
    (hsettled.texts "account_code" (by decide)) hread hread'
  have hamount := h.get_slot_eq postingField_amount overwrites_string (by decide)
    (hsettled.texts "amount" (by decide)) hread hread'
  have hunit := h.get_slot_eq postingField_unit overwrites_string (by decide)
    (hsettled.texts "unit" (by decide)) hread hread'
  have hlot := h.get_slot_eq postingField_lotID overwrites_pointer (by decide)
    (hsettled.pointers "lot_id" (by decide)) hread hread'
  have hmetadata := h.get_slot_eq postingField_metadata overwrites_raw (by decide)
    hsettled.metadata hread hread'
  exact LedgerPostingWebhook.ext hrail haccount hamount hunit hlot hmetadata

/-- The postings of settled bodies. -/
theorem SameLedger.postings_eq (hsettled : Settled members)
    {postings postings' : Slice LedgerPostingWebhook}
    (hread : field decodePostings .empty members "postings" = some postings)
    (hread' : field decodePostings .empty members' "postings" = some postings') :
    postings.elems = postings'.elems := by
  have hdecided' : Decided isNothing (entries members' "postings") :=
    decided_of_map_isSome hsettled.postings (h.map_isSome "postings")
  rcases h.lookup_postings with ⟨hnone, hnone'⟩ | ⟨json, json', hjson, hjson', hsame⟩
  · rw [field_of_no_entries (entries_eq_nil hsettled.postings hnone), Option.some.injEq] at hread
    rw [field_of_no_entries (entries_eq_nil hdecided' hnone'), Option.some.injEq] at hread'
    rw [← hread, ← hread']
  · have hlength := length_postings_of_last hsettled.postings hjson hread
    have hlength' := length_postings_of_last hdecided' hjson' hread'
    have hitems : (innerItems json).length = (innerItems json').length := by
      rcases hsame with rfl | ⟨items, items', rfl, rfl, hitems⟩
      · rfl
      · exact hitems.length_eq
    have hlengths : postings.elems.length = postings'.elems.length := by
      rw [hlength, hlength', hitems]
    apply Slice.elems_eq hlengths
    intro place hplace
    rw [hlength] at hplace
    exact h.slot_eq (hsettled.items json hjson place hplace) hread hread'

/-- The entries of settled bodies. -/
theorem SameLedger.entry_eq (hsettled : Settled members) {entry entry' : LedgerEntryWebhook}
    (hread : entry.ReadFrom (entryMembers members))
    (hread' : entry'.ReadFrom (entryMembers members')) : entry = entry' := by
  have halike : Alike entryTexts entryPointers (entryMembers members) (entryMembers members') := by
    apply hsettled.entry.alike (expands_entryEntries members)
    · intro name hname
      rw [h.entryEntries_eq hname]
      exact expands_entryEntries members' name
    · exact LedgerEntryWebhook.readable_iff.mp ⟨entry, hread⟩
    · exact LedgerEntryWebhook.readable_iff.mp ⟨entry', hread'⟩
  exact ((hread.alike_iff hread').mp halike).symm

/-- Settled bodies that differ in the values of members of other letter case are read
as one event. -/
theorem SameLedger.event_eq (hsettled : Settled members) {event event' : LedgerWebhook}
    (hread : event.ReadFrom members) (hread' : event'.ReadFrom members') : event = event' := by
  have hscalar : ∀ name ∈ ["event_id", "business_id", "business_sequence"],
      entries members name = entries members' name := by
    intro name hname
    refine SameMembers.entries_eq h distinct_ledgerNames ?_ (not_insideLedger ?_ ?_)
    · revert hname
      simp only [ledgerNames, List.mem_cons]
      tauto
    · rintro rfl
      revert hname
      decide
    · rintro rfl
      revert hname
      decide
  have heventID := field_agree overwrites_string (hsettled.scalars "event_id" (by decide))
    (hscalar _ (by decide)) hread.eventID hread'.eventID
  have hbusiness := field_agree overwrites_string (hsettled.scalars "business_id" (by decide))
    (hscalar _ (by decide)) hread.businessID hread'.businessID
  have hsequence := field_agree overwrites_int64 (hsettled.scalars "business_sequence" (by decide))
    (hscalar _ (by decide)) hread.businessSequence hread'.businessSequence
  have hentry := h.entry_eq hsettled hread.entry hread'.entry
  have hpostings : event.postings = event'.postings := by
    rcases Option.map_eq_some_iff.mp hread.postings with ⟨postings, hfield, helems⟩
    rcases Option.map_eq_some_iff.mp hread'.postings with ⟨postings', hfield', helems'⟩
    rw [← helems, ← helems', h.postings_eq hsettled hfield hfield']
  cases event
  cases event'
  simp_all

end SameLedger

end MizanSDK.Go
