import MizanSDK.Agreement.Amounts
import MizanSDK.Agreement.Members

/-!
# Ledger events in both receivers

The two validations share most of their demands on a ledger event.  Beyond the
shared ones, Go wants what its struct types can hold, and Python wants names as
they are spelled, an object for the metadata and an array for the postings.

Main results:

- Theorem `goLedger_iff`: Go accepts the events that meet the shared contract and
  what Go alone demands.
- Theorem `pyLedger_iff`: Python accepts the events that meet the shared contract
  and what Python alone demands.
-/

namespace MizanSDK.Agreement

open JsonText Checks Tally Slices Go Python

/-! ## The contract -/

/-- What a posting books under a rail and a unit. -/
abbrev Booking := (String × String) × ℤ

/-- What both receivers demand of a posting. -/
structure PostingCommon (py : Interpreter) (posting : Members) (booking : Booking) : Prop where
  rail_mem : booking.1.1 ∈ Go.rails
  rail : member posting "rail" = some (.string (Text.ofString booking.1.1))
  unit_mem : booking.1.2 ∈ Go.units
  unit : member posting "unit" = some (.string (Text.ofString booking.1.2))
  accountCode : Filled (member posting "account_code")
  amount : ∃ t, member posting "amount" = some (.string t) ∧
    canonicalInteger py (some (.str t)) = .ok true ∧ py.int t = .ok booking.2

/-- What Go alone demands of a posting. -/
structure PostingGo (posting : Members) : Prop where
  lotID : OptionalText (member posting "lot_id")
  amount : ∀ t, member posting "amount" = some (.string t) → isAscii t = true

/-- What Python alone demands of a posting. -/
def PostingPy (posting : Members) : Prop :=
  ∀ name ∈ ["rail", "unit", "account_code", "amount"],
    spelled posting name = member posting name

/-- The entry of a ledger event. -/
def entryOf (members : Members) : Members := membersOf (member members "entry")

/-- The postings of a ledger event. -/
def postingsOf (members : Members) : List Members :=
  (itemsOf (member members "postings")).map fun item => membersOf (some item)

/-- What both receivers demand of a ledger event. -/
structure LedgerCommon (py : Interpreter) (members : Members) : Prop where
  eventId : Filled (member members "event_id")
  entryId : member (entryOf members) "id" = member members "event_id"
  businessId : Filled (member members "business_id")
  businessSequence : ∃ negative digits,
    member members "business_sequence" = some (.number (.integer negative digits)) ∧
      1 ≤ signed negative digits
  entryType : ∃ type ∈ ledgerEntryTypes,
    member (entryOf members) "entry_type" = some (.string (Text.ofString type))
  entryTexts : ∀ name ∈ ["source_command", "source_event_id", "effective_at",
    "catalog_version", "policy_version"], Filled (member (entryOf members) name)
  metadata : (member (entryOf members) "metadata").isSome = true
  postings : member members "postings" = none ∨ member members "postings" = some .null ∨
    ∃ items, member members "postings" = some (.array items)
  balanced : ∃ bookings, List.Forall₂ (PostingCommon py) (postingsOf members) bookings ∧
    Balanced bookings

/-- What Go alone demands of a ledger event. -/
structure LedgerGo (members : Members) : Prop where
  businessSequence : ∀ negative digits,
    member members "business_sequence" = some (.number (.integer negative digits)) →
      isInt64 (signed negative digits) = true
  subscriptionID : OptionalText (member (entryOf members) "subscription_id")
  featureCode : OptionalText (member (entryOf members) "feature_code")
  postings : ∀ posting ∈ postingsOf members, PostingGo posting

/-- What Python alone demands of a ledger event. -/
structure LedgerPy (members : Members) : Prop where
  names : ∀ name ∈ ["event_id", "business_id", "entry", "postings"],
    spelled members name = member members name
  entryNames : ∀ name ∈ "metadata" :: requiredEntryStrings,
    spelled (entryOf members) name = member (entryOf members) name
  metadata : ∃ inner, member (entryOf members) "metadata" = some (.object inner)
  isArray : ∃ items, member members "postings" = some (.array items)
  postings : ∀ posting ∈ postingsOf members, PostingPy posting

/-! ## Postings in Go -/

/-- No name of a rail, unit or entry type is empty or has a replacement character
in it. -/
theorem plain_names :
    ∀ s ∈ Go.rails ++ Go.units ++ ledgerEntryTypes, s ≠ "" ∧ '\uFFFD' ∉ s.toList := by
  decide

/-- The members a posting is decoded from. -/
theorem decodeStruct_eq_some_iff (item : Json) (members : Members) :
    decodeStruct item [] = some members ↔
      (item = .null ∨ ∃ inner, item = .object inner) ∧ members = membersOf (some item) := by
  cases item <;> simp [decodeStruct, membersOf, eq_comm]

/-- The fields of a posting that was decoded into new memory. -/
structure DecodesPosting (members : Members) (posting : LedgerPostingWebhook) : Prop where
  rail : decoded decodeString "" (member members "rail") = some posting.rail
  accountCode :
    decoded decodeString "" (member members "account_code") = some posting.accountCode
  amount : decoded decodeString "" (member members "amount") = some posting.amount
  unit : decoded decodeString "" (member members "unit") = some posting.unit
  lotID : decoded decodePointer none (member members "lot_id") = some posting.lotID
  metadata : member members "metadata" = posting.metadata

theorem decodePosting_eq_some_iff {item : Json} (h : item.Everywhere Plain)
    (posting : LedgerPostingWebhook) :
    decodePosting item .zero = some posting ↔
      (item = .null ∨ ∃ inner, item = .object inner) ∧
        DecodesPosting (membersOf (some item)) posting := by
  have hdistinct : DistinctNames (membersOf (some item)) :=
    distinctNames_of_plain (plain_membersOf_some h)
  unfold decodePosting
  simp only [Option.bind_eq_bind, Option.bind_eq_some_iff, decodeStruct_eq_some_iff,
    LedgerPostingWebhook.zero]
  constructor
  · rintro ⟨members, ⟨hitem, rfl⟩, hfields⟩
    simp only [field_eq_decoded hdistinct, decoded_raw] at hfields
    obtain ⟨rail, hrail, account, haccount, amount, hamount, unit, hunit, lot, hlot, metadata,
      hmetadata, hposting⟩ := hfields
    obtain rfl := Option.some.inj hposting
    exact ⟨hitem, hrail, haccount, hamount, hunit, hlot, Option.some.inj hmetadata⟩
  · rintro ⟨hitem, hfields⟩
    refine ⟨_, ⟨hitem, rfl⟩, ?_⟩
    simp only [field_eq_decoded hdistinct, decoded_raw]
    exact ⟨_, hfields.rail, _, hfields.accountCode, _, hfields.amount, _, hfields.unit, _,
      hfields.lotID, _, rfl, by rw [hfields.metadata]; rfl⟩

/-- A posting Go decodes and books. -/
def GoBooks (item : Json) (booking : Booking) : Prop :=
  ∃ posting, decodePosting item .zero = some posting ∧
    posting.Books booking.2 ∧ (posting.rail, posting.unit) = booking.1

/-- Go books the postings that meet the shared contract and what Go alone
demands. -/
theorem goBooks_iff (py : Interpreter) {item : Json} (h : item.Everywhere Plain)
    (booking : Booking) :
    GoBooks item booking ↔
      PostingCommon py (membersOf (some item)) booking ∧ PostingGo (membersOf (some item)) := by
  have hnames := plain_names
  simp only [List.mem_append] at hnames
  unfold GoBooks
  simp only [decodePosting_eq_some_iff h]
  constructor
  · rintro ⟨posting, ⟨-, hfields⟩, hbooks, hkey⟩
    obtain ⟨⟨rail, unit⟩, amount⟩ := booking
    obtain ⟨rfl, rfl⟩ := Prod.mk.inj hkey
    have hrail := hnames _ (.inl (.inl hbooks.rail))
    have hunit := hnames _ (.inl (.inr hbooks.unit))
    have hamount := hbooks.amount
    -- An empty amount is no numeral.
    rcases (decoded_string_eq_some_iff _ _).mp hfields.amount with
      ⟨-, hempty⟩ | ⟨t, ht, hscalars⟩
    · have hnone : postingAmount "" = none := by decide
      rw [hempty, hnone] at hamount
      simp at hamount
    · rw [← hscalars, postingAmount_eq_some_iff py] at hamount
      refine ⟨⟨hbooks.rail, (decoded_eq_iff hrail.1 hrail.2 _).mp hfields.rail, hbooks.unit,
        (decoded_eq_iff hunit.1 hunit.2 _).mp hfields.unit,
        (decoded_filled_iff hfields.accountCode).mp hbooks.accountCode, t, ht, hamount.2⟩,
        (optionalText_iff_decoded_pointer _).mpr ⟨_, hfields.lotID⟩, ?_⟩
      intro t' ht'
      rw [ht] at ht'
      obtain rfl : t = t' := by simpa using ht'
      exact hamount.1
  · rintro ⟨hcommon, hgo⟩
    obtain ⟨t, ht, hcanonical, hint⟩ := hcommon.amount
    obtain ⟨account, haccount⟩ :=
      (optionalText_iff_decoded _).mp hcommon.accountCode.optionalText
    obtain ⟨lot, hlot⟩ := (optionalText_iff_decoded_pointer _).mp hgo.lotID
    have hrail := hnames _ (.inl (.inl hcommon.rail_mem))
    have hunit := hnames _ (.inl (.inr hcommon.unit_mem))
    have hobject : ∃ inner, item = .object inner :=
      ⟨_, Option.some.inj (eq_object_of_member hcommon.rail)⟩
    refine ⟨⟨booking.1.1, account, t.toScalars, booking.1.2, lot,
      member (membersOf (some item)) "metadata"⟩, ⟨.inr hobject, ?_⟩, ?_, rfl⟩
    · exact ⟨(decoded_eq_iff hrail.1 hrail.2 _).mpr hcommon.rail, haccount,
        (decoded_string_eq_some_iff _ _).mpr (.inr ⟨t, ht, rfl⟩),
        (decoded_eq_iff hunit.1 hunit.2 _).mpr hcommon.unit, hlot, rfl⟩
    · exact ⟨(decoded_filled_iff haccount).mpr hcommon.accountCode, hcommon.rail_mem,
        hcommon.unit_mem, (postingAmount_eq_some_iff py t _).mpr ⟨hgo.amount t ht, hcanonical,
          hint⟩⟩

/-- The key Go books a rail and a unit under. -/
def goKey (key : String × String) : String := key.1 ++ "\x00" ++ key.2

/-- Go keeps rails and units apart. -/
theorem goKey_inj : ∀ a ∈ Go.rails, ∀ b ∈ Go.units, ∀ c ∈ Go.rails, ∀ d ∈ Go.units,
    goKey (a, b) = goKey (c, d) → (a, b) = (c, d) := by
  decide

/-- A posting and what it books. -/
def BooksAs (posting : LedgerPostingWebhook) (booking : Booking) : Prop :=
  posting.Books booking.2 ∧ (posting.rail, posting.unit) = booking.1

theorem booked_of_booksAs {postings : List LedgerPostingWebhook} {bookings : List Booking}
    (h : List.Forall₂ BooksAs postings bookings) :
    Booked postings (bookings.map Prod.snd) ∧
      moves postings (bookings.map Prod.snd) = bookings.map fun m => (goKey m.1, m.2) := by
  induction h with
  | nil => exact ⟨.nil, rfl⟩
  | cons hfirst _ ih =>
      refine ⟨.cons hfirst.1 ih.1, ?_⟩
      rw [moves] at ih ⊢
      rw [List.map_cons, List.zipWith_cons_cons, ih.2, List.map_cons, ← hfirst.2]
      rfl

theorem booksAs_of_booked {postings : List LedgerPostingWebhook} {amounts : List ℤ}
    (h : Booked postings amounts) :
    ∃ bookings, List.Forall₂ BooksAs postings bookings ∧ bookings.map Prod.snd = amounts := by
  induction h with
  | nil => exact ⟨[], .nil, rfl⟩
  | cons hfirst _ ih =>
      obtain ⟨bookings, hbookings, hamounts⟩ := ih
      exact ⟨(_, _) :: bookings, .cons ⟨hfirst, rfl⟩ hbookings, by rw [List.map_cons, hamounts]⟩

theorem booksAs_mem {postings : List LedgerPostingWebhook} {bookings : List Booking}
    (h : List.Forall₂ BooksAs postings bookings) :
    ∀ booking ∈ bookings, booking.1.1 ∈ Go.rails ∧ booking.1.2 ∈ Go.units := by
  induction h with
  | nil => simp
  | cons hfirst _ ih =>
      refine List.forall_mem_cons.mpr ⟨?_, ih⟩
      rw [← hfirst.2]
      exact ⟨hfirst.1.rail, hfirst.1.unit⟩

/-- Go's balances are balances per rail and unit. -/
theorem goBalanced_iff (postings : List LedgerPostingWebhook) :
    (∃ amounts, Booked postings amounts ∧ Balanced (moves postings amounts)) ↔
      ∃ bookings, List.Forall₂ BooksAs postings bookings ∧ Balanced bookings := by
  have hkeys : ∀ bookings, List.Forall₂ BooksAs postings bookings →
      (Balanced (bookings.map fun m => (goKey m.1, m.2)) ↔ Balanced bookings) := by
    intro bookings hbookings
    have hmem := booksAs_mem hbookings
    refine balanced_map_iff fun m hm n hn hsame => ?_
    exact goKey_inj _ (hmem m hm).1 _ (hmem m hm).2 _ (hmem n hn).1 _ (hmem n hn).2 hsame
  constructor
  · rintro ⟨amounts, hbooked, hbalanced⟩
    obtain ⟨bookings, hbookings, rfl⟩ := booksAs_of_booked hbooked
    rw [(booked_of_booksAs hbookings).2, hkeys bookings hbookings] at hbalanced
    exact ⟨bookings, hbookings, hbalanced⟩
  · rintro ⟨bookings, hbookings, hbalanced⟩
    obtain ⟨hbooked, hmoves⟩ := booked_of_booksAs hbookings
    refine ⟨_, hbooked, ?_⟩
    rw [hmoves, hkeys bookings hbookings]
    exact hbalanced

/-- The postings Go decodes and balances. -/
theorem goPostings_iff (py : Interpreter) {items : List Json}
    (h : ∀ item ∈ items, item.Everywhere Plain) :
    (∃ postings, items.mapM (decodePosting · .zero) = some postings ∧
        ∃ amounts, Booked postings amounts ∧ Balanced (moves postings amounts)) ↔
      (∃ bookings, List.Forall₂ (PostingCommon py)
          (items.map fun item => membersOf (some item)) bookings ∧ Balanced bookings) ∧
        ∀ posting ∈ items.map fun item => membersOf (some item), PostingGo posting := by
  have hbooks : ∀ bookings, List.Forall₂ GoBooks items bookings ↔
      List.Forall₂ (PostingCommon py) (items.map fun item => membersOf (some item)) bookings ∧
        ∀ posting ∈ items.map fun item => membersOf (some item), PostingGo posting := by
    intro bookings
    rw [forall₂_congr_mem (fun item hitem booking => goBooks_iff py (h item hitem) booking),
      List.forall₂_map_left_iff, List.forall_mem_map, and_comm, ← List.forall₂_and_left]
    refine forall₂_congr_mem (fun item _ booking => ?_) bookings
    rw [and_comm]
  simp only [mapM_eq_some_iff, goBalanced_iff]
  constructor
  · rintro ⟨postings, hdecodes, bookings, hbookings, hbalanced⟩
    have hgo : List.Forall₂ GoBooks items bookings :=
      (forall₂_comp_iff items bookings).mpr ⟨postings, hdecodes, hbookings⟩
    rw [hbooks] at hgo
    exact ⟨⟨bookings, hgo.1, hbalanced⟩, hgo.2⟩
  · rintro ⟨⟨bookings, hcommon, hbalanced⟩, hgo⟩
    obtain ⟨postings, hdecodes, hbookings⟩ :=
      (forall₂_comp_iff items bookings).mp ((hbooks bookings).mpr ⟨hcommon, hgo⟩)
    exact ⟨postings, hdecodes, bookings, hbookings, hbalanced⟩

/-! ## Ledger events in Go -/

/-- The fields of a decoded entry. -/
structure DecodesEntry (members : Members) (entry : LedgerEntryWebhook) : Prop where
  id : decoded decodeString "" (member members "id") = some entry.id
  entryType : decoded decodeString "" (member members "entry_type") = some entry.entryType
  sourceCommand :
    decoded decodeString "" (member members "source_command") = some entry.sourceCommand
  sourceEventID :
    decoded decodeString "" (member members "source_event_id") = some entry.sourceEventID
  subscriptionID :
    decoded decodePointer none (member members "subscription_id") = some entry.subscriptionID
  featureCode :
    decoded decodePointer none (member members "feature_code") = some entry.featureCode
  effectiveAt :
    decoded decodeString "" (member members "effective_at") = some entry.effectiveAt
  catalogVersion :
    decoded decodeString "" (member members "catalog_version") = some entry.catalogVersion
  policyVersion :
    decoded decodeString "" (member members "policy_version") = some entry.policyVersion
  metadata : member members "metadata" = entry.metadata

theorem decodeEntry_eq_some_iff {members : Members} (h : DistinctNames members)
    (entry : LedgerEntryWebhook) :
    decodeEntry members = some entry ↔ DecodesEntry members entry := by
  unfold decodeEntry
  simp only [Option.bind_eq_bind, Option.bind_eq_some_iff, field_eq_decoded h, decoded_raw]
  constructor
  · rintro ⟨id, hid, type, htype, command, hcommand, event, hevent, subscription,
      hsubscription, feature, hfeature, effective, heffective, catalog, hcatalog, policy,
      hpolicy, metadata, hmetadata, hentry⟩
    obtain rfl := Option.some.inj hentry
    exact ⟨hid, htype, hcommand, hevent, hsubscription, hfeature, heffective, hcatalog,
      hpolicy, Option.some.inj hmetadata⟩
  · intro hentry
    exact ⟨_, hentry.id, _, hentry.entryType, _, hentry.sourceCommand, _,
      hentry.sourceEventID, _, hentry.subscriptionID, _, hentry.featureCode, _,
      hentry.effectiveAt, _, hentry.catalogVersion, _, hentry.policyVersion, _, rfl,
      by rw [hentry.metadata]; rfl⟩

/-- What the slice of postings receives from a body that names them once at most. -/
theorem decoded_postings_eq_some_iff (v : Option Json) (elems : List LedgerPostingWebhook) :
    (∃ postings, decoded decodePostings .empty v = some postings ∧ postings.elems = elems) ↔
      (v = none ∨ v = some .null ∨ ∃ items, v = some (.array items)) ∧
        (itemsOf v).mapM (decodePosting · .zero) = some elems := by
  cases v with
  | none => simp [decoded, itemsOf, Slice.empty, eq_comm]
  | some json =>
      cases json with
      | array items => simp [decoded, decodePostings, itemsOf, refill_empty]
      | _ => simp [decoded, decodePostings, itemsOf, Slice.empty, eq_comm]

/-- The fields of a decoded ledger event. -/
structure DecodesLedger (members : Members) (event : LedgerWebhook) : Prop where
  eventID : decoded decodeString "" (member members "event_id") = some event.eventID
  businessID : decoded decodeString "" (member members "business_id") = some event.businessID
  businessSequence :
    decoded decodeInt64 0 (member members "business_sequence") = some event.businessSequence
  isEntry : member members "entry" = none ∨ member members "entry" = some .null ∨
    ∃ inner, member members "entry" = some (.object inner)
  entry : DecodesEntry (entryOf members) event.entry
  isPostings : member members "postings" = none ∨ member members "postings" = some .null ∨
    ∃ items, member members "postings" = some (.array items)
  postings : (itemsOf (member members "postings")).mapM (decodePosting · .zero) =
    some event.postings

theorem decodeLedgerWebhook_eq_some_iff {members : Members}
    (h : (Json.object members).Everywhere Plain) (event : LedgerWebhook) :
    decodeLedgerWebhook members = some event ↔ DecodesLedger members event := by
  have hdistinct := distinctNames_of_plain h
  have hentryDistinct : DistinctNames (entryOf members) :=
    distinctNames_of_plain (plain_membersOf h "entry")
  unfold decodeLedgerWebhook
  simp only [Option.bind_eq_bind, Option.bind_eq_some_iff, field_eq_decoded hdistinct,
    decoded_struct_eq_some_iff]
  constructor
  · rintro ⟨eventID, hevent, business, hbusiness, sequence, hsequence, _, ⟨hisEntry, rfl⟩,
      entry, hentry, postings, hdecoded, hresult⟩
    obtain rfl := Option.some.inj hresult
    obtain ⟨hisPostings, hpostings⟩ :=
      (decoded_postings_eq_some_iff _ _).mp ⟨postings, hdecoded, rfl⟩
    exact ⟨hevent, hbusiness, hsequence, hisEntry,
      (decodeEntry_eq_some_iff hentryDistinct entry).mp hentry, hisPostings, hpostings⟩
  · intro hledger
    obtain ⟨postings, hdecoded, helems⟩ :=
      (decoded_postings_eq_some_iff _ _).mpr ⟨hledger.isPostings, hledger.postings⟩
    refine ⟨_, hledger.eventID, _, hledger.businessID, _, hledger.businessSequence, _,
      ⟨hledger.isEntry, rfl⟩, _, (decodeEntry_eq_some_iff hentryDistinct _).mpr hledger.entry,
      postings, hdecoded, ?_⟩
    rw [helems]
    rfl

section AcceptedByGo

variable {members : Members} {event : LedgerWebhook} (h : (Json.object members).Everywhere Plain)
  (hdecodes : DecodesLedger members event) (hvalid : event.Valid)

include h hdecodes hvalid in
/-- The two identifiers of an accepted event are the same text. -/
theorem DecodesLedger.entryId_eq :
    member (entryOf members) "id" = member members "event_id" := by
  have hid : event.entry.id ≠ "" := hvalid.entryID ▸ hvalid.eventID
  exact eq_of_decoded_string (fun _ hjson => plain_member (plain_membersOf h "entry") hjson)
    (fun _ hjson => plain_member h hjson) hid hdecodes.entry.id
    (hvalid.entryID ▸ hdecodes.eventID)

include hdecodes hvalid in
/-- The sequence of an accepted event is an integer in range. -/
theorem DecodesLedger.sequence_eq : ∃ negative digits,
    member members "business_sequence" = some (.number (.integer negative digits)) ∧
      signed negative digits = event.businessSequence ∧
      isInt64 event.businessSequence = true := by
  rcases (decoded_int64_eq_some_iff _ _).mp hdecodes.businessSequence with
    ⟨-, hzero⟩ | hinteger
  · have hpositive := hvalid.businessSequence
    omega
  · exact hinteger

include h hdecodes hvalid in
/-- The events Go accepts meet the shared contract and what Go alone demands. -/
theorem DecodesLedger.meets (py : Interpreter) : LedgerCommon py members ∧ LedgerGo members := by
  have hnames := plain_names
  simp only [List.mem_append] at hnames
  have hentry := hdecodes.entry
  have htype := hnames _ (.inr hvalid.entryType)
  obtain ⟨hcommon, hgo⟩ := (goPostings_iff py fun item hitem => plain_itemsOf h "postings" hitem).mp
    ⟨event.postings, hdecodes.postings, hvalid.postings⟩
  obtain ⟨negative, digits, hinteger, hvalue, hrange⟩ := hdecodes.sequence_eq hvalid
  constructor
  · exact
      { eventId := (decoded_filled_iff hdecodes.eventID).mp hvalid.eventID
        entryId := hdecodes.entryId_eq h hvalid
        businessId := (decoded_filled_iff hdecodes.businessID).mp hvalid.businessID
        businessSequence := ⟨negative, digits, hinteger, hvalue ▸ hvalid.businessSequence⟩
        entryType := ⟨_, hvalid.entryType,
          (decoded_eq_iff htype.1 htype.2 _).mp hentry.entryType⟩
        entryTexts := by
          simp only [List.forall_mem_cons]
          exact ⟨(decoded_filled_iff hentry.sourceCommand).mp hvalid.sourceCommand,
            (decoded_filled_iff hentry.sourceEventID).mp hvalid.sourceEventID,
            (decoded_filled_iff hentry.effectiveAt).mp hvalid.effectiveAt,
            (decoded_filled_iff hentry.catalogVersion).mp hvalid.catalogVersion,
            (decoded_filled_iff hentry.policyVersion).mp hvalid.policyVersion, by simp⟩
        metadata := hentry.metadata ▸ hvalid.metadata
        postings := hdecodes.isPostings
        balanced := hcommon }
  · refine ⟨?_, (optionalText_iff_decoded_pointer _).mpr ⟨_, hentry.subscriptionID⟩,
      (optionalText_iff_decoded_pointer _).mpr ⟨_, hentry.featureCode⟩, hgo⟩
    intro negative' digits' hinteger'
    rw [hinteger] at hinteger'
    obtain ⟨rfl, rfl⟩ : negative = negative' ∧ digits = digits' := by
      simpa using hinteger'
    rw [hvalue]
    exact hrange

end AcceptedByGo

section MeetingGo

variable {py : Interpreter} {members : Members} (hcommon : LedgerCommon py members)
  (hgo : LedgerGo members)
include hcommon hgo

/-- The entry of an event that meets these demands, as Go decodes it. -/
theorem exists_decodesEntry {eventID : String}
    (heventID : decoded decodeString "" (member members "event_id") = some eventID) :
    ∃ entry, DecodesEntry (entryOf members) entry ∧ entry.id = eventID ∧
      entry.entryType ∈ ledgerEntryTypes ∧ entry.sourceCommand ≠ "" ∧
      entry.sourceEventID ≠ "" ∧ entry.effectiveAt ≠ "" ∧ entry.catalogVersion ≠ "" ∧
      entry.policyVersion ≠ "" ∧ entry.metadata.isSome = true := by
  have hnames := plain_names
  simp only [List.mem_append] at hnames
  obtain ⟨type, htypeMem, htype⟩ := hcommon.entryType
  have htypeNames := hnames _ (.inr htypeMem)
  have htexts := hcommon.entryTexts
  simp only [List.forall_mem_cons] at htexts
  obtain ⟨hcommand, hsource, heffective, hcatalog, hpolicy, -⟩ := htexts
  obtain ⟨command, hcommand'⟩ := (optionalText_iff_decoded _).mp hcommand.optionalText
  obtain ⟨source, hsource'⟩ := (optionalText_iff_decoded _).mp hsource.optionalText
  obtain ⟨effective, heffective'⟩ := (optionalText_iff_decoded _).mp heffective.optionalText
  obtain ⟨catalog, hcatalog'⟩ := (optionalText_iff_decoded _).mp hcatalog.optionalText
  obtain ⟨policy, hpolicy'⟩ := (optionalText_iff_decoded _).mp hpolicy.optionalText
  obtain ⟨subscription, hsubscription⟩ :=
    (optionalText_iff_decoded_pointer _).mp hgo.subscriptionID
  obtain ⟨feature, hfeature⟩ := (optionalText_iff_decoded_pointer _).mp hgo.featureCode
  have hid : decoded decodeString "" (member (entryOf members) "id") = some eventID := by
    rw [hcommon.entryId]
    exact heventID
  refine ⟨⟨eventID, type, command, source, subscription, feature, effective, catalog, policy,
    member (entryOf members) "metadata"⟩, ?_, rfl, htypeMem, ?_⟩
  · exact ⟨hid, (decoded_eq_iff htypeNames.1 htypeNames.2 _).mpr htype,
      hcommand', hsource', hsubscription, hfeature, heffective', hcatalog', hpolicy', rfl⟩
  · exact ⟨(decoded_filled_iff hcommand').mpr hcommand, (decoded_filled_iff hsource').mpr hsource,
      (decoded_filled_iff heffective').mpr heffective,
      (decoded_filled_iff hcatalog').mpr hcatalog, (decoded_filled_iff hpolicy').mpr hpolicy,
      hcommon.metadata⟩

/-- An event that meets these demands is decoded and accepted by Go. -/
theorem exists_decodesLedger (h : (Json.object members).Everywhere Plain) :
    ∃ event, DecodesLedger members event ∧ event.Valid := by
  obtain ⟨eventID, heventID⟩ := (optionalText_iff_decoded _).mp hcommon.eventId.optionalText
  obtain ⟨businessID, hbusinessID⟩ :=
    (optionalText_iff_decoded _).mp hcommon.businessId.optionalText
  obtain ⟨negative, digits, hinteger, hpositive⟩ := hcommon.businessSequence
  obtain ⟨type, -, htype⟩ := hcommon.entryType
  obtain ⟨entry, hentry, hid, hentryType, hcommand, hsource, heffective, hcatalog, hpolicy,
    hmetadata⟩ := exists_decodesEntry hcommon hgo heventID
  obtain ⟨postings, hpostings, hbalanced⟩ :=
    (goPostings_iff py fun item hitem => plain_itemsOf h "postings" hitem).mpr
      ⟨hcommon.balanced, hgo.postings⟩
  refine ⟨⟨eventID, businessID, signed negative digits, entry, postings⟩, ?_, ?_⟩
  · exact
      { eventID := heventID
        businessID := hbusinessID
        businessSequence := (decoded_int64_eq_some_iff _ _).mpr
          (.inr ⟨negative, digits, hinteger, rfl, hgo.businessSequence negative digits hinteger⟩)
        isEntry := .inr (.inr ⟨_, eq_object_of_member htype⟩)
        entry := hentry
        isPostings := hcommon.postings
        postings := hpostings }
  · exact
      { eventID := (decoded_filled_iff heventID).mpr hcommon.eventId
        entryID := hid.symm
        businessID := (decoded_filled_iff hbusinessID).mpr hcommon.businessId
        businessSequence := hpositive
        entryType := hentryType
        sourceCommand := hcommand
        sourceEventID := hsource
        effectiveAt := heffective
        catalogVersion := hcatalog
        policyVersion := hpolicy
        metadata := hmetadata
        postings := hbalanced }

end MeetingGo

/-- Go accepts the events that meet the shared contract and what Go alone
demands. -/
theorem goLedger_iff (py : Interpreter) {members : Members}
    (h : (Json.object members).Everywhere Plain) :
    (∃ event, decodeLedgerWebhook members = some event ∧
        validateLedgerWebhook event = none) ↔
      LedgerCommon py members ∧ LedgerGo members := by
  simp only [decodeLedgerWebhook_eq_some_iff h, validateLedgerWebhook_eq_none_iff]
  constructor
  · rintro ⟨event, hdecodes, hvalid⟩
    exact hdecodes.meets h hvalid py
  · rintro ⟨hcommon, hgo⟩
    exact exists_decodesLedger hcommon hgo h

/-! ## Postings in Python -/

/-- The key Python books a rail and a unit under. -/
def pyKey (key : String × String) : PyStr × PyStr := (str key.1, str key.2)

theorem pyKey_inj {k l : String × String} (h : pyKey k = pyKey l) : k = l := by
  obtain ⟨hfirst, hsecond⟩ := Prod.mk.inj h
  exact Prod.ext (Text.ofString_inj.mp hfirst) (Text.ofString_inj.mp hsecond)

/-- Only texts are amounts. -/
theorem exists_str_of_canonicalInteger {py : Interpreter} {v : Option PyValue}
    (h : canonicalInteger py v = .ok true) : ∃ t, v = some (.str t) := by
  unfold canonicalInteger at h
  split at h
  · exact ⟨_, rfl⟩
  · simp at h

/-- Python books the postings that meet the shared contract and what Python alone
demands. -/
theorem pyBooks_iff (py : Interpreter) {item : Json} (h : item.Everywhere Plain)
    (booking : Booking) :
    bookPosting py (PyValue.ofJson item) = .ok (pyKey booking.1, booking.2) ↔
      PostingCommon py (membersOf (some item)) booking ∧ PostingPy (membersOf (some item)) := by
  obtain ⟨key, amount⟩ := booking
  simp only [bookPosting_eq_ok_iff, PyValue.ofJson_eq_dict_iff]
  constructor
  · rintro ⟨_, ⟨inner, rfl, rfl⟩, hbooks⟩
    have hdistinct : DistinctNames inner := h.self
    obtain ⟨rail, hrailMem, hrail⟩ := hbooks.rail
    obtain ⟨unit, hunitMem, hunit⟩ := hbooks.unit
    obtain ⟨t, ht⟩ := exists_str_of_canonicalInteger hbooks.canonical
    have haccount := (filled_ofMembers_iff inner "account_code").mp hbooks.accountCode
    have hcanonical := hbooks.canonical
    have hamount := hbooks.amount
    have hkey := hbooks.key
    rw [ht] at hcanonical
    rw [PyDict.text_eq ht] at hamount
    rw [PyDict.text_eq hrail, PyDict.text_eq hunit] at hkey
    obtain rfl : key = (rail, unit) := pyKey_inj hkey
    rw [get_eq_str_iff] at hrail hunit ht
    have hfound : ∀ {name json}, spelled inner name = some json →
        member inner name = some json := fun hname => member_of_spelled hdistinct hname
    obtain ⟨u, hu, hne⟩ := haccount
    refine ⟨⟨hrailMem, hfound hrail, hunitMem, hfound hunit, ⟨u, hfound hu, hne⟩, t,
      hfound ht, hcanonical, hamount⟩, ?_⟩
    simp only [PostingPy, List.forall_mem_cons, membersOf]
    exact ⟨spelled_eq_member_of_some hdistinct hrail, spelled_eq_member_of_some hdistinct hunit,
      spelled_eq_member_of_some hdistinct hu, spelled_eq_member_of_some hdistinct ht, by simp⟩
  · rintro ⟨hcommon, hpy⟩
    obtain ⟨inner, rfl⟩ : ∃ inner, item = .object inner :=
      ⟨_, Option.some.inj (eq_object_of_member hcommon.rail)⟩
    simp only [PostingPy, List.forall_mem_cons, membersOf] at hpy
    obtain ⟨hrail, hunit, haccount, hamount, -⟩ := hpy
    obtain ⟨t, ht, hcanonical, hint⟩ := hcommon.amount
    have hrail' := (get_eq_str_iff inner "rail" _).mpr (hrail.trans hcommon.rail)
    have hunit' := (get_eq_str_iff inner "unit" _).mpr (hunit.trans hcommon.unit)
    have hamount' := (get_eq_str_iff inner "amount" _).mpr (hamount.trans ht)
    have haccount' : Filled (spelled inner "account_code") := haccount ▸ hcommon.accountCode
    exact ⟨_, ⟨inner, rfl, rfl⟩,
      { rail := ⟨_, hcommon.rail_mem, hrail'⟩
        unit := ⟨_, hcommon.unit_mem, hunit'⟩
        accountCode := (filled_ofMembers_iff inner "account_code").mpr haccount'
        canonical := hamount' ▸ hcanonical
        amount := by rw [PyDict.text_eq hamount']; exact hint
        key := by rw [PyDict.text_eq hrail', PyDict.text_eq hunit']; rfl }⟩

/-- Python's keys are texts of rails and units. -/
theorem exists_booking_of_bookPosting {py : Interpreter} {item : Json} {move : Move}
    (h : bookPosting py (PyValue.ofJson item) = .ok move) :
    ∃ booking : Booking, move = (pyKey booking.1, booking.2) := by
  obtain ⟨members, -, hbooks⟩ := (bookPosting_eq_ok_iff py _ _).mp h
  obtain ⟨rail, -, hrail⟩ := hbooks.rail
  obtain ⟨unit, -, hunit⟩ := hbooks.unit
  have hkey := hbooks.key
  rw [PyDict.text_eq hrail, PyDict.text_eq hunit] at hkey
  exact ⟨((rail, unit), move.2), Prod.ext hkey rfl⟩

theorem exists_bookings_of_forall₂ {py : Interpreter} {items : List Json} {moves : List Move}
    (h : List.Forall₂ (fun posting move => bookPosting py posting = .ok move)
      (PyValue.ofItems items) moves) :
    ∃ bookings : List Booking, moves = bookings.map fun b => (pyKey b.1, b.2) := by
  induction items generalizing moves with
  | nil =>
      cases h
      exact ⟨[], rfl⟩
  | cons item items ih =>
      cases h with
      | cons hfirst hrest =>
          obtain ⟨booking, rfl⟩ := exists_booking_of_bookPosting hfirst
          obtain ⟨bookings, rfl⟩ := ih hrest
          exact ⟨booking :: bookings, rfl⟩

/-- The postings Python books and balances. -/
theorem pyPostings_iff (py : Interpreter) {items : List Json}
    (h : ∀ item ∈ items, item.Everywhere Plain) :
    (∃ moves, List.Forall₂ (fun posting move => bookPosting py posting = .ok move)
        (PyValue.ofItems items) moves ∧ Balanced moves) ↔
      (∃ bookings, List.Forall₂ (PostingCommon py)
          (items.map fun item => membersOf (some item)) bookings ∧ Balanced bookings) ∧
        ∀ posting ∈ items.map fun item => membersOf (some item), PostingPy posting := by
  have hbooks : ∀ bookings : List Booking,
      List.Forall₂ (fun posting move => bookPosting py posting = .ok move)
          (PyValue.ofItems items) (bookings.map fun b => (pyKey b.1, b.2)) ↔
        List.Forall₂ (PostingCommon py) (items.map fun item => membersOf (some item))
            bookings ∧
          ∀ posting ∈ items.map fun item => membersOf (some item), PostingPy posting := by
    intro bookings
    rw [PyValue.ofItems_eq_map, List.forall₂_map_left_iff, List.forall₂_map_right_iff,
      forall₂_congr_mem (fun item hitem booking => pyBooks_iff py (h item hitem) booking),
      List.forall₂_map_left_iff, List.forall_mem_map, and_comm, ← List.forall₂_and_left]
    refine forall₂_congr_mem (fun item _ booking => ?_) bookings
    rw [and_comm]
  have hbalanced : ∀ bookings : List Booking,
      Balanced (bookings.map fun b => (pyKey b.1, b.2)) ↔ Balanced bookings :=
    fun bookings => balanced_map_iff fun _ _ _ _ hsame => pyKey_inj hsame
  constructor
  · rintro ⟨moves, hmoves, hsettled⟩
    obtain ⟨bookings, rfl⟩ := exists_bookings_of_forall₂ hmoves
    rw [hbooks] at hmoves
    exact ⟨⟨bookings, hmoves.1, (hbalanced bookings).mp hsettled⟩, hmoves.2⟩
  · rintro ⟨⟨bookings, hcommon, hsettled⟩, hpy⟩
    exact ⟨_, (hbooks bookings).mpr ⟨hcommon, hpy⟩, (hbalanced bookings).mpr hsettled⟩

/-! ## Ledger events in Python -/

/-- What Python asks of a document before it comes to the postings, with names as
they are spelled. -/
structure SpelledFields (members inner : Members) (items : List Json) : Prop where
  eventId : ∃ t, spelled members "event_id" = some (.string t) ∧ t ≠ [] ∧
    spelled inner "id" = some (.string t)
  businessId : Filled (spelled members "business_id")
  businessSequence : ∃ negative digits,
    spelled members "business_sequence" = some (.number (.integer negative digits)) ∧
      1 ≤ signed negative digits
  isEntry : spelled members "entry" = some (.object inner)
  entryStrings : ∀ name ∈ requiredEntryStrings, Filled (spelled inner name)
  entryType : ∃ type ∈ ledgerTypes,
    spelled inner "entry_type" = some (.string (Text.ofString type))
  metadata : ∃ metadata, spelled inner "metadata" = some (.object metadata)
  isPostings : spelled members "postings" = some (.array items)

/-- The checks before the postings, read off the document. -/
theorem ledgerFields_ofMembers_iff (members : Members) (entry : PyDict)
    (postings : List PyValue) :
    LedgerFields (PyValue.ofMembers members) entry postings ↔
      ∃ inner items, PyValue.ofMembers inner = entry ∧ PyValue.ofItems items = postings ∧
        SpelledFields members inner items := by
  constructor
  · intro hfields
    obtain ⟨t, ht, htNe⟩ := (filled_ofMembers_iff _ _).mp hfields.eventId
    obtain ⟨n, hn, hpositive⟩ := hfields.businessSequence
    obtain ⟨negative, digits, hinteger, rfl⟩ := (get_eq_int_iff _ _ _).mp hn
    obtain ⟨inner, hinner, rfl⟩ := (get_eq_dict_iff _ _ _).mp hfields.isEntry
    obtain ⟨items, harray, rfl⟩ := (get_eq_list_iff _ _ _).mp hfields.isPostings
    obtain ⟨type, htypeMem, htype⟩ := hfields.entryType
    obtain ⟨_, hmetadata⟩ := hfields.metadata
    obtain ⟨metadata, hmetadata, -⟩ := (get_eq_dict_iff _ _ _).mp hmetadata
    have hid := hfields.entryId
    rw [PyDict.text_eq ((get_eq_str_iff _ _ _).mpr ht), get_eq_str_iff] at hid
    exact ⟨inner, items, rfl, rfl,
      { eventId := ⟨t, ht, htNe, hid⟩
        businessId := (filled_ofMembers_iff _ _).mp hfields.businessId
        businessSequence := ⟨negative, digits, hinteger, hpositive⟩
        isEntry := hinner
        entryStrings := fun name hname =>
          (filled_ofMembers_iff _ _).mp (hfields.entryStrings name hname)
        entryType := ⟨type, htypeMem, (get_eq_str_iff _ _ _).mp htype⟩
        metadata := ⟨metadata, hmetadata⟩
        isPostings := harray }⟩
  · rintro ⟨inner, items, rfl, rfl, hfields⟩
    obtain ⟨t, ht, htNe, hid⟩ := hfields.eventId
    obtain ⟨negative, digits, hinteger, hpositive⟩ := hfields.businessSequence
    obtain ⟨type, htypeMem, htype⟩ := hfields.entryType
    obtain ⟨metadata, hmetadata⟩ := hfields.metadata
    exact
      { eventId := (filled_ofMembers_iff _ _).mpr ⟨t, ht, htNe⟩
        businessId := (filled_ofMembers_iff _ _).mpr hfields.businessId
        businessSequence :=
          ⟨_, (get_eq_int_iff _ _ _).mpr ⟨negative, digits, hinteger, rfl⟩, hpositive⟩
        isEntry := (get_eq_dict_iff _ _ _).mpr ⟨inner, hfields.isEntry, rfl⟩
        entryId := by
          rw [PyDict.text_eq ((get_eq_str_iff _ _ _).mpr ht)]
          exact (get_eq_str_iff _ _ _).mpr hid
        entryStrings := fun name hname =>
          (filled_ofMembers_iff _ _).mpr (hfields.entryStrings name hname)
        entryType := ⟨type, htypeMem, (get_eq_str_iff _ _ _).mpr htype⟩
        metadata := ⟨_, (get_eq_dict_iff _ _ _).mpr ⟨metadata, hmetadata, rfl⟩⟩
        isPostings := (get_eq_list_iff _ _ _).mpr ⟨items, hfields.isPostings, rfl⟩ }

section AcceptedByPython

variable {members inner : Members} {items : List Json}
  (h : (Json.object members).Everywhere Plain) (hfields : SpelledFields members inner items)
include h hfields

theorem SpelledFields.entryOf_eq : entryOf members = inner := by
  rw [entryOf, member_of_spelled (distinctNames_of_plain h) hfields.isEntry, membersOf]

theorem SpelledFields.itemsOf_eq : itemsOf (member members "postings") = items := by
  rw [member_of_spelled (distinctNames_of_plain h) hfields.isPostings, itemsOf]

/-- With postings that do, the events Python accepts meet the shared contract and
what Python alone demands. -/
theorem SpelledFields.meets {py : Interpreter}
    (hbalanced : ∃ bookings, List.Forall₂ (PostingCommon py) (postingsOf members) bookings ∧
      Balanced bookings)
    (hpostings : ∀ posting ∈ postingsOf members, PostingPy posting) :
    LedgerCommon py members ∧ LedgerPy members := by
  have hdistinct := distinctNames_of_plain h
  have hentry := hfields.entryOf_eq h
  have hinnerDistinct : DistinctNames inner :=
    hentry ▸ distinctNames_of_plain (plain_membersOf h "entry")
  obtain ⟨t, ht, htNe, hid⟩ := hfields.eventId
  obtain ⟨b, hb, hbNe⟩ := hfields.businessId
  obtain ⟨negative, digits, hinteger, hpositive⟩ := hfields.businessSequence
  obtain ⟨type, htypeMem, htype⟩ := hfields.entryType
  obtain ⟨metadata, hmetadata⟩ := hfields.metadata
  have hnames : ∀ name ∈ requiredEntryStrings, spelled inner name = member inner name := by
    intro name hname
    obtain ⟨u, hu, -⟩ := hfields.entryStrings name hname
    exact spelled_eq_member_of_some hinnerDistinct hu
  have hmetadata' := member_of_spelled hinnerDistinct hmetadata
  have harray := member_of_spelled hdistinct hfields.isPostings
  constructor
  · exact
      { eventId := ⟨t, member_of_spelled hdistinct ht, htNe⟩
        entryId := by
          rw [hentry, member_of_spelled hinnerDistinct hid, member_of_spelled hdistinct ht]
        businessId := ⟨b, member_of_spelled hdistinct hb, hbNe⟩
        businessSequence :=
          ⟨negative, digits, member_of_spelled hdistinct hinteger, hpositive⟩
        entryType := ⟨type, htypeMem, hentry ▸ member_of_spelled hinnerDistinct htype⟩
        entryTexts := by
          intro name hname
          have hrequired : name ∈ requiredEntryStrings := by
            simp only [requiredEntryStrings, List.mem_cons] at hname ⊢
            tauto
          rw [hentry, ← hnames name hrequired]
          exact hfields.entryStrings name hrequired
        metadata := by rw [hentry, hmetadata']; rfl
        postings := .inr (.inr ⟨items, harray⟩)
        balanced := hbalanced }
  · exact
      { names := by
          simp only [List.forall_mem_cons]
          exact ⟨spelled_eq_member_of_some hdistinct ht, spelled_eq_member_of_some hdistinct hb,
            spelled_eq_member_of_some hdistinct hfields.isEntry,
            spelled_eq_member_of_some hdistinct hfields.isPostings, by simp⟩
        entryNames := by
          rw [hentry, List.forall_mem_cons]
          exact ⟨spelled_eq_member_of_some hinnerDistinct hmetadata, hnames⟩
        metadata := ⟨metadata, hentry ▸ hmetadata'⟩
        isArray := ⟨items, harray⟩
        postings := hpostings }

end AcceptedByPython

/-- An event that meets these demands passes the checks before the postings. -/
theorem exists_spelledFields {py : Interpreter} {members : Members}
    (hcommon : LedgerCommon py members) (hpy : LedgerPy members)
    (hsequence : spelled members "business_sequence" = member members "business_sequence") :
    ∃ items, SpelledFields members (entryOf members) items := by
  have hnames := hpy.names
  simp only [List.forall_mem_cons] at hnames
  obtain ⟨hevent, hbusiness, hentry, hpostings, -⟩ := hnames
  have hentryNames := hpy.entryNames
  rw [List.forall_mem_cons] at hentryNames
  obtain ⟨items, harray⟩ := hpy.isArray
  obtain ⟨negative, digits, hinteger, hpositive⟩ := hcommon.businessSequence
  obtain ⟨type, htypeMem, htype⟩ := hcommon.entryType
  obtain ⟨metadata, hmetadata⟩ := hpy.metadata
  obtain ⟨t, ht, htNe⟩ := hcommon.eventId
  have hid : spelled (entryOf members) "id" = some (.string t) := by
    rw [hentryNames.2 "id" (by decide), hcommon.entryId, ht]
  have htypeSpelled : spelled (entryOf members) "entry_type" =
      some (.string (Text.ofString type)) :=
    (hentryNames.2 "entry_type" (by decide)).trans htype
  refine ⟨items, ?_⟩
  exact
    { eventId := ⟨t, hevent.trans ht, htNe, hid⟩
      businessId := hbusiness ▸ hcommon.businessId
      businessSequence := ⟨negative, digits, hsequence.trans hinteger, hpositive⟩
      isEntry := hentry.trans (eq_object_of_member htype)
      entryStrings := by
        intro name hname
        simp only [requiredEntryStrings, List.mem_cons, List.not_mem_nil, or_false] at hname
        rcases hname with rfl | rfl | hname
        · exact ⟨t, hid, htNe⟩
        · exact ⟨_, htypeSpelled, by
            rw [Ne, Text.ofString_eq_nil]
            exact (plain_names _ (List.mem_append_right _ htypeMem)).1⟩
        · rw [hentryNames.2 name (by
            simp only [requiredEntryStrings, List.mem_cons, List.not_mem_nil, or_false]
            exact .inr (.inr hname))]
          refine hcommon.entryTexts name ?_
          simp only [List.mem_cons, List.not_mem_nil, or_false]
          exact hname
      entryType := ⟨type, htypeMem, htypeSpelled⟩
      metadata := ⟨metadata, hentryNames.1.trans hmetadata⟩
      isPostings := hpostings.trans harray }

/-- Python accepts the events that meet the shared contract and what Python alone
demands. -/
theorem pyLedger_iff (py : Interpreter) {members : Members}
    (h : (Json.object members).Everywhere Plain)
    (hstream : (spelled members "business_sequence").isSome = true) :
    validateLedger py (PyValue.ofMembers members) = .ok () ↔
      LedgerCommon py members ∧ LedgerPy members := by
  have hpostings : ∀ inner items, SpelledFields members inner items →
      ((∃ moves, List.Forall₂ (fun posting move => bookPosting py posting = .ok move)
          (PyValue.ofItems items) moves ∧ Balanced moves) ↔
        (∃ bookings, List.Forall₂ (PostingCommon py) (postingsOf members) bookings ∧
            Balanced bookings) ∧ ∀ posting ∈ postingsOf members, PostingPy posting) := by
    intro inner items hfields
    rw [postingsOf, hfields.itemsOf_eq h]
    exact pyPostings_iff py fun item hitem =>
      plain_itemsOf h "postings" ((hfields.itemsOf_eq h).symm ▸ hitem)
  rw [validateLedger_eq_ok_iff]
  constructor
  · rintro ⟨entry, postings, moves, hread, hmoves, hbalanced⟩
    obtain ⟨inner, items, rfl, rfl, hfields⟩ := (ledgerFields_ofMembers_iff _ _ _).mp hread
    obtain ⟨hbooked, hspelled⟩ := (hpostings inner items hfields).mp ⟨moves, hmoves, hbalanced⟩
    exact hfields.meets h hbooked hspelled
  · rintro ⟨hcommon, hpy⟩
    obtain ⟨items, hfields⟩ := exists_spelledFields hcommon hpy
      (spelled_eq_member (distinctNames_of_plain h) hstream)
    obtain ⟨moves, hmoves, hbalanced⟩ :=
      (hpostings _ items hfields).mpr ⟨hcommon.balanced, hpy.postings⟩
    exact ⟨_, _, moves, (ledgerFields_ofMembers_iff _ _ _).mpr ⟨_, items, rfl, rfl, hfields⟩,
      hmoves, hbalanced⟩

end MizanSDK.Agreement
