import MizanSDK.Go.Runtime
import MizanSDK.Library.Decimal
import MizanSDK.Library.Slices
import MizanSDK.Library.Tally

/-!
# The Go webhook receiver

`webhooks.go`: the decoding of the two event types, their validation, and
`Receive`.  A callback is a function that returns nil or an error; a run keeps
the callbacks it invoked next to the response it returns.

Main results:

- Theorem `validatePostings_eq_ok_iff`: the loop over the postings accepts those
  that each match the contract, and then holds their running balances.
- Theorem `validateLedgerWebhook_eq_none_iff`: which ledger events pass.
- Theorem `validateNotificationWebhook_eq_none_iff`: which notifications pass.
-/

namespace MizanSDK.Go

open JsonText Decimal Tally Slices

/-! ## Events -/

/-- `LedgerEntryWebhook`.  `metadata` is a `json.RawMessage`: the member's own
text, `null` included, or nothing. -/
structure LedgerEntryWebhook where
  id : String
  entryType : String
  sourceCommand : String
  sourceEventID : String
  subscriptionID : Option String
  featureCode : Option String
  effectiveAt : String
  catalogVersion : String
  policyVersion : String
  metadata : Option Json

/-- `LedgerPostingWebhook`. -/
@[ext] structure LedgerPostingWebhook where
  rail : String
  accountCode : String
  amount : String
  unit : String
  lotID : Option String
  metadata : Option Json

/-- `LedgerWebhook`.  The postings are those within the length of the slice. -/
structure LedgerWebhook where
  eventID : String
  businessID : String
  businessSequence : ℤ
  entry : LedgerEntryWebhook
  postings : List LedgerPostingWebhook

/-- `NotificationWebhook`. -/
structure NotificationWebhook where
  type : String
  businessID : String
  featureCode : String
  period : String
  projected : String
  limit : String

/-! ## Decoding into structs -/

/-- `encoding/json` folds names before it compares them: letters to upper case,
and the two non-ASCII characters with an ASCII case variant to that letter. -/
def foldRune (c : Char) : Char :=
  if c = '\u017F' then 'S' else if c = '\u212A' then 'K' else c.toUpper

/-- The folded form of a member name. -/
def foldName (name : Text) : List Char := name.map fun c => foldRune c.toScalar

/-- The values of the members a struct field receives, in document order: those
whose names equal the field's up to case. -/
def matching (members : List (Text × Json)) (name : String) : List Json :=
  (members.filter fun m => foldName m.1 == foldName (Text.ofString name)).map Prod.snd

/-- A struct field: its zero value, into which the matching members are decoded
one after the other.  `none` is an `UnmarshalTypeError`. -/
def field {α : Type*} (decode : Json → α → Option α) (zero : α)
    (members : List (Text × Json)) (name : String) : Option α :=
  (matching members name).foldlM (fun value json => decode json value) zero

/-- Decode into a `string`; `null` leaves it alone. -/
def decodeString : Json → String → Option String
  | .null, value => some value
  | .string t, _ => some t.toScalars
  | _, _ => none

/-- The range of `int64`. -/
def isInt64 (n : ℤ) : Bool := decide (-(2 ^ 63) ≤ n) && decide (n ≤ 2 ^ 63 - 1)

/-- Decode into an `int64`: a literal without fraction and exponent, in range. -/
def decodeInt64 : Json → ℤ → Option ℤ
  | .null, value => some value
  | .number (.integer negative digits), _ =>
      if isInt64 (signed negative digits) then some (signed negative digits) else none
  | _, _ => none

/-- Decode into a `*string`; `null` makes it nil. -/
def decodePointer : Json → Option String → Option (Option String)
  | .null, _ => some none
  | .string t, _ => some (some t.toScalars)
  | _, _ => none

/-- Decode into a `json.RawMessage`, which takes any value. -/
def decodeRaw (json : Json) (_ : Option Json) : Option (Option Json) := some (some json)

/-- Decode into a struct, given here by the members it receives: further objects
add to them, `null` adds nothing. -/
def decodeStruct : Json → List (Text × Json) → Option (List (Text × Json))
  | .null, members => some members
  | .object more, members => some (members ++ more)
  | _, _ => none

/-- The zero value of a posting. -/
def LedgerPostingWebhook.zero : LedgerPostingWebhook := ⟨"", "", "", "", none, none⟩

/-- Decode an item into a posting: its members are decoded into the fields as they are. -/
def decodePosting (json : Json) (posting : LedgerPostingWebhook) :
    Option LedgerPostingWebhook := do
  let members ← decodeStruct json []
  return {
    rail := ← field decodeString posting.rail members "rail"
    accountCode := ← field decodeString posting.accountCode members "account_code"
    amount := ← field decodeString posting.amount members "amount"
    unit := ← field decodeString posting.unit members "unit"
    lotID := ← field decodePointer posting.lotID members "lot_id"
    metadata := ← field decodeRaw posting.metadata members "metadata" }

/-- Decode into the slice of postings.  An array is decoded into the postings that the memory
of the slice holds; an empty array makes a new slice, and `null` makes it nil. -/
def decodePostings : Json → Slice LedgerPostingWebhook → Option (Slice LedgerPostingWebhook)
  | .null, _ => some .empty
  | .array items, postings => refill decodePosting .zero items postings
  | _, _ => none

/-- Decode the members of the entry. -/
def decodeEntry (members : List (Text × Json)) : Option LedgerEntryWebhook := do
  return {
    id := ← field decodeString "" members "id"
    entryType := ← field decodeString "" members "entry_type"
    sourceCommand := ← field decodeString "" members "source_command"
    sourceEventID := ← field decodeString "" members "source_event_id"
    subscriptionID := ← field decodePointer none members "subscription_id"
    featureCode := ← field decodePointer none members "feature_code"
    effectiveAt := ← field decodeString "" members "effective_at"
    catalogVersion := ← field decodeString "" members "catalog_version"
    policyVersion := ← field decodeString "" members "policy_version"
    metadata := ← field decodeRaw none members "metadata" }

/-- `json.Unmarshal(body, &event)` for a `LedgerWebhook` and an object. -/
def decodeLedgerWebhook (members : List (Text × Json)) : Option LedgerWebhook := do
  return {
    eventID := ← field decodeString "" members "event_id"
    businessID := ← field decodeString "" members "business_id"
    businessSequence := ← field decodeInt64 0 members "business_sequence"
    entry := ← decodeEntry (← field decodeStruct [] members "entry")
    postings := (← field decodePostings .empty members "postings").elems }

/-- `json.Unmarshal(body, &event)` for a `NotificationWebhook` and an object. -/
def decodeNotificationWebhook (members : List (Text × Json)) : Option NotificationWebhook := do
  return {
    type := ← field decodeString "" members "type"
    businessID := ← field decodeString "" members "business_id"
    featureCode := ← field decodeString "" members "feature_code"
    period := ← field decodeString "" members "period"
    projected := ← field decodeString "" members "projected"
    limit := ← field decodeString "" members "limit" }

/-! ## Exact amounts -/

/-- `isUnsignedCanonicalInteger`. -/
def isUnsignedCanonicalInteger (value : List Char) : Bool :=
  match value with
  | [] => false
  | first :: rest =>
      value == ['0'] || ('1' ≤ first && first ≤ '9' && rest.all isAsciiDigit)

/-- `isCanonicalInteger`. -/
def isCanonicalInteger : List Char → Bool
  | '-' :: rest => isUnsignedCanonicalInteger rest
  | value => isUnsignedCanonicalInteger value

/-- The amount of a posting, if it is an exact integer string. -/
def postingAmount (amount : String) : Option ℤ :=
  match readSigned amount.toList with
  | some n => if isInt64 n && isCanonicalInteger amount.toList then some n else none
  | none => none

/-- `isUnsignedExactAmount`. -/
def isUnsignedExactAmount (value : String) : Bool :=
  match readSigned value.toList with
  | some n => isInt64 n && decide (0 ≤ n) && isUnsignedCanonicalInteger value.toList
  | none => false

/-! ## Validation -/

/-- The ledger entry types `validLedgerEntryType` accepts. -/
def ledgerEntryTypes : List String :=
  ["subscription_activated", "subscription_change_scheduled",
    "subscription_cancellation_scheduled", "subscription_cancelled",
    "subscription_cancellation_revoked", "renewal_failed", "subscription_renewed",
    "azeer_units_topped_up", "provider_balance_topped_up", "provider_balance_refunded",
    "feature_budget_updated", "billing_account_depleted", "feature_paused_budget",
    "feature_paused_manual", "feature_resumed_manual", "usage_rejected", "usage_consumed",
    "included_units_expired", "purchased_units_expired", "promotional_units_expired",
    "promotional_units_granted", "monthly_included_units_granted", "outbox_retry_requested"]

/-- `validLedgerEntryType`. -/
def validLedgerEntryType (value : String) : Bool := ledgerEntryTypes.contains value

/-- The rails of a posting. -/
def rails : List String := ["azeer_units", "provider_balance", "invoice"]

/-- The units of a posting. -/
def units : List String := ["milliunit", "halala"]

/-- The key of the balance a posting books to. -/
def LedgerPostingWebhook.key (posting : LedgerPostingWebhook) : String :=
  posting.rail ++ "\x00" ++ posting.unit

/-- The loop over the postings: the first one that does not match the contract
reports; the others are booked under rail and unit. -/
def validatePostings (balances : Balances String ℤ) :
    List LedgerPostingWebhook → Except String (Balances String ℤ)
  | [] => .ok balances
  | posting :: rest =>
      if posting.accountCode = "" ∨ posting.rail ∉ rails ∨ posting.unit ∉ units then
        .error "ledger posting fields do not match the contract"
      else
        match postingAmount posting.amount with
        | none => .error "ledger posting amounts must be exact integer strings"
        | some amount => validatePostings (balances.add posting.key amount) rest

/-- `validateLedgerWebhook`. -/
def validateLedgerWebhook (event : LedgerWebhook) : Option String :=
  if event.eventID = "" ∨ event.entry.id = "" ∨ event.eventID ≠ event.entry.id then
    some "event_id must be present and equal entry.id"
  else if event.businessID = "" ∨ event.businessSequence < 1 then
    some "business_id and a positive business_sequence are required"
  else if validLedgerEntryType event.entry.entryType = false ∨
      event.entry.sourceCommand = "" ∨ event.entry.sourceEventID = "" ∨
      event.entry.effectiveAt = "" ∨ event.entry.catalogVersion = "" ∨
      event.entry.policyVersion = "" ∨ event.entry.metadata.isNone = true then
    some "ledger entry fields do not match the contract"
  else
    match validatePostings ∅ event.postings with
    | .error message => some message
    | .ok balances =>
        if balances.settled then none
        else some "ledger postings must balance to zero per rail and unit"

/-- `validateNotificationWebhook`. -/
def validateNotificationWebhook (event : NotificationWebhook) : Option String :=
  if event.businessID = "" ∨ event.featureCode = "" then
    some "notification business_id and feature_code are required"
  else if event.type = "budget_warning" ∨ event.type = "budget_breached" then
    if event.period = "" ∨ isUnsignedExactAmount event.projected = false ∨
        isUnsignedExactAmount event.limit = false then
      some "budget threshold notifications require period, projected, and limit"
    else none
  else if event.type = "budget_paused" then
    if event.period = "" then some "budget_paused notifications require period" else none
  else if event.type = "feature_paused_manual" ∨ event.type = "feature_resumed_manual" then
    none
  else some "notification type is not supported"

/-! ## The receiver -/

/-- `WebhookContext`. -/
structure WebhookContext where
  outboxID : String
  headers : Header
  rawBody : List UInt8

/-- `WebhookHandler`: nil is `none`. -/
structure WebhookHandler where
  handleLedger : LedgerWebhook → WebhookContext → Option GoError
  handleNotification : NotificationWebhook → WebhookContext → Option GoError

/-- `WebhookResponse`; the body is an error document with this message, or
empty. -/
structure WebhookResponse where
  statusCode : ℕ
  headers : Header
  body : Option String

/-- `WebhookReceiver`. -/
structure WebhookReceiver where
  handler : Option WebhookHandler
  bearerToken : String
  maxBodyBytes : ℤ

/-- A callback invocation. -/
inductive Invocation where
  | ledger (event : LedgerWebhook) (delivery : WebhookContext)
  | notification (event : NotificationWebhook) (delivery : WebhookContext)

/-- What one `Receive` call does: its response and the callbacks it invoked. -/
structure Reception where
  response : WebhookResponse
  invoked : List Invocation

/-- `errorResponse`. -/
def errorResponse (status : ℕ) (message : String) : WebhookResponse :=
  { statusCode := status
    headers := (∅ : Header).insert "Content-Type" ["application/json"]
    body := some message }

/-- `bodyLimit`. -/
def WebhookReceiver.bodyLimit (r : WebhookReceiver) : ℤ :=
  if 0 < r.maxBodyBytes then r.maxBodyBytes else 2 ^ 20

/-- `authorized`. -/
def WebhookReceiver.authorized (r : WebhookReceiver) (value : String) : Bool :=
  if r.bearerToken = "" then true
  else
    let expected := "Bearer " ++ r.bearerToken
    value.utf8ByteSize == expected.utf8ByteSize && value == expected

/-- What is to be done with a delivery. -/
inductive Dispatch where
  | respond (response : WebhookResponse)
  | invoke (handler : WebhookHandler) (invocation : Invocation)

/-- The stream selection: the decoding and the validation of the event. -/
def dispatchEvent (handler : WebhookHandler) (delivery : WebhookContext)
    (members : List (Text × Json)) : Dispatch :=
  if members.any fun m => m.1.toScalars == "business_sequence" then
    match decodeLedgerWebhook members with
    | none => .respond (errorResponse 422 "ledger webhook does not match the contract")
    | some event =>
        match validateLedgerWebhook event with
        | some message => .respond (errorResponse 422 message)
        | none => .invoke handler (.ledger event delivery)
  else if members.any fun m => m.1.toScalars == "type" then
    match decodeNotificationWebhook members with
    | none => .respond (errorResponse 422 "notification webhook does not match the contract")
    | some event =>
        match validateNotificationWebhook event with
        | some message => .respond (errorResponse 422 message)
        | none => .invoke handler (.notification event delivery)
  else .respond (errorResponse 422 "unknown Mizan webhook payload")

/-- `Receive` up to the invocation of a callback. -/
def WebhookReceiver.dispatch (r : WebhookReceiver) (parse : JsonParser) (headers : Header)
    (body : List UInt8) : Dispatch :=
  if body.length = 0 then .respond (errorResponse 400 "request body is required")
  else if r.bodyLimit < body.length then
    .respond (errorResponse 413 "request body exceeds the configured limit")
  else if !r.authorized (headers.get "Authorization") then
    .respond (errorResponse 401 "webhook authorization failed")
  else
    let outboxID := trimSpace (headers.get "X-Mizan-Outbox-Id")
    if outboxID = "" then .respond (errorResponse 400 "X-Mizan-Outbox-Id is required")
    else
      match r.handler with
      | none => .respond (errorResponse 503 "webhook handler is not configured")
      | some handler =>
          match parse body with
          | some (.object members) =>
              dispatchEvent handler ⟨outboxID, headers.del "Authorization", body⟩ members
          | _ => .respond (errorResponse 400 "request body must be a JSON object")

/-- The error a callback invocation returns. -/
def Invocation.run (handler : WebhookHandler) : Invocation → Option GoError
  | .ledger event delivery => handler.handleLedger event delivery
  | .notification event delivery => handler.handleNotification event delivery

/-- The response after a callback. -/
def Invocation.respond : Invocation → Option GoError → WebhookResponse
  | .ledger _ _, some _ => errorResponse 500 "ledger webhook processing failed"
  | .ledger event _, none =>
      { statusCode := 204
        headers := (∅ : Header).insert "X-Mizan-Ack-Sequence" [toString event.businessSequence]
        body := none }
  | .notification _ _, some _ => errorResponse 500 "notification webhook processing failed"
  | .notification _ _, none => { statusCode := 204, headers := ∅, body := none }

/-- `Receive`. -/
def WebhookReceiver.receive (r : WebhookReceiver) (parse : JsonParser) (headers : Header)
    (body : List UInt8) : Reception :=
  match r.dispatch parse headers body with
  | .respond response => ⟨response, []⟩
  | .invoke handler invocation =>
      ⟨invocation.respond (invocation.run handler), [invocation]⟩

/-! ## What validation accepts -/

/-- A posting that matches the contract and the amount it books. -/
structure LedgerPostingWebhook.Books (posting : LedgerPostingWebhook) (amount : ℤ) : Prop where
  accountCode : posting.accountCode ≠ ""
  rail : posting.rail ∈ rails
  unit : posting.unit ∈ units
  amount : postingAmount posting.amount = some amount

/-- The postings of a run of the loop, each with the amount it books. -/
abbrev Booked (postings : List LedgerPostingWebhook) (amounts : List ℤ) : Prop :=
  List.Forall₂ LedgerPostingWebhook.Books postings amounts

/-- What postings with these amounts book. -/
def moves (postings : List LedgerPostingWebhook) (amounts : List ℤ) : List (String × ℤ) :=
  List.zipWith (fun posting amount => (posting.key, amount)) postings amounts

/-- The loop accepts postings that each match the contract, and then holds their
running balances. -/
theorem validatePostings_eq_ok_iff (balances result : Balances String ℤ)
    (postings : List LedgerPostingWebhook) :
    validatePostings balances postings = .ok result ↔
      ∃ amounts, Booked postings amounts ∧ result = tally balances (moves postings amounts) := by
  induction postings generalizing balances with
  | nil =>
      constructor
      · intro h
        exact ⟨[], .nil, by simpa [validatePostings, tally, moves] using h.symm⟩
      · rintro ⟨amounts, hbooked, rfl⟩
        cases hbooked
        rfl
  | cons posting rest ih =>
      rw [validatePostings]
      split
      · rename_i hfields
        constructor
        · simp
        · rintro ⟨amounts, hbooked, -⟩
          cases hbooked with
          | cons hbooks _ =>
              rcases hfields with haccount | hrail | hunit
              · exact absurd haccount hbooks.accountCode
              · exact absurd hbooks.rail hrail
              · exact absurd hbooks.unit hunit
      · rename_i hfields
        rw [not_or, not_or, not_not, not_not] at hfields
        cases hamount : postingAmount posting.amount with
        | none =>
            constructor
            · simp
            · rintro ⟨amounts, hbooked, -⟩
              cases hbooked with
              | cons hbooks _ =>
                  have hsome := hbooks.amount
                  rw [hamount] at hsome
                  simp at hsome
        | some amount =>
            simp only
            rw [ih]
            constructor
            · rintro ⟨amounts, hbooked, rfl⟩
              refine ⟨amount :: amounts, .cons ?_ hbooked, rfl⟩
              exact ⟨hfields.1, hfields.2.1, hfields.2.2, hamount⟩
            · rintro ⟨amounts, hbooked, rfl⟩
              cases hbooked with
              | cons hbooks htail =>
                  have hsame := hbooks.amount
                  rw [hamount] at hsame
                  obtain rfl := Option.some.inj hsame
                  exact ⟨_, htail, rfl⟩

/-- A ledger event that matches the contract. -/
structure LedgerWebhook.Valid (event : LedgerWebhook) : Prop where
  eventID : event.eventID ≠ ""
  entryID : event.eventID = event.entry.id
  businessID : event.businessID ≠ ""
  businessSequence : 1 ≤ event.businessSequence
  entryType : event.entry.entryType ∈ ledgerEntryTypes
  sourceCommand : event.entry.sourceCommand ≠ ""
  sourceEventID : event.entry.sourceEventID ≠ ""
  effectiveAt : event.entry.effectiveAt ≠ ""
  catalogVersion : event.entry.catalogVersion ≠ ""
  policyVersion : event.entry.policyVersion ≠ ""
  metadata : event.entry.metadata.isSome = true
  postings : ∃ amounts, Booked event.postings amounts ∧ Balanced (moves event.postings amounts)

/-- The checks from the loop on accept postings that match the contract and
balance. -/
theorem validatePostings_settled_iff (postings : List LedgerPostingWebhook) :
    (∃ balances, validatePostings ∅ postings = .ok balances ∧ balances.settled = true) ↔
      ∃ amounts, Booked postings amounts ∧ Balanced (moves postings amounts) := by
  simp only [validatePostings_eq_ok_iff]
  constructor
  · rintro ⟨_, ⟨amounts, hbooked, rfl⟩, hsettled⟩
    exact ⟨amounts, hbooked, (settled_tally_iff _).mp hsettled⟩
  · rintro ⟨amounts, hbooked, hbalanced⟩
    exact ⟨_, ⟨amounts, hbooked, rfl⟩, (settled_tally_iff _).mpr hbalanced⟩

/-- Which ledger events pass. -/
theorem validateLedgerWebhook_eq_none_iff (event : LedgerWebhook) :
    validateLedgerWebhook event = none ↔ event.Valid := by
  have hloop : (match validatePostings ∅ event.postings with
      | .error message => some message
      | .ok balances =>
          if balances.settled then none
          else some "ledger postings must balance to zero per rail and unit") = none ↔
        ∃ amounts, Booked event.postings amounts ∧
          Balanced (moves event.postings amounts) := by
    rw [← validatePostings_settled_iff]
    cases validatePostings ∅ event.postings with
    | error message => simp
    | ok balances => simp
  unfold validateLedgerWebhook
  constructor
  · intro h
    split at h
    · simp at h
    · rename_i hids
      split at h
      · simp at h
      · rename_i hbusiness
        split at h
        · simp at h
        · rename_i hentry
          simp only [not_or, not_not, ne_eq] at hids hbusiness hentry
          obtain ⟨htype, hcommand, hevent, heffective, hcatalog, hpolicy, hmetadata⟩ := hentry
          exact
            { eventID := hids.1
              entryID := hids.2.2
              businessID := hbusiness.1
              businessSequence := Int.not_lt.mp hbusiness.2
              entryType := by simpa [validLedgerEntryType] using htype
              sourceCommand := hcommand
              sourceEventID := hevent
              effectiveAt := heffective
              catalogVersion := hcatalog
              policyVersion := hpolicy
              metadata := by simpa [Option.isSome_iff_ne_none] using hmetadata
              postings := hloop.mp h }
  · intro h
    have hids : ¬ (event.eventID = "" ∨ event.entry.id = "" ∨
        event.eventID ≠ event.entry.id) := by
      rintro (hempty | hempty | hdiffer)
      · exact h.eventID hempty
      · exact h.eventID (h.entryID.trans hempty)
      · exact hdiffer h.entryID
    have hbusiness : ¬ (event.businessID = "" ∨ event.businessSequence < 1) := by
      rintro (hempty | hlow)
      · exact h.businessID hempty
      · exact absurd h.businessSequence (Int.not_le.mpr hlow)
    have hentry : ¬ (validLedgerEntryType event.entry.entryType = false ∨
        event.entry.sourceCommand = "" ∨ event.entry.sourceEventID = "" ∨
        event.entry.effectiveAt = "" ∨ event.entry.catalogVersion = "" ∨
        event.entry.policyVersion = "" ∨ event.entry.metadata.isNone = true) := by
      have htype : validLedgerEntryType event.entry.entryType = true := by
        simpa [validLedgerEntryType] using h.entryType
      have hmetadata : event.entry.metadata.isNone = false := by
        rw [Option.isNone_eq_false_iff]
        exact h.metadata
      simp [htype, h.sourceCommand, h.sourceEventID, h.effectiveAt, h.catalogVersion,
        h.policyVersion, hmetadata]
    rw [if_neg hids, if_neg hbusiness, if_neg hentry]
    exact hloop.mpr h.postings

/-- A notification that matches the contract. -/
structure NotificationWebhook.Valid (event : NotificationWebhook) : Prop where
  businessID : event.businessID ≠ ""
  featureCode : event.featureCode ≠ ""
  type : event.type ∈ ["budget_warning", "budget_breached", "budget_paused",
    "feature_paused_manual", "feature_resumed_manual"]
  period : event.type ∈ ["budget_warning", "budget_breached", "budget_paused"] →
    event.period ≠ ""
  amounts : event.type ∈ ["budget_warning", "budget_breached"] →
    isUnsignedExactAmount event.projected = true ∧ isUnsignedExactAmount event.limit = true

/-- Which notifications pass. -/
theorem validateNotificationWebhook_eq_none_iff (event : NotificationWebhook) :
    validateNotificationWebhook event = none ↔ event.Valid := by
  unfold validateNotificationWebhook
  constructor
  · intro h
    split at h
    · simp at h
    · rename_i hids
      rw [not_or] at hids
      split at h
      · rename_i htype
        split at h
        · simp at h
        · rename_i hfields
          simp only [not_or, Bool.not_eq_false] at hfields
          exact ⟨hids.1, hids.2, by rcases htype with htype | htype <;> simp [htype],
            fun _ => hfields.1, fun _ => hfields.2⟩
      · rename_i hthreshold
        rw [not_or] at hthreshold
        split at h
        · rename_i hpaused
          split at h
          · simp at h
          · rename_i hperiod
            exact ⟨hids.1, hids.2, by simp [hpaused], fun _ => hperiod,
              fun hmem => absurd hmem (by simp [hpaused])⟩
        · rename_i hpaused
          split at h
          · rename_i hmanual
            refine ⟨hids.1, hids.2, by rcases hmanual with hmanual | hmanual <;> simp [hmanual],
              fun hmem => absurd hmem ?_, fun hmem => absurd hmem ?_⟩
            · simp [hthreshold, hpaused]
            · simp [hthreshold]
          · simp at h
  · intro h
    have hids : ¬ (event.businessID = "" ∨ event.featureCode = "") := by
      rintro (hempty | hempty)
      · exact h.businessID hempty
      · exact h.featureCode hempty
    rw [if_neg hids]
    have htype := h.type
    simp only [List.mem_cons, List.not_mem_nil, or_false] at htype
    rcases htype with htype | htype | htype | htype | htype
    · have hperiod := h.period (by simp [htype])
      have hamounts := h.amounts (by simp [htype])
      simp [htype, hperiod, hamounts]
    · have hperiod := h.period (by simp [htype])
      have hamounts := h.amounts (by simp [htype])
      simp [htype, hperiod, hamounts]
    · have hperiod := h.period (by simp [htype])
      simp [htype, hperiod]
    · simp [htype]
    · simp [htype]

end MizanSDK.Go
