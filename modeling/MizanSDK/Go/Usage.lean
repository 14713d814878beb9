import MizanSDK.Library.Checks
import MizanSDK.Go.Methods

/-!
# Metered usage in the Go SDK

`usage.go`: the nine metering contracts, the checks on their facts and their
metadata, and the request each of them becomes.  A metering method builds its
request and hands it to `Consume`; the compatibility aliases are the methods they
call.  Go visits a map in any order; here entries are checked as they are listed,
which decides which finding is reported and nothing else.

Main results:

- Theorem `validateMetadata_eq_none_iff`: which metadata passes.
- Theorem `FeatureUsage.perform_eq`: a metering call is the consumption of its
  request.
-/

namespace MizanSDK.Go

open Checks Decimal BoundedRetry

/-! ## Contracts -/

structure Conversation24HUsage where
  sourceEventID : String
  occurredAt : GoTime
  conversationID : String
  channel : String
  metadata : Option UsageMetadata

structure OutboundDeliveredMessageUsage where
  sourceEventID : String
  occurredAt : GoTime
  quantity : ExactAmount
  metadata : Option UsageMetadata

structure AIAssistActionUsage where
  sourceEventID : String
  occurredAt : GoTime
  quantity : ExactAmount
  metadata : Option UsageMetadata

structure AIReplyHandlingUsage where
  sourceEventID : String
  occurredAt : GoTime
  quantity : ExactAmount
  metadata : Option UsageMetadata

structure VoiceAIStartedMinuteUsage where
  sourceEventID : String
  occurredAt : GoTime
  durationSeconds : ExactAmount
  metadata : Option UsageMetadata

structure WhatsAppMetaMarketingMessageUsage where
  sourceEventID : String
  occurredAt : GoTime
  providerEventID : String
  quantity : ExactAmount
  metadata : Option UsageMetadata

structure TelephonyVoiceMinuteUsage where
  sourceEventID : String
  occurredAt : GoTime
  provider : String
  providerEventID : String
  billableMinutes : ExactAmount
  metadata : Option UsageMetadata

structure InboundVoiceMinuteUsage where
  sourceEventID : String
  occurredAt : GoTime
  provider : String
  providerEventID : String
  billableMinutes : ExactAmount
  metadata : Option UsageMetadata

structure OtherProviderChargeUsage where
  sourceEventID : String
  occurredAt : GoTime
  provider : String
  providerEventID : String
  providerAmountMinor : ExactAmount
  providerInvoiceID : String
  originalAmountMinor : ExactAmount
  originalCurrency : String
  tariffVersion : String
  fxRule : String
  metadata : Option UsageMetadata

/-! ## Facts -/

/-- `quantityOrOne`. -/
def quantityOrOne (value : ExactAmount) : ExactAmount := if value = "" then "1" else value

/-- `validateUsageEvent`; the length is that of the UTF-8 bytes. -/
def validateUsageEvent (sourceEventID : String) (occurredAt : GoTime) : Option String :=
  if sourceEventID.utf8ByteSize < 1 || 128 < sourceEventID.utf8ByteSize then
    some "mizan: source event ID must contain 1 to 128 characters"
  else if occurredAt.isZero then some "mizan: occurred at is required"
  else none

/-- `quantityPattern`: digits, and at most three more behind a point. -/
def quantityPattern (value : ExactAmount) : Option (List Char × List Char) :=
  matchDecimal isAsciiDigit '.' 3 value.toList

/-- `scaled` in `validateQuantity`, from the groups of the match. -/
def scaledQuantity (groups : List Char × List Char) : ℕ :=
  digitsValue groups.1 * 1000 +
    if groups.2 = [] then 0
    else digitsValue (groups.2 ++ List.replicate (3 - groups.2.length) '0')

/-- `validateQuantity`. -/
def validateQuantity (value : ExactAmount) : Option String :=
  match quantityPattern value with
  | none => some "mizan: quantity must be a positive decimal string with at most 3 decimal places"
  | some groups =>
      let scaled := scaledQuantity groups
      if scaled = 0 ∨ maxInt64Exact < scaled then
        some "mizan: quantity must be positive and fit the supported exact range"
      else none

/-- `validateWholeCount`. -/
def validateWholeCount (value : ExactAmount) : Option String :=
  if integerPattern value then
    let parsed := digitsValue value.toList
    if parsed = 0 ∨ maxInt64Exact / 1000 < parsed then
      some
        "mizan: quantity must be positive and fit the supported exact range after milli scaling"
    else none
  else some "mizan: quantity must be a positive whole-count string"

/-! ## Metadata -/

/-- `UsageMetadata{}`. -/
def UsageMetadata.zero : UsageMetadata where
  actor := ∅
  channel := ""
  channelAccountID := ""
  provider := ""
  providerEventID := ""
  conversationID := ""
  campaignID := ""
  rawQuantity := ""
  billableQuantity := ""
  providerInvoiceID := ""
  originalAmountMinor := ""
  originalCurrency := ""
  fxRule := ""
  tariffVersion := ""
  attributes := ∅

/-- The values of `Channel`. -/
def channels : List String :=
  ["whatsapp", "instagram", "facebook", "tiktok", "telephony", "webchat"]

/-- The supported types of an actor. -/
def actorTypes : List String := ["user", "system", "campaign"]

/-- The check of the channel. -/
def checkChannel (channel : String) : Option String :=
  if channel ≠ "" ∧ channel ∉ channels then some "mizan: metadata channel is not supported"
  else none

/-- The check of the actor; a missing entry of a map reads as the empty string. -/
def checkActor (actor : AList fun _ : String => String) : Option String :=
  let id := (actor.lookup "id").getD ""
  let type := (actor.lookup "type").getD ""
  if actor.keys.length = 0 then none
  else if actor.keys.length ≠ 2 ∨ id = "" ∨ 128 < id.utf8ByteSize then
    some "mizan: metadata actor requires exactly type and bounded id"
  else if type ∉ actorTypes then some "mizan: metadata actor type is not supported"
  else none

/-- The bounded texts of metadata, by the names their findings use. -/
def UsageMetadata.boundedFields (m : UsageMetadata) : List (String × String) :=
  [("channel account ID", m.channelAccountID), ("provider", m.provider),
    ("provider event ID", m.providerEventID), ("conversation ID", m.conversationID),
    ("campaign ID", m.campaignID), ("raw quantity", m.rawQuantity),
    ("billable quantity", m.billableQuantity), ("provider invoice ID", m.providerInvoiceID),
    ("original currency", m.originalCurrency), ("FX rule", m.fxRule),
    ("tariff version", m.tariffVersion)]

/-- The check of one bounded text. -/
def checkBounded (field : String × String) : Option String :=
  if field.2 ≠ "" ∧ 512 < field.2.utf8ByteSize then
    some ("mizan: metadata " ++ field.1 ++ " must be at most 512 characters")
  else none

/-- The check of the amount before conversion. -/
def checkOriginalAmount (amount : ExactAmount) : Option String :=
  if amount = "" then none
  else validateExactInteger amount "metadata original amount minor" true

/-- `fmt.Sprint` of an attribute value that is not nil. -/
def AttributeValue.sprint : AttributeValue → String
  | .nil => "<nil>"
  | .string s => s
  | .bool b => if b then "true" else "false"
  | .integer n => toString n
  | .float _ text => text
  | .composite => ""

/-- The check of the type of an attribute value. -/
def AttributeValue.checkScalar : AttributeValue → Option String
  | .float false _ => some "mizan: metadata attribute numbers must be finite"
  | .composite => some "mizan: metadata attribute values must be scalar"
  | _ => none

/-- The check of one attribute. -/
def checkAttribute (entry : Sigma fun _ : String => AttributeValue) : Option String :=
  if 64 < entry.1.utf8ByteSize then
    some "mizan: metadata attribute keys must be at most 64 characters"
  else entry.2.checkScalar.or
    (if entry.2 ≠ .nil ∧ 512 < entry.2.sprint.utf8ByteSize then
      some "mizan: metadata attribute values must be at most 512 characters"
    else none)

/-- The check of the attributes. -/
def checkAttributes (attributes : AList fun _ : String => AttributeValue) : Option String :=
  if 32 < attributes.keys.length then
    some "mizan: metadata attributes support at most 32 entries"
  else attributes.entries.findSome? checkAttribute

/-- `validateMetadata`. -/
def validateMetadata : Option UsageMetadata → Option String
  | none => none
  | some m =>
      (checkChannel m.channel).or
        ((checkActor m.actor).or
          ((m.boundedFields.findSome? checkBounded).or
            ((checkOriginalAmount m.originalAmountMinor).or (checkAttributes m.attributes))))

/-! ## Requests -/

/-- `providerMetadata`: the arguments take precedence over the caller's metadata. -/
def providerMetadata (provider eventID : String) (source : Option UsageMetadata) :
    Except String UsageMetadata := do
  require (trimSpace provider ≠ "" && trimSpace eventID ≠ "")
    "mizan: provider and provider event ID are required for provider-priced usage"
  let metadata :=
    { source.getD .zero with
      provider := trimSpace provider, providerEventID := trimSpace eventID }
  report (validateMetadata (some metadata))
  return metadata

/-- `conversationMetadata`. -/
def conversationMetadata (conversationID channel : String) (source : Option UsageMetadata) :
    Except String UsageMetadata := do
  require (trimSpace conversationID ≠ "" && channel ≠ "")
    "mizan: conversation ID and channel are required for conversation activity"
  report (validateMetadata source)
  let metadata :=
    { source.getD .zero with conversationID := trimSpace conversationID, channel := channel }
  report (validateMetadata (some metadata))
  return metadata

/-- A request that reports a quantity, with the check its contract makes of it. -/
def quantityRequest (validate : ExactAmount → Option String) (feature sourceEventID : String)
    (occurredAt : GoTime) (quantity : ExactAmount) (metadata : Option UsageMetadata) :
    Except String ConsumptionRequest := do
  report (validateUsageEvent sourceEventID occurredAt)
  let quantity := quantityOrOne quantity
  report (validate quantity)
  report (validateMetadata metadata)
  return {
    sourceEventID, occurredAt, quantity, metadata
    featureCode := feature
    durationSeconds := ""
    providerAmountMinor := ""
    components := [] }

/-- `countRequest`. -/
def countRequest := quantityRequest validateWholeCount

/-- `providerQuantityRequest`. -/
def providerQuantityRequest := quantityRequest validateQuantity

/-- The request of `ConsumeConversation24H`. -/
def Conversation24HUsage.request (usage : Conversation24HUsage) :
    Except String ConsumptionRequest := do
  let metadata ← conversationMetadata usage.conversationID usage.channel usage.metadata
  countRequest "conversation_24h" usage.sourceEventID usage.occurredAt "1" (some metadata)

/-- The request of `ConsumeOutboundDeliveredMessage`. -/
def OutboundDeliveredMessageUsage.request (usage : OutboundDeliveredMessageUsage) :
    Except String ConsumptionRequest :=
  countRequest "outbound_delivered_message" usage.sourceEventID usage.occurredAt usage.quantity
    usage.metadata

/-- The request of `ConsumeAIAssistAction`. -/
def AIAssistActionUsage.request (usage : AIAssistActionUsage) :
    Except String ConsumptionRequest :=
  countRequest "ai_assist_action_over_allowance" usage.sourceEventID usage.occurredAt
    usage.quantity usage.metadata

/-- The request of `ConsumeAIReplyHandling`. -/
def AIReplyHandlingUsage.request (usage : AIReplyHandlingUsage) :
    Except String ConsumptionRequest :=
  countRequest "ai_reply_handling" usage.sourceEventID usage.occurredAt usage.quantity
    usage.metadata

/-- The request of `ConsumeVoiceAIStartedMinute`. -/
def VoiceAIStartedMinuteUsage.request (usage : VoiceAIStartedMinuteUsage) :
    Except String ConsumptionRequest := do
  report (validateUsageEvent usage.sourceEventID usage.occurredAt)
  report (validateExactInteger usage.durationSeconds "duration seconds" false)
  report (validateMetadata usage.metadata)
  return {
    sourceEventID := usage.sourceEventID
    occurredAt := usage.occurredAt
    featureCode := "voice_ai_started_minute"
    quantity := ""
    durationSeconds := usage.durationSeconds
    providerAmountMinor := ""
    metadata := usage.metadata
    components := [] }

/-- The request of `ConsumeWhatsAppMetaMarketingMessage`. -/
def WhatsAppMetaMarketingMessageUsage.request (usage : WhatsAppMetaMarketingMessageUsage) :
    Except String ConsumptionRequest := do
  let metadata ← providerMetadata "Meta" usage.providerEventID usage.metadata
  countRequest "whatsapp_meta_marketing_msg" usage.sourceEventID usage.occurredAt
    usage.quantity (some metadata)

/-- The request of `ConsumeTelephonyVoiceMinute`. -/
def TelephonyVoiceMinuteUsage.request (usage : TelephonyVoiceMinuteUsage) :
    Except String ConsumptionRequest := do
  let metadata ← providerMetadata usage.provider usage.providerEventID usage.metadata
  providerQuantityRequest "telephony_voice_minute" usage.sourceEventID usage.occurredAt
    usage.billableMinutes (some metadata)

/-- The request of `ConsumeInboundVoiceMinute`. -/
def InboundVoiceMinuteUsage.request (usage : InboundVoiceMinuteUsage) :
    Except String ConsumptionRequest := do
  let metadata ← providerMetadata usage.provider usage.providerEventID usage.metadata
  providerQuantityRequest "inbound_voice_minute" usage.sourceEventID usage.occurredAt
    usage.billableMinutes (some metadata)

/-- `strings.ToUpper` as far as ASCII letters can result: apart from the ASCII
letters only the dotless i and the long s have an ASCII one. -/
def toUpper (s : String) : String :=
  String.ofList (s.toList.map fun c =>
    if c = '\u0131' then 'I' else if c = '\u017F' then 'S' else c.toUpper)

/-- The pattern of a currency code: three upper-case letters. -/
def isCurrencyCode (currency : String) : Bool :=
  currency.toList.length == 3 && currency.toList.all fun c => 'A' ≤ c && c ≤ 'Z'

/-- `currency` in `ConsumeOtherProviderCharge`. -/
def OtherProviderChargeUsage.currency (usage : OtherProviderChargeUsage) : String :=
  toUpper (trimSpace usage.originalCurrency)

/-- The request of `ConsumeOtherProviderCharge`. -/
def OtherProviderChargeUsage.request (usage : OtherProviderChargeUsage) :
    Except String ConsumptionRequest := do
  report (validateUsageEvent usage.sourceEventID usage.occurredAt)
  report (validateExactInteger usage.providerAmountMinor "provider amount minor" true)
  require (trimSpace usage.providerInvoiceID ≠ "" && trimSpace usage.originalCurrency ≠ "" &&
      trimSpace usage.tariffVersion ≠ "")
    ("mizan: provider invoice ID, original currency, and tariff version are required for " ++
      "pass-through usage")
  report (validateExactInteger usage.originalAmountMinor "original amount minor" true)
  require (isCurrencyCode usage.currency)
    "mizan: original currency must be a three-letter ISO currency code"
  require (usage.currency = "SAR" || trimSpace usage.fxRule ≠ "")
    "mizan: non-SAR pass-through usage requires an FX rule"
  require (usage.currency ≠ "SAR" || usage.originalAmountMinor = usage.providerAmountMinor)
    "mizan: SAR original amount must equal provider amount minor"
  let metadata ← providerMetadata usage.provider usage.providerEventID usage.metadata
  let metadata :=
    { metadata with
      providerInvoiceID := trimSpace usage.providerInvoiceID
      originalAmountMinor := usage.originalAmountMinor
      originalCurrency := usage.currency
      tariffVersion := trimSpace usage.tariffVersion
      fxRule := trimSpace usage.fxRule }
  report (validateMetadata (some metadata))
  return {
    sourceEventID := usage.sourceEventID
    occurredAt := usage.occurredAt
    featureCode := "other_provider_charge"
    quantity := ""
    durationSeconds := ""
    providerAmountMinor := usage.providerAmountMinor
    metadata := some metadata
    components := [] }

/-! ## Metering methods -/

/-- Hand a request to `Consume`, or return the error of building it. -/
def Client.consumeUsage (c : Client) (env : Env) (businessID : String)
    (request : Except String ConsumptionRequest) (key : String) : Run HTTPRequest Outcome :=
  match request with
  | .error message => reject message
  | .ok request => c.consume env businessID request key

/-- `ConsumeConversation24H`. -/
def Client.consumeConversation24H (c : Client) (env : Env) (businessID : String)
    (usage : Conversation24HUsage) (key : String) : Run HTTPRequest Outcome :=
  c.consumeUsage env businessID usage.request key

/-- `ConsumeOutboundDeliveredMessage`. -/
def Client.consumeOutboundDeliveredMessage (c : Client) (env : Env) (businessID : String)
    (usage : OutboundDeliveredMessageUsage) (key : String) : Run HTTPRequest Outcome :=
  c.consumeUsage env businessID usage.request key

/-- `ConsumeAIAssistAction`. -/
def Client.consumeAIAssistAction (c : Client) (env : Env) (businessID : String)
    (usage : AIAssistActionUsage) (key : String) : Run HTTPRequest Outcome :=
  c.consumeUsage env businessID usage.request key

/-- `ConsumeAIReplyHandling`. -/
def Client.consumeAIReplyHandling (c : Client) (env : Env) (businessID : String)
    (usage : AIReplyHandlingUsage) (key : String) : Run HTTPRequest Outcome :=
  c.consumeUsage env businessID usage.request key

/-- `ConsumeVoiceAIStartedMinute`. -/
def Client.consumeVoiceAIStartedMinute (c : Client) (env : Env) (businessID : String)
    (usage : VoiceAIStartedMinuteUsage) (key : String) : Run HTTPRequest Outcome :=
  c.consumeUsage env businessID usage.request key

/-- `ConsumeWhatsAppMetaMarketingMessage`. -/
def Client.consumeWhatsAppMetaMarketingMessage (c : Client) (env : Env) (businessID : String)
    (usage : WhatsAppMetaMarketingMessageUsage) (key : String) : Run HTTPRequest Outcome :=
  c.consumeUsage env businessID usage.request key

/-- `ConsumeTelephonyVoiceMinute`. -/
def Client.consumeTelephonyVoiceMinute (c : Client) (env : Env) (businessID : String)
    (usage : TelephonyVoiceMinuteUsage) (key : String) : Run HTTPRequest Outcome :=
  c.consumeUsage env businessID usage.request key

/-- `ConsumeInboundVoiceMinute`. -/
def Client.consumeInboundVoiceMinute (c : Client) (env : Env) (businessID : String)
    (usage : InboundVoiceMinuteUsage) (key : String) : Run HTTPRequest Outcome :=
  c.consumeUsage env businessID usage.request key

/-- `ConsumeOtherProviderCharge`. -/
def Client.consumeOtherProviderCharge (c : Client) (env : Env) (businessID : String)
    (usage : OtherProviderChargeUsage) (key : String) : Run HTTPRequest Outcome :=
  c.consumeUsage env businessID usage.request key

/-- A usage of one of the nine features. -/
inductive FeatureUsage where
  | conversation24H (usage : Conversation24HUsage)
  | outboundDeliveredMessage (usage : OutboundDeliveredMessageUsage)
  | aiAssistAction (usage : AIAssistActionUsage)
  | aiReplyHandling (usage : AIReplyHandlingUsage)
  | voiceAIStartedMinute (usage : VoiceAIStartedMinuteUsage)
  | whatsAppMetaMarketingMessage (usage : WhatsAppMetaMarketingMessageUsage)
  | telephonyVoiceMinute (usage : TelephonyVoiceMinuteUsage)
  | inboundVoiceMinute (usage : InboundVoiceMinuteUsage)
  | otherProviderCharge (usage : OtherProviderChargeUsage)

/-- The request of a usage. -/
def FeatureUsage.request : FeatureUsage → Except String ConsumptionRequest
  | .conversation24H usage => usage.request
  | .outboundDeliveredMessage usage => usage.request
  | .aiAssistAction usage => usage.request
  | .aiReplyHandling usage => usage.request
  | .voiceAIStartedMinute usage => usage.request
  | .whatsAppMetaMarketingMessage usage => usage.request
  | .telephonyVoiceMinute usage => usage.request
  | .inboundVoiceMinute usage => usage.request
  | .otherProviderCharge usage => usage.request

/-- Perform the metering call of a usage. -/
def FeatureUsage.perform (u : FeatureUsage) (c : Client) (env : Env) (businessID key : String) :
    Run HTTPRequest Outcome :=
  match u with
  | .conversation24H usage => c.consumeConversation24H env businessID usage key
  | .outboundDeliveredMessage usage => c.consumeOutboundDeliveredMessage env businessID usage key
  | .aiAssistAction usage => c.consumeAIAssistAction env businessID usage key
  | .aiReplyHandling usage => c.consumeAIReplyHandling env businessID usage key
  | .voiceAIStartedMinute usage => c.consumeVoiceAIStartedMinute env businessID usage key
  | .whatsAppMetaMarketingMessage usage =>
      c.consumeWhatsAppMetaMarketingMessage env businessID usage key
  | .telephonyVoiceMinute usage => c.consumeTelephonyVoiceMinute env businessID usage key
  | .inboundVoiceMinute usage => c.consumeInboundVoiceMinute env businessID usage key
  | .otherProviderCharge usage => c.consumeOtherProviderCharge env businessID usage key

/-- A metering call is the consumption of its request. -/
theorem FeatureUsage.perform_eq (u : FeatureUsage) (c : Client) (env : Env)
    (businessID key : String) :
    u.perform c env businessID key = c.consumeUsage env businessID u.request key := by
  cases u <;> rfl

/-! ## What passes -/

/-- A whole count passes if it is positive and its thousandths fit. -/
theorem validateWholeCount_eq_none_iff (value : ExactAmount) :
    validateWholeCount value = none ↔
      integerPattern value = true ∧ 0 < digitsValue value.toList ∧
        digitsValue value.toList ≤ maxInt64Exact / 1000 := by
  unfold validateWholeCount
  by_cases hpattern : integerPattern value = true
  · rw [if_pos hpattern]
    dsimp only
    split
    · simp only [reduceCtorEq, hpattern, true_and, false_iff]
      omega
    · simp only [hpattern, true_and, true_iff]
      omega
  · simp [hpattern]

/-- A quantity passes if it is positive in thousandths that fit. -/
theorem validateQuantity_eq_none_iff (value : ExactAmount) :
    validateQuantity value = none ↔
      ∃ groups, quantityPattern value = some groups ∧ 0 < scaledQuantity groups ∧
        scaledQuantity groups ≤ maxInt64Exact := by
  unfold validateQuantity
  cases quantityPattern value with
  | none => simp
  | some groups =>
      dsimp only
      simp only [Option.some.injEq, exists_eq_left']
      split
      · simp only [reduceCtorEq, false_iff]
        omega
      · simp only [true_iff]
        omega

/-- An event passes with a bounded ID and a time. -/
theorem validateUsageEvent_eq_none_iff (sourceEventID : String) (occurredAt : GoTime) :
    validateUsageEvent sourceEventID occurredAt = none ↔
      (1 ≤ sourceEventID.utf8ByteSize ∧ sourceEventID.utf8ByteSize ≤ 128) ∧
        occurredAt.isZero = false := by
  unfold validateUsageEvent
  split
  · rename_i hlength
    rw [Bool.or_eq_true, decide_eq_true_eq, decide_eq_true_eq] at hlength
    simp only [reduceCtorEq, false_iff]
    omega
  · rename_i hlength
    rw [Bool.or_eq_true, decide_eq_true_eq, decide_eq_true_eq] at hlength
    have hbounded : 1 ≤ sourceEventID.utf8ByteSize ∧ sourceEventID.utf8ByteSize ≤ 128 := by
      omega
    cases occurredAt.isZero <;> simp [hbounded]

/-- An attribute within its bounds. -/
structure ValidAttribute (entry : Sigma fun _ : String => AttributeValue) : Prop where
  key : entry.1.utf8ByteSize ≤ 64
  scalar : entry.2.checkScalar = none
  value : entry.2 = .nil ∨ entry.2.sprint.utf8ByteSize ≤ 512

/-- An attribute passes if it is valid. -/
theorem checkAttribute_eq_none_iff (entry : Sigma fun _ : String => AttributeValue) :
    checkAttribute entry = none ↔ ValidAttribute entry := by
  unfold checkAttribute
  constructor
  · intro h
    split at h
    · cases h
    · rename_i hkey
      rw [Option.or_eq_none_iff] at h
      refine ⟨by omega, h.1, ?_⟩
      by_contra hvalue
      rw [not_or] at hvalue
      rw [if_pos ⟨hvalue.1, by omega⟩] at h
      exact absurd h.2 (by simp)
  · rintro ⟨hkey, hscalar, hvalue⟩
    rw [if_neg (by omega), Option.or_eq_none_iff]
    refine ⟨hscalar, if_neg ?_⟩
    rintro ⟨hnil, hlong⟩
    rcases hvalue with hvalue | hvalue
    · exact hnil hvalue
    · omega

/-- An actor with a supported type and a bounded ID, or none. -/
structure ValidActor (actor : AList fun _ : String => String) : Prop where
  keys : actor.keys.length = 2
  id : (actor.lookup "id").getD "" ≠ ""
  id_length : ((actor.lookup "id").getD "").utf8ByteSize ≤ 128
  type : (actor.lookup "type").getD "" ∈ actorTypes

/-- An actor passes if it is absent or valid. -/
theorem checkActor_eq_none_iff (actor : AList fun _ : String => String) :
    checkActor actor = none ↔ actor.keys.length = 0 ∨ ValidActor actor := by
  unfold checkActor
  dsimp only
  constructor
  · intro h
    split at h
    · rename_i hkeys
      exact .inl hkeys
    · split at h
      · cases h
      · rename_i hid
        split at h
        · cases h
        · rename_i htype
          rw [not_or, not_or, not_not] at hid
          exact .inr ⟨hid.1, hid.2.1, by omega, by simpa using htype⟩
  · rintro (hkeys | ⟨hkeys, hid, hlength, htype⟩)
    · rw [if_pos hkeys]
    · have hbounded : ¬ (actor.keys.length ≠ 2 ∨ (actor.lookup "id").getD "" = "" ∨
          128 < ((actor.lookup "id").getD "").utf8ByteSize) := by
        rintro (h | h | h)
        · exact h hkeys
        · exact hid h
        · omega
      rw [if_neg (by omega), if_neg hbounded, if_neg (by simpa using htype)]

/-- Metadata within its bounds. -/
structure UsageMetadata.Valid (m : UsageMetadata) : Prop where
  channel : m.channel = "" ∨ m.channel ∈ channels
  actor : m.actor.keys.length = 0 ∨ ValidActor m.actor
  fields : ∀ field ∈ m.boundedFields, field.2.utf8ByteSize ≤ 512
  amount : checkOriginalAmount m.originalAmountMinor = none
  attributes_length : m.attributes.keys.length ≤ 32
  attributes : ∀ entry ∈ m.attributes.entries, ValidAttribute entry

/-- A bounded text passes up to 512 bytes. -/
theorem checkBounded_eq_none_iff (field : String × String) :
    checkBounded field = none ↔ field.2.utf8ByteSize ≤ 512 := by
  unfold checkBounded
  by_cases hempty : field.2 = ""
  · simp [hempty]
  · simp [hempty]

/-- A channel passes if it is absent or known. -/
theorem checkChannel_eq_none_iff (channel : String) :
    checkChannel channel = none ↔ channel = "" ∨ channel ∈ channels := by
  unfold checkChannel
  by_cases hempty : channel = ""
  · simp [hempty]
  · by_cases hchannel : channel ∈ channels
    · simp [hchannel]
    · simp [hempty, hchannel]

/-- Attributes pass if they are few and valid. -/
theorem checkAttributes_eq_none_iff (attributes : AList fun _ : String => AttributeValue) :
    checkAttributes attributes = none ↔
      attributes.keys.length ≤ 32 ∧ ∀ entry ∈ attributes.entries, ValidAttribute entry := by
  unfold checkAttributes
  by_cases hlength : 32 < attributes.keys.length
  · simp [hlength]
  · rw [if_neg hlength, List.findSome?_eq_none_iff]
    simp only [checkAttribute_eq_none_iff]
    constructor
    · intro h
      exact ⟨by omega, h⟩
    · exact fun h => h.2

/-- Metadata passes when it is within its bounds. -/
theorem validateMetadata_eq_none_iff (m : UsageMetadata) :
    validateMetadata (some m) = none ↔ m.Valid := by
  unfold validateMetadata
  simp only [Option.or_eq_none_iff, checkChannel_eq_none_iff, checkActor_eq_none_iff,
    List.findSome?_eq_none_iff, checkBounded_eq_none_iff, checkAttributes_eq_none_iff]
  constructor
  · rintro ⟨hchannel, hactor, hfields, hamount, hlength, hattributes⟩
    exact ⟨hchannel, hactor, hfields, hamount, hlength, hattributes⟩
  · rintro ⟨hchannel, hactor, hfields, hamount, hlength, hattributes⟩
    exact ⟨hchannel, hactor, hfields, hamount, hlength, hattributes⟩

/-! ## Requests that are built -/

/-- Metadata with a provider attribution laid over it. -/
def UsageMetadata.attributed (m : UsageMetadata) (provider eventID : String) : UsageMetadata :=
  { m with provider := provider, providerEventID := eventID }

/-- The attribution is merged if it is given and the result is valid. -/
theorem providerMetadata_eq_ok_iff (provider eventID : String) (source : Option UsageMetadata)
    (m : UsageMetadata) :
    providerMetadata provider eventID source = .ok m ↔
      trimSpace provider ≠ "" ∧ trimSpace eventID ≠ "" ∧
        m = (source.getD .zero).attributed (trimSpace provider) (trimSpace eventID) ∧
        m.Valid := by
  simp only [providerMetadata, bind_eq_ok_iff, require_eq_ok_iff, report_eq_ok_iff,
    validateMetadata_eq_none_iff, Bool.and_eq_true, decide_eq_true_eq, pure, Except.pure,
    Except.ok.injEq]
  constructor
  · rintro ⟨_, ⟨hprovider, hevent⟩, _, hvalid, rfl⟩
    exact ⟨hprovider, hevent, rfl, hvalid⟩
  · rintro ⟨hprovider, hevent, rfl, hvalid⟩
    exact ⟨(), ⟨hprovider, hevent⟩, (), hvalid, rfl⟩

/-- So are the members of a conversation. -/
theorem conversationMetadata_eq_ok_iff (conversationID channel : String)
    (source : Option UsageMetadata) (m : UsageMetadata) :
    conversationMetadata conversationID channel source = .ok m ↔
      trimSpace conversationID ≠ "" ∧ channel ≠ "" ∧ validateMetadata source = none ∧
        m = { source.getD .zero with
          conversationID := trimSpace conversationID, channel := channel } ∧ m.Valid := by
  simp only [conversationMetadata, bind_eq_ok_iff, require_eq_ok_iff, report_eq_ok_iff,
    validateMetadata_eq_none_iff, Bool.and_eq_true, decide_eq_true_eq, pure, Except.pure,
    Except.ok.injEq]
  constructor
  · rintro ⟨_, ⟨hconversation, hchannel⟩, _, hsource, _, hvalid, rfl⟩
    exact ⟨hconversation, hchannel, hsource, rfl, hvalid⟩
  · rintro ⟨hconversation, hchannel, hsource, rfl, hvalid⟩
    exact ⟨(), ⟨hconversation, hchannel⟩, (), hsource, (), hvalid, rfl⟩

/-- The request that reports a quantity. -/
def ofQuantity (feature sourceEventID : String) (occurredAt : GoTime) (quantity : ExactAmount)
    (metadata : Option UsageMetadata) : ConsumptionRequest where
  sourceEventID := sourceEventID
  occurredAt := occurredAt
  featureCode := feature
  quantity := quantityOrOne quantity
  durationSeconds := ""
  providerAmountMinor := ""
  metadata := metadata
  components := []

/-- A counted request is built if each of its checks passes. -/
theorem quantityRequest_eq_ok_iff (validate : ExactAmount → Option String)
    (feature sourceEventID : String) (occurredAt : GoTime) (quantity : ExactAmount)
    (metadata : Option UsageMetadata) (request : ConsumptionRequest) :
    quantityRequest validate feature sourceEventID occurredAt quantity metadata =
        .ok request ↔
      validateUsageEvent sourceEventID occurredAt = none ∧
        validate (quantityOrOne quantity) = none ∧ validateMetadata metadata = none ∧
        request = ofQuantity feature sourceEventID occurredAt quantity metadata := by
  simp only [quantityRequest, bind_eq_ok_iff, report_eq_ok_iff, pure, Except.pure,
    Except.ok.injEq]
  constructor
  · rintro ⟨_, hevent, _, hquantity, _, hmetadata, rfl⟩
    exact ⟨hevent, hquantity, hmetadata, rfl⟩
  · rintro ⟨hevent, hquantity, hmetadata, rfl⟩
    exact ⟨(), hevent, (), hquantity, (), hmetadata, rfl⟩

/-- Metadata with the evidence of a charge laid over it. -/
def OtherProviderChargeUsage.evidence (usage : OtherProviderChargeUsage) (m : UsageMetadata) :
    UsageMetadata :=
  { m with
    providerInvoiceID := trimSpace usage.providerInvoiceID
    originalAmountMinor := usage.originalAmountMinor
    originalCurrency := usage.currency
    tariffVersion := trimSpace usage.tariffVersion
    fxRule := trimSpace usage.fxRule }

/-- The facts of a charge that pass before its metadata is looked at. -/
structure OtherProviderChargeUsage.Complete (usage : OtherProviderChargeUsage) : Prop where
  event : validateUsageEvent usage.sourceEventID usage.occurredAt = none
  amount : validateExactInteger usage.providerAmountMinor "provider amount minor" true = none
  original : validateExactInteger usage.originalAmountMinor "original amount minor" true = none
  invoice : trimSpace usage.providerInvoiceID ≠ ""
  tariff : trimSpace usage.tariffVersion ≠ ""
  code : isCurrencyCode usage.currency = true
  same : usage.currency = "SAR" → usage.originalAmountMinor = usage.providerAmountMinor
  rule : usage.currency ≠ "SAR" → trimSpace usage.fxRule ≠ ""

/-- A currency code leaves something when it is trimmed. -/
theorem trimSpace_ne_of_code {usage : OtherProviderChargeUsage}
    (h : isCurrencyCode usage.currency = true) : trimSpace usage.originalCurrency ≠ "" := by
  intro hempty
  rw [OtherProviderChargeUsage.currency, hempty] at h
  simp [toUpper, isCurrencyCode] at h

/-- So is a charge, whose evidence is checked once more. -/
theorem OtherProviderChargeUsage.request_eq_ok_iff (usage : OtherProviderChargeUsage)
    (request : ConsumptionRequest) :
    usage.request = .ok request ↔
      usage.Complete ∧ ∃ m,
        providerMetadata usage.provider usage.providerEventID usage.metadata = .ok m ∧
        (usage.evidence m).Valid ∧
        request = { ofQuantity "other_provider_charge" usage.sourceEventID usage.occurredAt ""
          (some (usage.evidence m)) with
          quantity := "", providerAmountMinor := usage.providerAmountMinor } := by
  simp only [OtherProviderChargeUsage.request, bind_eq_ok_iff, require_eq_ok_iff,
    report_eq_ok_iff, validateMetadata_eq_none_iff, Bool.and_eq_true, Bool.or_eq_true,
    decide_eq_true_eq, pure, Except.pure, Except.ok.injEq]
  constructor
  · rintro ⟨_, hevent, _, hamount, _, ⟨⟨hinvoice, -⟩, htariff⟩, _, horiginal, _, hcode, _, hrule,
      _, hsame, m, hm, _, hvalid, rfl⟩
    refine ⟨⟨hevent, hamount, horiginal, hinvoice, htariff, hcode, fun hsar => ?_,
      fun hsar => ?_⟩, m, hm, hvalid, rfl⟩
    · exact hsame.resolve_left (absurd hsar)
    · exact hrule.resolve_left hsar
  · rintro ⟨h, m, hm, hvalid, rfl⟩
    exact ⟨(), h.event, (), h.amount, (),
      ⟨⟨h.invoice, trimSpace_ne_of_code h.code⟩, h.tariff⟩, (), h.original, (), h.code, (),
      Decidable.or_iff_not_imp_left.mpr h.rule, (), Decidable.not_or_of_imp h.same, m, hm, (),
      hvalid, rfl⟩

end MizanSDK.Go
