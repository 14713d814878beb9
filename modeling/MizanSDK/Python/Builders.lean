import MizanSDK.Python.Webhooks

/-!
# The usage builders of the Python SDK

`builders.py`: the checks on the facts and the metadata of a usage event, and the
request each of the nine builders makes of its arguments.  An argument may be any
value, since the builders check its type themselves.  Of dictionaries only those
with string keys are values here; metadata with another key is refused, as is an
attribute with one.

Main results:

- Theorem `validateMetadata_eq_ok_iff`: metadata passes when its keys are known
  and every member passes the check of its key.
- Theorem `WithinContract.set`: overwriting a member keeps it so.
- Theorem `otherProviderCharge_eq_ok_iff`: which pass-through charges become a
  request, and which request.
-/

namespace MizanSDK.Python

open JsonText Checks Decimal

/-! ## The interpreter -/

/-- What the builders take from the interpreter besides.  `fromisoformat` reads a
timestamp and tells whether it has a timezone; it has no value for a `ValueError`.
`int` reads no characters but digits, and `repr` raises no exceptions but a
`ValueError`, unless the values are nested too deeply for the stack. -/
structure BuilderInterpreter extends Interpreter where
  fromisoformat : PyStr → Option Bool
  isDigit_of_decimal : ∀ c d, decimal c = some d → isDigit c = true
  repr_error : ∀ v e, repr v = .error e → e.IsValueError

/-! ## Reading arguments -/

/-- `isinstance(v, str)` and a condition on the text. -/
def PyValue.isTextWith (p : PyStr → Bool) : PyValue → Bool
  | .str s => p s
  | _ => false

/-- A value where it is known to be a `str`. -/
def PyValue.text : PyValue → PyStr
  | .str s => s
  | _ => []

/-- `d[name] = v`. -/
def PyDict.set (d : PyDict) (name : String) (v : PyValue) : PyDict := d ++ [(str name, v)]

/-- Reading after an assignment. -/
@[simp] theorem PyDict.get_set (d : PyDict) (name other : String) (v : PyValue) :
    (d.set name v).get other = if name = other then some v else d.get other := by
  simp only [PyDict.get, PyDict.set, lookupLast_append, lookupLast_cons, lookupLast_nil,
    Option.none_or, Text.ofString_inj]
  by_cases hname : name = other
  · simp [hname]
  · simp [hname]

/-! ## Facts -/

/-- `s.replace("Z", "+00:00")`. -/
def spellUtc (s : PyStr) : PyStr :=
  s.flatMap fun c => if c = .scalar 'Z' then str "+00:00" else [c]

/-- `_MAX_INT64`. -/
def maxInt64 : ℤ := 9223372036854775807

section Facts

variable (py : BuilderInterpreter)

/-- `_event`. -/
def checkEvent (sourceEventId occurredAt : PyValue) : Except PyError Unit := do
  require (sourceEventId.isTextWith fun s => 1 ≤ s.length && s.length ≤ 128)
    (refuse "source_event_id must contain 1 to 128 characters")
  require (occurredAt.isTextWith fun s => (py.fromisoformat (spellUtc s)).isSome)
    (refuse "occurred_at must be an ISO-8601 timestamp with a timezone")
  require (occurredAt.isTextWith fun s => py.fromisoformat (spellUtc s) = some true)
    (refuse "occurred_at must include a timezone")

/-- A character of the class `\d`. -/
def isDecimal (c : CodePoint) : Bool := (py.digit c).isSome

/-- `_INTEGER.fullmatch(s)`. -/
def integerPattern (s : PyStr) : Bool := !s.isEmpty && s.all (isDecimal py)

/-- The groups of `_DECIMAL.fullmatch(s)`. -/
def decimalPattern (s : PyStr) : Option (PyStr × PyStr) :=
  matchDecimal (isDecimal py) (.scalar '.') 3 s

/-- `fraction.ljust(3, "0")`. -/
def millis (fraction : PyStr) : PyStr :=
  fraction ++ List.replicate (3 - fraction.length) (.scalar '0')

/-- `_quantity`. -/
def checkQuantity (value : PyValue) : Except PyError Unit :=
  match decimalPattern py value.text with
  | none =>
      .error (refuse "quantity must be a positive decimal string with at most 3 decimal places")
  | some (whole, fraction) => do
      let whole ← py.int whole
      let fraction ← py.int (millis fraction)
      let scaled := whole * 1000 + fraction
      require (0 < scaled && scaled ≤ maxInt64)
        (refuse "quantity must be positive and fit the supported exact range")

/-- `_whole_count`. -/
def checkWholeCount (value : PyValue) : Except PyError Unit := do
  require (value.isTextWith (integerPattern py))
    (refuse "quantity must be a positive whole-count string")
  let parsed ← py.int value.text
  require (0 < parsed && parsed ≤ maxInt64 / 1000)
    (refuse
      "quantity must be positive and fit the supported exact range after milli scaling")

/-- `_integer`. -/
def checkInteger (value : PyValue) (field : String) (allowZero : Bool) :
    Except PyError Unit := do
  require (value.isTextWith (integerPattern py))
    (refuse (field ++ " must be a non-negative integer string"))
  let parsed ← py.int value.text
  require (!(maxInt64 < parsed || (parsed == 0 && !allowZero)))
    (refuse (field ++ " must be " ++ (if allowZero then "non-negative" else "positive") ++
      " and fit the supported exact range"))

end Facts

/-! ## Metadata -/

/-- `reserved`. -/
def metadataKeys : List String :=
  ["actor", "channel", "channel_account_id", "provider", "provider_event_id",
    "conversation_id", "campaign_id", "raw_quantity", "billable_quantity",
    "provider_invoice_id", "original_amount_minor", "original_currency", "fx_rule",
    "tariff_version", "attributes"]

/-- The values of `Channel`. -/
def channels : List String :=
  ["whatsapp", "instagram", "facebook", "tiktok", "telephony", "webchat"]

/-- The fields of metadata that are bounded texts. -/
def boundedFields : List String :=
  ["channel_account_id", "provider", "provider_event_id", "conversation_id", "campaign_id",
    "raw_quantity", "billable_quantity", "provider_invoice_id", "original_currency", "fx_rule",
    "tariff_version"]

/-- `s in {item.value for item in Channel}`. -/
def isChannel (s : PyStr) : Bool := channels.any fun channel => str channel == s

section Metadata

variable (py : BuilderInterpreter)

/-- The check of `metadata.get("channel")`. -/
def checkChannel : Option PyValue → Except PyError Unit
  | none | some .none => .ok ()
  | some v => do
      let channel ← py.str v
      require (isChannel channel) (refuse "metadata.channel is not a supported channel")

/-- The exception for an actor. -/
def actorError : PyError := refuse "metadata.actor requires a supported type and bounded id"

/-- The check of `metadata.get("actor")`; looking its type up hashes it. -/
def checkActor : Option PyValue → Except PyError Unit
  | none | some .none => .ok ()
  | some actor => do
      let actor ← asDict (some actor) actorError
      require (actor.all fun entry => entry.1 == str "type" || entry.1 == str "id") actorError
      let type ← isIn (actor.get "type") ["user", "system", "campaign"]
      require type actorError
      require (((actor.get "id").getD .none).isTextWith fun s =>
        1 ≤ s.length && s.length ≤ 128) actorError

/-- The check of a bounded text. -/
def checkField (field : String) : Option PyValue → Except PyError Unit
  | none | some .none => .ok ()
  | some v =>
      require (v.isTextWith fun s => 1 ≤ s.length && s.length ≤ 512)
        (refuse ("metadata." ++ field ++ " must contain 1 to 512 characters"))

/-- The check of `metadata.get("original_amount_minor")`, which may be an `int`. -/
def checkOriginalAmount : Option PyValue → Except PyError Unit
  | none | some .none => .ok ()
  | some v => do
      let amount ← py.str v
      checkInteger py (.str amount) "metadata.original_amount_minor" true

/-- `isinstance(v, (str, int, float, bool))`. -/
def PyValue.isScalar : PyValue → Bool
  | .str _ | .int _ | .float _ | .bool _ => true
  | _ => false

/-- `math.isfinite(v)` where `v` is a `float`. -/
def PyValue.isFinite : PyValue → Bool
  | .float (.nearest literal) => !literal.overflowsBinary64
  | .float _ => false
  | _ => true

/-- The check of one attribute. -/
def checkAttribute (key : PyStr) (value : PyValue) : Except PyError Unit :=
  match value with
  | .none =>
      require (key.length ≤ 64)
        (refuse "metadata.attributes contains an invalid key or scalar value")
  | value => do
      require (key.length ≤ 64 && value.isScalar)
        (refuse "metadata.attributes contains an invalid key or scalar value")
      let text ← py.str value
      require (text.length ≤ 512)
        (refuse "metadata attribute values must be at most 512 characters")
      require value.isFinite (refuse "metadata attribute numbers must be finite")

/-- The items of a dictionary: each key with its last value. -/
def PyDict.items (d : PyDict) : List (PyStr × PyValue) :=
  d.keys.map fun key => (key, (lookupLast d key).getD .none)

/-- The check of `metadata.get("attributes", {})`. -/
def checkAttributes : Option PyValue → Except PyError Unit
  | none => .ok ()
  | some v => do
      let error := refuse "metadata.attributes must be an object with at most 32 entries"
      let attributes ← asDict (some v) error
      require (attributes.keys.length ≤ 32) error
      forM attributes.items fun item => checkAttribute py item.1 item.2

/-- `_validate_metadata`. -/
def validateMetadata : Option PyDict → Except PyError Unit
  | none => .ok ()
  | some metadata => do
      require (metadata.all fun entry => metadataKeys.any fun key => str key == entry.1)
        (refuse "custom metadata top-level keys are not supported; use metadata.attributes")
      checkChannel py (metadata.get "channel")
      checkActor (metadata.get "actor")
      forM boundedFields fun field => checkField field (metadata.get field)
      checkOriginalAmount py (metadata.get "original_amount_minor")
      checkAttributes py (metadata.get "attributes")

end Metadata

/-! ## Requests -/

/-- A request: an event, its feature, the fact it reports, and metadata if there
is any. -/
def usageRequest (featureCode : String) (sourceEventId occurredAt : PyValue) (fact : String)
    (value : PyValue) (metadata : Option PyDict) : PyDict :=
  let request :=
    [(str "source_event_id", sourceEventId), (str "occurred_at", occurredAt),
      (str "feature_code", .str (str featureCode)), (str fact, value)]
  match metadata with
  | none => request
  | some metadata => PyDict.set request "metadata" (.dict metadata)

section Builders

variable (py : BuilderInterpreter)

/-- `_whole_count if whole_count else _quantity`. -/
def checkCount (wholeCount : Bool) (quantity : PyValue) : Except PyError Unit :=
  if wholeCount then checkWholeCount py quantity else checkQuantity py quantity

/-- `_count_usage`. -/
def countUsage (wholeCount : Bool) (featureCode : String)
    (sourceEventId occurredAt quantity : PyValue) (metadata : Option PyDict) :
    Except PyError PyDict := do
  checkEvent py sourceEventId occurredAt
  checkCount py wholeCount quantity
  validateMetadata py metadata
  return usageRequest featureCode sourceEventId occurredAt "quantity" quantity metadata

/-- Lay a provider attribution over metadata. -/
def PyDict.setAttribution (metadata : PyDict) (provider providerEventId : PyStr) : PyDict :=
  (metadata.set "provider" (.str provider)).set "provider_event_id" (.str providerEventId)

/-- `_provider_metadata`. -/
def providerMetadata (provider providerEventId : PyValue) (metadata : Option PyDict) :
    Except PyError PyDict := do
  validateMetadata py metadata
  require (provider.isTextWith fun s => strip s ≠ [])
    (refuse "provider is required for provider-priced usage")
  require (providerEventId.isTextWith fun s => strip s ≠ [])
    (refuse "provider_event_id is required for provider-priced usage")
  return (metadata.getD []).setAttribution (strip provider.text) (strip providerEventId.text)

/-- `_required_metadata_string`. -/
def requiredMetadataString (value : PyValue) (field : String) : Except PyError PyStr := do
  require (value.isTextWith fun s => strip s ≠ [] && (strip s).length ≤ 512)
    (refuse (field ++ " must contain 1 to 512 characters"))
  return strip value.text

/-- `conversation_24h`. -/
def conversation24h (sourceEventId occurredAt conversationId channel : PyValue)
    (metadata : Option PyDict) : Except PyError PyDict := do
  validateMetadata py metadata
  let resolvedChannel ← py.str channel
  require (isChannel resolvedChannel) (refuse "channel is not a supported channel")
  let conversationId ← requiredMetadataString conversationId "conversation_id"
  let resolved := ((metadata.getD []).set "conversation_id" (.str conversationId)).set
    "channel" (.str resolvedChannel)
  countUsage py true "conversation_24h" sourceEventId occurredAt (.str (str "1")) (some resolved)

/-- `outbound_delivered_message`. -/
def outboundDeliveredMessage := countUsage py true "outbound_delivered_message"

/-- `ai_assist_action_over_allowance`. -/
def aiAssistActionOverAllowance := countUsage py true "ai_assist_action_over_allowance"

/-- `ai_reply_handling`. -/
def aiReplyHandling := countUsage py true "ai_reply_handling"

/-- `voice_ai_started_minute`. -/
def voiceAiStartedMinute (sourceEventId occurredAt durationSeconds : PyValue)
    (metadata : Option PyDict) : Except PyError PyDict := do
  checkEvent py sourceEventId occurredAt
  checkInteger py durationSeconds "duration_seconds" false
  validateMetadata py metadata
  return usageRequest "voice_ai_started_minute" sourceEventId occurredAt "duration_seconds"
    durationSeconds metadata

/-- A builder of provider-priced quantities. -/
def providerUsage (wholeCount : Bool) (featureCode : String)
    (sourceEventId occurredAt provider providerEventId quantity : PyValue)
    (metadata : Option PyDict) : Except PyError PyDict := do
  let providerMetadata ← providerMetadata py provider providerEventId metadata
  countUsage py wholeCount featureCode sourceEventId occurredAt quantity (some providerMetadata)

/-- `whatsapp_meta_marketing_message`. -/
def whatsappMetaMarketingMessage (sourceEventId occurredAt providerEventId quantity : PyValue)
    (metadata : Option PyDict) : Except PyError PyDict :=
  providerUsage py true "whatsapp_meta_marketing_msg" sourceEventId occurredAt
    (.str (str "Meta")) providerEventId quantity metadata

/-- `telephony_voice_minute`. -/
def telephonyVoiceMinute := providerUsage py false "telephony_voice_minute"

/-- `inbound_voice_minute`. -/
def inboundVoiceMinute := providerUsage py false "inbound_voice_minute"

/-- The arguments of `other_provider_charge`. -/
structure OtherProviderCharge where
  sourceEventId : PyValue
  occurredAt : PyValue
  provider : PyValue
  providerEventId : PyValue
  providerAmountMinor : PyValue
  providerInvoiceId : PyValue
  originalAmountMinor : PyValue
  originalCurrency : PyValue
  tariffVersion : PyValue
  fxRule : PyValue
  metadata : Option PyDict

/-- The upper-case form of a code point as far as a currency code can tell: apart
from the ASCII letters only the dotless i, the long s, the sharp s and the Latin
ligatures become ASCII letters and nothing else. -/
def upperCodePoint : CodePoint → PyStr
  | .scalar c =>
      if c = '\u0131' then str "I"
      else if c = '\u017F' then str "S"
      else if c = '\u00DF' then str "SS"
      else if c = '\uFB00' then str "FF"
      else if c = '\uFB01' then str "FI"
      else if c = '\uFB02' then str "FL"
      else if c = '\uFB03' then str "FFI"
      else if c = '\uFB04' then str "FFL"
      else if c = '\uFB05' ∨ c = '\uFB06' then str "ST"
      else [.scalar c.toUpper]
  | .surrogate i => [.surrogate i]

/-- `s.upper()`. -/
def upper (s : PyStr) : PyStr := s.flatMap upperCodePoint

/-- The pattern of a currency code: three upper-case letters. -/
def isCurrencyCode (s : PyStr) : Bool :=
  s.length == 3 && s.all fun
    | .scalar c => 'A' ≤ c && c ≤ 'Z'
    | .surrogate _ => false

/-- Lay the evidence every pass-through charge has over its attribution. -/
def PyDict.setEvidence (metadata : PyDict) (providerInvoiceId : PyStr)
    (originalAmountMinor : PyValue) (currency tariffVersion : PyStr) : PyDict :=
  (((metadata.set "provider_invoice_id" (.str providerInvoiceId)).set
    "original_amount_minor" originalAmountMinor).set
    "original_currency" (.str currency)).set "tariff_version" (.str tariffVersion)

/-- `evidence` in `other_provider_charge`. -/
def passThroughEvidence (charge : OtherProviderCharge) (currency : PyStr) (metadata : PyDict) :
    Except PyError PyDict := do
  let providerInvoiceId ←
    requiredMetadataString charge.providerInvoiceId "provider_invoice_id"
  let tariffVersion ← requiredMetadataString charge.tariffVersion "tariff_version"
  let evidence :=
    metadata.setEvidence providerInvoiceId charge.originalAmountMinor currency tariffVersion
  match charge.fxRule with
  | .none => return evidence
  | fxRule => do
      let fxRule ← requiredMetadataString fxRule "fx_rule"
      return evidence.set "fx_rule" (.str fxRule)

/-- What `other_provider_charge` checks before it turns to the metadata, and the
currency it finds. -/
def checkCharge (charge : OtherProviderCharge) : Except PyError PyStr := do
  checkEvent py charge.sourceEventId charge.occurredAt
  checkInteger py charge.providerAmountMinor "provider_amount_minor" true
  checkInteger py charge.originalAmountMinor "original_amount_minor" true
  let originalCurrency ← requiredMetadataString charge.originalCurrency "original_currency"
  let currency := upper originalCurrency
  require (isCurrencyCode currency)
    (refuse "original_currency must be a three-letter ISO currency")
  require (currency ≠ str "SAR" ||
      charge.originalAmountMinor.text = charge.providerAmountMinor.text)
    (refuse "SAR provider_amount_minor must equal original_amount_minor")
  require (currency = str "SAR" || charge.fxRule.isTextWith fun s => strip s ≠ [])
    (refuse "fx_rule is required when original_currency is not SAR")
  return currency

/-- `other_provider_charge`. -/
def otherProviderCharge (charge : OtherProviderCharge) : Except PyError PyDict := do
  let currency ← checkCharge py charge
  let metadata ←
    providerMetadata py charge.provider charge.providerEventId charge.metadata
  let evidence ← passThroughEvidence charge currency metadata
  return usageRequest "other_provider_charge" charge.sourceEventId charge.occurredAt
    "provider_amount_minor" charge.providerAmountMinor (some evidence)

/-- A call of one of the nine builders with its arguments; the other names are
aliases. -/
inductive UsageCall where
  | conversation24h (sourceEventId occurredAt conversationId channel : PyValue)
      (metadata : Option PyDict)
  | outboundDeliveredMessage (sourceEventId occurredAt quantity : PyValue)
      (metadata : Option PyDict)
  | aiAssistActionOverAllowance (sourceEventId occurredAt quantity : PyValue)
      (metadata : Option PyDict)
  | aiReplyHandling (sourceEventId occurredAt quantity : PyValue) (metadata : Option PyDict)
  | voiceAiStartedMinute (sourceEventId occurredAt durationSeconds : PyValue)
      (metadata : Option PyDict)
  | whatsappMetaMarketingMessage (sourceEventId occurredAt providerEventId quantity : PyValue)
      (metadata : Option PyDict)
  | telephonyVoiceMinute
      (sourceEventId occurredAt provider providerEventId billableMinutes : PyValue)
      (metadata : Option PyDict)
  | inboundVoiceMinute
      (sourceEventId occurredAt provider providerEventId billableMinutes : PyValue)
      (metadata : Option PyDict)
  | otherProviderCharge (charge : OtherProviderCharge)

/-- The request a builder returns. -/
def UsageCall.build : UsageCall → Except PyError PyDict
  | .conversation24h s o c ch m => MizanSDK.Python.conversation24h py s o c ch m
  | .outboundDeliveredMessage s o q m => MizanSDK.Python.outboundDeliveredMessage py s o q m
  | .aiAssistActionOverAllowance s o q m =>
      MizanSDK.Python.aiAssistActionOverAllowance py s o q m
  | .aiReplyHandling s o q m => MizanSDK.Python.aiReplyHandling py s o q m
  | .voiceAiStartedMinute s o d m => MizanSDK.Python.voiceAiStartedMinute py s o d m
  | .whatsappMetaMarketingMessage s o e q m =>
      MizanSDK.Python.whatsappMetaMarketingMessage py s o e q m
  | .telephonyVoiceMinute s o p e b m => MizanSDK.Python.telephonyVoiceMinute py s o p e b m
  | .inboundVoiceMinute s o p e b m => MizanSDK.Python.inboundVoiceMinute py s o p e b m
  | .otherProviderCharge charge => MizanSDK.Python.otherProviderCharge py charge

end Builders

/-! ## Metadata that passes -/

section Contract

variable (py : BuilderInterpreter)

/-- The check a member of metadata has to pass. -/
def checkMember (key : String) (value : Option PyValue) : Except PyError Unit :=
  if key = "channel" then checkChannel py value
  else if key = "actor" then checkActor value
  else if key = "original_amount_minor" then checkOriginalAmount py value
  else if key = "attributes" then checkAttributes py value
  else checkField key value

/-- Metadata whose keys are known and whose members pass their checks. -/
structure WithinContract (metadata : PyDict) : Prop where
  keys : ∀ entry ∈ metadata, ∃ key ∈ metadataKeys, entry.1 = str key
  members : ∀ key ∈ metadataKeys, checkMember py key (metadata.get key) = .ok ()

/-- The known keys are the bounded fields and four more. -/
theorem forall_metadataKeys_iff (p : String → Prop) :
    (∀ key ∈ metadataKeys, p key) ↔
      p "channel" ∧ p "actor" ∧ (∀ field ∈ boundedFields, p field) ∧
        p "original_amount_minor" ∧ p "attributes" := by
  simp only [metadataKeys, boundedFields, List.forall_mem_cons, List.not_mem_nil, false_implies,
    implies_true, and_true]
  tauto

/-- Every bounded field has the check of its length. -/
theorem checkMember_field {field : String} (h : field ∈ boundedFields) (value : Option PyValue) :
    checkMember py field value = checkField field value := by
  unfold checkMember
  rw [if_neg, if_neg, if_neg, if_neg]
  all_goals
    rintro rfl
    revert h
    decide

theorem known_iff (metadata : PyDict) :
    (metadata.all fun entry => metadataKeys.any fun key => str key == entry.1) = true ↔
      ∀ entry ∈ metadata, ∃ key ∈ metadataKeys, entry.1 = str key := by
  simp only [List.all_eq_true, List.any_eq_true, beq_iff_eq]
  constructor
  · intro h entry hentry
    rcases h entry hentry with ⟨key, hkey, hsame⟩
    exact ⟨key, hkey, hsame.symm⟩
  · intro h entry hentry
    rcases h entry hentry with ⟨key, hkey, hsame⟩
    exact ⟨key, hkey, hsame.symm⟩

/-- Metadata passes when its keys are known and every member passes its check. -/
theorem validateMetadata_eq_ok_iff (metadata : PyDict) :
    validateMetadata py (some metadata) = .ok () ↔ WithinContract py metadata := by
  have hmembers := forall_metadataKeys_iff fun key =>
    checkMember py key (metadata.get key) = .ok ()
  have hfields : (∀ field ∈ boundedFields,
      checkMember py field (metadata.get field) = .ok ()) ↔
        ∀ field ∈ boundedFields, checkField field (metadata.get field) = .ok () :=
    forall₂_congr fun field hfield => by rw [checkMember_field py hfield]
  rw [hfields] at hmembers
  simp only [validateMetadata, bind_eq_ok_iff, require_eq_ok_iff, known_iff, forM_eq_ok_iff]
  constructor
  · rintro ⟨_, hknown, _, hchannel, _, hactor, _, hbounded, _, hamount, hattributes⟩
    exact ⟨hknown, hmembers.mpr ⟨hchannel, hactor, hbounded, hamount, hattributes⟩⟩
  · rintro ⟨hknown, hpass⟩
    rcases hmembers.mp hpass with ⟨hchannel, hactor, hbounded, hamount, hattributes⟩
    exact ⟨(), hknown, (), hchannel, (), hactor, (), hbounded, (), hamount, hattributes⟩

/-- Empty metadata passes. -/
theorem withinContract_nil : WithinContract py [] := by
  refine ⟨nofun, fun key _ => ?_⟩
  change checkMember py key none = .ok ()
  unfold checkMember
  split_ifs <;> rfl

variable {py}

/-- Overwriting a member with a value that passes keeps metadata within the
contract. -/
theorem WithinContract.set {metadata : PyDict} (h : WithinContract py metadata) (key : String)
    (hkey : key ∈ metadataKeys) {value : PyValue}
    (hvalue : checkMember py key (some value) = .ok ()) :
    WithinContract py (metadata.set key value) := by
  constructor
  · intro entry hentry
    rw [PyDict.set, List.mem_append, List.mem_singleton] at hentry
    rcases hentry with hentry | rfl
    · exact h.keys entry hentry
    · exact ⟨key, hkey, rfl⟩
  · intro other hother
    rw [PyDict.get_set]
    split
    · rename_i hsame
      rwa [← hsame]
    · exact h.members other hother

/-- The caller's metadata, or none, once it has passed. -/
theorem withinContract_getD {metadata : Option PyDict}
    (h : validateMetadata py metadata = .ok ()) : WithinContract py (metadata.getD []) := by
  cases metadata with
  | none => exact withinContract_nil py
  | some metadata => exact (validateMetadata_eq_ok_iff py metadata).mp h

end Contract

/-! ## Checks that pass -/

section Passing

variable {py : BuilderInterpreter}

@[simp] theorem PyValue.isTextWith_iff (v : PyValue) (p : PyStr → Bool) :
    v.isTextWith p = true ↔ ∃ s, v = .str s ∧ p s = true := by
  cases v <;> simp [PyValue.isTextWith]

theorem requiredMetadataString_eq_ok_iff (v : PyValue) (field : String) (s : PyStr) :
    requiredMetadataString v field = .ok s ↔
      ∃ t, v = .str t ∧ strip t = s ∧ s ≠ [] ∧ s.length ≤ 512 := by
  simp only [requiredMetadataString, bind_eq_ok_iff, require_eq_ok_iff, PyValue.isTextWith_iff,
    Bool.and_eq_true, decide_eq_true_eq, pure, Except.pure, Except.ok.injEq]
  constructor
  · rintro ⟨_, ⟨t, rfl, hne, hlength⟩, rfl⟩
    exact ⟨t, rfl, rfl, hne, hlength⟩
  · rintro ⟨t, rfl, rfl, hne, hlength⟩
    exact ⟨(), ⟨t, rfl, hne, hlength⟩, rfl⟩

/-- An integer fact that passes; the field is only named in messages. -/
theorem checkInteger_eq_ok_iff (v : PyValue) (field : String) (allowZero : Bool) :
    checkInteger py v field allowZero = .ok () ↔
      ∃ s n, v = .str s ∧ integerPattern py s = true ∧ py.int s = .ok n ∧ n ≤ maxInt64 ∧
        (n = 0 → allowZero = true) := by
  simp only [checkInteger, bind_eq_ok_iff, require_eq_ok_iff, PyValue.isTextWith_iff,
    Bool.not_eq_true', Bool.or_eq_false_iff, decide_eq_false_iff_not, Bool.and_eq_false_iff,
    beq_eq_false_iff_ne, Bool.not_eq_false', not_lt]
  constructor
  · rintro ⟨_, ⟨s, rfl, hpattern⟩, n, hint, hle, hzero⟩
    refine ⟨s, n, rfl, hpattern, hint, hle, fun hn => ?_⟩
    rcases hzero with hzero | hzero
    · exact absurd hn hzero
    · exact hzero
  · rintro ⟨s, n, rfl, hpattern, hint, hle, hzero⟩
    refine ⟨(), ⟨s, rfl, hpattern⟩, n, hint, hle, ?_⟩
    by_cases hn : n = 0
    · exact .inr (hzero hn)
    · exact .inl hn

theorem checkWholeCount_eq_ok_iff (v : PyValue) :
    checkWholeCount py v = .ok () ↔
      ∃ s n, v = .str s ∧ integerPattern py s = true ∧ py.int s = .ok n ∧ 0 < n ∧
        n ≤ maxInt64 / 1000 := by
  simp only [checkWholeCount, bind_eq_ok_iff, require_eq_ok_iff, PyValue.isTextWith_iff,
    Bool.and_eq_true, decide_eq_true_eq]
  constructor
  · rintro ⟨_, ⟨s, rfl, hpattern⟩, n, hint, hrange⟩
    exact ⟨s, n, rfl, hpattern, hint, hrange⟩
  · rintro ⟨s, n, rfl, hpattern, hint, hrange⟩
    exact ⟨(), ⟨s, rfl, hpattern⟩, n, hint, hrange⟩

theorem checkQuantity_eq_ok_iff (v : PyValue) :
    checkQuantity py v = .ok () ↔
      ∃ whole fraction m n, decimalPattern py v.text = some (whole, fraction) ∧
        py.int whole = .ok m ∧ py.int (millis fraction) = .ok n ∧ 0 < m * 1000 + n ∧
        m * 1000 + n ≤ maxInt64 := by
  unfold checkQuantity
  cases decimalPattern py v.text with
  | none => simp
  | some groups =>
      simp only [bind_eq_ok_iff, require_eq_ok_iff, Bool.and_eq_true, decide_eq_true_eq,
        Option.some.injEq]
      constructor
      · rintro ⟨m, hm, n, hn, hrange⟩
        exact ⟨groups.1, groups.2, m, n, rfl, hm, hn, hrange⟩
      · rintro ⟨whole, fraction, m, n, rfl, hm, hn, hrange⟩
        exact ⟨m, hm, n, hn, hrange⟩

theorem checkEvent_eq_ok_iff (s o : PyValue) :
    checkEvent py s o = .ok () ↔
      (∃ id, s = .str id ∧ 1 ≤ id.length ∧ id.length ≤ 128) ∧
        ∃ time, o = .str time ∧ py.fromisoformat (spellUtc time) = some true := by
  simp only [checkEvent, bind_eq_ok_iff, require_eq_ok_iff, PyValue.isTextWith_iff,
    Bool.and_eq_true, decide_eq_true_eq]
  constructor
  · rintro ⟨_, hid, _, -, htime⟩
    exact ⟨hid, htime⟩
  · rintro ⟨hid, time, rfl, htime⟩
    exact ⟨(), hid, (), ⟨time, rfl, by rw [htime]; rfl⟩, time, rfl, htime⟩

/-- A text passes as a bounded member by its length. -/
theorem checkMember_text_iff {field : String} (h : field ∈ boundedFields) (s : PyStr) :
    checkMember py field (some (.str s)) = .ok () ↔ 1 ≤ s.length ∧ s.length ≤ 512 := by
  simp [checkMember_field py h, checkField, PyValue.isTextWith]

/-- A required text passes as a bounded member. -/
theorem checkMember_required {v : PyValue} {name field : String} {s : PyStr}
    (h : requiredMetadataString v name = .ok s) (hfield : field ∈ boundedFields) :
    checkMember py field (some (.str s)) = .ok () := by
  rcases (requiredMetadataString_eq_ok_iff v name s).mp h with ⟨-, -, -, hne, hlength⟩
  exact (checkMember_text_iff hfield s).mpr ⟨List.length_pos_iff.mpr hne, hlength⟩

/-- A currency code passes as the original currency. -/
theorem checkMember_currency {currency : PyStr} (h : isCurrencyCode currency = true) :
    checkMember py "original_currency" (some (.str currency)) = .ok () := by
  rw [isCurrencyCode, Bool.and_eq_true, beq_iff_eq] at h
  have hfield : "original_currency" ∈ boundedFields := by decide
  exact (checkMember_text_iff hfield currency).mpr ⟨by omega, by omega⟩

/-- An amount that passed as an argument passes as a member. -/
theorem checkMember_amount {v : PyValue} {field : String}
    (h : checkInteger py v field true = .ok ()) :
    checkMember py "original_amount_minor" (some v) = .ok () := by
  rcases (checkInteger_eq_ok_iff v field true).mp h with ⟨s, n, rfl, hs⟩
  exact (checkInteger_eq_ok_iff (.str s) "metadata.original_amount_minor" true).mpr
    ⟨s, n, rfl, hs⟩

theorem countUsage_eq_ok_iff (wholeCount : Bool) (featureCode : String) (s o q : PyValue)
    (metadata : Option PyDict) (request : PyDict) :
    countUsage py wholeCount featureCode s o q metadata = .ok request ↔
      checkEvent py s o = .ok () ∧
        checkCount py wholeCount q = .ok () ∧
        validateMetadata py metadata = .ok () ∧
        request = usageRequest featureCode s o "quantity" q metadata := by
  simp only [countUsage, bind_eq_ok_iff, pure, Except.pure, Except.ok.injEq]
  constructor
  · rintro ⟨_, hevent, _, hquantity, _, hmetadata, hrequest⟩
    exact ⟨hevent, hquantity, hmetadata, hrequest.symm⟩
  · rintro ⟨hevent, hquantity, hmetadata, rfl⟩
    exact ⟨(), hevent, (), hquantity, (), hmetadata, rfl⟩

theorem providerMetadata_eq_ok_iff (provider providerEventId : PyValue)
    (metadata : Option PyDict) (attributed : PyDict) :
    providerMetadata py provider providerEventId metadata = .ok attributed ↔
      validateMetadata py metadata = .ok () ∧
        (provider.isTextWith fun s => strip s ≠ []) = true ∧
        (providerEventId.isTextWith fun s => strip s ≠ []) = true ∧
        attributed = (metadata.getD []).setAttribution (strip provider.text)
          (strip providerEventId.text) := by
  simp only [providerMetadata, bind_eq_ok_iff, require_eq_ok_iff, pure, Except.pure,
    Except.ok.injEq]
  constructor
  · rintro ⟨_, hmetadata, _, hprovider, _, hevent, hattributed⟩
    exact ⟨hmetadata, hprovider, hevent, hattributed.symm⟩
  · rintro ⟨hmetadata, hprovider, hevent, rfl⟩
    exact ⟨(), hmetadata, (), hprovider, (), hevent, rfl⟩

/-- The evidence of a charge that passes. -/
theorem passThroughEvidence_eq_ok_iff (charge : OtherProviderCharge) (currency : PyStr)
    (metadata evidence : PyDict) :
    passThroughEvidence charge currency metadata = .ok evidence ↔
      ∃ invoice tariff,
        requiredMetadataString charge.providerInvoiceId "provider_invoice_id" = .ok invoice ∧
        requiredMetadataString charge.tariffVersion "tariff_version" = .ok tariff ∧
        (charge.fxRule = .none ∧
            evidence = metadata.setEvidence invoice charge.originalAmountMinor currency tariff ∨
          ∃ fxRule, requiredMetadataString charge.fxRule "fx_rule" = .ok fxRule ∧
            evidence = (metadata.setEvidence invoice charge.originalAmountMinor currency
              tariff).set "fx_rule" (.str fxRule)) := by
  simp only [passThroughEvidence, bind_eq_ok_iff]
  refine exists_congr fun invoice => ?_
  rw [← exists_and_left]
  simp only [exists_and_left]
  refine and_congr_right fun _ => exists_congr fun tariff => and_congr_right fun _ => ?_
  cases hfx : charge.fxRule with
  | none =>
      simp [pure, Except.pure, eq_comm (a := evidence), requiredMetadataString_eq_ok_iff]
  | _ =>
      simp [bind_eq_ok_iff, pure, Except.pure, eq_comm (a := evidence)]

theorem checkCharge_eq_ok_iff (charge : OtherProviderCharge) (currency : PyStr) :
    checkCharge py charge = .ok currency ↔
      checkEvent py charge.sourceEventId charge.occurredAt = .ok () ∧
      checkInteger py charge.providerAmountMinor "provider_amount_minor" true = .ok () ∧
      checkInteger py charge.originalAmountMinor "original_amount_minor" true = .ok () ∧
      (∃ originalCurrency,
        requiredMetadataString charge.originalCurrency "original_currency" =
          .ok originalCurrency ∧ upper originalCurrency = currency) ∧
      isCurrencyCode currency = true ∧
      (currency = str "SAR" →
        charge.originalAmountMinor.text = charge.providerAmountMinor.text) ∧
      (currency ≠ str "SAR" → (charge.fxRule.isTextWith fun s => strip s ≠ []) = true) := by
  simp only [checkCharge, bind_eq_ok_iff, require_eq_ok_iff, pure, Except.pure,
    Except.ok.injEq, Bool.or_eq_true, decide_eq_true_eq]
  constructor
  · rintro ⟨_, hevent, _, hamount, _, horiginal, original, hcurrency, _, hcode, _, hsame, _, hfx,
      rfl⟩
    refine ⟨hevent, hamount, horiginal, ⟨original, hcurrency, rfl⟩, hcode, fun hsar => ?_,
      fun hsar => ?_⟩
    · exact hsame.resolve_left (absurd hsar)
    · exact hfx.resolve_left hsar
  · rintro ⟨hevent, hamount, horiginal, ⟨original, hcurrency, rfl⟩, hcode, hsame, hfx⟩
    refine ⟨(), hevent, (), hamount, (), horiginal, original, hcurrency, (), hcode, (), ?_, (),
      ?_, rfl⟩
    · exact Decidable.not_or_of_imp hsame
    · exact Decidable.or_iff_not_imp_left.mpr hfx

theorem otherProviderCharge_eq_ok_iff (charge : OtherProviderCharge) (request : PyDict) :
    otherProviderCharge py charge = .ok request ↔
      ∃ currency metadata evidence, checkCharge py charge = .ok currency ∧
        providerMetadata py charge.provider charge.providerEventId charge.metadata =
          .ok metadata ∧
        passThroughEvidence charge currency metadata = .ok evidence ∧
        request = usageRequest "other_provider_charge" charge.sourceEventId charge.occurredAt
          "provider_amount_minor" charge.providerAmountMinor (some evidence) := by
  simp only [otherProviderCharge, bind_eq_ok_iff, pure, Except.pure, Except.ok.injEq]
  constructor
  · rintro ⟨currency, hcharge, metadata, hmetadata, evidence, hevidence, hrequest⟩
    exact ⟨currency, metadata, evidence, hcharge, hmetadata, hevidence, hrequest.symm⟩
  · rintro ⟨currency, metadata, evidence, hcharge, hmetadata, hevidence, rfl⟩
    exact ⟨currency, hcharge, metadata, hmetadata, evidence, hevidence, rfl⟩

end Passing

section Example

/-- A result is no exception. -/
theorem isValueError_of_ok (_ : PyValue) (e : PyError)
    (h : (.ok [] : Except PyError PyStr) = .error e) : e.IsValueError := by
  cases h

/-- An interpreter that reads one timestamp, and knows no digits but the ASCII ones. -/
def asciiInterpreter : BuilderInterpreter where
  loads _ := .ok none
  dumps _ := .ok []
  lower := lower
  repr _ := .ok []
  isDigit := isAsciiDigit
  decimal c := if isAsciiDigit c then some (c.toNat - '0'.toNat) else none
  maxStrDigits := 4300
  isDigit_ascii := asciiDigit_isDigit
  decimal_ascii := asciiDigit_decimal
  maxStrDigits_threshold := defaultMaxStrDigits_threshold
  fromisoformat s := if s = str "2026-08-04T00:00:00+00:00" then some true else none
  isDigit_of_decimal c d h := by
    by_contra hdigit
    simp [hdigit] at h
  repr_error := isValueError_of_ok

end Example

end MizanSDK.Python
