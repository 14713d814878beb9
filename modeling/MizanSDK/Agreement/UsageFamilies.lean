import MizanSDK.Agreement.Charges
import MizanSDK.Agreement.Metadata

/-!
# Families of usages

A usage of the Go SDK, the call of the Python builder with the same arguments, and
the checks on it: those both SDKs make, and those only one of them makes.  Features
that are checked alike form one family.

Main results:

- Definition `pythonCall`: the call of the Python builder.
- Definitions `Usage.Shared`, `Usage.GoOnly` and `Usage.PythonOnly`: the checks.
- Theorems `Usage.request_ofFeature` and `Usage.build_ofFeature`: a family has the
  requests of its features.
-/

namespace MizanSDK.Agreement

open JsonText Decimal Trim Checks

/-! ## Translation -/

/-- The rule of conversion a Python caller passes for that of a Go caller. -/
def pythonRule (fxRule : String) : Python.PyValue := if fxRule = "" then .none else text fxRule

/-- The same pass-through charge in Python. -/
def pythonCharge (usage : Go.OtherProviderChargeUsage) : Python.OtherProviderCharge where
  sourceEventId := text usage.sourceEventID
  occurredAt := text usage.occurredAt.rfc3339Nano
  provider := text usage.provider
  providerEventId := text usage.providerEventID
  providerAmountMinor := text usage.providerAmountMinor
  providerInvoiceId := text usage.providerInvoiceID
  originalAmountMinor := text usage.originalAmountMinor
  originalCurrency := text usage.originalCurrency
  tariffVersion := text usage.tariffVersion
  fxRule := pythonRule usage.fxRule
  metadata := usage.metadata.map toDict

/-- The call of the Python builder with the arguments of a Go usage.  A quantity Go
omits is the default of the builder. -/
def pythonCall : Go.FeatureUsage → Python.UsageCall
  | .conversation24H usage =>
      .conversation24h (text usage.sourceEventID) (text usage.occurredAt.rfc3339Nano)
        (text usage.conversationID) (text usage.channel) (usage.metadata.map toDict)
  | .outboundDeliveredMessage usage =>
      .outboundDeliveredMessage (text usage.sourceEventID) (text usage.occurredAt.rfc3339Nano)
        (text (Go.quantityOrOne usage.quantity)) (usage.metadata.map toDict)
  | .aiAssistAction usage =>
      .aiAssistActionOverAllowance (text usage.sourceEventID)
        (text usage.occurredAt.rfc3339Nano) (text (Go.quantityOrOne usage.quantity))
        (usage.metadata.map toDict)
  | .aiReplyHandling usage =>
      .aiReplyHandling (text usage.sourceEventID) (text usage.occurredAt.rfc3339Nano)
        (text (Go.quantityOrOne usage.quantity)) (usage.metadata.map toDict)
  | .voiceAIStartedMinute usage =>
      .voiceAiStartedMinute (text usage.sourceEventID) (text usage.occurredAt.rfc3339Nano)
        (text usage.durationSeconds) (usage.metadata.map toDict)
  | .whatsAppMetaMarketingMessage usage =>
      .whatsappMetaMarketingMessage (text usage.sourceEventID)
        (text usage.occurredAt.rfc3339Nano) (text usage.providerEventID)
        (text (Go.quantityOrOne usage.quantity)) (usage.metadata.map toDict)
  | .telephonyVoiceMinute usage =>
      .telephonyVoiceMinute (text usage.sourceEventID) (text usage.occurredAt.rfc3339Nano)
        (text usage.provider) (text usage.providerEventID)
        (text (Go.quantityOrOne usage.billableMinutes)) (usage.metadata.map toDict)
  | .inboundVoiceMinute usage =>
      .inboundVoiceMinute (text usage.sourceEventID) (text usage.occurredAt.rfc3339Nano)
        (text usage.provider) (text usage.providerEventID)
        (text (Go.quantityOrOne usage.billableMinutes)) (usage.metadata.map toDict)
  | .otherProviderCharge usage => .otherProviderCharge (pythonCharge usage)

/-! ## Families of features -/

/-- A usage with the features that are checked alike as one case. -/
inductive Usage where
  | conversation (usage : Go.Conversation24HUsage)
  | count (featureCode : String) (usage : Go.OutboundDeliveredMessageUsage)
  | minutes (usage : Go.VoiceAIStartedMinuteUsage)
  | attributed (wholeCount : Bool) (featureCode : String) (usage : Go.TelephonyVoiceMinuteUsage)
  | charge (usage : Go.OtherProviderChargeUsage)

/-- The family of a usage. -/
def Usage.ofFeature : Go.FeatureUsage → Usage
  | .conversation24H usage => .conversation usage
  | .outboundDeliveredMessage usage => .count "outbound_delivered_message" usage
  | .aiAssistAction ⟨s, t, q, m⟩ => .count "ai_assist_action_over_allowance" ⟨s, t, q, m⟩
  | .aiReplyHandling ⟨s, t, q, m⟩ => .count "ai_reply_handling" ⟨s, t, q, m⟩
  | .voiceAIStartedMinute usage => .minutes usage
  | .whatsAppMetaMarketingMessage ⟨s, t, e, q, m⟩ =>
      .attributed true "whatsapp_meta_marketing_msg" ⟨s, t, "Meta", e, q, m⟩
  | .telephonyVoiceMinute usage => .attributed false "telephony_voice_minute" usage
  | .inboundVoiceMinute ⟨s, t, p, e, q, m⟩ =>
      .attributed false "inbound_voice_minute" ⟨s, t, p, e, q, m⟩
  | .otherProviderCharge usage => .charge usage

/-- The check Go makes of a quantity. -/
def goCheck (wholeCount : Bool) : Go.ExactAmount → Option String :=
  if wholeCount then Go.validateWholeCount else Go.validateQuantity

/-- The request of a family in Go. -/
def Usage.request : Usage → Except String Go.ConsumptionRequest
  | .conversation usage => usage.request
  | .count feature usage =>
      Go.countRequest feature usage.sourceEventID usage.occurredAt usage.quantity usage.metadata
  | .minutes usage => usage.request
  | .attributed wholeCount feature usage => do
      let metadata ← Go.providerMetadata usage.provider usage.providerEventID usage.metadata
      Go.quantityRequest (goCheck wholeCount) feature usage.sourceEventID usage.occurredAt
        usage.billableMinutes (some metadata)
  | .charge usage => usage.request

/-- The request of a family in Python. -/
def Usage.build (py : Python.BuilderInterpreter) : Usage → Except Python.PyError Python.PyDict
  | .conversation usage =>
      Python.conversation24h py (text usage.sourceEventID) (text usage.occurredAt.rfc3339Nano)
        (text usage.conversationID) (text usage.channel) (usage.metadata.map toDict)
  | .count feature usage =>
      Python.countUsage py true feature (text usage.sourceEventID)
        (text usage.occurredAt.rfc3339Nano) (text (Go.quantityOrOne usage.quantity))
        (usage.metadata.map toDict)
  | .minutes usage =>
      Python.voiceAiStartedMinute py (text usage.sourceEventID)
        (text usage.occurredAt.rfc3339Nano) (text usage.durationSeconds)
        (usage.metadata.map toDict)
  | .attributed wholeCount feature usage =>
      Python.providerUsage py wholeCount feature (text usage.sourceEventID)
        (text usage.occurredAt.rfc3339Nano) (text usage.provider) (text usage.providerEventID)
        (text (Go.quantityOrOne usage.billableMinutes)) (usage.metadata.map toDict)
  | .charge usage => Python.otherProviderCharge py (pythonCharge usage)

theorem Usage.request_ofFeature (u : Go.FeatureUsage) :
    (Usage.ofFeature u).request = u.request := by
  cases u <;> rfl

theorem Usage.build_ofFeature (py : Python.BuilderInterpreter) (u : Go.FeatureUsage) :
    (Usage.ofFeature u).build py = (pythonCall u).build py := by
  cases u <;> rfl

/-! ## What a usage states -/

def Usage.sourceEventID : Usage → String
  | .conversation usage => usage.sourceEventID
  | .count _ usage => usage.sourceEventID
  | .minutes usage => usage.sourceEventID
  | .attributed _ _ usage => usage.sourceEventID
  | .charge usage => usage.sourceEventID

def Usage.occurredAt : Usage → Go.GoTime
  | .conversation usage => usage.occurredAt
  | .count _ usage => usage.occurredAt
  | .minutes usage => usage.occurredAt
  | .attributed _ _ usage => usage.occurredAt
  | .charge usage => usage.occurredAt

/-- The metadata of the caller; absent metadata has no fields. -/
def Usage.metadata : Usage → Go.UsageMetadata
  | .conversation usage => usage.metadata.getD .zero
  | .count _ usage => usage.metadata.getD .zero
  | .minutes usage => usage.metadata.getD .zero
  | .attributed _ _ usage => usage.metadata.getD .zero
  | .charge usage => usage.metadata.getD .zero

/-- The texts that have to be there. -/
def Usage.required : Usage → List String
  | .conversation usage => [usage.conversationID]
  | .count _ _ | .minutes _ => []
  | .attributed _ _ usage => [usage.provider, usage.providerEventID]
  | .charge usage =>
      [usage.provider, usage.providerEventID, usage.providerInvoiceID, usage.tariffVersion]

/-- The rule of conversion where there is one. -/
def Usage.rule : Usage → List String
  | .charge usage => if usage.fxRule = "" then [] else [usage.fxRule]
  | _ => []

/-- The texts that are reported without the spaces around them. -/
def Usage.trimmed (u : Usage) : List String := u.required ++ u.rule

/-- The texts both SDKs hold to the bound of a metadata field: all but the attribution
of a pass-through charge. -/
def Usage.bounded : Usage → List String
  | .charge usage => [usage.providerInvoiceID, usage.tariffVersion] ++ (Usage.charge usage).rule
  | u => u.required

/-- The attribution in the metadata of a caller that the arguments replace. -/
def Usage.replaced : Usage → List String
  | .attributed _ _ usage =>
      [(usage.metadata.getD .zero).provider, (usage.metadata.getD .zero).providerEventID]
  | .charge usage =>
      [(usage.metadata.getD .zero).provider, (usage.metadata.getD .zero).providerEventID]
  | _ => []

/-- The currency where there is one. -/
def Usage.currency : Usage → List String
  | .charge usage => [usage.originalCurrency]
  | _ => []

/-- Both SDKs trim a text alike. -/
def TrimmedAlike (s : String) : Prop := Python.str (Go.trimSpace s) = Python.strip (Python.str s)

/-- What a usage states passes the checks both SDKs make of it. -/
def Usage.FactsPass : Usage → Prop
  | .conversation usage => usage.channel ∈ Go.channels
  | .count _ usage => Go.validateWholeCount (Go.quantityOrOne usage.quantity) = none
  | .minutes usage =>
      Go.validateExactInteger usage.durationSeconds "duration seconds" false = none
  | .attributed wholeCount _ usage =>
      goCheck wholeCount (Go.quantityOrOne usage.billableMinutes) = none
  | .charge usage =>
      GoAmount usage.providerAmountMinor ∧ GoAmount usage.originalAmountMinor ∧
        Settles (trim pySpace usage.originalCurrency.toList)
          (usage.originalAmountMinor = usage.providerAmountMinor)
          (Go.trimSpace usage.fxRule ≠ "")

/-- The metadata of the caller passes, the attribution that is replaced apart. -/
def Usage.MetadataPasses : Usage → Prop
  | .attributed _ _ usage => ((usage.metadata.getD .zero).attributed "" "").Valid
  | .charge usage => ((usage.metadata.getD .zero).attributed "" "").Valid
  | u => u.metadata.Valid

/-- The numeral of a quantity is short enough for `int`. -/
def FitsCount (py : Python.BuilderInterpreter) (wholeCount : Bool) (quantity : String) : Prop :=
  if wholeCount then FitsInt py quantity else FitsWhole py quantity

/-- `int` converts the numerals of a usage. -/
def Usage.NumeralsFit (py : Python.BuilderInterpreter) : Usage → Prop
  | .conversation _ => True
  | .count _ usage => FitsInt py (Go.quantityOrOne usage.quantity)
  | .minutes usage => FitsInt py usage.durationSeconds
  | .attributed wholeCount _ usage =>
      FitsCount py wholeCount (Go.quantityOrOne usage.billableMinutes)
  | .charge usage => FitsInt py usage.providerAmountMinor ∧ FitsInt py usage.originalAmountMinor

/-- A rule of conversion the caller leaves out is not in the metadata either. -/
def Usage.RuleLeftOut : Usage → Prop
  | .charge usage => usage.fxRule = "" → (usage.metadata.getD .zero).fxRule = ""
  | _ => True

/-- The checks both SDKs make. -/
structure Usage.Shared (u : Usage) : Prop where
  event : 1 ≤ u.sourceEventID.utf8ByteSize ∧ u.sourceEventID.utf8ByteSize ≤ 128
  facts : u.FactsPass
  metadata : u.MetadataPasses
  required : ∀ s ∈ u.required, Go.trimSpace s ≠ ""
  bounded : ∀ s ∈ u.bounded, (Python.strip (Python.str s)).length ≤ 512

/-- The checks only Go makes. -/
structure Usage.GoOnly (u : Usage) : Prop where
  time : u.occurredAt.isZero = false
  bounded : ∀ s ∈ u.trimmed, (Go.trimSpace s).utf8ByteSize ≤ 512
  currency : ∀ s ∈ u.currency, TrimmedAlike s

/-- The checks only Python makes. -/
structure Usage.PythonOnly (py : Python.BuilderInterpreter) (u : Usage) : Prop where
  numerals : u.NumeralsFit py
  amount : FitsInt py u.metadata.originalAmountMinor
  nonblank : ∀ s ∈ u.trimmed, Python.strip (Python.str s) ≠ []
  replaced : ∀ s ∈ u.replaced, s.utf8ByteSize ≤ 512

/-- Both SDKs report the same texts. -/
structure Usage.SameTexts (u : Usage) : Prop where
  trimmed : ∀ s ∈ u.trimmed, TrimmedAlike s
  rule : u.RuleLeftOut

/-- The strings of a usage besides those of its metadata. -/
def Usage.strings : Usage → List String
  | .conversation usage => [usage.sourceEventID, usage.conversationID, usage.channel]
  | .count _ usage => [usage.sourceEventID, usage.quantity]
  | .minutes usage => [usage.sourceEventID, usage.durationSeconds]
  | .attributed _ _ usage =>
      [usage.sourceEventID, usage.provider, usage.providerEventID, usage.billableMinutes]
  | .charge usage =>
      [usage.sourceEventID, usage.provider, usage.providerEventID, usage.providerAmountMinor,
        usage.providerInvoiceID, usage.originalAmountMinor, usage.originalCurrency,
        usage.tariffVersion, usage.fxRule]

/-- A usage both SDKs can express: its strings are ASCII, its attributes are strings,
and Python reads its time as Go writes it. -/
structure Usage.Expressible (py : Python.BuilderInterpreter) (u : Usage) : Prop where
  strings : ∀ s ∈ u.strings, Ascii s
  metadata : AsciiMetadata u.metadata
  time :
    py.fromisoformat (Python.spellUtc (Python.str u.occurredAt.rfc3339Nano)) = some true

end MizanSDK.Agreement
