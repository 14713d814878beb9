import MizanSDK.Go.Usage
import MizanSDK.Library.Heap

/-!
# Merged metadata in the Go SDK

A usage points to the metadata of its caller, and five of the methods lay their
arguments over a copy of it.  Here the metadata is in memory, so that a write to the
caller's would show.  The maps in metadata are shared by its copies and never written.

Main results:

- Theorem `MergingUsage.requestIn_simulates`: the methods send what they make of the
  metadata as a value, and leave the caller's memory alone.
- Theorem `MergingUsage.request_merged_iff`: when the metadata sent is the caller's with
  the arguments laid over it.
-/

namespace MizanSDK.Go

open Checks Heap

/-! ## In memory -/

/-- `if source != nil { metadata = *source }`. -/
def copyInto (metadata : Ref) (source : Option Ref) : Action UsageMetadata String Unit := do
  match ← load source with
  | some m => update metadata fun _ => m
  | none => pure ()

/-- `validateMetadata`, of the metadata in memory. -/
def validateMetadataIn (metadata : Option Ref) : Action UsageMetadata String Unit := do
  let m ← load metadata
  check (report (validateMetadata m))

/-- `providerMetadata`. -/
def providerMetadataIn (provider eventID : String) (source : Option Ref) :
    Action UsageMetadata String Ref := do
  check (require (trimSpace provider ≠ "" && trimSpace eventID ≠ "")
    "mizan: provider and provider event ID are required for provider-priced usage")
  let metadata ← new UsageMetadata.zero
  copyInto metadata source
  update metadata fun m => { m with provider := trimSpace provider }
  update metadata fun m => { m with providerEventID := trimSpace eventID }
  validateMetadataIn (some metadata)
  return metadata

/-- `conversationMetadata`. -/
def conversationMetadataIn (conversationID channel : String) (source : Option Ref) :
    Action UsageMetadata String Ref := do
  check (require (trimSpace conversationID ≠ "" && channel ≠ "")
    "mizan: conversation ID and channel are required for conversation activity")
  validateMetadataIn source
  let metadata ← new UsageMetadata.zero
  copyInto metadata source
  update metadata fun m => { m with conversationID := trimSpace conversationID }
  update metadata fun m => { m with channel := channel }
  validateMetadataIn (some metadata)
  return metadata

/-- A request whose metadata is in memory. -/
structure StoredRequest where
  facts : ConsumptionRequest
  metadata : Ref

/-- A request that reports a quantity, with the check its contract makes of it. -/
def quantityRequestIn (validate : ExactAmount → Option String) (feature sourceEventID : String)
    (occurredAt : GoTime) (quantity : ExactAmount) (metadata : Ref) :
    Action UsageMetadata String StoredRequest := do
  check (report (validateUsageEvent sourceEventID occurredAt))
  check (report (validate (quantityOrOne quantity)))
  validateMetadataIn (some metadata)
  return ⟨ofQuantity feature sourceEventID occurredAt quantity none, metadata⟩

/-- The request of `ConsumeConversation24H`, for a usage that points to its metadata. -/
def Conversation24HUsage.requestIn (usage : Conversation24HUsage) (source : Option Ref) :
    Action UsageMetadata String StoredRequest := do
  let metadata ← conversationMetadataIn usage.conversationID usage.channel source
  quantityRequestIn validateWholeCount "conversation_24h" usage.sourceEventID usage.occurredAt "1"
    metadata

/-- The request of `ConsumeWhatsAppMetaMarketingMessage`. -/
def WhatsAppMetaMarketingMessageUsage.requestIn (usage : WhatsAppMetaMarketingMessageUsage)
    (source : Option Ref) : Action UsageMetadata String StoredRequest := do
  let metadata ← providerMetadataIn "Meta" usage.providerEventID source
  quantityRequestIn validateWholeCount "whatsapp_meta_marketing_msg" usage.sourceEventID
    usage.occurredAt usage.quantity metadata

/-- The request of `ConsumeTelephonyVoiceMinute`. -/
def TelephonyVoiceMinuteUsage.requestIn (usage : TelephonyVoiceMinuteUsage)
    (source : Option Ref) : Action UsageMetadata String StoredRequest := do
  let metadata ← providerMetadataIn usage.provider usage.providerEventID source
  quantityRequestIn validateQuantity "telephony_voice_minute" usage.sourceEventID usage.occurredAt
    usage.billableMinutes metadata

/-- The request of `ConsumeInboundVoiceMinute`. -/
def InboundVoiceMinuteUsage.requestIn (usage : InboundVoiceMinuteUsage) (source : Option Ref) :
    Action UsageMetadata String StoredRequest := do
  let metadata ← providerMetadataIn usage.provider usage.providerEventID source
  quantityRequestIn validateQuantity "inbound_voice_minute" usage.sourceEventID usage.occurredAt
    usage.billableMinutes metadata

/-- The request of `ConsumeOtherProviderCharge`. -/
def OtherProviderChargeUsage.requestIn (usage : OtherProviderChargeUsage) (source : Option Ref) :
    Action UsageMetadata String StoredRequest := do
  check (report (validateUsageEvent usage.sourceEventID usage.occurredAt))
  check (report (validateExactInteger usage.providerAmountMinor "provider amount minor" true))
  check (require (trimSpace usage.providerInvoiceID ≠ "" && trimSpace usage.originalCurrency ≠ "" &&
      trimSpace usage.tariffVersion ≠ "")
    ("mizan: provider invoice ID, original currency, and tariff version are required for " ++
      "pass-through usage"))
  check (report (validateExactInteger usage.originalAmountMinor "original amount minor" true))
  check (require (isCurrencyCode usage.currency)
    "mizan: original currency must be a three-letter ISO currency code")
  check (require (usage.currency = "SAR" || trimSpace usage.fxRule ≠ "")
    "mizan: non-SAR pass-through usage requires an FX rule")
  check (require (usage.currency ≠ "SAR" || usage.originalAmountMinor = usage.providerAmountMinor)
    "mizan: SAR original amount must equal provider amount minor")
  let metadata ← providerMetadataIn usage.provider usage.providerEventID source
  update metadata fun m => { m with providerInvoiceID := trimSpace usage.providerInvoiceID }
  update metadata fun m => { m with originalAmountMinor := usage.originalAmountMinor }
  update metadata fun m => { m with originalCurrency := usage.currency }
  update metadata fun m => { m with tariffVersion := trimSpace usage.tariffVersion }
  update metadata fun m => { m with fxRule := trimSpace usage.fxRule }
  validateMetadataIn (some metadata)
  return ⟨{
    sourceEventID := usage.sourceEventID
    occurredAt := usage.occurredAt
    featureCode := "other_provider_charge"
    quantity := ""
    durationSeconds := ""
    providerAmountMinor := usage.providerAmountMinor
    metadata := none
    components := [] }, metadata⟩

/-! ## Simulation -/

section Simulation

variable {base : List UsageMetadata} {P : List UsageMetadata → Prop}

theorem copyInto_simulates {source : Option Ref} (hsource : ∀ p ∈ source, p < base.length)
    {metadata : Ref} {m : UsageMetadata} (hP : ∀ cells, P cells → Owns base metadata m cells) :
    Simulates base P (copyInto metadata source) (.ok ((source.bind (base[·]?)).getD m))
      fun _ v cells => Owns base metadata v cells := by
  unfold copyInto
  apply Simulates.step_eq (simulates_load hsource)
  cases source.bind (base[·]?) with
  | none => exact simulates_pure hP
  | some v => exact simulates_update (fun _ => v) hP

theorem validateMetadataIn_simulates {metadata : Ref} {m : UsageMetadata}
    (hP : ∀ cells, P cells → Owns base metadata m cells) :
    Simulates base P (validateMetadataIn (some metadata)) (report (validateMetadata (some m)))
      fun a b cells => a = b ∧ Owns base metadata m cells := by
  apply Simulates.step_eq (simulates_load_own hP)
  exact simulates_check _

theorem providerMetadataIn_simulates (provider eventID : String) {source : Option Ref}
    (hsource : ∀ p ∈ source, p < base.length) :
    Simulates base P (providerMetadataIn provider eventID source)
      (providerMetadata provider eventID (source.bind (base[·]?)))
      fun metadata m cells => Owns base metadata m cells := by
  unfold providerMetadataIn providerMetadata
  apply Simulates.bind_eq (simulates_check _)
  intro _
  apply Simulates.step (simulates_new _)
  intro metadata
  apply Simulates.step (copyInto_simulates hsource fun _ h => h)
  intro _
  apply Simulates.step (simulates_update _ fun _ h => h)
  intro _
  apply Simulates.step (simulates_update _ fun _ h => h)
  intro _
  apply Simulates.bind_eq (validateMetadataIn_simulates fun _ h => h)
  intro _
  exact simulates_pure fun _ h => h

theorem conversationMetadataIn_simulates (conversationID channel : String) {source : Option Ref}
    (hsource : ∀ p ∈ source, p < base.length) :
    Simulates base P (conversationMetadataIn conversationID channel source)
      (conversationMetadata conversationID channel (source.bind (base[·]?)))
      fun metadata m cells => Owns base metadata m cells := by
  have hvalidate : Simulates base P (validateMetadataIn source)
      (report (validateMetadata (source.bind (base[·]?)))) fun a b cells => a = b ∧ P cells :=
    Simulates.step_eq (simulates_load hsource) (simulates_check _)
  unfold conversationMetadataIn conversationMetadata
  apply Simulates.bind_eq (simulates_check _)
  intro _
  apply Simulates.bind_eq hvalidate
  intro _
  apply Simulates.step (simulates_new _)
  intro metadata
  apply Simulates.step (copyInto_simulates hsource fun _ h => h)
  intro _
  apply Simulates.step (simulates_update _ fun _ h => h)
  intro _
  apply Simulates.step (simulates_update _ fun _ h => h)
  intro _
  apply Simulates.bind_eq (validateMetadataIn_simulates fun _ h => h)
  intro _
  exact simulates_pure fun _ h => h

/-- The request, with its metadata in a cell of its own. -/
def StoredRequest.Stores (base : List UsageMetadata) (r : StoredRequest)
    (request : ConsumptionRequest) (cells : List UsageMetadata) : Prop :=
  ∃ m, Owns base r.metadata m cells ∧ request = { r.facts with metadata := some m }

theorem quantityRequestIn_simulates (validate : ExactAmount → Option String)
    (feature sourceEventID : String) (occurredAt : GoTime) (quantity : ExactAmount)
    {metadata : Ref} {m : UsageMetadata} (hP : ∀ cells, P cells → Owns base metadata m cells) :
    Simulates base P
      (quantityRequestIn validate feature sourceEventID occurredAt quantity metadata)
      (quantityRequest validate feature sourceEventID occurredAt quantity (some m))
      (StoredRequest.Stores base) := by
  unfold quantityRequestIn quantityRequest
  apply Simulates.bind_eq (simulates_check _)
  intro _
  apply Simulates.bind_eq (simulates_check _)
  intro _
  apply Simulates.bind_eq (validateMetadataIn_simulates hP)
  intro _
  exact simulates_pure fun cells h => ⟨m, h, rfl⟩

theorem OtherProviderChargeUsage.requestIn_simulates (usage : OtherProviderChargeUsage)
    {source : Option Ref} (hsource : ∀ p ∈ source, p < base.length) :
    Simulates base P (usage.requestIn source)
      { usage with metadata := source.bind (base[·]?) : OtherProviderChargeUsage }.request
      (StoredRequest.Stores base) := by
  unfold OtherProviderChargeUsage.requestIn OtherProviderChargeUsage.request
  apply Simulates.bind_eq (simulates_check _)
  intro _
  apply Simulates.bind_eq (simulates_check _)
  intro _
  apply Simulates.bind_eq (simulates_check _)
  intro _
  apply Simulates.bind_eq (simulates_check _)
  intro _
  apply Simulates.bind_eq (simulates_check _)
  intro _
  apply Simulates.bind_eq (simulates_check _)
  intro _
  apply Simulates.bind_eq (simulates_check _)
  intro _
  apply Simulates.bind (providerMetadataIn_simulates usage.provider usage.providerEventID hsource)
  intro metadata m
  apply Simulates.step (simulates_update _ fun _ h => h)
  intro _
  apply Simulates.step (simulates_update _ fun _ h => h)
  intro _
  apply Simulates.step (simulates_update _ fun _ h => h)
  intro _
  apply Simulates.step (simulates_update _ fun _ h => h)
  intro _
  apply Simulates.step (simulates_update _ fun _ h => h)
  intro _
  apply Simulates.bind_eq (validateMetadataIn_simulates fun _ h => h)
  intro _
  exact simulates_pure fun cells h => ⟨_, h, rfl⟩

end Simulation

/-! ## The five methods -/

/-- A usage of one of the features whose method lays its arguments over the metadata. -/
inductive MergingUsage where
  | conversation24H (usage : Conversation24HUsage)
  | whatsAppMetaMarketingMessage (usage : WhatsAppMetaMarketingMessageUsage)
  | telephonyVoiceMinute (usage : TelephonyVoiceMinuteUsage)
  | inboundVoiceMinute (usage : InboundVoiceMinuteUsage)
  | otherProviderCharge (usage : OtherProviderChargeUsage)

/-- The usage with its metadata as a value. -/
def MergingUsage.withMetadata (u : MergingUsage) (metadata : Option UsageMetadata) :
    FeatureUsage :=
  match u with
  | .conversation24H usage => .conversation24H { usage with metadata }
  | .whatsAppMetaMarketingMessage usage => .whatsAppMetaMarketingMessage { usage with metadata }
  | .telephonyVoiceMinute usage => .telephonyVoiceMinute { usage with metadata }
  | .inboundVoiceMinute usage => .inboundVoiceMinute { usage with metadata }
  | .otherProviderCharge usage => .otherProviderCharge { usage with metadata }

/-- The request of the usage when it points to its metadata. -/
def MergingUsage.requestIn : MergingUsage → Option Ref → Action UsageMetadata String StoredRequest
  | .conversation24H usage => usage.requestIn
  | .whatsAppMetaMarketingMessage usage => usage.requestIn
  | .telephonyVoiceMinute usage => usage.requestIn
  | .inboundVoiceMinute usage => usage.requestIn
  | .otherProviderCharge usage => usage.requestIn

/-- The methods send what they make of the metadata as a value, and leave the memory of
the caller alone. -/
theorem MergingUsage.requestIn_simulates (u : MergingUsage) {base : List UsageMetadata}
    {P : List UsageMetadata → Prop} {source : Option Ref}
    (hsource : ∀ p ∈ source, p < base.length) :
    Simulates base P (u.requestIn source) (u.withMetadata (source.bind (base[·]?))).request
      (StoredRequest.Stores base) := by
  cases u with
  | conversation24H usage =>
      apply Simulates.bind (conversationMetadataIn_simulates _ _ hsource)
      intro metadata m
      exact quantityRequestIn_simulates _ _ _ _ _ fun _ h => h
  | whatsAppMetaMarketingMessage usage =>
      apply Simulates.bind (providerMetadataIn_simulates _ _ hsource)
      intro metadata m
      exact quantityRequestIn_simulates _ _ _ _ _ fun _ h => h
  | telephonyVoiceMinute usage =>
      apply Simulates.bind (providerMetadataIn_simulates _ _ hsource)
      intro metadata m
      exact quantityRequestIn_simulates _ _ _ _ _ fun _ h => h
  | inboundVoiceMinute usage =>
      apply Simulates.bind (providerMetadataIn_simulates _ _ hsource)
      intro metadata m
      exact quantityRequestIn_simulates _ _ _ _ _ fun _ h => h
  | otherProviderCharge usage => exact usage.requestIn_simulates hsource

/-! ## What is sent -/

/-- The metadata with the arguments of the usage in the place of its own fields, and
all other fields kept.  A blank FX rule is none. -/
def MergingUsage.merged : MergingUsage → UsageMetadata → UsageMetadata
  | .conversation24H usage, m =>
      { m with conversationID := trimSpace usage.conversationID, channel := usage.channel }
  | .whatsAppMetaMarketingMessage usage, m =>
      { m with provider := "Meta", providerEventID := trimSpace usage.providerEventID }
  | .telephonyVoiceMinute usage, m =>
      { m with
        provider := trimSpace usage.provider
        providerEventID := trimSpace usage.providerEventID }
  | .inboundVoiceMinute usage, m =>
      { m with
        provider := trimSpace usage.provider
        providerEventID := trimSpace usage.providerEventID }
  | .otherProviderCharge usage, m =>
      { m with
        provider := trimSpace usage.provider
        providerEventID := trimSpace usage.providerEventID
        providerInvoiceID := trimSpace usage.providerInvoiceID
        originalAmountMinor := usage.originalAmountMinor
        originalCurrency := usage.currency
        tariffVersion := trimSpace usage.tariffVersion
        fxRule := if trimSpace usage.fxRule = "" then m.fxRule else trimSpace usage.fxRule }

/-- A charge without an FX rule of its own comes with metadata that has none. -/
def MergingUsage.KeepsRule : MergingUsage → UsageMetadata → Prop
  | .otherProviderCharge usage, m => trimSpace usage.fxRule = "" → m.fxRule = ""
  | _, _ => True

theorem metadata_of_quantityRequest {validate : ExactAmount → Option String}
    {feature sourceEventID : String} {occurredAt : GoTime} {quantity : ExactAmount}
    {metadata : Option UsageMetadata} {request : ConsumptionRequest}
    (h : quantityRequest validate feature sourceEventID occurredAt quantity metadata =
      .ok request) : request.metadata = metadata := by
  rw [((quantityRequest_eq_ok_iff _ _ _ _ _ _ _).mp h).2.2.2]
  rfl

/-- A usage with a provider attribution sends it in the place of the caller's. -/
theorem metadata_of_attributed {provider eventID : String} {source : Option UsageMetadata}
    {validate : ExactAmount → Option String} {feature sourceEventID : String}
    {occurredAt : GoTime} {quantity : ExactAmount} {request : ConsumptionRequest}
    (h : (providerMetadata provider eventID source >>= fun metadata =>
      quantityRequest validate feature sourceEventID occurredAt quantity (some metadata)) =
        .ok request) :
    request.metadata =
      some ((source.getD .zero).attributed (trimSpace provider) (trimSpace eventID)) := by
  rcases (bind_eq_ok_iff _ _ _).mp h with ⟨m, hm, hrequest⟩
  rw [metadata_of_quantityRequest hrequest, ((providerMetadata_eq_ok_iff _ _ _ _).mp hm).2.2.1]

theorem OtherProviderChargeUsage.evidence_eq_iff (usage : OtherProviderChargeUsage)
    (m : UsageMetadata) :
    usage.evidence (m.attributed (trimSpace usage.provider) (trimSpace usage.providerEventID)) =
        (MergingUsage.otherProviderCharge usage).merged m ↔
      (trimSpace usage.fxRule = "" → m.fxRule = "") := by
  constructor
  · intro heq hblank
    have hrule := congrArg UsageMetadata.fxRule heq
    change trimSpace usage.fxRule =
      (if trimSpace usage.fxRule = "" then m.fxRule else trimSpace usage.fxRule) at hrule
    rw [if_pos hblank, hblank] at hrule
    exact hrule.symm
  · intro hnone
    have hrule : trimSpace usage.fxRule =
        if trimSpace usage.fxRule = "" then m.fxRule else trimSpace usage.fxRule := by
      by_cases hblank : trimSpace usage.fxRule = ""
      · rw [if_pos hblank, hblank, hnone hblank]
      · rw [if_neg hblank]
    unfold OtherProviderChargeUsage.evidence
    rw [hrule]
    rfl

/-- When the metadata sent is the caller's with the arguments laid over it. -/
theorem MergingUsage.request_merged_iff (u : MergingUsage) {metadata : Option UsageMetadata}
    {request : ConsumptionRequest} (h : (u.withMetadata metadata).request = .ok request) :
    request.metadata = some (u.merged (metadata.getD .zero)) ↔
      u.KeepsRule (metadata.getD .zero) := by
  cases u with
  | conversation24H usage =>
      rcases (bind_eq_ok_iff _ _ _).mp h with ⟨m, hm, hrequest⟩
      rw [metadata_of_quantityRequest hrequest]
      rw [((conversationMetadata_eq_ok_iff _ _ _ _).mp hm).2.2.2.1]
      exact iff_of_true rfl trivial
  | whatsAppMetaMarketingMessage usage =>
      have hmeta : trimSpace "Meta" = "Meta" := by decide
      rw [metadata_of_attributed h, hmeta]
      exact iff_of_true rfl trivial
  | telephonyVoiceMinute usage =>
      rw [metadata_of_attributed h]
      exact iff_of_true rfl trivial
  | inboundVoiceMinute usage =>
      rw [metadata_of_attributed h]
      exact iff_of_true rfl trivial
  | otherProviderCharge usage =>
      rcases (OtherProviderChargeUsage.request_eq_ok_iff _ _).mp h with ⟨-, m, hm, -, rfl⟩
      rw [((providerMetadata_eq_ok_iff _ _ _ _).mp hm).2.2.1]
      exact Option.some_inj.trans (usage.evidence_eq_iff _)

/-- The call sends the caller's metadata with its arguments laid over it, and what the
caller has in memory stays as it is. -/
structure MergingUsage.MergesExactly (u : MergingUsage) (base : List UsageMetadata)
    (source : Option Ref) (r : StoredRequest) : Prop where
  sent : (u.requestIn source base).2[r.metadata]? =
    some (u.merged ((source.bind (base[·]?)).getD .zero))
  kept : base <+: (u.requestIn source base).2

theorem MergingUsage.mergesExactly_iff (u : MergingUsage) {base : List UsageMetadata}
    {source : Option Ref} (hsource : ∀ p ∈ source, p < base.length) {r : StoredRequest}
    (h : (u.requestIn source base).1 = .ok r) :
    u.MergesExactly base source r ↔ u.KeepsRule ((source.bind (base[·]?)).getD .zero) := by
  have hsimulates := u.requestIn_simulates (P := fun _ => True) hsource
  rcases hsimulates.result h with ⟨request, hrequest, m, hm, rfl⟩
  have hsent := u.request_merged_iff hrequest
  rw [← hsent]
  constructor
  · intro hexact
    exact hm.2.symm.trans hexact.sent
  · intro hsame
    exact ⟨hm.2.trans hsame, hsimulates.keeps⟩

end MizanSDK.Go
