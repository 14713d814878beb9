import MizanSDK.Python.Builders
import MizanSDK.Library.Heap

/-!
# Merged metadata in the Python SDK

The builders are handed the dictionary of their caller, and five of them lay their
arguments over a copy of it.  Here dictionaries are in memory, so that a write to the
caller's would show.  The dictionaries inside metadata are shared by its copies and
never written.

Main results:

- Theorem `MergingCall.buildIn_simulates`: the builders return what they make of the
  metadata as a value, and leave the caller's memory alone.
- Theorem `MergingCall.mergesExactly`: the metadata of the request is the caller's with
  the arguments laid over it.
-/

namespace MizanSDK.Python

open JsonText Checks Heap

/-! ## In memory -/

/-- `dict(metadata or {})`. -/
def copyDict (metadata : Option Ref) : Action PyDict PyError Ref := do
  let d ← load metadata
  new (d.getD [])

/-- A request whose metadata is in memory. -/
structure StoredRequest where
  facts : PyDict
  metadata : Ref

section Builders

variable (py : BuilderInterpreter)

/-- `_validate_metadata`. -/
def validateMetadataIn (metadata : Option Ref) : Action PyDict PyError Unit := do
  let d ← load metadata
  check (validateMetadata py d)

/-- `_count_usage`. -/
def countUsageIn (wholeCount : Bool) (featureCode : String)
    (sourceEventId occurredAt quantity : PyValue) (metadata : Ref) :
    Action PyDict PyError StoredRequest := do
  check (checkEvent py sourceEventId occurredAt)
  check (checkCount py wholeCount quantity)
  validateMetadataIn py (some metadata)
  let copy ← copyDict (some metadata)
  return ⟨usageRequest featureCode sourceEventId occurredAt "quantity" quantity none, copy⟩

/-- `_provider_metadata`. -/
def providerMetadataIn (provider providerEventId : PyValue) (metadata : Option Ref) :
    Action PyDict PyError Ref := do
  validateMetadataIn py metadata
  check (require (provider.isTextWith fun s => strip s ≠ [])
    (refuse "provider is required for provider-priced usage"))
  check (require (providerEventId.isTextWith fun s => strip s ≠ [])
    (refuse "provider_event_id is required for provider-priced usage"))
  let result ← copyDict metadata
  update result fun d => d.set "provider" (.str (strip provider.text))
  update result fun d => d.set "provider_event_id" (.str (strip providerEventId.text))
  return result

/-- `conversation_24h`. -/
def conversation24hIn (sourceEventId occurredAt conversationId channel : PyValue)
    (metadata : Option Ref) : Action PyDict PyError StoredRequest := do
  validateMetadataIn py metadata
  let resolvedChannel ← check (py.str channel)
  check (require (isChannel resolvedChannel) (refuse "channel is not a supported channel"))
  let resolved ← copyDict metadata
  let conversationId ← check (requiredMetadataString conversationId "conversation_id")
  update resolved fun d => d.set "conversation_id" (.str conversationId)
  update resolved fun d => d.set "channel" (.str resolvedChannel)
  countUsageIn py true "conversation_24h" sourceEventId occurredAt (.str (str "1")) resolved

/-- A builder of provider-priced quantities. -/
def providerUsageIn (wholeCount : Bool) (featureCode : String)
    (sourceEventId occurredAt provider providerEventId quantity : PyValue)
    (metadata : Option Ref) : Action PyDict PyError StoredRequest := do
  let providerMetadata ← providerMetadataIn py provider providerEventId metadata
  countUsageIn py wholeCount featureCode sourceEventId occurredAt quantity providerMetadata

/-- `evidence` in `other_provider_charge`. -/
def passThroughEvidenceIn (charge : OtherProviderCharge) (currency : PyStr) (metadata : Ref) :
    Action PyDict PyError Ref := do
  let evidence ← copyDict (some metadata)
  let providerInvoiceId ←
    check (requiredMetadataString charge.providerInvoiceId "provider_invoice_id")
  let tariffVersion ← check (requiredMetadataString charge.tariffVersion "tariff_version")
  update evidence fun d =>
    d.setEvidence providerInvoiceId charge.originalAmountMinor currency tariffVersion
  match charge.fxRule with
  | .none => return evidence
  | fxRule => do
      let fxRule ← check (requiredMetadataString fxRule "fx_rule")
      update evidence fun d => d.set "fx_rule" (.str fxRule)
      return evidence

/-- `other_provider_charge`, with the metadata in memory. -/
def otherProviderChargeIn (charge : OtherProviderCharge) (metadata : Option Ref) :
    Action PyDict PyError StoredRequest := do
  let currency ← check (checkCharge py charge)
  let metadata ← providerMetadataIn py charge.provider charge.providerEventId metadata
  let evidence ← passThroughEvidenceIn charge currency metadata
  return ⟨usageRequest "other_provider_charge" charge.sourceEventId charge.occurredAt
    "provider_amount_minor" charge.providerAmountMinor none, evidence⟩

end Builders

/-! ## Simulation -/

section Simulation

variable {py : BuilderInterpreter} {base : List PyDict} {P : List PyDict → Prop}

/-- A copy of the caller's metadata is a new dictionary with the same members. -/
theorem copyDict_simulates {source : Option Ref} (hsource : ∀ p ∈ source, p < base.length) :
    Simulates base P (copyDict source) (.ok ((source.bind (base[·]?)).getD []))
      fun copy d cells => Owns base copy d cells := by
  apply Simulates.step_eq (simulates_load hsource)
  exact simulates_new _

/-- So is a copy of the builder's own. -/
theorem copyDict_simulates_own {metadata : Ref} {d : PyDict}
    (hP : ∀ cells, P cells → Owns base metadata d cells) :
    Simulates base P (copyDict (some metadata)) (.ok d)
      fun copy d cells => Owns base copy d cells := by
  apply Simulates.step_eq (simulates_load_own hP)
  exact simulates_new _

/-- Validation reads the caller's metadata and writes nothing. -/
theorem validateMetadataIn_simulates {source : Option Ref}
    (hsource : ∀ p ∈ source, p < base.length) :
    Simulates base P (validateMetadataIn py source)
      (validateMetadata py (source.bind (base[·]?))) fun a b cells => a = b ∧ P cells := by
  apply Simulates.step_eq (simulates_load hsource)
  exact simulates_check _

/-- So it does with the builder's own. -/
theorem validateMetadataIn_simulates_own {metadata : Ref} {d : PyDict}
    (hP : ∀ cells, P cells → Owns base metadata d cells) :
    Simulates base P (validateMetadataIn py (some metadata)) (validateMetadata py (some d))
      fun a b cells => a = b ∧ Owns base metadata d cells := by
  apply Simulates.step_eq (simulates_load_own hP)
  exact simulates_check _

/-- The request, with its metadata in a cell of its own. -/
def StoredRequest.Stores (base : List PyDict) (r : StoredRequest) (request : PyDict)
    (cells : List PyDict) : Prop :=
  ∃ d, Owns base r.metadata d cells ∧ request = PyDict.set r.facts "metadata" (.dict d)

/-- A usage that is counted stores a copy of its metadata. -/
theorem countUsageIn_simulates (wholeCount : Bool) (featureCode : String)
    (sourceEventId occurredAt quantity : PyValue) {metadata : Ref} {d : PyDict}
    (hP : ∀ cells, P cells → Owns base metadata d cells) :
    Simulates base P
      (countUsageIn py wholeCount featureCode sourceEventId occurredAt quantity metadata)
      (countUsage py wholeCount featureCode sourceEventId occurredAt quantity (some d))
      (StoredRequest.Stores base) := by
  unfold countUsageIn countUsage
  apply Simulates.bind_eq (simulates_check _)
  intro _
  apply Simulates.bind_eq (simulates_check _)
  intro _
  apply Simulates.bind_eq (validateMetadataIn_simulates_own hP)
  intro _
  apply Simulates.step (copyDict_simulates_own fun _ h => h)
  intro copy
  exact simulates_pure fun cells h => ⟨d, h, rfl⟩

/-- The attribution is written into a copy of the metadata. -/
theorem providerMetadataIn_simulates (provider providerEventId : PyValue) {source : Option Ref}
    (hsource : ∀ p ∈ source, p < base.length) :
    Simulates base P (providerMetadataIn py provider providerEventId source)
      (providerMetadata py provider providerEventId (source.bind (base[·]?)))
      fun metadata d cells => Owns base metadata d cells := by
  unfold providerMetadataIn providerMetadata
  apply Simulates.bind_eq (validateMetadataIn_simulates hsource)
  intro _
  apply Simulates.bind_eq (simulates_check _)
  intro _
  apply Simulates.bind_eq (simulates_check _)
  intro _
  apply Simulates.step (copyDict_simulates hsource)
  intro result
  apply Simulates.step (simulates_update _ fun _ h => h)
  intro _
  apply Simulates.step (simulates_update _ fun _ h => h)
  intro _
  exact simulates_pure fun _ h => h

/-- So are the members of a conversation. -/
theorem conversation24hIn_simulates (sourceEventId occurredAt conversationId channel : PyValue)
    {source : Option Ref} (hsource : ∀ p ∈ source, p < base.length) :
    Simulates base P
      (conversation24hIn py sourceEventId occurredAt conversationId channel source)
      (conversation24h py sourceEventId occurredAt conversationId channel
        (source.bind (base[·]?)))
      (StoredRequest.Stores base) := by
  unfold conversation24hIn conversation24h
  apply Simulates.bind_eq (validateMetadataIn_simulates hsource)
  intro _
  apply Simulates.bind_eq (simulates_check _)
  intro resolvedChannel
  apply Simulates.bind_eq (simulates_check _)
  intro _
  apply Simulates.step (copyDict_simulates hsource)
  intro resolved
  apply Simulates.bind_eq (simulates_check _)
  intro conversationId
  apply Simulates.step (simulates_update _ fun _ h => h)
  intro _
  apply Simulates.step (simulates_update _ fun _ h => h)
  intro _
  exact countUsageIn_simulates _ _ _ _ _ fun _ h => h

/-- A usage of a provider stores the attributed copy. -/
theorem providerUsageIn_simulates (wholeCount : Bool) (featureCode : String)
    (sourceEventId occurredAt provider providerEventId quantity : PyValue) {source : Option Ref}
    (hsource : ∀ p ∈ source, p < base.length) :
    Simulates base P
      (providerUsageIn py wholeCount featureCode sourceEventId occurredAt provider providerEventId
        quantity source)
      (providerUsage py wholeCount featureCode sourceEventId occurredAt provider providerEventId
        quantity (source.bind (base[·]?)))
      (StoredRequest.Stores base) := by
  unfold providerUsageIn providerUsage
  apply Simulates.bind (providerMetadataIn_simulates provider providerEventId hsource)
  intro metadata d
  exact countUsageIn_simulates _ _ _ _ _ fun _ h => h

/-- The evidence is written into a copy. -/
theorem passThroughEvidenceIn_simulates (charge : OtherProviderCharge) (currency : PyStr)
    {metadata : Ref} {d : PyDict} (hP : ∀ cells, P cells → Owns base metadata d cells) :
    Simulates base P (passThroughEvidenceIn charge currency metadata)
      (passThroughEvidence charge currency d)
      fun evidence d cells => Owns base evidence d cells := by
  unfold passThroughEvidenceIn passThroughEvidence
  apply Simulates.step (copyDict_simulates_own hP)
  intro evidence
  apply Simulates.bind_eq (simulates_check _)
  intro providerInvoiceId
  apply Simulates.bind_eq (simulates_check _)
  intro tariffVersion
  apply Simulates.step (simulates_update _ fun _ h => h)
  intro _
  have hrule : ∀ fxRule : PyValue, Simulates base
      (Owns base evidence
        (d.setEvidence providerInvoiceId charge.originalAmountMinor currency tariffVersion))
      (do
        let fxRule ← check (requiredMetadataString fxRule "fx_rule")
        update evidence fun d => d.set "fx_rule" (.str fxRule)
        return evidence)
      (do
        let fxRule ← requiredMetadataString fxRule "fx_rule"
        return (d.setEvidence providerInvoiceId charge.originalAmountMinor currency
          tariffVersion).set "fx_rule" (.str fxRule))
      fun evidence d cells => Owns base evidence d cells := by
    intro fxRule
    apply Simulates.bind_eq (simulates_check _)
    intro rule
    apply Simulates.step (simulates_update _ fun _ h => h)
    intro _
    exact simulates_pure fun _ h => h
  cases charge.fxRule with
  | none => exact simulates_pure fun _ h => h
  | _ => exact hrule _

/-- A charge stores the copy with its evidence. -/
theorem otherProviderChargeIn_simulates (charge : OtherProviderCharge) {source : Option Ref}
    (hsource : ∀ p ∈ source, p < base.length) :
    Simulates base P (otherProviderChargeIn py charge source)
      (otherProviderCharge py { charge with metadata := source.bind (base[·]?) })
      (StoredRequest.Stores base) := by
  unfold otherProviderChargeIn otherProviderCharge
  apply Simulates.bind_eq (simulates_check _)
  intro currency
  apply Simulates.bind
    (providerMetadataIn_simulates charge.provider charge.providerEventId hsource)
  intro metadata d
  apply Simulates.bind (passThroughEvidenceIn_simulates _ currency fun _ h => h)
  intro evidence d
  exact simulates_pure fun cells h => ⟨d, h, rfl⟩

end Simulation

/-! ## The five builders -/

/-- A call of one of the builders that lay their arguments over the metadata. -/
inductive MergingCall where
  | conversation24h (sourceEventId occurredAt conversationId channel : PyValue)
  | whatsappMetaMarketingMessage (sourceEventId occurredAt providerEventId quantity : PyValue)
  | telephonyVoiceMinute
      (sourceEventId occurredAt provider providerEventId billableMinutes : PyValue)
  | inboundVoiceMinute
      (sourceEventId occurredAt provider providerEventId billableMinutes : PyValue)
  | otherProviderCharge (charge : OtherProviderCharge)

/-- The call with its metadata as a value. -/
def MergingCall.withMetadata (call : MergingCall) (metadata : Option PyDict) : UsageCall :=
  match call with
  | .conversation24h s o c ch => .conversation24h s o c ch metadata
  | .whatsappMetaMarketingMessage s o e q => .whatsappMetaMarketingMessage s o e q metadata
  | .telephonyVoiceMinute s o p e b => .telephonyVoiceMinute s o p e b metadata
  | .inboundVoiceMinute s o p e b => .inboundVoiceMinute s o p e b metadata
  | .otherProviderCharge charge => .otherProviderCharge { charge with metadata }

section Calls

variable (py : BuilderInterpreter)

/-- The request of the call when it is handed a dictionary in memory. -/
def MergingCall.buildIn : MergingCall → Option Ref → Action PyDict PyError StoredRequest
  | .conversation24h s o c ch => conversation24hIn py s o c ch
  | .whatsappMetaMarketingMessage s o e q =>
      providerUsageIn py true "whatsapp_meta_marketing_msg" s o (.str (str "Meta")) e q
  | .telephonyVoiceMinute s o p e b => providerUsageIn py false "telephony_voice_minute" s o p e b
  | .inboundVoiceMinute s o p e b => providerUsageIn py false "inbound_voice_minute" s o p e b
  | .otherProviderCharge charge => otherProviderChargeIn py charge

/-- The builders return what they make of the metadata as a value, and leave the memory
of the caller alone. -/
theorem MergingCall.buildIn_simulates (call : MergingCall) {base : List PyDict}
    {P : List PyDict → Prop} {source : Option Ref} (hsource : ∀ p ∈ source, p < base.length) :
    Simulates base P (call.buildIn py source)
      ((call.withMetadata (source.bind (base[·]?))).build py) (StoredRequest.Stores base) := by
  cases call with
  | conversation24h s o c ch => exact conversation24hIn_simulates s o c ch hsource
  | whatsappMetaMarketingMessage s o e q =>
      exact providerUsageIn_simulates true _ s o _ e q hsource
  | telephonyVoiceMinute s o p e b => exact providerUsageIn_simulates false _ s o p e b hsource
  | inboundVoiceMinute s o p e b => exact providerUsageIn_simulates false _ s o p e b hsource
  | otherProviderCharge charge => exact otherProviderChargeIn_simulates charge hsource

/-- The members a call lays over the metadata: its arguments, trimmed or normalised,
and an FX rule only if one was given. -/
def MergingCall.arguments : MergingCall → PyDict
  | .conversation24h _ _ conversationId channel =>
      [(str "conversation_id", .str (strip conversationId.text)),
        (str "channel", .str ((py.str channel).toOption.getD []))]
  | .whatsappMetaMarketingMessage _ _ providerEventId _ =>
      [(str "provider", .str (str "Meta")),
        (str "provider_event_id", .str (strip providerEventId.text))]
  | .telephonyVoiceMinute _ _ provider providerEventId _
  | .inboundVoiceMinute _ _ provider providerEventId _ =>
      [(str "provider", .str (strip provider.text)),
        (str "provider_event_id", .str (strip providerEventId.text))]
  | .otherProviderCharge charge =>
      [(str "provider", .str (strip charge.provider.text)),
        (str "provider_event_id", .str (strip charge.providerEventId.text)),
        (str "provider_invoice_id", .str (strip charge.providerInvoiceId.text)),
        (str "original_amount_minor", charge.originalAmountMinor),
        (str "original_currency", .str (upper (strip charge.originalCurrency.text))),
        (str "tariff_version", .str (strip charge.tariffVersion.text))] ++
      match charge.fxRule with
      | .none => []
      | fxRule => [(str "fx_rule", .str (strip fxRule.text))]

end Calls

section Sent

variable {py : BuilderInterpreter}

/-- A required text is stored without its white space. -/
theorem requiredMetadataString_text {v : PyValue} {field : String} {s : PyStr}
    (h : requiredMetadataString v field = .ok s) : s = strip v.text := by
  rcases (requiredMetadataString_eq_ok_iff v field s).mp h with ⟨t, rfl, rfl, -⟩
  rfl

/-- The metadata of a usage are the ones it was given. -/
theorem countUsage_metadata {wholeCount : Bool} {featureCode : String} {s o q : PyValue}
    {d request : PyDict} (h : countUsage py wholeCount featureCode s o q (some d) = .ok request) :
    request.get "metadata" = some (.dict d) := by
  rw [((countUsage_eq_ok_iff _ _ _ _ _ _ _).mp h).2.2.2]
  exact (PyDict.get_set _ _ _ _).trans (if_pos rfl)

/-- Those of a provider have the attribution set. -/
theorem providerUsage_metadata {wholeCount : Bool} {featureCode : String} {s o p e q : PyValue}
    {metadata : Option PyDict} {request : PyDict}
    (h : providerUsage py wholeCount featureCode s o p e q metadata = .ok request) :
    request.get "metadata" =
      some (.dict ((metadata.getD []).setAttribution (strip p.text) (strip e.text))) := by
  rcases (bind_eq_ok_iff _ _ _).mp h with ⟨d, hd, hrequest⟩
  rw [countUsage_metadata hrequest, ((providerMetadata_eq_ok_iff _ _ _ _).mp hd).2.2.2]

/-- Setting the attribution puts it behind the caller's members. -/
theorem setAttribution_eq (d : PyDict) (provider providerEventId : PyStr) :
    d.setAttribution provider providerEventId =
      d ++ [(str "provider", .str provider), (str "provider_event_id", .str providerEventId)] := by
  simp [PyDict.setAttribution, PyDict.set]

/-- Setting the evidence does the same. -/
theorem setEvidence_eq (d : PyDict) (invoice currency tariff : PyStr) (amount : PyValue) :
    d.setEvidence invoice amount currency tariff =
      d ++ [(str "provider_invoice_id", .str invoice), (str "original_amount_minor", amount),
        (str "original_currency", .str currency), (str "tariff_version", .str tariff)] := by
  simp [PyDict.setEvidence, PyDict.set]

/-- The provider of WhatsApp is written without white space. -/
theorem strip_meta : strip (str "Meta") = str "Meta" := by decide

/-- The metadata of a charge are the caller's with the arguments behind them. -/
theorem otherProviderCharge_metadata {charge : OtherProviderCharge} {request : PyDict}
    (h : Python.otherProviderCharge py charge = .ok request) :
    request.get "metadata" = some (.dict (charge.metadata.getD [] ++
      (MergingCall.otherProviderCharge charge).arguments py)) := by
  rcases (otherProviderCharge_eq_ok_iff _ _).mp h with
    ⟨currency, d, evidence, hcharge, hd, hevidence, rfl⟩
  have hget : ∀ facts : PyDict, (facts.set "metadata" (.dict evidence)).get "metadata" =
      some (.dict evidence) := fun facts => (PyDict.get_set _ _ _ _).trans (if_pos rfl)
  refine (hget _).trans ?_
  rcases (checkCharge_eq_ok_iff _ _).mp hcharge with ⟨-, -, -, ⟨original, horiginal, rfl⟩, -⟩
  rcases (passThroughEvidence_eq_ok_iff _ _ _ _).mp hevidence with
    ⟨invoice, tariff, hinvoice, htariff, hrule⟩
  rw [((providerMetadata_eq_ok_iff _ _ _ _).mp hd).2.2.2, setAttribution_eq,
    setEvidence_eq] at hrule
  rw [requiredMetadataString_text hinvoice, requiredMetadataString_text htariff,
    requiredMetadataString_text horiginal] at hrule
  unfold MergingCall.arguments
  rcases hrule with ⟨hnone, rfl⟩ | ⟨rule, hfx, rfl⟩
  · simp [hnone]
  · rcases (requiredMetadataString_eq_ok_iff _ _ _).mp hfx with ⟨t, hstr, rfl, -⟩
    simp [hstr, PyDict.set, PyValue.text]

/-- The metadata of the request is the caller's with the arguments behind it. -/
theorem MergingCall.build_metadata (call : MergingCall) {metadata : Option PyDict}
    {request : PyDict} (h : (call.withMetadata metadata).build py = .ok request) :
    request.get "metadata" = some (.dict (metadata.getD [] ++ call.arguments py)) := by
  cases call with
  | conversation24h s o c ch =>
      simp only [withMetadata, UsageCall.build, Python.conversation24h, bind_eq_ok_iff] at h
      rcases h with ⟨_, -, channel, hchannel, _, -, id, hid, hrequest⟩
      rw [countUsage_metadata hrequest, requiredMetadataString_text hid]
      simp [arguments, hchannel, PyDict.set, Except.toOption]
  | whatsappMetaMarketingMessage s o e q =>
      rw [providerUsage_metadata h, setAttribution_eq]
      have hmeta : strip (PyValue.str (str "Meta")).text = str "Meta" := strip_meta
      rw [hmeta]
      rfl
  | telephonyVoiceMinute s o p e b =>
      rw [providerUsage_metadata h, setAttribution_eq]
      rfl
  | inboundVoiceMinute s o p e b =>
      rw [providerUsage_metadata h, setAttribution_eq]
      rfl
  | otherProviderCharge charge =>
      exact otherProviderCharge_metadata h

/-- The call returns the metadata of its caller with its arguments in the place of the
members of their names, and what the caller has in memory stays as it is. -/
structure MergingCall.MergesExactly (py : BuilderInterpreter) (call : MergingCall)
    (base : List PyDict) (source : Option Ref) (r : StoredRequest) : Prop where
  sent : ∃ d, (call.buildIn py source base).2[r.metadata]? = some d ∧
    ∀ key, lookupLast d key = (lookupLast (call.arguments py) key).or
      (lookupLast ((source.bind (base[·]?)).getD []) key)
  kept : base <+: (call.buildIn py source base).2

/-- Every merging builder merges exactly. -/
theorem MergingCall.mergesExactly (call : MergingCall) {base : List PyDict}
    {source : Option Ref} (hsource : ∀ p ∈ source, p < base.length) {r : StoredRequest}
    (h : (call.buildIn py source base).1 = .ok r) : call.MergesExactly py base source r := by
  have hsimulates := call.buildIn_simulates py (P := fun _ => True) hsource
  rcases hsimulates.result h with ⟨request, hrequest, d, hd, rfl⟩
  have hmetadata := call.build_metadata hrequest
  rw [PyDict.get_set, if_pos rfl, Option.some.injEq, PyValue.dict.injEq] at hmetadata
  refine ⟨⟨d, hd.2, fun key => ?_⟩, hsimulates.keeps⟩
  rw [hmetadata, lookupLast_append]

end Sent

end MizanSDK.Python
