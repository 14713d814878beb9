import MizanSDK.Python.Builders

/-!
# The metadata of a built request

A builder validates the metadata of its caller, and sets members of it from its
arguments before or after that.  All but one of them hand over metadata that passes
the validation again.

Main results:

- Theorem `metadataPasses_usageRequest_iff`: when the metadata of a request passes.
- Theorem `UsageCall.build_passes_iff`: the metadata of a request passes again,
  unless it is that of a pass-through charge whose attribution is too long.
-/

namespace MizanSDK.Python

open JsonText Checks Decimal

/-! ## The metadata of a request -/

section Requests

variable {py : BuilderInterpreter}

/-- The metadata of a request, when present, passes `_validate_metadata`. -/
def MetadataPasses (py : BuilderInterpreter) (request : PyDict) : Prop :=
  ∀ v, request.get "metadata" = some v →
    ∃ metadata, v = .dict metadata ∧ validateMetadata py (some metadata) = .ok ()

theorem usageRequest_get_metadata (featureCode : String) (s o : PyValue) {fact : String}
    (hfact : fact ≠ "metadata") (value : PyValue) (metadata : Option PyDict) :
    (usageRequest featureCode s o fact value metadata).get "metadata" =
      metadata.map .dict := by
  cases metadata with
  | none => simp [usageRequest, PyDict.get, lookupLast_cons, hfact]
  | some metadata => simp [usageRequest]

/-- The metadata of a request passes when it passed before. -/
theorem metadataPasses_usageRequest_iff (featureCode : String) (s o : PyValue) {fact : String}
    (hfact : fact ≠ "metadata") (value : PyValue) (metadata : Option PyDict) :
    MetadataPasses py (usageRequest featureCode s o fact value metadata) ↔
      validateMetadata py metadata = .ok () := by
  rw [MetadataPasses, usageRequest_get_metadata featureCode s o hfact]
  cases metadata with
  | none => simp [validateMetadata]
  | some metadata => simp

theorem countUsage_passes {wholeCount : Bool} {featureCode : String} {s o q : PyValue}
    {metadata : Option PyDict} {request : PyDict}
    (h : countUsage py wholeCount featureCode s o q metadata = .ok request) :
    MetadataPasses py request := by
  have hfact : "quantity" ≠ "metadata" := by decide
  rcases (countUsage_eq_ok_iff wholeCount featureCode s o q metadata request).mp h with
    ⟨-, -, hmetadata, rfl⟩
  exact (metadataPasses_usageRequest_iff featureCode s o hfact q metadata).mpr hmetadata

/-- A text of metadata that passes is bounded. -/
theorem WithinContract.length_le {metadata : PyDict} (h : WithinContract py metadata)
    {field : String} (hfield : field ∈ boundedFields) {s : PyStr}
    (hget : metadata.get field = some (.str s)) : s.length ≤ 512 := by
  have hknown : ∀ name ∈ boundedFields, name ∈ metadataKeys := by decide
  have hmember := h.members field (hknown field hfield)
  rw [hget] at hmember
  exact ((checkMember_text_iff hfield s).mp hmember).2

/-- A bounded attribution keeps metadata within the contract. -/
theorem WithinContract.setAttribution {metadata : PyDict} (h : WithinContract py metadata)
    {provider event : PyStr} (hprovider : provider ≠ [] ∧ provider.length ≤ 512)
    (hevent : event ≠ [] ∧ event.length ≤ 512) :
    WithinContract py (metadata.setAttribution provider event) := by
  have hfirst : checkMember py "provider" (some (.str provider)) = .ok () :=
    (checkMember_text_iff (by decide) provider).mpr
      ⟨List.length_pos_iff.mpr hprovider.1, hprovider.2⟩
  have hsecond : checkMember py "provider_event_id" (some (.str event)) = .ok () :=
    (checkMember_text_iff (by decide) event).mpr ⟨List.length_pos_iff.mpr hevent.1, hevent.2⟩
  exact (h.set "provider" (by decide) hfirst).set "provider_event_id" (by decide) hsecond

/-- The evidence of a charge passes when the attribution below it does. -/
theorem WithinContract.passThroughEvidence {metadata evidence : PyDict}
    (h : WithinContract py metadata) {charge : OtherProviderCharge} {currency : PyStr}
    (hcode : isCurrencyCode currency = true)
    (hamount : checkInteger py charge.originalAmountMinor "original_amount_minor" true = .ok ())
    (hevidence : passThroughEvidence charge currency metadata = .ok evidence) :
    WithinContract py evidence := by
  rcases (passThroughEvidence_eq_ok_iff charge currency metadata evidence).mp hevidence with
    ⟨invoice, tariff, hinvoice, htariff, hrule⟩
  have hinvoiced := h.set "provider_invoice_id" (by decide)
    (checkMember_required hinvoice (by decide))
  have hpriced := (hinvoiced.set "original_amount_minor" (by decide)
    (checkMember_amount hamount)).set "original_currency" (by decide) (checkMember_currency hcode)
  have hlaid := hpriced.set "tariff_version" (by decide)
    (checkMember_required htariff (by decide))
  rcases hrule with ⟨-, rfl⟩ | ⟨fxRule, hfx, rfl⟩
  · exact hlaid
  · exact hlaid.set "fx_rule" (by decide) (checkMember_required hfx (by decide))

/-- The evidence of a charge leaves its attribution alone. -/
theorem passThroughEvidence_get {charge : OtherProviderCharge} {currency : PyStr}
    {metadata evidence : PyDict}
    (h : passThroughEvidence charge currency metadata = .ok evidence) {field : String}
    (hfield : field = "provider" ∨ field = "provider_event_id") :
    evidence.get field = metadata.get field := by
  rcases (passThroughEvidence_eq_ok_iff charge currency metadata evidence).mp h with
    ⟨invoice, tariff, -, -, ⟨-, rfl⟩ | ⟨fxRule, -, rfl⟩⟩
  · rcases hfield with rfl | rfl <;> simp [PyDict.setEvidence]
  · rcases hfield with rfl | rfl <;> simp [PyDict.setEvidence]

/-- The attribution of a pass-through charge is bounded: its provider and its
provider event ID have at most 512 characters without the spaces around them. -/
def OtherProviderCharge.AttributionBounded (charge : OtherProviderCharge) : Prop :=
  (strip charge.provider.text).length ≤ 512 ∧ (strip charge.providerEventId.text).length ≤ 512

/-- The metadata of a pass-through charge passes when its attribution is bounded:
only here the merged metadata is not checked again. -/
theorem otherProviderCharge_passes_iff {charge : OtherProviderCharge} {request : PyDict}
    (h : otherProviderCharge py charge = .ok request) :
    MetadataPasses py request ↔ charge.AttributionBounded := by
  rcases (otherProviderCharge_eq_ok_iff charge request).mp h with
    ⟨currency, metadata, evidence, hcharge, hmetadata, hevidence, rfl⟩
  rcases (checkCharge_eq_ok_iff charge currency).mp hcharge with ⟨-, -, hamount, -, hcode, -⟩
  rcases (providerMetadata_eq_ok_iff _ _ _ metadata).mp hmetadata with
    ⟨hcaller, hprovider, hevent, rfl⟩
  rw [metadataPasses_usageRequest_iff _ _ _ (by decide), validateMetadata_eq_ok_iff]
  constructor
  · intro hwithin
    have hfirst := passThroughEvidence_get hevidence (.inl rfl)
    have hsecond := passThroughEvidence_get hevidence (.inr rfl)
    simp only [PyDict.setAttribution, PyDict.get_set] at hfirst hsecond
    exact ⟨hwithin.length_le (by decide) hfirst, hwithin.length_le (by decide) hsecond⟩
  · rintro ⟨hlength, hlength'⟩
    rw [PyValue.isTextWith_iff] at hprovider hevent
    rcases hprovider with ⟨p, hp, hne⟩
    rcases hevent with ⟨e, he, hne'⟩
    rw [hp] at hlength hevidence
    rw [he] at hlength' hevidence
    exact ((withinContract_getD hcaller).setAttribution ⟨of_decide_eq_true hne, hlength⟩
      ⟨of_decide_eq_true hne', hlength'⟩).passThroughEvidence hcode hamount hevidence

/-- The attribution of a call is bounded where its builder does not see to it. -/
def UsageCall.AttributionBounded : UsageCall → Prop
  | .otherProviderCharge charge => charge.AttributionBounded
  | _ => True

/-- The metadata of a request a builder returns passes `_validate_metadata` unless
it is that of a pass-through charge whose attribution is too long. -/
theorem UsageCall.build_passes_iff (u : UsageCall) {request : PyDict}
    (h : u.build py = .ok request) :
    MetadataPasses py request ↔ u.AttributionBounded := by
  cases u with
  | otherProviderCharge charge => exact otherProviderCharge_passes_iff h
  | conversation24h s o c ch m =>
      refine iff_of_true ?_ trivial
      simp only [build, MizanSDK.Python.conversation24h, bind_eq_ok_iff] at h
      rcases h with ⟨_, -, channel, -, _, -, conversation, -, h⟩
      exact countUsage_passes h
  | outboundDeliveredMessage | aiAssistActionOverAllowance | aiReplyHandling =>
      exact iff_of_true (countUsage_passes h) trivial
  | voiceAiStartedMinute s o d m =>
      refine iff_of_true ?_ trivial
      simp only [build, MizanSDK.Python.voiceAiStartedMinute, bind_eq_ok_iff] at h
      rcases h with ⟨_, -, _, -, _, hmetadata, h⟩
      obtain rfl := Except.ok.inj h
      exact (metadataPasses_usageRequest_iff _ _ _ (by decide) _ _).mpr hmetadata
  | whatsappMetaMarketingMessage | telephonyVoiceMinute | inboundVoiceMinute =>
      refine iff_of_true ?_ trivial
      rcases (bind_eq_ok_iff _ _ _).mp h with ⟨metadata, -, h⟩
      exact countUsage_passes h

end Requests

section Example

/-- A complete pass-through charge in riyals. -/
def riyalCharge (provider : PyStr) : OtherProviderCharge where
  sourceEventId := .str (str "provider-fee-1")
  occurredAt := .str (str "2026-08-04T00:00:00Z")
  provider := .str provider
  providerEventId := .str (str "provider-event-1")
  providerAmountMinor := .str (str "337")
  providerInvoiceId := .str (str "INV-1")
  originalAmountMinor := .str (str "337")
  originalCurrency := .str (str "sar")
  tariffVersion := .str (str "carrier-v1")
  fxRule := .none
  metadata := none

/-- Such a charge is accepted from any provider that is not blank. -/
theorem riyalCharge_builds {provider : PyStr} (h : strip provider ≠ []) :
    ∃ request, otherProviderCharge asciiInterpreter (riyalCharge provider) = .ok request := by
  have hprovider : ((riyalCharge provider).provider.isTextWith fun s => strip s ≠ []) = true :=
    (PyValue.isTextWith_iff _ _).mpr ⟨provider, rfl, decide_eq_true h⟩
  have hcharge : checkCharge asciiInterpreter (riyalCharge provider) = .ok (str "SAR") := by
    rfl
  exact ⟨_, (otherProviderCharge_eq_ok_iff _ _).mpr ⟨str "SAR", _, _, hcharge,
    (providerMetadata_eq_ok_iff _ _ _ _).mpr ⟨rfl, hprovider, rfl, rfl⟩, rfl, rfl⟩⟩

/-- The metadata of a charge by a named carrier passes. -/
theorem riyalCharge_passes :
    ∃ request, (UsageCall.otherProviderCharge (riyalCharge (str "Carrier"))).build
        asciiInterpreter = .ok request ∧ MetadataPasses asciiInterpreter request := by
  have hcarrier : strip (str "Carrier") ≠ [] := by decide
  rcases riyalCharge_builds hcarrier with ⟨request, hrequest⟩
  have hbounded : (riyalCharge (str "Carrier")).AttributionBounded := by
    constructor
    · decide
    · decide
  exact ⟨request, hrequest,
    (UsageCall.build_passes_iff (.otherProviderCharge (riyalCharge (str "Carrier")))
      hrequest).mpr hbounded⟩

/-- A provider whose name is one character too long. -/
def longProvider : PyStr := List.replicate 513 (.scalar 'x')

/-- The charge of that provider is accepted with metadata that does not pass. -/
theorem longProvider_fails :
    ∃ request, (UsageCall.otherProviderCharge (riyalCharge longProvider)).build
        asciiInterpreter = .ok request ∧ ¬ MetadataPasses asciiInterpreter request := by
  have hstrip : strip longProvider = longProvider := by decide +kernel
  have hnonempty : strip longProvider ≠ [] := by
    rw [hstrip]
    exact List.cons_ne_nil _ _
  rcases riyalCharge_builds hnonempty with ⟨request, hrequest⟩
  refine ⟨request, hrequest, fun hpasses => ?_⟩
  have hbounded := ((otherProviderCharge_passes_iff hrequest).mp hpasses).1
  change (strip longProvider).length ≤ 512 at hbounded
  rw [hstrip, longProvider, List.length_replicate] at hbounded
  omega

end Example

end MizanSDK.Python
