import MizanSDK.Agreement.UsageChecks

/-!
# What is reported of a usage

The requests of both SDKs for one usage, member by member.  They can differ in texts
that are not trimmed alike, and in a rule of conversion that the caller has left in
the metadata of a charge: Go empties it, Python keeps it.

Main results:

- Theorem `sameObject_evidence_iff`: when the evidence of a charge is the same.
- Theorem `sameReport_iff`: the reports are the same when both SDKs trim the texts
  alike and no rule of conversion is left over.
-/

namespace MizanSDK.Agreement

open JsonText Decimal Trim Checks

/-! ## Reports -/

/-- The metadata of a request in both SDKs is the same object, or there is none. -/
def SameMetadata : Option Go.UsageMetadata → Option Python.PyValue → Prop
  | none, v => v = none
  | some m, v => ∃ d, v = some (.dict d) ∧ SameObject d (toDict m)

/-- Two requests report the same feature, facts and metadata.  Go leaves a fact out
when it is empty. -/
structure SameReport (request : Go.ConsumptionRequest) (d : Python.PyDict) : Prop where
  featureCode : d.get "feature_code" = some (text request.featureCode)
  quantity : d.get "quantity" = present request.quantity
  durationSeconds : d.get "duration_seconds" = present request.durationSeconds
  providerAmountMinor : d.get "provider_amount_minor" = present request.providerAmountMinor
  metadata : SameMetadata request.metadata (d.get "metadata")

section Reports

/-- The members of a request that are no metadata. -/
theorem get_usageRequest (featureCode : String) (s o : Python.PyValue) (fact : String)
    (v : Python.PyValue) (metadata : Option Python.PyDict) {name : String}
    (h : name ≠ "metadata") :
    (Python.usageRequest featureCode s o fact v metadata).get name =
      if fact = name then some v
      else if "feature_code" = name then some (text featureCode)
      else if "occurred_at" = name then some o
      else if "source_event_id" = name then some s
      else none := by
  have hbase : ∀ metadata, (Python.usageRequest featureCode s o fact v metadata).get name =
      (Python.usageRequest featureCode s o fact v none).get name := by
    intro metadata
    cases metadata with
    | none => rfl
    | some d => exact (Python.PyDict.get_set _ _ _ _).trans (if_neg (Ne.symm h))
  rw [hbase]
  simp only [Python.usageRequest, Python.PyDict.get, lookupLast_cons, lookupLast_nil,
    Option.none_or, Text.ofString_inj]
  split_ifs <;> rfl

/-- A dictionary of known keys. -/
def Known (d : Python.PyDict) : Prop :=
  ∀ entry ∈ d, ∃ key ∈ Python.metadataKeys, entry.1 = Python.str key

/-- Setting a known member leaves metadata known. -/
theorem Known.set {d : Python.PyDict} (h : Known d) {name : String}
    (hname : name ∈ Python.metadataKeys) (v : Python.PyValue) : Known (d.set name v) := by
  intro entry hentry
  rw [Python.PyDict.set, List.mem_append, List.mem_singleton] at hentry
  rcases hentry with hentry | rfl
  · exact h entry hentry
  · exact ⟨name, hname, rfl⟩

/-- Missing metadata are empty ones. -/
theorem getD_toDict (m : Option Go.UsageMetadata) :
    (m.map toDict).getD [] = toDict (m.getD .zero) := by
  cases m <;> rfl

/-- A text as Python reports it. -/
def stripped (s : String) : Python.PyValue := .str (Python.strip (Python.str s))

/-- Python reports what Go reports of a text when it is trimmed alike. -/
theorem stripped_eq_iff (s : String) : stripped s = text (Go.trimSpace s) ↔ TrimmedAlike s := by
  rw [stripped, text, Python.PyValue.str.injEq, TrimmedAlike, eq_comm]

/-- A text that is not empty is present. -/
theorem present_of_ne {s : String} (h : s ≠ "") : present s = some (text s) := if_neg h

/-- The members of metadata that has the identity of a conversation. -/
theorem metadataMember_conversation (m : Go.UsageMetadata) (conversationID channel name : String) :
    metadataMember { m with conversationID := conversationID, channel := channel } name =
      if "channel" = name then present channel
      else if "conversation_id" = name then present conversationID
      else metadataMember m name := by
  split_ifs with hchannel hconversation
  · subst hchannel
    rfl
  · subst hconversation
    rfl
  · unfold metadataMember
    split
    all_goals first | contradiction | rfl

/-- The members of metadata that has an attribution. -/
theorem metadataMember_attributed (m : Go.UsageMetadata) (provider eventID name : String) :
    metadataMember (m.attributed provider eventID) name =
      if "provider_event_id" = name then present eventID
      else if "provider" = name then present provider
      else metadataMember m name := by
  split_ifs with hevent hprovider
  · subst hevent
    rfl
  · subst hprovider
    rfl
  · unfold metadataMember
    split
    all_goals first | contradiction | rfl

/-- The members of metadata that has the evidence of a charge. -/
theorem metadataMember_evidence (usage : Go.OtherProviderChargeUsage) (m : Go.UsageMetadata)
    (name : String) :
    metadataMember (usage.evidence m) name =
      if "fx_rule" = name then present (Go.trimSpace usage.fxRule)
      else if "tariff_version" = name then present (Go.trimSpace usage.tariffVersion)
      else if "original_currency" = name then present usage.currency
      else if "original_amount_minor" = name then present usage.originalAmountMinor
      else if "provider_invoice_id" = name then present (Go.trimSpace usage.providerInvoiceID)
      else metadataMember m name := by
  split_ifs with hrule htariff hcurrency horiginal hinvoice
  · subst hrule
    rfl
  · subst htariff
    rfl
  · subst hcurrency
    rfl
  · subst horiginal
    rfl
  · subst hinvoice
    rfl
  · unfold metadataMember
    split
    all_goals first | contradiction | rfl

/-- The identity of a conversation is the same in both requests when it is trimmed
alike. -/
theorem sameObject_conversation_iff (m : Go.UsageMetadata) {conversationID channel : String}
    (hconversation : Go.trimSpace conversationID ≠ "") (hchannel : channel ≠ "") :
    SameObject (((toDict m).set "conversation_id" (stripped conversationID)).set "channel"
        (text channel))
      (toDict { m with conversationID := Go.trimSpace conversationID, channel := channel }) ↔
      TrimmedAlike conversationID := by
  have hknown : Known (((toDict m).set "conversation_id" (stripped conversationID)).set "channel"
      (text channel)) :=
    (Known.set (keys_toDict m) (by decide) _).set (by decide) _
  have hget : ∀ name ∈ Python.metadataKeys, (((toDict m).set "conversation_id"
      (stripped conversationID)).set "channel" (text channel)).get name =
        if "channel" = name then some (text channel)
        else if "conversation_id" = name then some (stripped conversationID)
        else metadataMember m name := by
    intro name hname
    rw [Python.PyDict.get_set, Python.PyDict.get_set, get_toDict m hname]
  rw [sameObject_toDict_iff hknown, ← stripped_eq_iff]
  simp only [metadataMember_conversation, present_of_ne hconversation, present_of_ne hchannel]
  constructor
  · intro h
    have hsame := h "conversation_id" (by decide)
    rw [hget _ (by decide)] at hsame
    exact Option.some.inj hsame
  · intro h name hname
    rw [hget name hname, h]

/-- An attribution is the same in both requests when it is trimmed alike. -/
theorem sameObject_attributed_iff (m : Go.UsageMetadata) {provider eventID : String}
    (hprovider : Go.trimSpace provider ≠ "") (hevent : Go.trimSpace eventID ≠ "") :
    SameObject ((toDict m).setAttribution (Python.strip (Python.str provider))
        (Python.strip (Python.str eventID)))
      (toDict (m.attributed (Go.trimSpace provider) (Go.trimSpace eventID))) ↔
      TrimmedAlike provider ∧ TrimmedAlike eventID := by
  have hknown : Known ((toDict m).setAttribution (Python.strip (Python.str provider))
      (Python.strip (Python.str eventID))) :=
    (Known.set (keys_toDict m) (by decide) _).set (by decide) _
  have hget : ∀ name ∈ Python.metadataKeys, ((toDict m).setAttribution
      (Python.strip (Python.str provider)) (Python.strip (Python.str eventID))).get name =
        if "provider_event_id" = name then some (stripped eventID)
        else if "provider" = name then some (stripped provider)
        else metadataMember m name := by
    intro name hname
    rw [Python.PyDict.setAttribution, Python.PyDict.get_set, Python.PyDict.get_set,
      get_toDict m hname]
    rfl
  rw [sameObject_toDict_iff hknown, ← stripped_eq_iff, ← stripped_eq_iff]
  simp only [metadataMember_attributed, present_of_ne hprovider, present_of_ne hevent]
  constructor
  · intro h
    have hfirst := h "provider" (by decide)
    have hsecond := h "provider_event_id" (by decide)
    rw [hget _ (by decide)] at hfirst hsecond
    exact ⟨Option.some.inj hfirst, Option.some.inj hsecond⟩
  · rintro ⟨hfirst, hsecond⟩ name hname
    rw [hget name hname, hfirst, hsecond]

/-- The texts of a charge that have to be there are trimmed alike. -/
def RequiredAlike (usage : Go.OtherProviderChargeUsage) : Prop :=
  (TrimmedAlike usage.provider ∧ TrimmedAlike usage.providerEventID) ∧
    TrimmedAlike usage.providerInvoiceID ∧ TrimmedAlike usage.tariffVersion

/-- The members of the evidence in Python, the rule of conversion apart. -/
def evidenceMember (usage : Go.OtherProviderChargeUsage) (m : Go.UsageMetadata)
    (name : String) : Option Python.PyValue :=
  if "tariff_version" = name then some (stripped usage.tariffVersion)
  else if "original_currency" = name then some (text usage.currency)
  else if "original_amount_minor" = name then some (text usage.originalAmountMinor)
  else if "provider_invoice_id" = name then some (stripped usage.providerInvoiceID)
  else if "provider_event_id" = name then some (stripped usage.providerEventID)
  else if "provider" = name then some (stripped usage.provider)
  else metadataMember m name

/-- The evidence of a charge is the same in both requests when its texts are trimmed
alike and the rules of conversion are the same. -/
theorem sameObject_evidence_iff {usage : Go.OtherProviderChargeUsage} (m : Go.UsageMetadata)
    {d : Python.PyDict} (hknown : Known d)
    (hget : ∀ name ∈ Python.metadataKeys, name ≠ "fx_rule" →
      d.get name = evidenceMember usage m name)
    (hrequired : ∀ s ∈ (Usage.charge usage).required, Go.trimSpace s ≠ "")
    (horiginal : usage.originalAmountMinor ≠ "") (hcurrency : usage.currency ≠ "") :
    SameObject d (toDict (usage.evidence (m.attributed (Go.trimSpace usage.provider)
      (Go.trimSpace usage.providerEventID)))) ↔
      RequiredAlike usage ∧ d.get "fx_rule" = present (Go.trimSpace usage.fxRule) := by
  rcases (forall_mem_required_charge usage).mp hrequired with
    ⟨⟨hprovider, hevent⟩, hinvoice, htariff⟩
  rw [sameObject_toDict_iff hknown, RequiredAlike]
  simp only [metadataMember_evidence, metadataMember_attributed, present_of_ne hprovider,
    present_of_ne hevent, present_of_ne hinvoice, present_of_ne htariff,
    present_of_ne horiginal, present_of_ne hcurrency, ← stripped_eq_iff]
  constructor
  · intro h
    have hfirst := h "provider" (by decide)
    have hsecond := h "provider_event_id" (by decide)
    have hthird := h "provider_invoice_id" (by decide)
    have hfourth := h "tariff_version" (by decide)
    rw [hget _ (by decide) (by decide)] at hfirst hsecond hthird hfourth
    simp only [evidenceMember, String.reduceEq, if_true, if_false, Option.some.injEq]
      at hfirst hsecond hthird hfourth
    exact ⟨⟨⟨hfirst, hsecond⟩, hthird, hfourth⟩, (h "fx_rule" (by decide)).trans (if_pos rfl)⟩
  · rintro ⟨⟨⟨hfirst, hsecond⟩, hthird, hfourth⟩, hrule⟩ name hname
    by_cases hname' : name = "fx_rule"
    · rw [hname', hrule, if_pos rfl]
    · rw [hget name hname hname', if_neg (Ne.symm hname'), evidenceMember, hfirst, hsecond,
        hthird, hfourth]

/-- A quantity is never empty. -/
theorem quantityOrOne_ne (quantity : String) : Go.quantityOrOne quantity ≠ "" := by
  rw [Go.quantityOrOne]
  split
  · decide
  · assumption

/-- Requests for one quantity report the same when their metadata is the same. -/
theorem sameReport_quantity_iff (feature sourceEventID : String) (occurredAt : Go.GoTime)
    (quantity : String) (m : Option Go.UsageMetadata) (s o : Python.PyValue)
    (metadata : Option Python.PyDict) :
    SameReport (Go.ofQuantity feature sourceEventID occurredAt quantity m)
        (Python.usageRequest feature s o "quantity" (text (Go.quantityOrOne quantity))
          metadata) ↔
      SameMetadata m (metadata.map .dict) := by
  have hfact : "quantity" ≠ "metadata" := by decide
  have hmetadata := Python.usageRequest_get_metadata feature s o hfact
    (text (Go.quantityOrOne quantity)) metadata
  constructor
  · intro h
    have hsame := h.metadata
    rwa [hmetadata] at hsame
  · intro h
    refine ⟨?_, ?_, ?_, ?_, by rwa [hmetadata]⟩
    · simp [get_usageRequest, Go.ofQuantity]
    · simp [get_usageRequest, Go.ofQuantity, present_of_ne (quantityOrOne_ne quantity)]
    · simp [get_usageRequest, Go.ofQuantity, present]
    · simp [get_usageRequest, Go.ofQuantity, present]

/-- The metadata of a caller is reported as it is. -/
theorem sameMetadata_map (m : Option Go.UsageMetadata) :
    SameMetadata m ((m.map toDict).map .dict) := by
  cases m with
  | none => rfl
  | some m => exact ⟨_, rfl, fun _ => rfl⟩

/-- Given metadata are the same if their members are. -/
theorem sameMetadata_some_iff (m : Go.UsageMetadata) (d : Python.PyDict) :
    SameMetadata (some m) ((some d).map .dict) ↔ SameObject d (toDict m) := by
  simp [SameMetadata]

variable {py : Python.BuilderInterpreter}

/-- Both SDKs report the same message or reply. -/
theorem sameReport_count {feature : String} {usage : Go.OutboundDeliveredMessageUsage}
    {request : Go.ConsumptionRequest} {d : Python.PyDict}
    (hrequest : (Usage.count feature usage).request = .ok request)
    (hd : (Usage.count feature usage).build py = .ok d) : SameReport request d := by
  rcases (Go.quantityRequest_eq_ok_iff _ _ _ _ _ _ request).mp hrequest with ⟨-, -, -, rfl⟩
  rcases (Python.countUsage_eq_ok_iff _ _ _ _ _ _ d).mp hd with ⟨-, -, -, rfl⟩
  exact (sameReport_quantity_iff _ _ _ _ _ _ _ _).mpr (sameMetadata_map usage.metadata)

/-- They report the same conversation if they trim its texts alike. -/
theorem sameReport_conversation_iff {usage : Go.Conversation24HUsage}
    {request : Go.ConsumptionRequest} {d : Python.PyDict}
    (hrequest : (Usage.conversation usage).request = .ok request)
    (hd : (Usage.conversation usage).build py = .ok d) :
    SameReport request d ↔ (Usage.conversation usage).SameTexts := by
  rcases (bind_eq_ok_iff _ _ _).mp hrequest with ⟨m, hm, hrequest⟩
  rcases (Go.conversationMetadata_eq_ok_iff _ _ _ m).mp hm with
    ⟨hconversation, hchannel, -, rfl, -⟩
  rcases (Go.quantityRequest_eq_ok_iff _ _ _ _ _ _ request).mp hrequest with ⟨-, -, -, rfl⟩
  have hstr : py.str (text usage.channel) = .ok (Python.str usage.channel) := rfl
  simp only [Usage.build, Python.conversation24h, bind_eq_ok_iff, hstr, Except.ok.injEq,
    exists_eq_left', requiredMetadataString_text_iff, Python.countUsage_eq_ok_iff] at hd
  rcases hd with ⟨_, -, _, -, _, ⟨-, rfl⟩, -, -, -, rfl⟩
  refine (sameReport_quantity_iff _ _ _ "1" _ _ _ _).trans ?_
  rw [sameMetadata_some_iff, getD_toDict]
  refine (sameObject_conversation_iff _ hconversation hchannel).trans ?_
  constructor
  · intro h
    exact ⟨List.forall_mem_singleton.mpr h, trivial⟩
  · intro h
    exact h.trimmed _ List.mem_cons_self

/-- The same for a usage a provider charges for. -/
theorem sameReport_attributed_iff {wholeCount : Bool} {feature : String}
    {usage : Go.TelephonyVoiceMinuteUsage} {request : Go.ConsumptionRequest}
    {d : Python.PyDict}
    (hrequest : (Usage.attributed wholeCount feature usage).request = .ok request)
    (hd : (Usage.attributed wholeCount feature usage).build py = .ok d) :
    SameReport request d ↔ (Usage.attributed wholeCount feature usage).SameTexts := by
  rcases (bind_eq_ok_iff _ _ _).mp hrequest with ⟨m, hm, hrequest⟩
  rcases (Go.providerMetadata_eq_ok_iff _ _ _ m).mp hm with ⟨hprovider, hevent, rfl, -⟩
  rcases (Go.quantityRequest_eq_ok_iff _ _ _ _ _ _ request).mp hrequest with ⟨-, -, -, rfl⟩
  rcases (bind_eq_ok_iff _ _ _).mp hd with ⟨attributed, hattributed, hd⟩
  rcases (Python.providerMetadata_eq_ok_iff _ _ _ attributed).mp hattributed with
    ⟨-, -, -, rfl⟩
  rcases (Python.countUsage_eq_ok_iff _ _ _ _ _ _ d).mp hd with ⟨-, -, -, rfl⟩
  refine (sameReport_quantity_iff _ _ _ _ _ _ _ _).trans ?_
  rw [sameMetadata_some_iff, getD_toDict]
  refine (sameObject_attributed_iff _ hprovider hevent).trans ?_
  constructor
  · intro h
    exact ⟨forall_mem_pair.mpr h, trivial⟩
  · intro h
    exact forall_mem_pair.mp h.trimmed

/-- An amount that passes is not empty. -/
theorem ne_of_validateExactInteger {value field : String} {allowZero : Bool}
    (h : Go.validateExactInteger value field allowZero = none) : value ≠ "" := by
  rintro rfl
  exact absurd ((Go.validateExactInteger_eq_none_iff _ _ _).mp h).1 (by decide)

/-- Both SDKs report the same minutes. -/
theorem sameReport_minutes {usage : Go.VoiceAIStartedMinuteUsage}
    {request : Go.ConsumptionRequest} {d : Python.PyDict}
    (hrequest : (Usage.minutes usage).request = .ok request)
    (hd : (Usage.minutes usage).build py = .ok d) : SameReport request d := by
  simp only [Usage.request, Go.VoiceAIStartedMinuteUsage.request, bind_eq_ok_iff,
    report_eq_ok_iff, pure, Except.pure, Except.ok.injEq] at hrequest
  simp only [Usage.build, Python.voiceAiStartedMinute, bind_eq_ok_iff, pure, Except.pure,
    Except.ok.injEq] at hd
  rcases hrequest with ⟨_, -, _, hduration, _, -, rfl⟩
  rcases hd with ⟨_, -, _, -, _, -, rfl⟩
  have hfact : "duration_seconds" ≠ "metadata" := by decide
  refine ⟨?_, ?_, ?_, ?_, ?_⟩
  · simp [get_usageRequest]
  · simp [get_usageRequest, present]
  · simp [get_usageRequest, present_of_ne (ne_of_validateExactInteger hduration)]
  · simp [get_usageRequest, present]
  · rw [Python.usageRequest_get_metadata _ _ _ hfact]
    exact sameMetadata_map usage.metadata

/-- The request of a charge in Go. -/
def chargeRequest (usage : Go.OtherProviderChargeUsage) (m : Go.UsageMetadata) :
    Go.ConsumptionRequest :=
  { Go.ofQuantity "other_provider_charge" usage.sourceEventID usage.occurredAt "" (some m) with
    quantity := "", providerAmountMinor := usage.providerAmountMinor }

/-- Requests for one charge report the same when their metadata is the same. -/
theorem sameReport_chargeRequest_iff {usage : Go.OtherProviderChargeUsage}
    (h : usage.providerAmountMinor ≠ "") (m : Go.UsageMetadata) (s o : Python.PyValue)
    (d : Python.PyDict) :
    SameReport (chargeRequest usage m)
        (Python.usageRequest "other_provider_charge" s o "provider_amount_minor"
          (text usage.providerAmountMinor) (some d)) ↔
      SameObject d (toDict m) := by
  have hfact : "provider_amount_minor" ≠ "metadata" := by decide
  have hmetadata := Python.usageRequest_get_metadata "other_provider_charge" s o hfact
    (text usage.providerAmountMinor) (some d)
  rw [← sameMetadata_some_iff]
  constructor
  · intro hsame
    have hobject := hsame.metadata
    rwa [hmetadata] at hobject
  · intro hobject
    refine ⟨?_, ?_, ?_, ?_, by rwa [hmetadata]⟩
    · simp [get_usageRequest, chargeRequest, Go.ofQuantity]
    · simp [get_usageRequest, chargeRequest, present]
    · simp [get_usageRequest, chargeRequest, Go.ofQuantity, present]
    · simp [get_usageRequest, chargeRequest, present_of_ne h]

/-- The currency of a charge is the same in both requests when it is trimmed alike. -/
theorem currency_eq {usage : Go.OtherProviderChargeUsage} (h : Ascii usage.originalCurrency)
    (halike : TrimmedAlike usage.originalCurrency) :
    Python.PyValue.str (points (capitals (trim pySpace usage.originalCurrency.toList))) =
      text usage.currency := by
  rw [← (trimmedAlike_iff _).mp halike, Go.OtherProviderChargeUsage.currency,
    go_toUpper_eq (not_mem_trimSpace_of_ascii h), text,
    ← (points_eq_str_iff _ _).mpr (String.toList_ofList).symm]

/-- The evidence of a charge in Python, the rule of conversion apart. -/
def baseEvidence (usage : Go.OtherProviderChargeUsage) (code : Python.PyStr) : Python.PyDict :=
  ((toDict (usage.metadata.getD .zero)).setAttribution
      (Python.strip (Python.str usage.provider))
      (Python.strip (Python.str usage.providerEventID))).setEvidence
    (Python.strip (Python.str usage.providerInvoiceID)) (text usage.originalAmountMinor) code
    (Python.strip (Python.str usage.tariffVersion))

/-- The evidence of a charge has known members only. -/
theorem known_baseEvidence (usage : Go.OtherProviderChargeUsage) (code : Python.PyStr) :
    Known (baseEvidence usage code) :=
  (((((Known.set (keys_toDict _) (by decide) _).set (by decide) _).set (by decide) _).set
    (by decide) _).set (by decide) _).set (by decide) _

/-- Each of them is that of the charge. -/
theorem get_baseEvidence {usage : Go.OtherProviderChargeUsage} {code : Python.PyStr}
    (h : Python.PyValue.str code = text usage.currency) {name : String}
    (hname : name ∈ Python.metadataKeys) :
    (baseEvidence usage code).get name =
      evidenceMember usage (usage.metadata.getD .zero) name := by
  rw [baseEvidence, Python.PyDict.setEvidence, Python.PyDict.setAttribution,
    Python.PyDict.get_set, Python.PyDict.get_set, Python.PyDict.get_set, Python.PyDict.get_set,
    Python.PyDict.get_set, Python.PyDict.get_set, get_toDict _ hname, evidenceMember, h]
  rfl

/-- The evidence a Python charge is reported with. -/
theorem evidence_of_build {usage : Go.OtherProviderChargeUsage}
    (h : (Usage.charge usage).Expressible py) {d : Python.PyDict}
    (hd : (Usage.charge usage).build py = .ok d) :
    ∃ evidence, d = Python.usageRequest "other_provider_charge" (text usage.sourceEventID)
        (text usage.occurredAt.rfc3339Nano) "provider_amount_minor"
        (text usage.providerAmountMinor) (some evidence) ∧
      (usage.fxRule = "" ∧ evidence = baseEvidence usage
          (points (capitals (trim pySpace usage.originalCurrency.toList))) ∨
        usage.fxRule ≠ "" ∧ evidence = (baseEvidence usage
          (points (capitals (trim pySpace usage.originalCurrency.toList)))).set "fx_rule"
            (stripped usage.fxRule)) := by
  rcases (Python.otherProviderCharge_eq_ok_iff _ d).mp hd with
    ⟨code, metadata, evidence, hcharge, hmetadata, hevidence, rfl⟩
  rcases (checkCharge_pythonCharge_iff h code).mp hcharge with ⟨-, -, -, rfl, -⟩
  rcases (Python.providerMetadata_eq_ok_iff _ _ _ metadata).mp hmetadata with ⟨-, -, -, rfl⟩
  refine ⟨evidence, rfl, ?_⟩
  simp only [Python.passThroughEvidence_eq_ok_iff, pyBounded_iff] at hevidence
  have hcaller : ((pythonCharge usage).metadata.getD []) =
      toDict (usage.metadata.getD .zero) := getD_toDict usage.metadata
  rcases hevidence with ⟨_, _, ⟨-, rfl⟩, ⟨-, rfl⟩, ⟨hrule, rfl⟩ | ⟨_, ⟨hrule, rfl⟩, rfl⟩⟩
  · refine .inl ⟨?_, by rw [hcaller]; rfl⟩
    by_contra hgiven
    rw [pythonCharge, pythonRule, if_neg hgiven] at hrule
    cases hrule
  · have hgiven : usage.fxRule ≠ "" := by
      intro hempty
      rcases hrule with ⟨rule, hstr, -⟩
      rw [pythonCharge, pythonRule, if_pos hempty] at hstr
      cases hstr
    refine .inr ⟨hgiven, ?_⟩
    rw [hcaller, pythonCharge, pythonRule, if_neg hgiven]
    rfl

/-- Without a rule of conversion the evidence is the same when the metadata of the caller
has none either. -/
theorem sameObject_withoutRule_iff {usage : Go.OtherProviderChargeUsage} {code : Python.PyStr}
    (hcode : Python.PyValue.str code = text usage.currency)
    (hrequired : ∀ s ∈ (Usage.charge usage).required, Go.trimSpace s ≠ "")
    (horiginal : usage.originalAmountMinor ≠ "") (hcurrency : usage.currency ≠ "")
    (hempty : usage.fxRule = "") :
    SameObject (baseEvidence usage code)
        (toDict (usage.evidence ((usage.metadata.getD .zero).attributed
          (Go.trimSpace usage.provider) (Go.trimSpace usage.providerEventID)))) ↔
      RequiredAlike usage ∧ (Usage.charge usage).RuleLeftOut := by
  have hmember : evidenceMember usage (usage.metadata.getD .zero) "fx_rule" =
      present (usage.metadata.getD .zero).fxRule := by
    simp [evidenceMember, metadataMember]
  have hblank : present (Go.trimSpace usage.fxRule) = none := by
    rw [hempty]
    rfl
  rw [sameObject_evidence_iff _ (known_baseEvidence usage _)
    (fun name hname _ => get_baseEvidence hcode hname) hrequired horiginal hcurrency,
    get_baseEvidence hcode (by decide), hmember, hblank]
  simp [present, Usage.RuleLeftOut, hempty]

/-- With a rule of conversion the evidence is the same when the rule is trimmed alike. -/
theorem sameObject_withRule_iff {usage : Go.OtherProviderChargeUsage} {code : Python.PyStr}
    (hcode : Python.PyValue.str code = text usage.currency)
    (hrequired : ∀ s ∈ (Usage.charge usage).required, Go.trimSpace s ≠ "")
    (horiginal : usage.originalAmountMinor ≠ "") (hcurrency : usage.currency ≠ "")
    (hnonblank : Go.trimSpace usage.fxRule ≠ "") :
    SameObject ((baseEvidence usage code).set "fx_rule" (stripped usage.fxRule))
        (toDict (usage.evidence ((usage.metadata.getD .zero).attributed
          (Go.trimSpace usage.provider) (Go.trimSpace usage.providerEventID)))) ↔
      RequiredAlike usage ∧ TrimmedAlike usage.fxRule := by
  have hget : ∀ name ∈ Python.metadataKeys, name ≠ "fx_rule" →
      ((baseEvidence usage code).set "fx_rule" (stripped usage.fxRule)).get name =
        evidenceMember usage (usage.metadata.getD .zero) name := by
    intro name hname hother
    rw [Python.PyDict.get_set, if_neg (Ne.symm hother)]
    exact get_baseEvidence hcode hname
  rw [sameObject_evidence_iff _ ((known_baseEvidence usage _).set (by decide) _) hget hrequired
    horiginal hcurrency, Python.PyDict.get_set, if_pos rfl, present_of_ne hnonblank,
    Option.some.injEq, stripped_eq_iff]

/-- Both SDKs report the same charge if they trim its texts alike. -/
theorem sameReport_charge_iff {usage : Go.OtherProviderChargeUsage}
    (h : (Usage.charge usage).Expressible py) {request : Go.ConsumptionRequest}
    {d : Python.PyDict} (hrequest : (Usage.charge usage).request = .ok request)
    (hd : (Usage.charge usage).build py = .ok d) :
    SameReport request d ↔ (Usage.charge usage).SameTexts := by
  rcases (go_reports_iff h).mp ⟨request, hrequest⟩ with ⟨hshared, hgo⟩
  rcases (python_reports_iff h).mp ⟨d, hd⟩ with ⟨-, hpython⟩
  rcases evidence_of_build h hd with ⟨evidence, rfl, hevidence⟩
  rcases (usage.request_eq_ok_iff request).mp hrequest with ⟨hcomplete, m, hm, -, rfl⟩
  rcases (Go.providerMetadata_eq_ok_iff _ _ _ m).mp hm with ⟨-, -, rfl, -⟩
  have hcurrency := currency_eq (h.strings _ (by simp [Usage.strings]))
    (hgo.currency _ List.mem_cons_self)
  have hnonempty : usage.currency ≠ "" := by
    intro hempty
    have hcode := hcomplete.code
    rw [hempty] at hcode
    exact absurd hcode (by decide)
  have hamount := ne_of_validateExactInteger hcomplete.amount
  have horiginal := ne_of_validateExactInteger hcomplete.original
  have hsame : (Usage.charge usage).SameTexts ↔ RequiredAlike usage ∧
      (∀ s ∈ (Usage.charge usage).rule, TrimmedAlike s) ∧ (Usage.charge usage).RuleLeftOut := by
    rw [RequiredAlike, ← forall_mem_required_charge, ← and_assoc, ← List.forall_mem_append]
    exact ⟨fun hs => ⟨hs.trimmed, hs.rule⟩, fun hs => ⟨hs.1, hs.2⟩⟩
  refine (sameReport_chargeRequest_iff hamount _ _ _ _).trans ?_
  rw [hsame]
  rcases hevidence with ⟨hempty, rfl⟩ | ⟨hgiven, rfl⟩
  · rw [sameObject_withoutRule_iff hcurrency hshared.required horiginal hnonempty hempty,
      rule_of_empty hempty]
    simp
  · have hmem : usage.fxRule ∈ (Usage.charge usage).trimmed := by
      rw [Usage.trimmed, rule_of_given hgiven]
      exact List.mem_append_right _ (List.mem_singleton_self _)
    have hnonblank := trimSpace_ne_of_strip (hpython.nonblank _ hmem)
    have hleft : (Usage.charge usage).RuleLeftOut := fun hempty => absurd hempty hgiven
    rw [sameObject_withRule_iff hcurrency hshared.required horiginal hnonempty hnonblank,
      rule_of_given hgiven, List.forall_mem_singleton, and_iff_left hleft]

/-- Two reports of one usage are the same when its texts are trimmed alike and no rule of
conversion is left over. -/
theorem sameReport_iff {u : Usage} (h : u.Expressible py) {request : Go.ConsumptionRequest}
    {d : Python.PyDict} (hrequest : u.request = .ok request) (hd : u.build py = .ok d) :
    SameReport request d ↔ u.SameTexts := by
  cases u with
  | conversation usage => exact sameReport_conversation_iff hrequest hd
  | count feature usage =>
      exact iff_of_true (sameReport_count hrequest hd) ⟨nofun, trivial⟩
  | minutes usage => exact iff_of_true (sameReport_minutes hrequest hd) ⟨nofun, trivial⟩
  | attributed wholeCount feature usage => exact sameReport_attributed_iff hrequest hd
  | charge usage => exact sameReport_charge_iff h hrequest hd

end Reports

end MizanSDK.Agreement
