import MizanSDK.Go.Binding
import MizanSDK.Go.Marshal
import Mathlib.Data.String.Basic

/-!
# The bodies of requests

The request types with the tags of their fields, the documents that are sent for requests,
and what a server reads in them that decodes into the same types.

Main results:

- Theorem `RequestBody.document_carries`: the document of a request carries it: nothing of a
  request gets lost, and what is left out is zero.
- Theorem `attempts_carry_request`: every attempt of a mutation carries its request.

Current gaps: strings are Unicode text here; in a Go string that is no UTF-8 the encoder writes
the replacement character for what is not.
-/

namespace MizanSDK.Go

open JsonText Assignments

/-! ## Request types -/

/-- `RecurringAddon`. -/
def recurringAddon : TaggedFields :=
  .field "code" false .string <|
  .field "quantity" true .string <|
  .field "approved_quote_id" true .string <|
  .field "approved_monthly_minor" true .string .nil

/-- `ActivationRequest`. -/
def activationRequest : TaggedFields :=
  .field "catalog_version" false .string <|
  .field "plan_id" true .string <|
  .field "plan_configuration_id" true .string <|
  .field "term" false .string <|
  .field "seats" false .int64 <|
  .field "timezone" true .string <|
  .field "payment_status" false .string <|
  .field "payment_event_id" false .string <|
  .field "currency" false .string <|
  .field "paid_total_minor" false .string <|
  .field "addons" true (.slice (.struct recurringAddon)) .nil

/-- `SubscriptionChangeRequest`. -/
def subscriptionChangeRequest : TaggedFields :=
  .field "catalog_version" false .string <|
  .field "plan_id" true .string <|
  .field "plan_configuration_id" true .string <|
  .field "term" true .string <|
  .field "seats" true .int64 <|
  .field "addons" true (.slice (.struct recurringAddon)) <|
  .field "requested_by" true .string <|
  .field "reason" true .string .nil

/-- `CancellationRequest`. -/
def cancellationRequest : TaggedFields :=
  .field "event_id" true .string <|
  .field "reason" true .string .nil

/-- `RenewalEventRequest`. -/
def renewalEventRequest : TaggedFields :=
  .field "payment_event_id" false .string <|
  .field "payment_status" false .string <|
  .field "currency" true .string <|
  .field "paid_total_minor" true .string .nil

/-- `ConfirmedTopUp`. -/
def confirmedTopUp : TaggedFields :=
  .field "amount_minor" false .string <|
  .field "payment_event_id" false .string <|
  .field "payment_status" false .string <|
  .field "currency" false .string <|
  .field "paid_total_minor" false .string .nil

/-- `ProviderRefundRequest`. -/
def providerRefundRequest : TaggedFields :=
  .field "amount_minor" false .string <|
  .field "payment_event_id" false .string <|
  .field "refund_status" false .string <|
  .field "currency" false .string <|
  .field "refunded_total_minor" false .string <|
  .field "reason" false .string .nil

/-- `BudgetRequest`. -/
def budgetRequest : TaggedFields :=
  .field "metric" false .string <|
  .field "period" false .string <|
  .field "limit" false .string <|
  .field "warning_bps" true .int64 <|
  .field "action" false .string <|
  .field "sensitive" true .bool <|
  .field "absolute_reserve" true .string <|
  .field "reserve_bps" true .int64 .nil

/-- `UsageMetadata`. -/
def usageMetadata : TaggedFields :=
  .field "actor" true (.map .string) <|
  .field "channel" true .string <|
  .field "channel_account_id" true .string <|
  .field "provider" true .string <|
  .field "provider_event_id" true .string <|
  .field "conversation_id" true .string <|
  .field "campaign_id" true .string <|
  .field "raw_quantity" true .string <|
  .field "billable_quantity" true .string <|
  .field "provider_invoice_id" true .string <|
  .field "original_amount_minor" true .string <|
  .field "original_currency" true .string <|
  .field "fx_rule" true .string <|
  .field "tariff_version" true .string <|
  .field "attributes" true (.map .scalar) .nil

/-- `ConsumptionComponent`. -/
def consumptionComponent : TaggedFields :=
  .field "feature_code" false .string <|
  .field "quantity" true .string <|
  .field "duration_seconds" true .string <|
  .field "provider_amount_minor" true .string <|
  .field "metadata" true (.pointer (.struct usageMetadata)) .nil

/-- `ConsumptionRequest`. -/
def consumptionRequest : TaggedFields :=
  .field "source_event_id" false .string <|
  .field "occurred_at" false .time <|
  .field "feature_code" true .string <|
  .field "quantity" true .string <|
  .field "duration_seconds" true .string <|
  .field "provider_amount_minor" true .string <|
  .field "metadata" true (.pointer (.struct usageMetadata)) <|
  .field "components" true (.slice (.struct consumptionComponent)) .nil

/-- `EligibilityRequest`. -/
def eligibilityRequest : TaggedFields :=
  .field "quantity" true .string <|
  .field "duration_seconds" true .string <|
  .field "provider_amount_minor" true .string <|
  .field "metadata" true (.pointer (.struct usageMetadata)) <|
  .field "components" true (.slice (.struct consumptionComponent)) .nil

/-- `DeliveryEndpointInput`. -/
def deliveryEndpointInput : TaggedFields :=
  .field "endpoint_url" false .string <|
  .field "auth_type" true .string <|
  .field "auth_secret" true .string <|
  .field "clear_auth_secret" true .bool <|
  .field "enabled" true (.pointer .bool) <|
  .field "reason" false .string .nil

/-- `AddonRolloutInput`. -/
def addonRolloutInput : TaggedFields :=
  .field "display_name" true .string <|
  .field "summary" true .string <|
  .field "included_features" true (.slice .string) <|
  .field "rollout_stage" true .string <|
  .field "enabled" true (.pointer .bool) <|
  .field "rollout_note" true (.pointer .string) <|
  .field "documentation_url" true (.pointer .string) <|
  .field "reason" false .string .nil

/-! ## Requests as values of their types -/

section Values

variable {α β : Type}

/-- A slice; an empty one is left out wherever it stands. -/
def sliceOf (f : α → β) (items : List α) : Option (List β) :=
  if items = [] then none else some (items.map f)

/-- A map in the order of its keys; an empty one is left out wherever it stands. -/
def mapOf (entries : AList fun _ : String => α) : Option (List (String × α)) :=
  if entries.entries = [] then none
  else some (sortedEntries (entries.entries.map fun e => (e.1, e.2)))

end Values

def RecurringAddon.values (a : RecurringAddon) : recurringAddon.Values :=
  (a.code, a.quantity, a.approvedQuoteID, a.approvedMonthlyMinor, ())

def ActivationRequest.values (r : ActivationRequest) : activationRequest.Values :=
  (r.catalogVersion, r.planID, r.planConfigurationID, r.term, r.seats, r.timezone,
    r.paymentStatus, r.paymentEventID, r.currency, r.paidTotalMinor,
    sliceOf RecurringAddon.values r.addons, ())

def SubscriptionChangeRequest.values (r : SubscriptionChangeRequest) :
    subscriptionChangeRequest.Values :=
  (r.catalogVersion, r.planID, r.planConfigurationID, r.term, r.seats,
    sliceOf RecurringAddon.values r.addons, r.requestedBy, r.reason, ())

def CancellationRequest.values (r : CancellationRequest) : cancellationRequest.Values :=
  (r.eventID, r.reason, ())

def RenewalEventRequest.values (r : RenewalEventRequest) : renewalEventRequest.Values :=
  (r.paymentEventID, r.paymentStatus, r.currency, r.paidTotalMinor, ())

def ConfirmedTopUp.values (r : ConfirmedTopUp) : confirmedTopUp.Values :=
  (r.amountMinor, r.paymentEventID, r.paymentStatus, r.currency, r.paidTotalMinor, ())

def ProviderRefundRequest.values (r : ProviderRefundRequest) : providerRefundRequest.Values :=
  (r.amountMinor, r.paymentEventID, r.refundStatus, r.currency, r.refundedTotalMinor, r.reason,
    ())

def BudgetRequest.values (r : BudgetRequest) : budgetRequest.Values :=
  (r.metric, r.period, r.limit, r.warningBPS, r.action, r.sensitive, r.absoluteReserve,
    r.reserveBPS, ())

def UsageMetadata.values (m : UsageMetadata) : usageMetadata.Values :=
  (mapOf m.actor, m.channel, m.channelAccountID, m.provider, m.providerEventID,
    m.conversationID, m.campaignID, m.rawQuantity, m.billableQuantity, m.providerInvoiceID,
    m.originalAmountMinor, m.originalCurrency, m.fxRule, m.tariffVersion, mapOf m.attributes,
    ())

def ConsumptionComponent.values (c : ConsumptionComponent) : consumptionComponent.Values :=
  (c.featureCode, c.quantity, c.durationSeconds, c.providerAmountMinor,
    c.metadata.map UsageMetadata.values, ())

def ConsumptionRequest.values (r : ConsumptionRequest) : consumptionRequest.Values :=
  (r.sourceEventID, r.occurredAt, r.featureCode, r.quantity, r.durationSeconds,
    r.providerAmountMinor, r.metadata.map UsageMetadata.values,
    sliceOf ConsumptionComponent.values r.components, ())

def EligibilityRequest.values (r : EligibilityRequest) : eligibilityRequest.Values :=
  (r.quantity, r.durationSeconds, r.providerAmountMinor, r.metadata.map UsageMetadata.values,
    sliceOf ConsumptionComponent.values r.components, ())

def DeliveryEndpointInput.values (i : DeliveryEndpointInput) : deliveryEndpointInput.Values :=
  (i.endpointURL, i.authType, i.authSecret, i.clearAuthSecret, i.enabled, i.reason, ())

def AddonRolloutInput.values (i : AddonRolloutInput) : addonRolloutInput.Values :=
  (i.displayName, i.summary, sliceOf id i.includedFeatures, i.rolloutStage, i.enabled,
    i.rolloutNote, i.documentationURL, i.reason, ())

/-- `json.Marshal` of a request.  A balance impact preview wraps one of any type. -/
def RequestBody.document : RequestBody → Option Json
  | .activation request => (TaggedType.struct activationRequest).marshal request.values
  | .change request => (TaggedType.struct subscriptionChangeRequest).marshal request.values
  | .cancellation request => (TaggedType.struct cancellationRequest).marshal request.values
  | .renewalEvent request => (TaggedType.struct renewalEventRequest).marshal request.values
  | .topUp request => (TaggedType.struct confirmedTopUp).marshal request.values
  | .refund request => (TaggedType.struct providerRefundRequest).marshal request.values
  | .budget request => (TaggedType.struct budgetRequest).marshal request.values
  | .consumption request => (TaggedType.struct consumptionRequest).marshal request.values
  | .eligibility request => (TaggedType.struct eligibilityRequest).marshal request.values
  | .balanceImpactPreview operation request => do
      let document ← request.document
      return .object [(Text.ofString "operation", .string (Text.ofString operation)),
        (Text.ofString "request", document)]
  | .deliveryEndpoint input => (TaggedType.struct deliveryEndpointInput).marshal input.values
  | .addonRollout input => (TaggedType.struct addonRolloutInput).marshal input.values

/-! ## Requests that are kept -/

section Fields

variable {parseTime : String → Option GoTime} {name : String} {omitEmpty : Bool}
  {rest : TaggedFields} {values : rest.Values}

/-- A field is kept if its value is, and if what is empty is zero for a reader. -/
theorem keeps_field (type : TaggedType) {value : type.Value} (hvalue : type.Kept parseTime value)
    (hempty : type.isEmpty value = true → type.read value = type.erase.zero)
    (hrest : rest.Kept parseTime values) :
    (TaggedFields.field name omitEmpty type rest).Kept parseTime (value, values) := by
  refine ⟨?_, hrest⟩
  split
  · rename_i hleft
    rw [Bool.and_eq_true] at hleft
    exact hempty hleft.2
  · exact hvalue

/-- A text is kept. -/
theorem keeps_string (s : String) (hrest : rest.Kept parseTime values) :
    (TaggedFields.field name omitEmpty .string rest).Kept parseTime (s, values) :=
  keeps_field .string trivial (fun hempty => String.isEmpty_iff.mp hempty) hrest

/-- A truth value is kept. -/
theorem keeps_bool (b : Bool) (hrest : rest.Kept parseTime values) :
    (TaggedFields.field name omitEmpty .bool rest).Kept parseTime (b, values) :=
  keeps_field .bool trivial (fun hempty => (Bool.not_eq_true' b).mp hempty) hrest

/-- An integer is kept if it is in range. -/
theorem keeps_int64 {n : ℤ} (hn : isInt64 n = true) (hrest : rest.Kept parseTime values) :
    (TaggedFields.field name omitEmpty .int64 rest).Kept parseTime (n, values) :=
  keeps_field .int64 hn (fun hempty => isZero_iff.mp hempty) hrest

/-- A time is kept if it can be parsed again. -/
theorem keeps_time {t : GoTime} (ht : parseTime t.rfc3339Nano = some t)
    (hrest : rest.Kept parseTime values) :
    (TaggedFields.field name omitEmpty .time rest).Kept parseTime (t, values) :=
  keeps_field .time ht (fun hempty => (Bool.false_ne_true hempty).elim) hrest

/-- A pointer is kept if what it points to is. -/
theorem keeps_pointer {element : TaggedType} {target : Option element.Value}
    (htarget : ∀ v, target = some v → element.Kept parseTime v)
    (hrest : rest.Kept parseTime values) :
    (TaggedFields.field name omitEmpty (.pointer element) rest).Kept parseTime
      (target, values) := by
  cases target with
  | none => exact keeps_field (.pointer element) trivial (fun _ => rfl) hrest
  | some v =>
      exact keeps_field (.pointer element) (htarget v rfl)
        (fun hempty => (Bool.false_ne_true hempty).elim) hrest

/-- A slice is kept if its items are. -/
theorem keeps_slice {α : Type} {element : TaggedType} {f : α → element.Value} {items : List α}
    (hitems : ∀ x ∈ items, element.Kept parseTime (f x)) (hrest : rest.Kept parseTime values) :
    (TaggedFields.field name omitEmpty (.slice element) rest).Kept parseTime
      (sliceOf f items, values) := by
  cases items with
  | nil => exact keeps_field (.slice element) trivial (fun _ => rfl) hrest
  | cons x items =>
      refine keeps_field (.slice element) ?_
        (fun hempty => (Bool.false_ne_true hempty).elim) hrest
      intro y hy
      rcases List.mem_map.mp hy with ⟨x', hx', rfl⟩
      exact hitems x' hx'

/-- A map is kept if its entries are. -/
theorem keeps_map {element : TaggedType} {entries : AList fun _ : String => element.Value}
    (hentries : ∀ e ∈ entries.entries, element.Kept parseTime e.2)
    (hrest : rest.Kept parseTime values) :
    (TaggedFields.field name omitEmpty (.map element) rest).Kept parseTime
      (mapOf entries, values) := by
  unfold mapOf
  split
  · exact keeps_field (.map element) trivial (fun _ => rfl) hrest
  · rename_i hsome
    refine keeps_field (.map element) ⟨sortedEntries_sortedEntries _, ?_⟩ ?_ hrest
    · intro e he
      rcases List.mem_map.mp (mem_of_mem_sortedEntries he) with ⟨entry, hentry, rfl⟩
      exact hentries entry hentry
    · intro hempty
      have hnil := List.isEmpty_iff.mp hempty
      exact absurd hnil (sortedEntries_ne_nil (by simpa using hsome))

end Fields

/-- The attributes of metadata are scalars. -/
def UsageMetadata.ScalarAttributes (m : UsageMetadata) : Prop :=
  ∀ e ∈ m.attributes.entries, AttributeValue.IsScalar e.2

/-- JSON can express a request: its integers are in range, its time can be parsed again, and
its attributes are scalars. -/
def RequestBody.Expressible (parseTime : String → Option GoTime) : RequestBody → Prop
  | .activation request => isInt64 request.seats = true
  | .change request => isInt64 request.seats = true
  | .budget request => isInt64 request.warningBPS = true ∧ isInt64 request.reserveBPS = true
  | .consumption request =>
      parseTime request.occurredAt.rfc3339Nano = some request.occurredAt ∧
        (∀ m, request.metadata = some m → m.ScalarAttributes) ∧
        ∀ c ∈ request.components, ∀ m, c.metadata = some m → m.ScalarAttributes
  | .eligibility request =>
      (∀ m, request.metadata = some m → m.ScalarAttributes) ∧
        ∀ c ∈ request.components, ∀ m, c.metadata = some m → m.ScalarAttributes
  | .balanceImpactPreview _ request => request.Expressible parseTime
  | _ => True

section Kept

variable {parseTime : String → Option GoTime}

/-- Every recurring addon is kept. -/
theorem RecurringAddon.values_kept (a : RecurringAddon) :
    recurringAddon.Kept parseTime a.values := by
  iterate 4 apply keeps_string
  trivial

/-- An activation is kept if its seats are in range. -/
theorem ActivationRequest.values_kept {r : ActivationRequest} (h : isInt64 r.seats = true) :
    activationRequest.Kept parseTime r.values := by
  have haddons : ∀ addon ∈ r.addons,
      (TaggedType.struct recurringAddon).Kept parseTime addon.values :=
    fun addon _ => addon.values_kept
  iterate 4 apply keeps_string
  refine keeps_int64 h ?_
  iterate 5 apply keeps_string
  exact keeps_slice haddons trivial

/-- So is a change. -/
theorem SubscriptionChangeRequest.values_kept {r : SubscriptionChangeRequest}
    (h : isInt64 r.seats = true) : subscriptionChangeRequest.Kept parseTime r.values := by
  have haddons : ∀ addon ∈ r.addons,
      (TaggedType.struct recurringAddon).Kept parseTime addon.values :=
    fun addon _ => addon.values_kept
  iterate 4 apply keeps_string
  refine keeps_int64 h ?_
  refine keeps_slice haddons ?_
  iterate 2 apply keeps_string
  trivial

/-- Every cancellation is kept. -/
theorem CancellationRequest.values_kept (r : CancellationRequest) :
    cancellationRequest.Kept parseTime r.values := by
  iterate 2 apply keeps_string
  trivial

/-- Every renewal event is kept. -/
theorem RenewalEventRequest.values_kept (r : RenewalEventRequest) :
    renewalEventRequest.Kept parseTime r.values := by
  iterate 4 apply keeps_string
  trivial

/-- Every top-up is kept. -/
theorem ConfirmedTopUp.values_kept (r : ConfirmedTopUp) :
    confirmedTopUp.Kept parseTime r.values := by
  iterate 5 apply keeps_string
  trivial

/-- Every refund is kept. -/
theorem ProviderRefundRequest.values_kept (r : ProviderRefundRequest) :
    providerRefundRequest.Kept parseTime r.values := by
  iterate 6 apply keeps_string
  trivial

/-- A budget is kept if its two rates are in range. -/
theorem BudgetRequest.values_kept {r : BudgetRequest} (hwarning : isInt64 r.warningBPS = true)
    (hreserve : isInt64 r.reserveBPS = true) : budgetRequest.Kept parseTime r.values := by
  iterate 3 apply keeps_string
  refine keeps_int64 hwarning ?_
  apply keeps_string
  apply keeps_bool
  apply keeps_string
  exact keeps_int64 hreserve trivial

/-- Metadata is kept if its attributes are scalars. -/
theorem UsageMetadata.values_kept {m : UsageMetadata} (h : m.ScalarAttributes) :
    usageMetadata.Kept parseTime m.values := by
  have hactor : ∀ e ∈ m.actor.entries, TaggedType.string.Kept parseTime e.2 := fun _ _ => trivial
  refine keeps_map hactor ?_
  iterate 13 apply keeps_string
  exact keeps_map h trivial

/-- Optional metadata is kept if its attributes are scalars. -/
theorem metadata_kept {metadata : Option UsageMetadata}
    (h : ∀ m, metadata = some m → m.ScalarAttributes) (v : usageMetadata.Values)
    (hv : metadata.map UsageMetadata.values = some v) :
    (TaggedType.struct usageMetadata).Kept parseTime v := by
  rcases Option.map_eq_some_iff.mp hv with ⟨m, hm, rfl⟩
  exact UsageMetadata.values_kept (h m hm)

/-- A component is kept if the attributes of its metadata are scalars. -/
theorem ConsumptionComponent.values_kept {c : ConsumptionComponent}
    (h : ∀ m, c.metadata = some m → m.ScalarAttributes) :
    consumptionComponent.Kept parseTime c.values := by
  iterate 4 apply keeps_string
  exact keeps_pointer (metadata_kept h) trivial

/-- A consumption is kept if its time can be parsed again and its attributes are scalars. -/
theorem ConsumptionRequest.values_kept {r : ConsumptionRequest}
    (htime : parseTime r.occurredAt.rfc3339Nano = some r.occurredAt)
    (hmetadata : ∀ m, r.metadata = some m → m.ScalarAttributes)
    (hcomponents : ∀ c ∈ r.components, ∀ m, c.metadata = some m → m.ScalarAttributes) :
    consumptionRequest.Kept parseTime r.values := by
  have hitems : ∀ c ∈ r.components,
      (TaggedType.struct consumptionComponent).Kept parseTime c.values :=
    fun c hc => ConsumptionComponent.values_kept (hcomponents c hc)
  apply keeps_string
  refine keeps_time htime ?_
  iterate 4 apply keeps_string
  refine keeps_pointer (metadata_kept hmetadata) ?_
  exact keeps_slice hitems trivial

/-- An eligibility question is kept if its attributes are scalars. -/
theorem EligibilityRequest.values_kept {r : EligibilityRequest}
    (hmetadata : ∀ m, r.metadata = some m → m.ScalarAttributes)
    (hcomponents : ∀ c ∈ r.components, ∀ m, c.metadata = some m → m.ScalarAttributes) :
    eligibilityRequest.Kept parseTime r.values := by
  have hitems : ∀ c ∈ r.components,
      (TaggedType.struct consumptionComponent).Kept parseTime c.values :=
    fun c hc => ConsumptionComponent.values_kept (hcomponents c hc)
  iterate 3 apply keeps_string
  refine keeps_pointer (metadata_kept hmetadata) ?_
  exact keeps_slice hitems trivial

/-- Every delivery endpoint is kept. -/
theorem DeliveryEndpointInput.values_kept (i : DeliveryEndpointInput) :
    deliveryEndpointInput.Kept parseTime i.values := by
  have henabled : ∀ v, i.enabled = some v → TaggedType.bool.Kept parseTime v := fun _ _ => trivial
  iterate 3 apply keeps_string
  apply keeps_bool
  refine keeps_pointer henabled ?_
  apply keeps_string
  trivial

/-- Every rollout of an addon is kept. -/
theorem AddonRolloutInput.values_kept (i : AddonRolloutInput) :
    addonRolloutInput.Kept parseTime i.values := by
  have hfeatures : ∀ code ∈ i.includedFeatures, TaggedType.string.Kept parseTime code :=
    fun _ _ => trivial
  have henabled : ∀ v, i.enabled = some v → TaggedType.bool.Kept parseTime v := fun _ _ => trivial
  have htext : ∀ (t : Option String) v, t = some v → TaggedType.string.Kept parseTime v :=
    fun _ _ _ => trivial
  iterate 2 apply keeps_string
  refine keeps_slice hfeatures ?_
  apply keeps_string
  refine keeps_pointer henabled ?_
  refine keeps_pointer (htext i.rolloutNote) ?_
  refine keeps_pointer (htext i.documentationURL) ?_
  apply keeps_string
  trivial

end Kept

/-! ## What a server reads -/

/-- A server that decodes a document into this struct reads these values. -/
def TaggedFields.Reads (parseTime : String → Option GoTime) (fields : TaggedFields)
    (json : Json) (values : fields.Values) : Prop :=
  (TaggedType.struct fields).erase.unmarshal parseTime json
    (TaggedType.struct fields).erase.zero = some (fields.read values)

/-- A document carries a request: a server that decodes it into the type of the request
reads the request. -/
def RequestBody.Carries (parseTime : String → Option GoTime) : RequestBody → Json → Prop
  | .activation request, json => activationRequest.Reads parseTime json request.values
  | .change request, json => subscriptionChangeRequest.Reads parseTime json request.values
  | .cancellation request, json => cancellationRequest.Reads parseTime json request.values
  | .renewalEvent request, json => renewalEventRequest.Reads parseTime json request.values
  | .topUp request, json => confirmedTopUp.Reads parseTime json request.values
  | .refund request, json => providerRefundRequest.Reads parseTime json request.values
  | .budget request, json => budgetRequest.Reads parseTime json request.values
  | .consumption request, json => consumptionRequest.Reads parseTime json request.values
  | .eligibility request, json => eligibilityRequest.Reads parseTime json request.values
  | .balanceImpactPreview operation request, json =>
      ∃ members inner, json = .object members ∧
        field decodeString "" members "operation" = some operation ∧
        matching members "request" = [inner] ∧ request.Carries parseTime inner
  | .deliveryEndpoint input, json => deliveryEndpointInput.Reads parseTime json input.values
  | .addonRollout input, json => addonRolloutInput.Reads parseTime json input.values

/-- The document of values that are kept is read as these values. -/
theorem TaggedFields.document_reads {parseTime : String → Option GoTime} {fields : TaggedFields}
    (hfields : fields.wellTagged = true) {values : fields.Values}
    (h : fields.Kept parseTime values) :
    ∃ json, (TaggedType.struct fields).marshal values = some json ∧
      fields.Reads parseTime json values :=
  (TaggedType.struct fields).unmarshal_marshal hfields h

/-- The document of a request carries it. -/
theorem RequestBody.document_carries {parseTime : String → Option GoTime} {body : RequestBody}
    (h : body.Expressible parseTime) :
    ∃ json, body.document = some json ∧ body.Carries parseTime json := by
  induction body with
  | activation request =>
      exact TaggedFields.document_reads (by decide +kernel) (ActivationRequest.values_kept h)
  | change request =>
      exact TaggedFields.document_reads (by decide +kernel)
        (SubscriptionChangeRequest.values_kept h)
  | cancellation request =>
      exact TaggedFields.document_reads (by decide +kernel) request.values_kept
  | renewalEvent request =>
      exact TaggedFields.document_reads (by decide +kernel) request.values_kept
  | topUp request => exact TaggedFields.document_reads (by decide +kernel) request.values_kept
  | refund request => exact TaggedFields.document_reads (by decide +kernel) request.values_kept
  | budget request =>
      exact TaggedFields.document_reads (by decide +kernel) (BudgetRequest.values_kept h.1 h.2)
  | consumption request =>
      exact TaggedFields.document_reads (by decide +kernel)
        (ConsumptionRequest.values_kept h.1 h.2.1 h.2.2)
  | eligibility request =>
      exact TaggedFields.document_reads (by decide +kernel)
        (EligibilityRequest.values_kept h.1 h.2)
  | balanceImpactPreview operation request ih =>
      rcases ih h with ⟨inner, hinner, hcarries⟩
      have hnames : foldName (Text.ofString "operation") ≠ foldName (Text.ofString "request") := by
        decide
      refine ⟨_, by rw [document, hinner]; rfl, _, inner, rfl, ?_, ?_, hcarries⟩
      · have hread : matching [(Text.ofString "operation", Json.string (Text.ofString operation)),
            (Text.ofString "request", inner)] "operation" = [.string (Text.ofString operation)] :=
          matching_written [] [(Text.ofString "request", inner)] (List.forall_mem_nil _)
            (List.forall_mem_singleton.mpr hnames.symm)
        rw [field, hread]
        simp [decodeString]
      · exact matching_written [(Text.ofString "operation", .string (Text.ofString operation))] []
          (List.forall_mem_singleton.mpr hnames) (List.forall_mem_nil _)
  | deliveryEndpoint input =>
      exact TaggedFields.document_reads (by decide +kernel) input.values_kept
  | addonRollout input =>
      exact TaggedFields.document_reads (by decide +kernel) input.values_kept

/-! ## What attempts carry -/

/-- `json.Marshal` writes the document of a request that has one, and the parser reads what it
wrote. -/
def Env.WritesDocuments (env : Env) : Prop :=
  ∀ body payload json, env.marshal body = .ok payload → body.document = some json →
    env.parse payload = some json

/-- The attempts of a plan send the body that was encoded for it. -/
theorem Plan.attempt_body {p : Plan} {c : Client} {env : Env} {req : HTTPRequest}
    (hreq : req ∈ (p.run c env).attempts) :
    ∃ payload, env.encode p.body = .ok payload ∧ req.body = payload.getD [] := by
  unfold Plan.run at hreq
  cases hcheck : p.check.or (if p.guardsScope then c.scopeCheck env p.businessID else none) with
  | some message =>
      rw [hcheck] at hreq
      cases hreq
  | none =>
      rw [hcheck, guarded] at hreq
      cases hencode : env.encode p.body with
      | error err =>
          rw [Client.requestWithHeaders_unsent (.inl ⟨err, hencode⟩)] at hreq
          cases hreq
      | ok payload =>
          cases hbuild : env.newRequest p.method (c.baseURL ++ p.path) with
          | some err =>
              rw [Client.requestWithHeaders_unsent (.inr ⟨err, hbuild⟩)] at hreq
              cases hreq
          | none =>
              obtain ⟨j, r, -, hrun⟩ := c.requestWithHeaders_decided
                (rfl : c.newCall env p.method p.path p.businessID payload p.key p.mutation
                  p.extraHeaders = _) hencode hbuild
              rw [hrun] at hreq
              rcases List.mem_map.mp hreq with ⟨k, -, rfl⟩
              exact ⟨payload, rfl, rfl⟩

/-- Every attempt of a call of any method carries the request of the call, or has no body if
there is none. -/
theorem attempts_carry_request {parseTime : String → Option GoTime} {env : Env}
    (hwrites : env.WritesDocuments) (call : MethodCall) (a : AdminClient) (key : String)
    (hexpressible : ∀ body, (call.plan a env key).body = some body →
      body.Expressible parseTime) :
    ∀ req ∈ (call.perform a env key).attempts,
      match (call.plan a env key).body with
      | none => req.body = []
      | some body => ∃ json, env.parse req.body = some json ∧ body.Carries parseTime json := by
  intro req hreq
  rw [MethodCall.perform_eq_run] at hreq
  rcases Plan.attempt_body hreq with ⟨payload, hencode, hbody⟩
  cases hplan : (call.plan a env key).body with
  | none =>
      rw [hplan] at hencode
      rw [hbody, ← Except.ok.inj hencode]
      rfl
  | some body =>
      rw [hplan, Env.encode] at hencode
      cases hmarshal : env.marshal body with
      | error err =>
          rw [hmarshal] at hencode
          cases hencode
      | ok written =>
          rw [hmarshal] at hencode
          rcases RequestBody.document_carries (hexpressible body hplan) with
            ⟨json, hjson, hcarries⟩
          refine ⟨json, ?_, hcarries⟩
          rw [hbody, ← Except.ok.inj hencode]
          exact hwrites body written json hmarshal hjson

/-- The cancellation of a subscription. -/
def cancellation : CancellationRequest := ⟨"stop-1", ""⟩

/-- What is sent for it. -/
def cancellationBytes : List UInt8 :=
  asciiBytes "\x7b\"event_id\":\"stop-1\"\x7d"

/-- The world around a call that can send this cancellation only. -/
def cancellingEnv : Env :=
  { unansweredEnv with
    parse := fun raw =>
      if raw = cancellationBytes then
        some (.object [(Text.ofString "event_id", .string (Text.ofString "stop-1"))])
      else none
    marshal := fun
      | .cancellation request =>
          if request.eventID = "stop-1" ∧ request.reason = "" then .ok cancellationBytes
          else .error ⟨"json: unsupported value"⟩
      | _ => .error ⟨"json: unsupported value"⟩ }

/-- Three attempts are made to cancel, and all of them carry the cancellation. -/
theorem cancellation_carried :
    ((MethodCall.business (.mutating (.cancelSubscription "shop" cancellation))).perform opsAdmin
      cancellingEnv "key-1").attempts.length = 3 ∧
    ∀ req ∈ ((MethodCall.business (.mutating (.cancelSubscription "shop" cancellation))).perform
        opsAdmin cancellingEnv "key-1").attempts,
      ∃ json, cancellingEnv.parse req.body = some json ∧
        (RequestBody.cancellation cancellation).Carries (fun _ => none) json := by
  have hwrites : cancellingEnv.WritesDocuments := by
    intro body payload json hpayload hjson
    cases body with
    | cancellation request =>
        rcases request with ⟨eventID, reason⟩
        change (if eventID = "stop-1" ∧ reason = "" then Except.ok cancellationBytes
          else .error (⟨"json: unsupported value"⟩ : GoError)) = .ok payload at hpayload
        split at hpayload
        · rename_i hrequest
          obtain ⟨rfl, rfl⟩ := hrequest
          rw [← Except.ok.inj hpayload, ← hjson]
          simp only [cancellingEnv, if_true]
          rfl
        · cases hpayload
    | _ => cases hpayload
  refine ⟨by decide, ?_⟩
  exact attempts_carry_request hwrites
    (.business (.mutating (.cancelSubscription "shop" cancellation))) opsAdmin "key-1"
    fun body hbody => by
      obtain rfl := Option.some.inj hbody
      trivial

end MizanSDK.Go
