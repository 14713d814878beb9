import MizanSDK.Python.BuilderErrors
import MizanSDK.Python.BuilderRequests

/-!
# The payment and budget builders of the Python SDK

`builders.py`: the three builders of requests that report no usage.  Those of
payments check their amounts and the identifier of the payment event; that of
budgets hands every argument on as it is.

Main results:

- Theorems `confirmedTopUp_eq_ok_iff` and `confirmedRefund_eq_ok_iff`: which
  arguments become a request, and which request.
- Theorem `BuilderCall.holdsAmount_iff`: which exact amounts a request holds.
- Theorem `UsageCall.amounts_checked`: the amounts of a usage have passed a check.
-/

namespace MizanSDK.Python

open JsonText Checks

/-! ## Payments -/

/-- `_payment_event`. -/
def checkPaymentEvent (paymentEventId : PyValue) : Except PyError Unit :=
  require (paymentEventId.isTextWith fun s => 1 ≤ s.length && s.length ≤ 128)
    (refuse "payment_event_id must contain 1 to 128 characters")

/-- The check of the reason in `confirmed_refund`. -/
def checkReason (reason : PyValue) : Except PyError Unit :=
  require (reason.isTextWith fun s => strip s ≠ [] && s.length ≤ 1000)
    (refuse "reason must contain 1 to 1000 characters")

section Payments

variable (py : BuilderInterpreter)

/-- `confirmed_top_up`. -/
def confirmedTopUp (amountMinor paymentEventId paidTotalMinor : PyValue) :
    Except PyError PyDict := do
  checkInteger py amountMinor "amount_minor" false
  checkInteger py paidTotalMinor "paid_total_minor" false
  checkPaymentEvent paymentEventId
  return [(str "amount_minor", amountMinor), (str "payment_event_id", paymentEventId),
    (str "payment_status", .str (str "confirmed")), (str "currency", .str (str "SAR")),
    (str "paid_total_minor", paidTotalMinor)]

/-- `confirmed_refund`. -/
def confirmedRefund (amountMinor refundedTotalMinor paymentEventId reason : PyValue) :
    Except PyError PyDict := do
  checkInteger py amountMinor "amount_minor" false
  checkInteger py refundedTotalMinor "refunded_total_minor" false
  checkPaymentEvent paymentEventId
  checkReason reason
  return [(str "amount_minor", amountMinor), (str "payment_event_id", paymentEventId),
    (str "reason", reason), (str "refund_status", .str (str "confirmed")),
    (str "currency", .str (str "SAR")), (str "refunded_total_minor", refundedTotalMinor)]

/-- `feature_budget`; the last two arguments have defaults. -/
def featureBudget (metric limit action : PyValue) (warningBps sensitive : Option PyValue) :
    PyDict :=
  [(str "metric", metric), (str "period", .str (str "subscription_month")),
    (str "limit", limit), (str "warning_bps", warningBps.getD (.int 8000)),
    (str "action", action), (str "sensitive", sensitive.getD (.bool false))]

/-- A call of one of the twelve builders with its arguments. -/
inductive BuilderCall where
  | confirmedTopUp (amountMinor paymentEventId paidTotalMinor : PyValue)
  | confirmedRefund (amountMinor refundedTotalMinor paymentEventId reason : PyValue)
  | featureBudget (metric limit action : PyValue) (warningBps sensitive : Option PyValue)
  | usage (call : UsageCall)

/-- The request a builder returns. -/
def BuilderCall.build : BuilderCall → Except PyError PyDict
  | .confirmedTopUp a e t => MizanSDK.Python.confirmedTopUp py a e t
  | .confirmedRefund a t e r => MizanSDK.Python.confirmedRefund py a t e r
  | .featureBudget m l a w s => .ok (MizanSDK.Python.featureBudget m l a w s)
  | .usage call => call.build py

variable {py}

/-- Which top-ups become a request. -/
theorem confirmedTopUp_eq_ok_iff (a e t : PyValue) (request : PyDict) :
    confirmedTopUp py a e t = .ok request ↔
      checkInteger py a "amount_minor" false = .ok () ∧
        checkInteger py t "paid_total_minor" false = .ok () ∧ checkPaymentEvent e = .ok () ∧
        request = [(str "amount_minor", a), (str "payment_event_id", e),
          (str "payment_status", .str (str "confirmed")), (str "currency", .str (str "SAR")),
          (str "paid_total_minor", t)] := by
  simp only [confirmedTopUp, bind_eq_ok_iff, pure, Except.pure, Except.ok.injEq]
  constructor
  · rintro ⟨_, hamount, _, htotal, _, hevent, hrequest⟩
    exact ⟨hamount, htotal, hevent, hrequest.symm⟩
  · rintro ⟨hamount, htotal, hevent, rfl⟩
    exact ⟨(), hamount, (), htotal, (), hevent, rfl⟩

/-- Which refunds become a request. -/
theorem confirmedRefund_eq_ok_iff (a t e r : PyValue) (request : PyDict) :
    confirmedRefund py a t e r = .ok request ↔
      checkInteger py a "amount_minor" false = .ok () ∧
        checkInteger py t "refunded_total_minor" false = .ok () ∧
        checkPaymentEvent e = .ok () ∧ checkReason r = .ok () ∧
        request = [(str "amount_minor", a), (str "payment_event_id", e), (str "reason", r),
          (str "refund_status", .str (str "confirmed")), (str "currency", .str (str "SAR")),
          (str "refunded_total_minor", t)] := by
  simp only [confirmedRefund, bind_eq_ok_iff, pure, Except.pure, Except.ok.injEq]
  constructor
  · rintro ⟨_, hamount, _, htotal, _, hevent, _, hreason, hrequest⟩
    exact ⟨hamount, htotal, hevent, hreason, hrequest.symm⟩
  · rintro ⟨hamount, htotal, hevent, hreason, rfl⟩
    exact ⟨(), hamount, (), htotal, (), hevent, (), hreason, rfl⟩

end Payments

/-! ## Amounts -/

/-- The exact amounts of requests outside their metadata. -/
def amountFields : List String :=
  ["amount_minor", "paid_total_minor", "refunded_total_minor", "limit", "duration_seconds",
    "provider_amount_minor"]

/-- A request holds this value as an exact amount. -/
def HoldsAmount (request : PyDict) (v : PyValue) : Prop :=
  (∃ field ∈ amountFields, request.get field = some v) ∨
    ∃ metadata, request.get "metadata" = some (.dict metadata) ∧
      PyDict.get metadata "original_amount_minor" = some v

/-- The exact amount metadata holds, if it holds one. -/
def metadataAmounts (metadata : Option PyDict) : List PyValue :=
  ((metadata.getD []).get "original_amount_minor").toList

/-- The arguments a builder passes on as exact amounts.  A pass-through charge has
an argument for the amount in its metadata, which takes precedence. -/
def UsageCall.amounts : UsageCall → List PyValue
  | .voiceAiStartedMinute _ _ durationSeconds metadata =>
      durationSeconds :: metadataAmounts metadata
  | .otherProviderCharge charge => [charge.providerAmountMinor, charge.originalAmountMinor]
  | call => metadataAmounts call.metadata

/-- The arguments a builder passes on as exact amounts. -/
def BuilderCall.amounts : BuilderCall → List PyValue
  | .confirmedTopUp amountMinor _ paidTotalMinor => [amountMinor, paidTotalMinor]
  | .confirmedRefund amountMinor refundedTotalMinor _ _ => [amountMinor, refundedTotalMinor]
  | .featureBudget _ limit _ _ _ => [limit]
  | .usage call => call.amounts

section Amounts

variable {py : BuilderInterpreter}

/-- Outside its metadata the request of a usage holds no amount but its fact. -/
theorem usageRequest_get_amount (featureCode : String) (s o : PyValue) (fact : String)
    (value : PyValue) (metadata : Option PyDict) {field : String} (h : field ∈ amountFields) :
    (usageRequest featureCode s o fact value metadata).get field =
      if fact = field then some value else none := by
  have hother : ∀ name ∈ ["source_event_id", "occurred_at", "feature_code", "metadata"],
      name ≠ field := by
    rintro name hname rfl
    revert name
    decide
  simp only [List.forall_mem_cons] at hother
  rcases hother with ⟨hevent, htime, hfeature, hmetadata, -⟩
  have hrequest : PyDict.get [(str "source_event_id", s), (str "occurred_at", o),
      (str "feature_code", .str (str featureCode)), (str fact, value)] field =
        if fact = field then some value else none := by
    simp [PyDict.get, lookupLast_cons, hevent, htime, hfeature]
  cases metadata with
  | none => exact hrequest
  | some metadata => rw [usageRequest, PyDict.get_set, if_neg hmetadata, hrequest]

/-- The amounts the request of a usage holds. -/
theorem holdsAmount_usageRequest_iff (featureCode : String) (s o : PyValue) {fact : String}
    (hfact : fact ≠ "metadata") (value : PyValue) (metadata : Option PyDict) (v : PyValue) :
    HoldsAmount (usageRequest featureCode s o fact value metadata) v ↔
      fact ∈ amountFields ∧ v = value ∨ v ∈ metadataAmounts metadata := by
  rw [HoldsAmount, usageRequest_get_metadata featureCode s o hfact]
  apply or_congr
  · constructor
    · rintro ⟨field, hfield, hget⟩
      rw [usageRequest_get_amount featureCode s o fact value metadata hfield] at hget
      split at hget
      · rename_i hsame
        rw [hsame]
        exact ⟨hfield, (Option.some.inj hget).symm⟩
      · cases hget
    · rintro ⟨hfield, rfl⟩
      refine ⟨fact, hfield, ?_⟩
      rw [usageRequest_get_amount featureCode s o fact v metadata hfield, if_pos rfl]
  · cases metadata with
    | none => simp [metadataAmounts, PyDict.get]
    | some metadata => simp [metadataAmounts]

/-- A request with a quantity holds no amount but that of its metadata. -/
theorem countUsage_holdsAmount_iff {wholeCount : Bool} {featureCode : String} {s o q : PyValue}
    {metadata : Option PyDict} {request : PyDict}
    (h : countUsage py wholeCount featureCode s o q metadata = .ok request) (v : PyValue) :
    HoldsAmount request v ↔ v ∈ metadataAmounts metadata := by
  rcases (countUsage_eq_ok_iff wholeCount featureCode s o q metadata request).mp h with
    ⟨-, -, -, rfl⟩
  have hquantity : "quantity" ∉ amountFields := by decide
  rw [holdsAmount_usageRequest_iff featureCode s o (by decide)]
  simp [hquantity]

/-- An attribution leaves the amount of metadata alone. -/
theorem metadataAmounts_setAttribution (metadata : PyDict) (provider event : PyStr) :
    metadataAmounts (some (metadata.setAttribution provider event)) =
      metadataAmounts (some metadata) := by
  simp [metadataAmounts, PyDict.setAttribution]

/-- So does the builder of a provider-priced quantity. -/
theorem providerUsage_holdsAmount_iff {wholeCount : Bool} {featureCode : String}
    {s o p e q : PyValue} {metadata : Option PyDict} {request : PyDict}
    (h : providerUsage py wholeCount featureCode s o p e q metadata = .ok request)
    (v : PyValue) : HoldsAmount request v ↔ v ∈ metadataAmounts metadata := by
  rcases (bind_eq_ok_iff _ _ _).mp h with ⟨attributed, hattributed, h⟩
  rcases (providerMetadata_eq_ok_iff p e metadata attributed).mp hattributed with
    ⟨-, -, -, rfl⟩
  rw [countUsage_holdsAmount_iff h, metadataAmounts_setAttribution]
  rfl

/-- The evidence of a pass-through charge holds the amount of its argument. -/
theorem passThroughEvidence_amounts {charge : OtherProviderCharge} {currency : PyStr}
    {metadata evidence : PyDict}
    (h : passThroughEvidence charge currency metadata = .ok evidence) :
    metadataAmounts (some evidence) = [charge.originalAmountMinor] := by
  rcases (passThroughEvidence_eq_ok_iff charge currency metadata evidence).mp h with
    ⟨invoice, tariff, -, -, ⟨-, rfl⟩ | ⟨fxRule, -, rfl⟩⟩
  · simp [metadataAmounts, PyDict.setEvidence]
  · simp [metadataAmounts, PyDict.setEvidence]

/-- The request of a usage holds the amounts among the arguments, and no other. -/
theorem UsageCall.holdsAmount_iff (u : UsageCall) {request : PyDict}
    (h : u.build py = .ok request) (v : PyValue) : HoldsAmount request v ↔ v ∈ u.amounts := by
  cases u with
  | conversation24h s o c ch m =>
      simp only [build, MizanSDK.Python.conversation24h, bind_eq_ok_iff] at h
      rcases h with ⟨_, -, channel, -, _, -, conversation, -, h⟩
      rw [countUsage_holdsAmount_iff h]
      simp [metadataAmounts, amounts, UsageCall.metadata]
  | outboundDeliveredMessage | aiAssistActionOverAllowance | aiReplyHandling =>
      exact countUsage_holdsAmount_iff h v
  | voiceAiStartedMinute s o d m =>
      simp only [build, MizanSDK.Python.voiceAiStartedMinute, bind_eq_ok_iff] at h
      rcases h with ⟨_, -, _, -, _, -, h⟩
      obtain rfl := Except.ok.inj h
      have hduration : "duration_seconds" ∈ amountFields := by decide
      rw [holdsAmount_usageRequest_iff _ _ _ (by decide)]
      simp [hduration, amounts]
  | whatsappMetaMarketingMessage | telephonyVoiceMinute | inboundVoiceMinute =>
      exact providerUsage_holdsAmount_iff h v
  | otherProviderCharge charge =>
      rcases (otherProviderCharge_eq_ok_iff charge request).mp h with
        ⟨currency, metadata, evidence, -, -, hevidence, rfl⟩
      have hamount : "provider_amount_minor" ∈ amountFields := by decide
      rw [holdsAmount_usageRequest_iff _ _ _ (by decide), passThroughEvidence_amounts hevidence]
      simp [hamount, amounts]

/-- A request holds the amounts among the arguments, and no other. -/
theorem BuilderCall.holdsAmount_iff (call : BuilderCall) {request : PyDict}
    (h : call.build py = .ok request) (v : PyValue) :
    HoldsAmount request v ↔ v ∈ call.amounts := by
  cases call with
  | confirmedTopUp a e t =>
      rcases (confirmedTopUp_eq_ok_iff a e t request).mp h with ⟨-, -, -, rfl⟩
      simp [HoldsAmount, amountFields, PyDict.get, lookupLast_cons, amounts, eq_comm]
  | confirmedRefund a t e r =>
      rcases (confirmedRefund_eq_ok_iff a t e r request).mp h with ⟨-, -, -, -, rfl⟩
      simp [HoldsAmount, amountFields, PyDict.get, lookupLast_cons, amounts, eq_comm]
  | featureBudget m l a w s =>
      obtain rfl := Except.ok.inj h
      simp [HoldsAmount, MizanSDK.Python.featureBudget, amountFields, PyDict.get,
        lookupLast_cons, amounts, eq_comm]
  | usage call => exact call.holdsAmount_iff h v

/-- An amount that has passed a check of its own, or as a member of metadata. -/
def Checked (py : BuilderInterpreter) (v : PyValue) : Prop :=
  (∃ field allowZero, checkInteger py v field allowZero = .ok ()) ∨
    checkOriginalAmount py (some v) = .ok ()

/-- The amount of metadata that has passed is checked. -/
theorem checked_of_metadata {metadata : Option PyDict}
    (h : validateMetadata py metadata = .ok ()) {v : PyValue}
    (hv : v ∈ metadataAmounts metadata) : Checked py v := by
  have hmember := (withinContract_getD h).members "original_amount_minor" (by decide)
  rw [metadataAmounts, Option.mem_toList] at hv
  rw [hv] at hmember
  exact .inr hmember

theorem countUsage_checked {wholeCount : Bool} {featureCode : String} {s o q : PyValue}
    {metadata : Option PyDict} {request : PyDict}
    (h : countUsage py wholeCount featureCode s o q metadata = .ok request) {v : PyValue}
    (hv : v ∈ metadataAmounts metadata) : Checked py v := by
  rcases (countUsage_eq_ok_iff wholeCount featureCode s o q metadata request).mp h with
    ⟨-, -, hmetadata, -⟩
  exact checked_of_metadata hmetadata hv

/-- Every amount in the request of a usage is checked. -/
theorem UsageCall.amounts_checked (u : UsageCall) {request : PyDict}
    (h : u.build py = .ok request) {v : PyValue} (hv : v ∈ u.amounts) : Checked py v := by
  cases u with
  | conversation24h s o c ch m =>
      simp only [build, MizanSDK.Python.conversation24h, bind_eq_ok_iff] at h
      rcases h with ⟨_, hmetadata, -⟩
      exact checked_of_metadata hmetadata hv
  | outboundDeliveredMessage | aiAssistActionOverAllowance | aiReplyHandling =>
      exact countUsage_checked h hv
  | voiceAiStartedMinute s o d m =>
      simp only [build, MizanSDK.Python.voiceAiStartedMinute, bind_eq_ok_iff] at h
      rcases h with ⟨_, -, _, hduration, _, hmetadata, -⟩
      rcases List.mem_cons.mp hv with rfl | hv
      · exact .inl ⟨_, _, hduration⟩
      · exact checked_of_metadata hmetadata hv
  | whatsappMetaMarketingMessage | telephonyVoiceMinute | inboundVoiceMinute =>
      rcases (bind_eq_ok_iff _ _ _).mp h with ⟨attributed, hattributed, -⟩
      rcases (providerMetadata_eq_ok_iff _ _ _ attributed).mp hattributed with ⟨hmetadata, -⟩
      exact checked_of_metadata hmetadata hv
  | otherProviderCharge charge =>
      rcases (otherProviderCharge_eq_ok_iff charge request).mp h with
        ⟨currency, metadata, evidence, hcharge, -⟩
      rcases (checkCharge_eq_ok_iff charge currency).mp hcharge with
        ⟨-, hamount, horiginal, -⟩
      simp only [amounts, List.mem_cons, List.not_mem_nil, or_false] at hv
      rcases hv with rfl | rfl
      · exact .inl ⟨_, _, hamount⟩
      · exact .inl ⟨_, _, horiginal⟩

/-- Every amount in a request is checked, except the limit of a budget. -/
theorem BuilderCall.amounts_checked (call : BuilderCall) {request : PyDict}
    (h : call.build py = .ok request) {v : PyValue} (hv : v ∈ call.amounts) :
    Checked py v ∨ ∃ metric action warningBps sensitive,
      call = .featureBudget metric v action warningBps sensitive := by
  cases call with
  | confirmedTopUp a e t =>
      rcases (confirmedTopUp_eq_ok_iff a e t request).mp h with ⟨hamount, htotal, -⟩
      simp only [amounts, List.mem_cons, List.not_mem_nil, or_false] at hv
      rcases hv with rfl | rfl
      · exact .inl (.inl ⟨_, _, hamount⟩)
      · exact .inl (.inl ⟨_, _, htotal⟩)
  | confirmedRefund a t e r =>
      rcases (confirmedRefund_eq_ok_iff a t e r request).mp h with ⟨hamount, htotal, -⟩
      simp only [amounts, List.mem_cons, List.not_mem_nil, or_false] at hv
      rcases hv with rfl | rfl
      · exact .inl (.inl ⟨_, _, hamount⟩)
      · exact .inl (.inl ⟨_, _, htotal⟩)
  | featureBudget m l a w s =>
      obtain rfl : v = l := by simpa [amounts] using hv
      exact .inr ⟨m, a, w, s, rfl⟩
  | usage call => exact .inl (call.amounts_checked h hv)

end Amounts

end MizanSDK.Python
