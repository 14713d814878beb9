import Mathlib.Data.List.AList
import MizanSDK.Library.Decimal

/-!
# Request types of the Go SDK

The request structs of `mizan.go` with the fields their JSON form carries, and
the local checks of `usage.go` that guard payments before any request is built.
An absent pointer is `none`; an omitted string is the empty string, as in Go.

Main results:

- Theorem `validateExactInteger_eq_none_iff`: an accepted exact amount is a run
  of digits within the signed 64-bit range, and zero only where it is allowed.
-/

namespace MizanSDK.Go

open Decimal

/-- `ExactAmount`: an exact base-10 integer string. -/
abbrev ExactAmount := String

/-- `time.Time` as the SDK uses it. -/
structure GoTime where
  isZero : Bool
  rfc3339Nano : String
deriving DecidableEq

/-- A value a caller may put into `UsageMetadata.Attributes`. -/
inductive AttributeValue where
  | nil
  | string (s : String)
  | bool (b : Bool)
  | integer (n : ℤ)
  | float (finite : Bool) (text : String)
  | composite
deriving DecidableEq

structure RecurringAddon where
  code : String
  quantity : ExactAmount
  approvedQuoteID : String
  approvedMonthlyMinor : ExactAmount

structure ActivationRequest where
  catalogVersion : String
  planID : String
  planConfigurationID : String
  term : String
  seats : ℤ
  timezone : String
  paymentStatus : String
  paymentEventID : String
  currency : String
  paidTotalMinor : ExactAmount
  addons : List RecurringAddon

structure SubscriptionChangeRequest where
  catalogVersion : String
  planID : String
  planConfigurationID : String
  term : String
  seats : ℤ
  addons : List RecurringAddon
  requestedBy : String
  reason : String

structure CancellationRequest where
  eventID : String
  reason : String

structure RenewalEventRequest where
  paymentEventID : String
  paymentStatus : String
  currency : String
  paidTotalMinor : ExactAmount

structure ConfirmedTopUp where
  amountMinor : ExactAmount
  paymentEventID : String
  paymentStatus : String
  currency : String
  paidTotalMinor : ExactAmount

structure ProviderRefundRequest where
  amountMinor : ExactAmount
  paymentEventID : String
  refundStatus : String
  currency : String
  refundedTotalMinor : ExactAmount
  reason : String

structure BudgetRequest where
  metric : String
  period : String
  limit : ExactAmount
  warningBPS : ℤ
  action : String
  sensitive : Bool
  absoluteReserve : ExactAmount
  reserveBPS : ℤ

structure UsageMetadata where
  actor : AList fun _ : String => String
  channel : String
  channelAccountID : String
  provider : String
  providerEventID : String
  conversationID : String
  campaignID : String
  rawQuantity : String
  billableQuantity : String
  providerInvoiceID : String
  originalAmountMinor : ExactAmount
  originalCurrency : String
  fxRule : String
  tariffVersion : String
  attributes : AList fun _ : String => AttributeValue

structure ConsumptionComponent where
  featureCode : String
  quantity : String
  durationSeconds : ExactAmount
  providerAmountMinor : ExactAmount
  metadata : Option UsageMetadata

structure ConsumptionRequest where
  sourceEventID : String
  occurredAt : GoTime
  featureCode : String
  quantity : String
  durationSeconds : ExactAmount
  providerAmountMinor : ExactAmount
  metadata : Option UsageMetadata
  components : List ConsumptionComponent

structure EligibilityRequest where
  quantity : String
  durationSeconds : ExactAmount
  providerAmountMinor : ExactAmount
  metadata : Option UsageMetadata
  components : List ConsumptionComponent

structure DeliveryEndpointInput where
  endpointURL : String
  authType : String
  authSecret : String
  clearAuthSecret : Bool
  enabled : Option Bool
  reason : String

structure AddonRolloutInput where
  displayName : String
  summary : String
  includedFeatures : List String
  rolloutStage : String
  enabled : Option Bool
  rolloutNote : Option String
  documentationURL : Option String
  reason : String

/-- A request value as a method passes it on in the parameter `in any`.  A
balance impact preview wraps the request of the mutation it projects.  Its
strings are Unicode text; of others the encoder would replace what is no UTF-8. -/
inductive RequestBody where
  | activation (request : ActivationRequest)
  | change (request : SubscriptionChangeRequest)
  | cancellation (request : CancellationRequest)
  | renewalEvent (request : RenewalEventRequest)
  | topUp (request : ConfirmedTopUp)
  | refund (request : ProviderRefundRequest)
  | budget (request : BudgetRequest)
  | consumption (request : ConsumptionRequest)
  | eligibility (request : EligibilityRequest)
  | balanceImpactPreview (operation : String) (request : RequestBody)
  | deliveryEndpoint (input : DeliveryEndpointInput)
  | addonRollout (input : AddonRolloutInput)

/-! ## Payment checks -/

/-- `maxInt64Exact`. -/
def maxInt64Exact : ℕ := 9223372036854775807

/-- `integerPattern`: one or more ASCII digits. -/
def integerPattern (value : ExactAmount) : Bool := isDigits value.toList

/-- `validateExactInteger`: the error text, or `none` for an accepted value. -/
def validateExactInteger (value : ExactAmount) (field : String) (allowZero : Bool) :
    Option String :=
  if integerPattern value then
    let parsed := digitsValue value.toList
    -- Zero is valid only for contracts such as an exact pass-through amount.
    if maxInt64Exact < parsed || (!allowZero && parsed == 0) then
      let qualifier := if allowZero then "non-negative" else "positive"
      some ("mizan: " ++ field ++ " must be " ++ qualifier ++
        " and fit the supported exact range")
    else none
  else some ("mizan: " ++ field ++ " must be a non-negative integer string")

/-- `validatePaymentEventID`: the length is that of the UTF-8 bytes. -/
def validatePaymentEventID (paymentEventID : String) : Option String :=
  if paymentEventID.utf8ByteSize < 1 || 128 < paymentEventID.utf8ByteSize then
    some "mizan: payment event ID must contain 1 to 128 characters"
  else none

/-- `validatePaymentRequest`: the first failing check reports. -/
def validatePaymentRequest (paymentEventID : String) (amount total : ExactAmount) :
    Option String :=
  (validatePaymentEventID paymentEventID).or
    ((validateExactInteger amount "amount minor" false).or
      (validateExactInteger total "confirmed total minor" false))

/-- An accepted amount is a run of digits in range, and zero only on request. -/
theorem validateExactInteger_eq_none_iff (value : ExactAmount) (field : String)
    (allowZero : Bool) :
    validateExactInteger value field allowZero = none ↔
      integerPattern value = true ∧ digitsValue value.toList ≤ maxInt64Exact ∧
        (allowZero = true ∨ 0 < digitsValue value.toList) := by
  unfold validateExactInteger
  cases hpattern : integerPattern value with
  | false => simp
  | true =>
      cases allowZero <;> simp [Nat.pos_iff_ne_zero]

end MizanSDK.Go
