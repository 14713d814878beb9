import MizanSDK.Go.Client

/-!
# Public methods of the Go clients

Every method of `Client` and `AdminClient` that reaches the network, with its
local checks, its path and the way it chooses the idempotency key.  The
feature-specific `Consume` helpers end in `Client.consume` and are not repeated
here.

Main results:

- Theorem `MutatingCall.perform_eq`: a mutating call is its local checks followed
  by one run of `requestWithHeaders`.
- Theorem `MutatingCall.usedKey_eq_empty_iff`: that run has a key unless the
  method is `ConfigureAddon` and the caller gave none.
-/

namespace MizanSDK.Go

open BoundedRetry

/-! ## Mutations of `Client` -/

/-- `ActivateSubscription`. -/
def Client.activateSubscription (c : Client) (env : Env) (businessID : String)
    (request : ActivationRequest) (key : String) : Run HTTPRequest Outcome :=
  guarded (validatePaymentEventID request.paymentEventID)
    (c.mutate env "POST" (businessPath businessID "subscriptions/activate") businessID
      (.activation request) key)

/-- `ChangeSubscription`. -/
def Client.changeSubscription (c : Client) (env : Env) (businessID : String)
    (request : SubscriptionChangeRequest) (key : String) : Run HTTPRequest Outcome :=
  c.mutate env "POST" (businessPath businessID "subscriptions/change") businessID
    (.change request) key

/-- `CancelSubscription`. -/
def Client.cancelSubscription (c : Client) (env : Env) (businessID : String)
    (request : CancellationRequest) (key : String) : Run HTTPRequest Outcome :=
  c.mutate env "POST" (businessPath businessID "subscriptions/cancel") businessID
    (.cancellation request) key

/-- `ApplyRenewalEvent`. -/
def Client.applyRenewalEvent (c : Client) (env : Env) (businessID : String)
    (request : RenewalEventRequest) (key : String) : Run HTTPRequest Outcome :=
  guarded (validatePaymentEventID request.paymentEventID)
    (c.mutate env "POST" (businessPath businessID "subscriptions/renewal-events") businessID
      (.renewalEvent request) key)

/-- `TopUpAzeerUnits`. -/
def Client.topUpAzeerUnits (c : Client) (env : Env) (businessID : String)
    (request : ConfirmedTopUp) (key : String) : Run HTTPRequest Outcome :=
  guarded
    (validatePaymentRequest request.paymentEventID request.amountMinor request.paidTotalMinor)
    (c.mutate env "POST" (businessPath businessID "azeer-units/top-ups") businessID
      (.topUp request) key)

/-- `TopUpProviderBalance`. -/
def Client.topUpProviderBalance (c : Client) (env : Env) (businessID : String)
    (request : ConfirmedTopUp) (key : String) : Run HTTPRequest Outcome :=
  guarded
    (validatePaymentRequest request.paymentEventID request.amountMinor request.paidTotalMinor)
    (c.mutate env "POST" (businessPath businessID "provider-balance/top-ups") businessID
      (.topUp request) key)

/-- The reason check of `RefundProviderBalance`; the length is that of the
UTF-8 bytes. -/
def validateRefundReason (reason : String) : Option String :=
  if trimSpace reason = "" ∨ 1000 < reason.utf8ByteSize then
    some "mizan: refund reason must contain 1 to 1000 characters"
  else none

/-- `RefundProviderBalance`. -/
def Client.refundProviderBalance (c : Client) (env : Env) (businessID : String)
    (request : ProviderRefundRequest) (key : String) : Run HTTPRequest Outcome :=
  guarded
    ((validatePaymentRequest request.paymentEventID request.amountMinor
      request.refundedTotalMinor).or (validateRefundReason request.reason))
    (c.mutate env "POST" (businessPath businessID "provider-balance/refunds") businessID
      (.refund request) key)

/-- `SetFeatureBudget`. -/
def Client.setFeatureBudget (c : Client) (env : Env) (businessID featureCode : String)
    (request : BudgetRequest) (key : String) : Run HTTPRequest Outcome :=
  c.mutate env "PUT"
    (businessPath businessID ("features/" ++ pathEscape featureCode ++ "/budget")) businessID
    (.budget request) key

/-- `Consume`. -/
def Client.consume (c : Client) (env : Env) (businessID : String)
    (request : ConsumptionRequest) (key : String) : Run HTTPRequest Outcome :=
  c.mutate env "POST" (businessPath businessID "consumptions") businessID
    (.consumption request) key

/-! ## Reads of `Client` -/

/-- `CheckEligibility`. -/
def Client.checkEligibility (c : Client) (env : Env) (businessID featureCode : String)
    (request : EligibilityRequest) : Run HTTPRequest Outcome :=
  c.request env "POST"
    (businessPath businessID ("features/" ++ pathEscape featureCode ++ "/eligibility"))
    businessID (some (.eligibility request)) "" false

/-- `GetEntitlement`. -/
def Client.getEntitlement (c : Client) (env : Env) (businessID capability : String) :
    Run HTTPRequest Outcome :=
  c.request env "GET" (businessPath businessID ("entitlements/" ++ pathEscape capability))
    businessID none "" false

/-- `GetCatalog`. -/
def Client.getCatalog (c : Client) (env : Env) : Run HTTPRequest Outcome :=
  c.request env "GET" "/v1/catalog" "" none "" false

/-- `PreviewBalanceImpact`. -/
def Client.previewBalanceImpact (c : Client) (env : Env) (businessID operation : String)
    (request : RequestBody) : Run HTTPRequest Outcome :=
  c.request env "POST" (businessPath businessID "balance-impact-preview") businessID
    (some (.balanceImpactPreview operation request)) "" false

/-- `GetBillingSummary`. -/
def Client.getBillingSummary (c : Client) (env : Env) (businessID : String) :
    Run HTTPRequest Outcome :=
  c.request env "GET" (businessPath businessID "billing-summary") businessID none "" false

/-- `GetLedger`. -/
def Client.getLedger (c : Client) (env : Env) (businessID : String)
    (afterSequence limit : ℤ) : Run HTTPRequest Outcome :=
  if afterSequence < 0 ∨ limit < 1 ∨ 100 < limit then
    reject "mizan: afterSequence must be non-negative and limit must be 1..100"
  else
    c.request env "GET"
      (businessPath businessID "ledger" ++ "?after_sequence=" ++ toString afterSequence ++
        "&limit=" ++ toString limit)
      businessID none "" false

/-! ## `AdminClient` -/

/-- `headers`: the attribution header, or a local error without an actor. -/
def AdminClient.headers (a : AdminClient) : Except String (List (String × String)) :=
  if a.actor = "" then .error "mizan: admin actor is required"
  else .ok [("X-Admin-Actor", a.actor)]

/-- An admin call: the attribution header first, then the request. -/
def AdminClient.attributed (a : AdminClient) (env : Env) (method path businessID : String)
    (body : Option RequestBody) (key : String) (mutation : Bool) :
    Run HTTPRequest Outcome :=
  match a.headers with
  | .error message => reject message
  | .ok headers =>
      a.client.requestWithHeaders env method path businessID body key mutation headers

/-- The check `headers` makes. -/
def AdminClient.actorCheck (a : AdminClient) : Option String :=
  if a.actor = "" then some "mizan: admin actor is required" else none

theorem AdminClient.attributed_eq (a : AdminClient) (env : Env)
    (method path businessID : String) (body : Option RequestBody) (key : String)
    (mutation : Bool) :
    a.attributed env method path businessID body key mutation =
      guarded a.actorCheck
        (a.client.requestWithHeaders env method path businessID body key mutation
          [("X-Admin-Actor", a.actor)]) := by
  unfold AdminClient.attributed AdminClient.headers AdminClient.actorCheck
  by_cases hactor : a.actor = "" <;> simp [hactor, guarded]

/-- `GetGlobalDeliveryEndpoints`. -/
def AdminClient.getGlobalDeliveryEndpoints (a : AdminClient) (env : Env) :
    Run HTTPRequest Outcome :=
  a.attributed env "GET" "/admin/api/delivery-endpoints" "" none "" false

/-- `ListAddons`. -/
def AdminClient.listAddons (a : AdminClient) (env : Env) : Run HTTPRequest Outcome :=
  a.attributed env "GET" "/admin/api/addons" "" none "" false

/-- `ConfigureAddon`: the caller's key is passed on as it is. -/
def AdminClient.configureAddon (a : AdminClient) (env : Env) (addonCode : String)
    (input : AddonRolloutInput) (key : String) : Run HTTPRequest Outcome :=
  if addonCode = "" then reject "mizan: addon code is required"
  else
    a.attributed env "PUT" ("/admin/api/addons/" ++ pathEscape addonCode) ""
      (some (.addonRollout input)) key true

/-- `ListBusinesses`. -/
def AdminClient.listBusinesses (a : AdminClient) (env : Env) (search : String)
    (offset limit : ℤ) : Run HTTPRequest Outcome :=
  a.attributed env "GET"
    ("/admin/api/businesses?" ++ encodeValues
      [("limit", toString limit), ("offset", toString offset), ("search", search)])
    "" none "" false

/-- The path of an admin resource below one business. -/
def adminBusinessPath (businessID suffix : String) : String :=
  "/admin/api/businesses/" ++ pathEscape businessID ++ "/" ++ suffix

/-- `ListUsageDecisions`. -/
def AdminClient.listUsageDecisions (a : AdminClient) (env : Env) (businessID : String)
    (offset limit : ℤ) : Run HTTPRequest Outcome :=
  a.attributed env "GET"
    (adminBusinessPath businessID "usage-decisions?" ++ encodeValues
      [("limit", toString limit), ("offset", toString offset)])
    businessID none "" false

/-- `ListBusinessAudit`. -/
def AdminClient.listBusinessAudit (a : AdminClient) (env : Env) (businessID : String)
    (offset limit : ℤ) : Run HTTPRequest Outcome :=
  a.attributed env "GET"
    (adminBusinessPath businessID "audit?" ++ encodeValues
      [("limit", toString limit), ("offset", toString offset)])
    businessID none "" false

/-- The check both delivery configurations make first. -/
def validateDeliveryKind (kind : String) : Option String :=
  if kind ≠ "ledger" ∧ kind ≠ "notification" then
    some "mizan: delivery kind must be ledger or notification"
  else none

/-- `ConfigureGlobalDeliveryEndpoint`. -/
def AdminClient.configureGlobalDeliveryEndpoint (a : AdminClient) (env : Env)
    (kind : String) (input : DeliveryEndpointInput) (key : String) :
    Run HTTPRequest Outcome :=
  guarded (validateDeliveryKind kind)
    (a.attributed env "PUT" ("/admin/api/delivery-endpoints/" ++ kind) ""
      (some (.deliveryEndpoint input)) (if key = "" then newID env.keySeed else key) true)

/-- `GetBusinessDeliveryEndpoints`. -/
def AdminClient.getBusinessDeliveryEndpoints (a : AdminClient) (env : Env)
    (businessID : String) : Run HTTPRequest Outcome :=
  a.attributed env "GET" (adminBusinessPath businessID "delivery-endpoints") businessID
    none "" false

/-- `ConfigureBusinessDeliveryEndpoint`. -/
def AdminClient.configureBusinessDeliveryEndpoint (a : AdminClient) (env : Env)
    (businessID kind : String) (input : DeliveryEndpointInput) (key : String) :
    Run HTTPRequest Outcome :=
  guarded (validateDeliveryKind kind)
    (a.attributed env "PUT" (adminBusinessPath businessID "delivery-endpoints/" ++ kind)
      businessID (some (.deliveryEndpoint input))
      (if key = "" then newID env.keySeed else key) true)

/-! ## Mutating calls as one family -/

/-- A call of a mutating method with its arguments other than the key. -/
inductive MutatingCall where
  | activateSubscription (businessID : String) (request : ActivationRequest)
  | changeSubscription (businessID : String) (request : SubscriptionChangeRequest)
  | cancelSubscription (businessID : String) (request : CancellationRequest)
  | applyRenewalEvent (businessID : String) (request : RenewalEventRequest)
  | topUpAzeerUnits (businessID : String) (request : ConfirmedTopUp)
  | topUpProviderBalance (businessID : String) (request : ConfirmedTopUp)
  | refundProviderBalance (businessID : String) (request : ProviderRefundRequest)
  | setFeatureBudget (businessID featureCode : String) (request : BudgetRequest)
  | consume (businessID : String) (request : ConsumptionRequest)
  | configureAddon (addonCode : String) (input : AddonRolloutInput)
  | configureGlobalDeliveryEndpoint (kind : String) (input : DeliveryEndpointInput)
  | configureBusinessDeliveryEndpoint (businessID kind : String)
      (input : DeliveryEndpointInput)

/-- Perform a mutating call.  The methods of `Client` are those of the client an
admin client embeds. -/
def MutatingCall.perform (m : MutatingCall) (a : AdminClient) (env : Env) (key : String) :
    Run HTTPRequest Outcome :=
  match m with
  | .activateSubscription b r => a.client.activateSubscription env b r key
  | .changeSubscription b r => a.client.changeSubscription env b r key
  | .cancelSubscription b r => a.client.cancelSubscription env b r key
  | .applyRenewalEvent b r => a.client.applyRenewalEvent env b r key
  | .topUpAzeerUnits b r => a.client.topUpAzeerUnits env b r key
  | .topUpProviderBalance b r => a.client.topUpProviderBalance env b r key
  | .refundProviderBalance b r => a.client.refundProviderBalance env b r key
  | .setFeatureBudget b f r => a.client.setFeatureBudget env b f r key
  | .consume b r => a.client.consume env b r key
  | .configureAddon code i => a.configureAddon env code i key
  | .configureGlobalDeliveryEndpoint kind i => a.configureGlobalDeliveryEndpoint env kind i key
  | .configureBusinessDeliveryEndpoint b kind i =>
      a.configureBusinessDeliveryEndpoint env b kind i key

/-- Whether a call is one of `ConfigureAddon`. -/
def MutatingCall.isConfigureAddon : MutatingCall → Bool
  | .configureAddon _ _ => true
  | _ => false

/-- The key a mutating call uses: the caller's, or a generated one in its place
except in `ConfigureAddon`. -/
def MutatingCall.usedKey (m : MutatingCall) (env : Env) (key : String) : String :=
  if key = "" ∧ m.isConfigureAddon = false then newID env.keySeed else key

/-- The first local check that stops a mutating call, if one does. -/
def MutatingCall.localCheck (m : MutatingCall) (a : AdminClient) (env : Env) :
    Option String :=
  match m with
  | .activateSubscription b r =>
      (validatePaymentEventID r.paymentEventID).or (a.client.scopeCheck env b)
  | .changeSubscription b _ => a.client.scopeCheck env b
  | .cancelSubscription b _ => a.client.scopeCheck env b
  | .applyRenewalEvent b r =>
      (validatePaymentEventID r.paymentEventID).or (a.client.scopeCheck env b)
  | .topUpAzeerUnits b r =>
      (validatePaymentRequest r.paymentEventID r.amountMinor r.paidTotalMinor).or
        (a.client.scopeCheck env b)
  | .topUpProviderBalance b r =>
      (validatePaymentRequest r.paymentEventID r.amountMinor r.paidTotalMinor).or
        (a.client.scopeCheck env b)
  | .refundProviderBalance b r =>
      ((validatePaymentRequest r.paymentEventID r.amountMinor r.refundedTotalMinor).or
        (validateRefundReason r.reason)).or (a.client.scopeCheck env b)
  | .setFeatureBudget b _ _ => a.client.scopeCheck env b
  | .consume b _ => a.client.scopeCheck env b
  | .configureAddon code _ =>
      (if code = "" then some "mizan: addon code is required" else none).or a.actorCheck
  | .configureGlobalDeliveryEndpoint kind _ => (validateDeliveryKind kind).or a.actorCheck
  | .configureBusinessDeliveryEndpoint _ kind _ => (validateDeliveryKind kind).or a.actorCheck

/-- The HTTP method, the path and the business ID of a mutating call. -/
def MutatingCall.target : MutatingCall → String × String × String
  | .activateSubscription b _ => ("POST", businessPath b "subscriptions/activate", b)
  | .changeSubscription b _ => ("POST", businessPath b "subscriptions/change", b)
  | .cancelSubscription b _ => ("POST", businessPath b "subscriptions/cancel", b)
  | .applyRenewalEvent b _ => ("POST", businessPath b "subscriptions/renewal-events", b)
  | .topUpAzeerUnits b _ => ("POST", businessPath b "azeer-units/top-ups", b)
  | .topUpProviderBalance b _ => ("POST", businessPath b "provider-balance/top-ups", b)
  | .refundProviderBalance b _ => ("POST", businessPath b "provider-balance/refunds", b)
  | .setFeatureBudget b f _ =>
      ("PUT", businessPath b ("features/" ++ pathEscape f ++ "/budget"), b)
  | .consume b _ => ("POST", businessPath b "consumptions", b)
  | .configureAddon code _ => ("PUT", "/admin/api/addons/" ++ pathEscape code, "")
  | .configureGlobalDeliveryEndpoint kind _ =>
      ("PUT", "/admin/api/delivery-endpoints/" ++ kind, "")
  | .configureBusinessDeliveryEndpoint b kind _ =>
      ("PUT", adminBusinessPath b "delivery-endpoints/" ++ kind, b)

/-- The request value of a mutating call. -/
def MutatingCall.body : MutatingCall → RequestBody
  | .activateSubscription _ r => .activation r
  | .changeSubscription _ r => .change r
  | .cancelSubscription _ r => .cancellation r
  | .applyRenewalEvent _ r => .renewalEvent r
  | .topUpAzeerUnits _ r => .topUp r
  | .topUpProviderBalance _ r => .topUp r
  | .refundProviderBalance _ r => .refund r
  | .setFeatureBudget _ _ r => .budget r
  | .consume _ r => .consumption r
  | .configureAddon _ i => .addonRollout i
  | .configureGlobalDeliveryEndpoint _ i => .deliveryEndpoint i
  | .configureBusinessDeliveryEndpoint _ _ i => .deliveryEndpoint i

/-- The attribution an `AdminClient` method adds. -/
def MutatingCall.extraHeaders (m : MutatingCall) (a : AdminClient) :
    List (String × String) :=
  match m with
  | .configureAddon _ _ | .configureGlobalDeliveryEndpoint _ _
  | .configureBusinessDeliveryEndpoint _ _ _ => [("X-Admin-Actor", a.actor)]
  | _ => []

/-- A mutating call is its local checks followed by one run of
`requestWithHeaders` with the key `usedKey` says. -/
theorem MutatingCall.perform_eq (m : MutatingCall) (a : AdminClient) (env : Env)
    (key : String) :
    m.perform a env key =
      guarded (m.localCheck a env)
        (a.client.requestWithHeaders env m.target.1 m.target.2.1 m.target.2.2 (some m.body)
          (m.usedKey env key) true (m.extraHeaders a)) := by
  cases m with
  | configureAddon code input =>
      simp only [perform, AdminClient.configureAddon, AdminClient.attributed_eq, localCheck,
        target, body, usedKey, isConfigureAddon, extraHeaders]
      by_cases hcode : code = ""
      · simp [hcode, guarded]
      · simp [hcode]
  | configureGlobalDeliveryEndpoint | configureBusinessDeliveryEndpoint =>
      simp only [perform, AdminClient.configureGlobalDeliveryEndpoint,
        AdminClient.configureBusinessDeliveryEndpoint, AdminClient.attributed_eq,
        guarded_guarded, localCheck, target, body, usedKey, isConfigureAddon, extraHeaders,
        and_true]
  | changeSubscription | cancelSubscription | setFeatureBudget | consume =>
      simp only [perform, Client.changeSubscription, Client.cancelSubscription,
        Client.setFeatureBudget, Client.consume, Client.mutate, Client.request, localCheck,
        target, body, usedKey, isConfigureAddon, extraHeaders, and_true]
  | activateSubscription | applyRenewalEvent | topUpAzeerUnits | topUpProviderBalance
  | refundProviderBalance =>
      simp only [perform, Client.activateSubscription, Client.applyRenewalEvent,
        Client.topUpAzeerUnits, Client.topUpProviderBalance, Client.refundProviderBalance,
        Client.mutate, Client.request, guarded_guarded, localCheck, target, body, usedKey,
        isConfigureAddon, extraHeaders, and_true]

/-- The attribution is the only header a method adds. -/
theorem MutatingCall.extraHeaders_name {m : MutatingCall} {a : AdminClient}
    {h : String × String} (hmem : h ∈ m.extraHeaders a) : h.1 = "X-Admin-Actor" := by
  unfold extraHeaders at hmem
  split at hmem <;> simp_all

/-- The key of a mutating call is empty only in `ConfigureAddon`, and only when
the caller gave none. -/
theorem MutatingCall.usedKey_eq_empty_iff (m : MutatingCall) (env : Env) (key : String) :
    m.usedKey env key = "" ↔ m.isConfigureAddon = true ∧ key = "" := by
  unfold usedKey
  by_cases h : key = "" ∧ m.isConfigureAddon = false
  · simp [h, newID_ne_empty]
  · rw [if_neg h]
    constructor
    · intro hkey
      exact ⟨by simpa [hkey] using h, hkey⟩
    · exact fun h => h.2

/-- A non-empty key of the caller is used as it is. -/
theorem MutatingCall.usedKey_of_ne_empty (m : MutatingCall) (env : Env) {key : String}
    (h : key ≠ "") : m.usedKey env key = key := by
  simp [usedKey, h]

end MizanSDK.Go
