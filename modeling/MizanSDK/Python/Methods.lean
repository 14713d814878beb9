import MizanSDK.Python.Client

/-!
# Public methods of the Python clients

Every method of `MizanClient` and `MizanAdminClient` that reaches the network,
with what it checks or computes before `_request`.  The feature-specific
`consume_*` helpers build a request and end in `consume`; they are not repeated
here.

Main results:

- Theorem `MutatingCall.perform_eq`: a mutating call computes its target and then
  makes one run of `_request` with the caller's key.
- Theorem `ReadingCall.perform_eq`: a reading call does so without a key.
-/

namespace MizanSDK.Python

open BoundedRetry JsonText

/-! ## Checks before a request -/

/-- `_validate_payment_event_request`. -/
def validatePaymentEventRequest (request : PyDict) : Except PyError Unit :=
  match request.get "payment_event_id" with
  | some (.str s) =>
      if 1 ≤ s.length ∧ s.length ≤ 128 then .ok ()
      else .error (.valueError [.text "payment_event_id must contain 1 to 128 characters"])
  | _ => .error (.valueError [.text "payment_event_id must contain 1 to 128 characters"])

/-- The check of `activate_subscription` for caller-defined services. -/
def validateNoServices (request : PyDict) : Except PyError Unit :=
  if request.has "services" then
    .error (.valueError [.text "caller-defined activation services are not supported"])
  else .ok ()

/-- The reason check of `refund_provider_balance`. -/
def validateRefundReason (request : PyDict) : Except PyError Unit :=
  match request.get "reason" with
  | some (.str s) =>
      if strip s = [] ∨ 1000 < s.length then
        .error (.valueError [.text "reason must contain 1 to 1000 characters"])
      else .ok ()
  | _ => .error (.valueError [.text "reason must contain 1 to 1000 characters"])

/-- The kind check of both delivery configurations. -/
def validateDeliveryKind (kind : PyStr) : Except PyError Unit :=
  if kind = str "ledger" ∨ kind = str "notification" then .ok ()
  else .error (.valueError [.text "kind must be ledger or notification"])

/-- The page checks of `get_ledger`. -/
def validatePage (afterSequence limit : ℤ) : Except PyError Unit :=
  if afterSequence < 0 ∨ limit < 1 ∨ 100 < limit then
    .error (.valueError
      [.text "after_sequence must be non-negative and limit must be 1..100"])
  else .ok ()

/-! ## Mutations of `MizanClient` -/

/-- A mutation below one business. -/
def MizanClient.mutate (c : MizanClient) (env : Env) (method : String)
    (path : Except PyError PyStr) (request : PyDict) (businessId : PyStr)
    (idempotencyKey : Option PyStr) : Run Request Outcome :=
  guarded path fun path =>
    c.request env method path (some request) businessId idempotencyKey true []

/-- `activate_subscription`. -/
def MizanClient.activateSubscription (c : MizanClient) (env : Env) (businessId : PyStr)
    (request : PyDict) (idempotencyKey : Option PyStr) : Run Request Outcome :=
  c.mutate env "POST"
    (do validatePaymentEventRequest request
        validateNoServices request
        c.businessPath businessId (str "subscriptions/activate"))
    request businessId idempotencyKey

/-- `change_subscription`. -/
def MizanClient.changeSubscription (c : MizanClient) (env : Env) (businessId : PyStr)
    (request : PyDict) (idempotencyKey : Option PyStr) : Run Request Outcome :=
  c.mutate env "POST" (c.businessPath businessId (str "subscriptions/change")) request
    businessId idempotencyKey

/-- `cancel_subscription`. -/
def MizanClient.cancelSubscription (c : MizanClient) (env : Env) (businessId : PyStr)
    (request : PyDict) (idempotencyKey : Option PyStr) : Run Request Outcome :=
  c.mutate env "POST" (c.businessPath businessId (str "subscriptions/cancel")) request
    businessId idempotencyKey

/-- `apply_renewal_event`. -/
def MizanClient.applyRenewalEvent (c : MizanClient) (env : Env) (businessId : PyStr)
    (request : PyDict) (idempotencyKey : Option PyStr) : Run Request Outcome :=
  c.mutate env "POST"
    (do validatePaymentEventRequest request
        c.businessPath businessId (str "subscriptions/renewal-events"))
    request businessId idempotencyKey

/-- `top_up_azeer_units`. -/
def MizanClient.topUpAzeerUnits (c : MizanClient) (env : Env) (businessId : PyStr)
    (request : PyDict) (idempotencyKey : Option PyStr) : Run Request Outcome :=
  c.mutate env "POST"
    (do validatePaymentEventRequest request
        c.businessPath businessId (str "azeer-units/top-ups"))
    request businessId idempotencyKey

/-- `top_up_provider_balance`. -/
def MizanClient.topUpProviderBalance (c : MizanClient) (env : Env) (businessId : PyStr)
    (request : PyDict) (idempotencyKey : Option PyStr) : Run Request Outcome :=
  c.mutate env "POST"
    (do validatePaymentEventRequest request
        c.businessPath businessId (str "provider-balance/top-ups"))
    request businessId idempotencyKey

/-- `refund_provider_balance`. -/
def MizanClient.refundProviderBalance (c : MizanClient) (env : Env) (businessId : PyStr)
    (request : PyDict) (idempotencyKey : Option PyStr) : Run Request Outcome :=
  c.mutate env "POST"
    (do validatePaymentEventRequest request
        validateRefundReason request
        c.businessPath businessId (str "provider-balance/refunds"))
    request businessId idempotencyKey

/-- A path below one feature of a business; the feature is quoted first. -/
def MizanClient.featurePath (c : MizanClient) (businessId featureCode : PyStr)
    (action : String) : Except PyError PyStr := do
  let feature ← quote featureCode
  c.businessPath businessId (str "features/" ++ feature ++ str action)

/-- `set_feature_budget`. -/
def MizanClient.setFeatureBudget (c : MizanClient) (env : Env)
    (businessId featureCode : PyStr) (request : PyDict) (idempotencyKey : Option PyStr) :
    Run Request Outcome :=
  c.mutate env "PUT" (c.featurePath businessId featureCode "/budget") request businessId
    idempotencyKey

/-- `consume`. -/
def MizanClient.consume (c : MizanClient) (env : Env) (businessId : PyStr)
    (request : PyDict) (idempotencyKey : Option PyStr) : Run Request Outcome :=
  c.mutate env "POST" (c.businessPath businessId (str "consumptions")) request businessId
    idempotencyKey

/-! ## Reads of `MizanClient` -/

/-- A read: no key, and no retry. -/
def MizanClient.read (c : MizanClient) (env : Env) (method : String)
    (path : Except PyError PyStr) (body : Option PyDict) (businessId : PyStr)
    (extraHeaders : List (String × PyStr)) : Run Request Outcome :=
  guarded path fun path => c.request env method path body businessId none false extraHeaders

/-- `check_eligibility`. -/
def MizanClient.checkEligibility (c : MizanClient) (env : Env)
    (businessId featureCode : PyStr) (request : PyDict) : Run Request Outcome :=
  c.read env "POST" (c.featurePath businessId featureCode "/eligibility") (some request)
    businessId []

/-- The path of `get_entitlement`. -/
def MizanClient.entitlementPath (c : MizanClient) (businessId capability : PyStr) :
    Except PyError PyStr := do
  let capability ← quote capability
  c.businessPath businessId (str "entitlements/" ++ capability)

/-- `get_entitlement`. -/
def MizanClient.getEntitlement (c : MizanClient) (env : Env)
    (businessId capability : PyStr) : Run Request Outcome :=
  c.read env "GET" (c.entitlementPath businessId capability) none businessId []

/-- `get_catalog`. -/
def MizanClient.getCatalog (c : MizanClient) (env : Env) : Run Request Outcome :=
  c.read env "GET" (.ok (str "/v1/catalog")) none [] []

/-- `preview_balance_impact`. -/
def MizanClient.previewBalanceImpact (c : MizanClient) (env : Env) (businessId : PyStr)
    (request : PyDict) : Run Request Outcome :=
  c.read env "POST" (c.businessPath businessId (str "balance-impact-preview")) (some request)
    businessId []

/-- `get_billing_summary`. -/
def MizanClient.getBillingSummary (c : MizanClient) (env : Env) (businessId : PyStr) :
    Run Request Outcome :=
  c.read env "GET" (c.businessPath businessId (str "billing-summary")) none businessId []

/-- The path of `get_ledger`. -/
def MizanClient.ledgerPath (c : MizanClient) (businessId : PyStr)
    (afterSequence limit : ℤ) : Except PyError PyStr := do
  validatePage afterSequence limit
  let path ← c.businessPath businessId (str "ledger")
  return path ++ str "?after_sequence=" ++ strInt afterSequence ++ str "&limit=" ++ strInt limit

/-- `get_ledger`. -/
def MizanClient.getLedger (c : MizanClient) (env : Env) (businessId : PyStr)
    (afterSequence limit : ℤ) : Run Request Outcome :=
  c.read env "GET" (c.ledgerPath businessId afterSequence limit) none businessId []

/-! ## `MizanAdminClient` -/

/-- `_admin_headers`. -/
def MizanAdminClient.adminHeaders (a : MizanAdminClient) : List (String × PyStr) :=
  [("X-Admin-Actor", a.actor)]

/-- An attributed mutation. -/
def MizanAdminClient.configure (a : MizanAdminClient) (env : Env)
    (path : Except PyError PyStr) (request : PyDict) (businessId : PyStr)
    (idempotencyKey : Option PyStr) : Run Request Outcome :=
  guarded path fun path =>
    a.request env "PUT" path (some request) businessId idempotencyKey true a.adminHeaders

/-- `get_global_delivery_endpoints`. -/
def MizanAdminClient.getGlobalDeliveryEndpoints (a : MizanAdminClient) (env : Env) :
    Run Request Outcome :=
  a.read env "GET" (.ok (str "/admin/api/delivery-endpoints")) none [] a.adminHeaders

/-- `list_addons`. -/
def MizanAdminClient.listAddons (a : MizanAdminClient) (env : Env) : Run Request Outcome :=
  a.read env "GET" (.ok (str "/admin/api/addons")) none [] a.adminHeaders

/-- The path of `configure_addon`. -/
def addonPath (addonCode : PyStr) : Except PyError PyStr := do
  if addonCode = [] then throw (.valueError [.text "addon_code is required"])
  let code ← quote addonCode
  return str "/admin/api/addons/" ++ code

/-- `configure_addon`. -/
def MizanAdminClient.configureAddon (a : MizanAdminClient) (env : Env) (addonCode : PyStr)
    (request : PyDict) (idempotencyKey : Option PyStr) : Run Request Outcome :=
  a.configure env (addonPath addonCode) request [] idempotencyKey

/-- The path of `list_businesses`. -/
def businessesPath (search : PyStr) (offset limit : ℤ) : Except PyError PyStr := do
  let search ← quotePlus search
  return str "/admin/api/businesses?search=" ++ search ++ str "&offset=" ++ strInt offset ++
    str "&limit=" ++ strInt limit

/-- `list_businesses`. -/
def MizanAdminClient.listBusinesses (a : MizanAdminClient) (env : Env) (search : PyStr)
    (offset limit : ℤ) : Run Request Outcome :=
  a.read env "GET" (businessesPath search offset limit) none [] a.adminHeaders

/-- The path of an admin resource below one business. -/
def adminBusinessPath (businessId suffix : PyStr) : Except PyError PyStr := do
  let segment ← quote businessId
  return str "/admin/api/businesses/" ++ segment ++ str "/" ++ suffix

/-- The suffix of a page of an admin resource. -/
def pageSuffix (resource : String) (offset limit : ℤ) : PyStr :=
  str resource ++ str "?offset=" ++ strInt offset ++ str "&limit=" ++ strInt limit

/-- `list_usage_decisions`. -/
def MizanAdminClient.listUsageDecisions (a : MizanAdminClient) (env : Env)
    (businessId : PyStr) (offset limit : ℤ) : Run Request Outcome :=
  a.read env "GET" (adminBusinessPath businessId (pageSuffix "usage-decisions" offset limit))
    none businessId a.adminHeaders

/-- `list_business_audit`. -/
def MizanAdminClient.listBusinessAudit (a : MizanAdminClient) (env : Env)
    (businessId : PyStr) (offset limit : ℤ) : Run Request Outcome :=
  a.read env "GET" (adminBusinessPath businessId (pageSuffix "audit" offset limit)) none
    businessId a.adminHeaders

/-- The path of `configure_global_delivery_endpoint`. -/
def globalEndpointPath (kind : PyStr) : Except PyError PyStr := do
  validateDeliveryKind kind
  return str "/admin/api/delivery-endpoints/" ++ kind

/-- `configure_global_delivery_endpoint`. -/
def MizanAdminClient.configureGlobalDeliveryEndpoint (a : MizanAdminClient) (env : Env)
    (kind : PyStr) (request : PyDict) (idempotencyKey : Option PyStr) : Run Request Outcome :=
  a.configure env (globalEndpointPath kind) request [] idempotencyKey

/-- `get_business_delivery_endpoints`. -/
def MizanAdminClient.getBusinessDeliveryEndpoints (a : MizanAdminClient) (env : Env)
    (businessId : PyStr) : Run Request Outcome :=
  a.read env "GET" (adminBusinessPath businessId (str "delivery-endpoints")) none businessId
    a.adminHeaders

/-- The path of `configure_business_delivery_endpoint`. -/
def businessEndpointPath (businessId kind : PyStr) : Except PyError PyStr := do
  validateDeliveryKind kind
  adminBusinessPath businessId (str "delivery-endpoints/" ++ kind)

/-- `configure_business_delivery_endpoint`. -/
def MizanAdminClient.configureBusinessDeliveryEndpoint (a : MizanAdminClient) (env : Env)
    (businessId kind : PyStr) (request : PyDict) (idempotencyKey : Option PyStr) :
    Run Request Outcome :=
  a.configure env (businessEndpointPath businessId kind) request businessId idempotencyKey

/-! ## Calls as two families -/

/-- A call of a mutating method with its arguments other than the key. -/
inductive MutatingCall where
  | activateSubscription (businessId : PyStr) (request : PyDict)
  | changeSubscription (businessId : PyStr) (request : PyDict)
  | cancelSubscription (businessId : PyStr) (request : PyDict)
  | applyRenewalEvent (businessId : PyStr) (request : PyDict)
  | topUpAzeerUnits (businessId : PyStr) (request : PyDict)
  | topUpProviderBalance (businessId : PyStr) (request : PyDict)
  | refundProviderBalance (businessId : PyStr) (request : PyDict)
  | setFeatureBudget (businessId featureCode : PyStr) (request : PyDict)
  | consume (businessId : PyStr) (request : PyDict)
  | configureAddon (addonCode : PyStr) (request : PyDict)
  | configureGlobalDeliveryEndpoint (kind : PyStr) (request : PyDict)
  | configureBusinessDeliveryEndpoint (businessId kind : PyStr) (request : PyDict)

/-- Perform a mutating call.  The methods of `MizanClient` are inherited by
`MizanAdminClient`. -/
def MutatingCall.perform (m : MutatingCall) (a : MizanAdminClient) (env : Env)
    (key : Option PyStr) : Run Request Outcome :=
  match m with
  | .activateSubscription b r => a.activateSubscription env b r key
  | .changeSubscription b r => a.changeSubscription env b r key
  | .cancelSubscription b r => a.cancelSubscription env b r key
  | .applyRenewalEvent b r => a.applyRenewalEvent env b r key
  | .topUpAzeerUnits b r => a.topUpAzeerUnits env b r key
  | .topUpProviderBalance b r => a.topUpProviderBalance env b r key
  | .refundProviderBalance b r => a.refundProviderBalance env b r key
  | .setFeatureBudget b f r => a.setFeatureBudget env b f r key
  | .consume b r => a.consume env b r key
  | .configureAddon code r => a.configureAddon env code r key
  | .configureGlobalDeliveryEndpoint kind r =>
      a.configureGlobalDeliveryEndpoint env kind r key
  | .configureBusinessDeliveryEndpoint b kind r =>
      a.configureBusinessDeliveryEndpoint env b kind r key

/-- The path of a mutating call, unless a check or a conversion raises. -/
def MutatingCall.path (m : MutatingCall) (a : MizanAdminClient) : Except PyError PyStr :=
  match m with
  | .activateSubscription b r => do
      validatePaymentEventRequest r
      validateNoServices r
      a.businessPath b (str "subscriptions/activate")
  | .changeSubscription b _ => a.businessPath b (str "subscriptions/change")
  | .cancelSubscription b _ => a.businessPath b (str "subscriptions/cancel")
  | .applyRenewalEvent b r => do
      validatePaymentEventRequest r
      a.businessPath b (str "subscriptions/renewal-events")
  | .topUpAzeerUnits b r => do
      validatePaymentEventRequest r
      a.businessPath b (str "azeer-units/top-ups")
  | .topUpProviderBalance b r => do
      validatePaymentEventRequest r
      a.businessPath b (str "provider-balance/top-ups")
  | .refundProviderBalance b r => do
      validatePaymentEventRequest r
      validateRefundReason r
      a.businessPath b (str "provider-balance/refunds")
  | .setFeatureBudget b f _ => a.featurePath b f "/budget"
  | .consume b _ => a.businessPath b (str "consumptions")
  | .configureAddon code _ => addonPath code
  | .configureGlobalDeliveryEndpoint kind _ => globalEndpointPath kind
  | .configureBusinessDeliveryEndpoint b kind _ => businessEndpointPath b kind

/-- HTTP method, body and business ID of a mutating call. -/
def MutatingCall.target : MutatingCall → String × PyDict × PyStr
  | .activateSubscription b r | .changeSubscription b r | .cancelSubscription b r
  | .applyRenewalEvent b r | .topUpAzeerUnits b r | .topUpProviderBalance b r
  | .refundProviderBalance b r | .consume b r => ("POST", r, b)
  | .setFeatureBudget b _ r => ("PUT", r, b)
  | .configureAddon _ r | .configureGlobalDeliveryEndpoint _ r => ("PUT", r, [])
  | .configureBusinessDeliveryEndpoint b _ r => ("PUT", r, b)

/-- The attribution a `MizanAdminClient` method adds. -/
def MutatingCall.extraHeaders (m : MutatingCall) (a : MizanAdminClient) :
    List (String × PyStr) :=
  match m with
  | .configureAddon _ _ | .configureGlobalDeliveryEndpoint _ _
  | .configureBusinessDeliveryEndpoint _ _ _ => a.adminHeaders
  | _ => []

/-- A mutating call computes its path and then makes one run of `_request` with
the caller's key. -/
theorem MutatingCall.perform_eq (m : MutatingCall) (a : MizanAdminClient) (env : Env)
    (key : Option PyStr) :
    m.perform a env key =
      guarded (m.path a) fun path =>
        a.request env m.target.1 path (some m.target.2.1) m.target.2.2 key true
          (m.extraHeaders a) := by
  cases m <;> rfl

/-- A call of a reading method. -/
inductive ReadingCall where
  | checkEligibility (businessId featureCode : PyStr) (request : PyDict)
  | getEntitlement (businessId capability : PyStr)
  | getCatalog
  | previewBalanceImpact (businessId : PyStr) (request : PyDict)
  | getBillingSummary (businessId : PyStr)
  | getLedger (businessId : PyStr) (afterSequence limit : ℤ)
  | getGlobalDeliveryEndpoints
  | listAddons
  | listBusinesses (search : PyStr) (offset limit : ℤ)
  | listUsageDecisions (businessId : PyStr) (offset limit : ℤ)
  | listBusinessAudit (businessId : PyStr) (offset limit : ℤ)
  | getBusinessDeliveryEndpoints (businessId : PyStr)

/-- Perform a reading call. -/
def ReadingCall.perform (m : ReadingCall) (a : MizanAdminClient) (env : Env) :
    Run Request Outcome :=
  match m with
  | .checkEligibility b f r => a.checkEligibility env b f r
  | .getEntitlement b capability => a.getEntitlement env b capability
  | .getCatalog => a.getCatalog env
  | .previewBalanceImpact b r => a.previewBalanceImpact env b r
  | .getBillingSummary b => a.getBillingSummary env b
  | .getLedger b after limit => a.getLedger env b after limit
  | .getGlobalDeliveryEndpoints => a.getGlobalDeliveryEndpoints env
  | .listAddons => a.listAddons env
  | .listBusinesses search offset limit => a.listBusinesses env search offset limit
  | .listUsageDecisions b offset limit => a.listUsageDecisions env b offset limit
  | .listBusinessAudit b offset limit => a.listBusinessAudit env b offset limit
  | .getBusinessDeliveryEndpoints b => a.getBusinessDeliveryEndpoints env b

/-- The path of a reading call, unless a check or a conversion raises. -/
def ReadingCall.path (m : ReadingCall) (a : MizanAdminClient) : Except PyError PyStr :=
  match m with
  | .checkEligibility b f _ => a.featurePath b f "/eligibility"
  | .getEntitlement b capability => a.entitlementPath b capability
  | .getCatalog => .ok (str "/v1/catalog")
  | .previewBalanceImpact b _ => a.businessPath b (str "balance-impact-preview")
  | .getBillingSummary b => a.businessPath b (str "billing-summary")
  | .getLedger b after limit => a.ledgerPath b after limit
  | .getGlobalDeliveryEndpoints => .ok (str "/admin/api/delivery-endpoints")
  | .listAddons => .ok (str "/admin/api/addons")
  | .listBusinesses search offset limit => businessesPath search offset limit
  | .listUsageDecisions b offset limit =>
      adminBusinessPath b (pageSuffix "usage-decisions" offset limit)
  | .listBusinessAudit b offset limit => adminBusinessPath b (pageSuffix "audit" offset limit)
  | .getBusinessDeliveryEndpoints b => adminBusinessPath b (str "delivery-endpoints")

/-- HTTP method, body and business ID of a reading call. -/
def ReadingCall.target : ReadingCall → String × Option PyDict × PyStr
  | .checkEligibility b _ r | .previewBalanceImpact b r => ("POST", some r, b)
  | .getEntitlement b _ | .getBillingSummary b | .getLedger b _ _
  | .listUsageDecisions b _ _ | .listBusinessAudit b _ _
  | .getBusinessDeliveryEndpoints b => ("GET", none, b)
  | .getCatalog | .getGlobalDeliveryEndpoints | .listAddons
  | .listBusinesses _ _ _ => ("GET", none, [])

/-- The attribution a `MizanAdminClient` method adds. -/
def ReadingCall.extraHeaders (m : ReadingCall) (a : MizanAdminClient) :
    List (String × PyStr) :=
  match m with
  | .getGlobalDeliveryEndpoints | .listAddons | .listBusinesses _ _ _
  | .listUsageDecisions _ _ _ | .listBusinessAudit _ _ _
  | .getBusinessDeliveryEndpoints _ => a.adminHeaders
  | _ => []

/-- A reading call computes its path and then makes one run of `_request` without
a key. -/
theorem ReadingCall.perform_eq (m : ReadingCall) (a : MizanAdminClient) (env : Env) :
    m.perform a env =
      guarded (m.path a) fun path =>
        a.request env m.target.1 path m.target.2.1 m.target.2.2 none false
          (m.extraHeaders a) := by
  cases m <;> rfl

/-- The attribution is the only header a mutating method adds. -/
theorem MutatingCall.extraHeaders_name {m : MutatingCall} {a : MizanAdminClient}
    {h : String × PyStr} (hmem : h ∈ m.extraHeaders a) : h.1 = "X-Admin-Actor" := by
  unfold extraHeaders MizanAdminClient.adminHeaders at hmem
  split at hmem <;> simp_all

/-- The attribution is the only header a reading method adds. -/
theorem ReadingCall.extraHeaders_name {m : ReadingCall} {a : MizanAdminClient}
    {h : String × PyStr} (hmem : h ∈ m.extraHeaders a) : h.1 = "X-Admin-Actor" := by
  unfold extraHeaders MizanAdminClient.adminHeaders at hmem
  split at hmem <;> simp_all

end MizanSDK.Python
