import MizanSDK.Library.Bytes
import MizanSDK.Go.Replay
import MizanSDK.Go.Usage

/-!
# Business binding of the Go clients

A `Client` with a business ID is meant for that business only.  This file brings
every method that takes a business ID into one form, the plan of what it checks
and what it would send, and says when a call leaves its binding.

Main results:

- Theorem `percentDecode_pathEscape`: an escaped path segment decodes to what was
  escaped.
- Theorem `BusinessCall.perform_eq`: a call is the run of its plan.
- Theorem `keepsBinding_iff`: a bound client keeps to its business unless a
  call for another one gets as far as sending, which it does with an empty
  business ID and in the methods of `AdminClient`.
-/

namespace MizanSDK.Go

open BoundedRetry Bytes

/-! ## Path segments -/

/-- A byte that stays as it is in a path segment is no percent sign and no
delimiter. -/
theorem ne_of_pathSegmentByte {b : UInt8} (h : pathSegmentByte b = true) :
    ∀ c ∈ ['%', '/', '?', '#'], Char.ofNat b.toNat ≠ c := by
  rintro c hc heq
  rw [pathSegmentByte, heq, Bool.and_eq_true] at h
  revert h
  fin_cases hc <;> simp

/-- Decoding the escape of a byte gives back the byte. -/
theorem percentDecode_escapeByte (b : UInt8) (rest : List Char) :
    percentDecode (escapeByte b ++ rest) = (percentDecode rest).map (b :: ·) := by
  unfold escapeByte
  split
  · rename_i hkept
    have hascii := hkept
    rw [pathSegmentByte, Bool.and_eq_true, decide_eq_true_eq] at hascii
    exact percentDecode_ascii hascii.1 (ne_of_pathSegmentByte hkept '%' (by simp)) rest
  · exact percentDecode_escape b rest

/-- The escape of a byte holds no delimiter. -/
theorem escapeByte_delimiters (b : UInt8) : ∀ c ∈ escapeByte b, c ∉ ['/', '?', '#'] := by
  intro c hc
  unfold escapeByte at hc
  split at hc
  · rename_i hkept
    rw [List.mem_singleton] at hc
    subst hc
    intro hdelimiter
    exact ne_of_pathSegmentByte hkept _ (List.mem_cons_of_mem _ hdelimiter) rfl
  · exact escape_delimiters b c hc

/-- An escaped segment decodes to the bytes of what was escaped. -/
theorem percentDecode_pathEscape (s : String) :
    percentDecode (pathEscape s).toList = some s.toUTF8.toList := by
  rw [pathEscape, String.toList_ofList]
  exact percentDecode_flatMap percentDecode_escapeByte _

/-- An escaped segment holds no delimiter. -/
theorem pathEscape_delimiters (s : String) :
    ∀ c ∈ (pathEscape s).toList, c ∉ ['/', '?', '#'] := by
  intro c hc
  rw [pathEscape, String.toList_ofList, List.mem_flatMap] at hc
  rcases hc with ⟨b, -, hb⟩
  exact escapeByte_delimiters b c hb

/-! ## Plans -/

/-- What a call does before the attempt loop: the check of its arguments, whether
it passes by the scope check of `request`, and what it hands to
`requestWithHeaders`. -/
structure Plan where
  check : Option String
  guardsScope : Bool
  method : String
  path : String
  businessID : String
  body : Option RequestBody
  key : String
  mutation : Bool
  extraHeaders : List (String × String)

/-- The call a plan describes. -/
def Plan.run (p : Plan) (c : Client) (env : Env) : Run HTTPRequest Outcome :=
  guarded (p.check.or (if p.guardsScope then c.scopeCheck env p.businessID else none))
    (c.requestWithHeaders env p.method p.path p.businessID p.body p.key p.mutation
      p.extraHeaders)

/-- The methods of `Client` pass by `request`, those of `AdminClient` do not. -/
def MutatingCall.isScoped : MutatingCall → Bool
  | .configureAddon _ _ | .configureGlobalDeliveryEndpoint _ _
  | .configureBusinessDeliveryEndpoint _ _ _ => false
  | _ => true

/-- The check a mutating call makes of its arguments. -/
def MutatingCall.argumentCheck (m : MutatingCall) (a : AdminClient) : Option String :=
  match m with
  | .activateSubscription _ r => validatePaymentEventID r.paymentEventID
  | .applyRenewalEvent _ r => validatePaymentEventID r.paymentEventID
  | .topUpAzeerUnits _ r | .topUpProviderBalance _ r =>
      validatePaymentRequest r.paymentEventID r.amountMinor r.paidTotalMinor
  | .refundProviderBalance _ r =>
      (validatePaymentRequest r.paymentEventID r.amountMinor r.refundedTotalMinor).or
        (validateRefundReason r.reason)
  | .changeSubscription _ _ | .cancelSubscription _ _ | .setFeatureBudget _ _ _
  | .consume _ _ => none
  | .configureAddon code _ =>
      (if code = "" then some "mizan: addon code is required" else none).or a.actorCheck
  | .configureGlobalDeliveryEndpoint kind _ => (validateDeliveryKind kind).or a.actorCheck
  | .configureBusinessDeliveryEndpoint _ kind _ => (validateDeliveryKind kind).or a.actorCheck

/-- The plan of a mutating call. -/
def MutatingCall.plan (m : MutatingCall) (a : AdminClient) (env : Env) (key : String) : Plan where
  check := m.argumentCheck a
  guardsScope := m.isScoped
  method := m.target.1
  path := m.target.2.1
  businessID := m.target.2.2
  body := some m.body
  key := m.usedKey env key
  mutation := true
  extraHeaders := m.extraHeaders a

/-- The scope check comes last. -/
theorem MutatingCall.localCheck_eq (m : MutatingCall) (a : AdminClient) (env : Env) :
    m.localCheck a env =
      (m.argumentCheck a).or
        (if m.isScoped then a.client.scopeCheck env m.target.2.2 else none) := by
  cases m <;> simp [localCheck, argumentCheck, isScoped, target]

/-- A mutating call is the run of its plan. -/
theorem MutatingCall.perform_eq_run (m : MutatingCall) (a : AdminClient) (env : Env)
    (key : String) : m.perform a env key = (m.plan a env key).run a.client env := by
  rw [MutatingCall.perform_eq, MutatingCall.localCheck_eq]
  rfl

/-! ## Reads below one business -/

/-- A call of a reading method that takes a business ID. -/
inductive ReadingCall where
  | checkEligibility (businessID featureCode : String) (request : EligibilityRequest)
  | getEntitlement (businessID capability : String)
  | previewBalanceImpact (businessID operation : String) (request : RequestBody)
  | getBillingSummary (businessID : String)
  | getLedger (businessID : String) (afterSequence limit : ℤ)
  | listUsageDecisions (businessID : String) (offset limit : ℤ)
  | listBusinessAudit (businessID : String) (offset limit : ℤ)
  | getBusinessDeliveryEndpoints (businessID : String)

/-- Perform a reading call. -/
def ReadingCall.perform (r : ReadingCall) (a : AdminClient) (env : Env) :
    Run HTTPRequest Outcome :=
  match r with
  | .checkEligibility b f request => a.client.checkEligibility env b f request
  | .getEntitlement b capability => a.client.getEntitlement env b capability
  | .previewBalanceImpact b operation request =>
      a.client.previewBalanceImpact env b operation request
  | .getBillingSummary b => a.client.getBillingSummary env b
  | .getLedger b after limit => a.client.getLedger env b after limit
  | .listUsageDecisions b offset limit => a.listUsageDecisions env b offset limit
  | .listBusinessAudit b offset limit => a.listBusinessAudit env b offset limit
  | .getBusinessDeliveryEndpoints b => a.getBusinessDeliveryEndpoints env b

/-- The business ID of a reading call. -/
def ReadingCall.businessID : ReadingCall → String
  | .checkEligibility b _ _ | .getEntitlement b _ | .previewBalanceImpact b _ _
  | .getBillingSummary b | .getLedger b _ _ | .listUsageDecisions b _ _
  | .listBusinessAudit b _ _ | .getBusinessDeliveryEndpoints b => b

/-- A read without a key, with the scope check of `request`. -/
def Plan.ofRead (method path businessID : String) (body : Option RequestBody)
    (check : Option String) : Plan where
  check := check
  guardsScope := true
  method := method
  path := path
  businessID := businessID
  body := body
  key := ""
  mutation := false
  extraHeaders := []

/-- An attributed read. -/
def Plan.ofAdminRead (a : AdminClient) (path businessID : String) : Plan :=
  { Plan.ofRead "GET" path businessID none a.actorCheck with
    guardsScope := false, extraHeaders := [("X-Admin-Actor", a.actor)] }

/-- The plan of a reading call. -/
def ReadingCall.plan (r : ReadingCall) (a : AdminClient) : Plan :=
  match r with
  | .checkEligibility b f request =>
      .ofRead "POST" (businessPath b ("features/" ++ pathEscape f ++ "/eligibility")) b
        (some (.eligibility request)) none
  | .getEntitlement b capability =>
      .ofRead "GET" (businessPath b ("entitlements/" ++ pathEscape capability)) b none none
  | .previewBalanceImpact b operation request =>
      .ofRead "POST" (businessPath b "balance-impact-preview") b
        (some (.balanceImpactPreview operation request)) none
  | .getBillingSummary b => .ofRead "GET" (businessPath b "billing-summary") b none none
  | .getLedger b after limit =>
      .ofRead "GET"
        (businessPath b "ledger" ++ "?after_sequence=" ++ toString after ++
          "&limit=" ++ toString limit) b none
        (if after < 0 ∨ limit < 1 ∨ 100 < limit then
          some "mizan: afterSequence must be non-negative and limit must be 1..100"
        else none)
  | .listUsageDecisions b offset limit =>
      .ofAdminRead a
        (adminBusinessPath b "usage-decisions?" ++ encodeValues
          [("limit", toString limit), ("offset", toString offset)]) b
  | .listBusinessAudit b offset limit =>
      .ofAdminRead a
        (adminBusinessPath b "audit?" ++ encodeValues
          [("limit", toString limit), ("offset", toString offset)]) b
  | .getBusinessDeliveryEndpoints b =>
      .ofAdminRead a (adminBusinessPath b "delivery-endpoints") b

/-- A reading call is the run of its plan. -/
theorem ReadingCall.perform_eq_run (r : ReadingCall) (a : AdminClient) (env : Env) :
    r.perform a env = (r.plan a).run a.client env := by
  cases r with
  | checkEligibility | getEntitlement | previewBalanceImpact | getBillingSummary => rfl
  | getLedger b after limit =>
      simp only [perform, Client.getLedger, plan, Plan.run, Plan.ofRead]
      split
      · rfl
      · rfl
  | listUsageDecisions | listBusinessAudit | getBusinessDeliveryEndpoints =>
      simp only [perform, AdminClient.listUsageDecisions, AdminClient.listBusinessAudit,
        AdminClient.getBusinessDeliveryEndpoints, AdminClient.attributed_eq, plan, Plan.run,
        Plan.ofAdminRead, Plan.ofRead, Bool.false_eq_true, if_false, Option.or_none]

/-! ## Calls that take a business ID -/

/-- A call of a method that takes a business ID. -/
inductive BusinessCall where
  | mutating (m : MutatingCall)
  | reading (r : ReadingCall)
  | metering (businessID : String) (u : FeatureUsage)

/-- Perform a call; the key is that of the caller and is used by mutations. -/
def BusinessCall.perform (call : BusinessCall) (a : AdminClient) (env : Env) (key : String) :
    Run HTTPRequest Outcome :=
  match call with
  | .mutating m => m.perform a env key
  | .reading r => r.perform a env
  | .metering b u => u.perform a.client env b key

/-- The business ID a call takes; two of the mutations take none. -/
def BusinessCall.businessID? : BusinessCall → Option String
  | .mutating (.configureAddon _ _) | .mutating (.configureGlobalDeliveryEndpoint _ _) => none
  | .mutating m => some m.target.2.2
  | .reading r => some r.businessID
  | .metering b _ => some b

/-- The plan of a call.  A metering call whose request cannot be built has no
body to send. -/
def BusinessCall.plan (call : BusinessCall) (a : AdminClient) (env : Env) (key : String) : Plan :=
  match call with
  | .mutating m => m.plan a env key
  | .reading r => r.plan a
  | .metering b u =>
      match u.request with
      | .ok request => (MutatingCall.consume b request).plan a env key
      | .error message =>
          { Plan.ofRead "POST" (businessPath b "consumptions") b none (some message) with
            key := key, mutation := true }

/-- A call is the run of its plan. -/
theorem BusinessCall.perform_eq (call : BusinessCall) (a : AdminClient) (env : Env)
    (key : String) : call.perform a env key = (call.plan a env key).run a.client env := by
  cases call with
  | mutating m => exact m.perform_eq_run a env key
  | reading r => exact r.perform_eq_run a env
  | metering b u =>
      rw [BusinessCall.perform, FeatureUsage.perform_eq, BusinessCall.plan]
      cases u.request with
      | error message => rfl
      | ok request => exact (MutatingCall.consume b request).perform_eq_run a env key

/-! ## Calls of any method -/

/-- A call of a reading method that takes no business ID. -/
inductive GlobalCall where
  | getCatalog
  | getGlobalDeliveryEndpoints
  | listAddons
  | listBusinesses (search : String) (offset limit : ℤ)

/-- Perform a reading call that takes no business ID. -/
def GlobalCall.perform (call : GlobalCall) (a : AdminClient) (env : Env) :
    Run HTTPRequest Outcome :=
  match call with
  | .getCatalog => a.client.getCatalog env
  | .getGlobalDeliveryEndpoints => a.getGlobalDeliveryEndpoints env
  | .listAddons => a.listAddons env
  | .listBusinesses search offset limit => a.listBusinesses env search offset limit

/-- The plan of such a call. -/
def GlobalCall.plan (call : GlobalCall) (a : AdminClient) : Plan :=
  match call with
  | .getCatalog => .ofRead "GET" "/v1/catalog" "" none none
  | .getGlobalDeliveryEndpoints => .ofAdminRead a "/admin/api/delivery-endpoints" ""
  | .listAddons => .ofAdminRead a "/admin/api/addons" ""
  | .listBusinesses search offset limit =>
      .ofAdminRead a
        ("/admin/api/businesses?" ++ encodeValues
          [("limit", toString limit), ("offset", toString offset), ("search", search)]) ""

theorem GlobalCall.perform_eq_run (call : GlobalCall) (a : AdminClient) (env : Env) :
    call.perform a env = (call.plan a).run a.client env := by
  cases call with
  | getCatalog => rfl
  | getGlobalDeliveryEndpoints | listAddons | listBusinesses =>
      simp only [perform, AdminClient.getGlobalDeliveryEndpoints, AdminClient.listAddons,
        AdminClient.listBusinesses, AdminClient.attributed_eq, plan, Plan.run,
        Plan.ofAdminRead, Plan.ofRead, Bool.false_eq_true, if_false, Option.or_none]

/-- A call of any method that reaches the network. -/
inductive MethodCall where
  | business (call : BusinessCall)
  | overall (call : GlobalCall)

/-- Perform a call. -/
def MethodCall.perform (call : MethodCall) (a : AdminClient) (env : Env) (key : String) :
    Run HTTPRequest Outcome :=
  match call with
  | .business call => call.perform a env key
  | .overall call => call.perform a env

/-- The plan of a call. -/
def MethodCall.plan (call : MethodCall) (a : AdminClient) (env : Env) (key : String) : Plan :=
  match call with
  | .business call => call.plan a env key
  | .overall call => call.plan a

/-- A call is the run of its plan. -/
theorem MethodCall.perform_eq_run (call : MethodCall) (a : AdminClient) (env : Env)
    (key : String) :
    call.perform a env key = (call.plan a env key).run a.client env := by
  cases call with
  | business call => exact call.perform_eq a env key
  | overall call => exact call.perform_eq_run a env

/-! ## Addresses -/

/-- The paths below which business resources lie. -/
def businessRoots : List String := ["/v1/businesses/", "/admin/api/businesses/"]

/-- A plan for one business: its header and its path name it. -/
structure Plan.Addresses (p : Plan) (businessID : String) : Prop where
  header : p.businessID = businessID
  path : ∃ root ∈ businessRoots, ∃ rest, p.path = root ++ pathEscape businessID ++ "/" ++ rest

/-- A path below a business, with what follows it. -/
theorem businessPath_append (businessID suffix query : String) :
    ∃ root ∈ businessRoots, ∃ rest,
      businessPath businessID suffix ++ query = root ++ pathEscape businessID ++ "/" ++ rest :=
  ⟨_, List.mem_cons_self, suffix ++ query, String.append_assoc⟩

/-- An admin path below a business, with what follows it. -/
theorem adminBusinessPath_append (businessID suffix query : String) :
    ∃ root ∈ businessRoots, ∃ rest,
      adminBusinessPath businessID suffix ++ query =
        root ++ pathEscape businessID ++ "/" ++ rest :=
  ⟨_, List.mem_cons_of_mem _ List.mem_cons_self, suffix ++ query, String.append_assoc⟩

theorem businessPath_root (businessID suffix : String) :
    ∃ root ∈ businessRoots, ∃ rest,
      businessPath businessID suffix = root ++ pathEscape businessID ++ "/" ++ rest :=
  ⟨_, List.mem_cons_self, suffix, rfl⟩

theorem adminBusinessPath_root (businessID suffix : String) :
    ∃ root ∈ businessRoots, ∃ rest,
      adminBusinessPath businessID suffix = root ++ pathEscape businessID ++ "/" ++ rest :=
  ⟨_, List.mem_cons_of_mem _ List.mem_cons_self, suffix, rfl⟩

/-- The plan of a mutating call addresses its business. -/
theorem MutatingCall.plan_addresses {m : MutatingCall} {businessID : String}
    (h : BusinessCall.businessID? (.mutating m) = some businessID) (a : AdminClient) (env : Env)
    (key : String) : (m.plan a env key).Addresses businessID := by
  cases m with
  | configureAddon | configureGlobalDeliveryEndpoint => cases h
  | configureBusinessDeliveryEndpoint b kind input =>
      cases h
      exact ⟨rfl, adminBusinessPath_append b "delivery-endpoints/" kind⟩
  | activateSubscription | changeSubscription | cancelSubscription | applyRenewalEvent
  | topUpAzeerUnits | topUpProviderBalance | refundProviderBalance | setFeatureBudget
  | consume =>
      cases h
      exact ⟨rfl, businessPath_root _ _⟩

/-- The plan of a reading call addresses its business. -/
theorem ReadingCall.plan_addresses (r : ReadingCall) (a : AdminClient) :
    (r.plan a).Addresses r.businessID := by
  cases r with
  | getLedger b after limit =>
      have hpath : (plan (.getLedger b after limit) a).path = businessPath b "ledger" ++
          ("?after_sequence=" ++ toString after ++ "&limit=" ++ toString limit) := by
        simp only [plan, Plan.ofRead, String.append_assoc]
      refine ⟨rfl, ?_⟩
      rw [hpath]
      exact businessPath_append b "ledger" _
  | listUsageDecisions b offset limit => exact ⟨rfl, adminBusinessPath_append b _ _⟩
  | listBusinessAudit b offset limit => exact ⟨rfl, adminBusinessPath_append b _ _⟩
  | getBusinessDeliveryEndpoints b =>
      exact ⟨rfl, adminBusinessPath_root b _⟩
  | checkEligibility | getEntitlement | previewBalanceImpact | getBillingSummary =>
      exact ⟨rfl, businessPath_root _ _⟩

/-- The plan of a call addresses the business ID the call takes. -/
theorem BusinessCall.plan_addresses {call : BusinessCall} {businessID : String}
    (h : call.businessID? = some businessID) (a : AdminClient) (env : Env) (key : String) :
    (call.plan a env key).Addresses businessID := by
  cases call with
  | mutating m => exact m.plan_addresses h a env key
  | reading r =>
      cases h
      exact r.plan_addresses a
  | metering b u =>
      cases h
      rw [BusinessCall.plan]
      split
      · exact ⟨rfl, businessPath_root _ _⟩
      · exact ⟨rfl, businessPath_root _ _⟩

/-- Whether a call passes by the scope check: the methods of `Client` do. -/
def BusinessCall.isScoped : BusinessCall → Bool
  | .mutating m => m.isScoped
  | .reading (.listUsageDecisions _ _ _) | .reading (.listBusinessAudit _ _ _)
  | .reading (.getBusinessDeliveryEndpoints _) => false
  | .reading _ | .metering _ _ => true

theorem BusinessCall.plan_guardsScope (call : BusinessCall) (a : AdminClient) (env : Env)
    (key : String) : (call.plan a env key).guardsScope = call.isScoped := by
  cases call with
  | mutating m => rfl
  | reading r => cases r <;> rfl
  | metering b u =>
      rw [BusinessCall.plan]
      split
      · rfl
      · rfl

/-- The attribution is the only header a plan adds. -/
theorem BusinessCall.plan_onlyAttribution (call : BusinessCall) (a : AdminClient) (env : Env)
    (key : String) :
    ∀ header ∈ (call.plan a env key).extraHeaders, header.1 = "X-Admin-Actor" := by
  intro header hmem
  cases call with
  | mutating m => exact MutatingCall.extraHeaders_name hmem
  | reading r =>
      cases r <;> simp_all [BusinessCall.plan, ReadingCall.plan, Plan.ofRead, Plan.ofAdminRead]
  | metering b u =>
      rw [BusinessCall.plan] at hmem
      split at hmem
      · rename_i request _
        have hextra : header ∈ (MutatingCall.consume b request).extraHeaders a := hmem
        exact MutatingCall.extraHeaders_name hextra
      · cases hmem

/-! ## Sending -/

/-- A plan that gets as far as sending once the scope check is passed: the
arguments pass their check, the body encodes and the request can be built. -/
structure Plan.Sendable (p : Plan) (c : Client) (env : Env) : Prop where
  check : p.check = none
  encodes : ∃ payload, env.encode p.body = .ok payload
  builds : env.newRequest p.method (c.baseURL ++ p.path) = none

/-- A call that is rejected sends nothing and fails. -/
theorem reject_fails (message : String) :
    (reject message).attempts = [] ∧ ∃ err, (reject message).result = .error err :=
  ⟨rfl, .plain ⟨message⟩, rfl⟩

/-- A plan that is not sendable sends nothing and fails. -/
theorem Plan.run_fails {p : Plan} {c : Client} {env : Env} (h : ¬ p.Sendable c env) :
    (p.run c env).attempts = [] ∧ ∃ err, (p.run c env).result = .error err := by
  unfold Plan.run
  cases hcheck : p.check.or (if p.guardsScope then c.scopeCheck env p.businessID else none) with
  | some message => exact reject_fails message
  | none =>
      rw [Option.or_eq_none_iff] at hcheck
      change (c.requestWithHeaders env p.method p.path p.businessID p.body p.key p.mutation
          p.extraHeaders).attempts = [] ∧ ∃ err, (c.requestWithHeaders env p.method p.path
          p.businessID p.body p.key p.mutation p.extraHeaders).result = .error err
      unfold Client.requestWithHeaders
      cases hencode : env.encode p.body with
      | error err => exact ⟨rfl, _, rfl⟩
      | ok payload =>
          cases hbuild : env.newRequest p.method (c.baseURL ++ p.path) with
          | none => exact absurd ⟨hcheck.1, ⟨payload, hencode⟩, hbuild⟩ h
          | some err =>
              dsimp only
              rw [Client.loop_unbuilt rfl hbuild]
              exact ⟨rfl, _, rfl⟩

/-- A plan that the scope check stops sends nothing and fails. -/
theorem Plan.run_fails_of_scope (p : Plan) {c : Client} {env : Env}
    (hguards : p.guardsScope = true) (hscope : c.scopeCheck env p.businessID ≠ none) :
    (p.run c env).attempts = [] ∧ ∃ err, (p.run c env).result = .error err := by
  rw [Plan.run, if_pos hguards]
  cases hcheck : p.check with
  | some message => exact reject_fails message
  | none =>
      cases hfound : c.scopeCheck env p.businessID with
      | none => exact absurd hfound hscope
      | some message => exact reject_fails message

/-- A sendable plan that passes the scope check sends at least one attempt, each
built from the plan. -/
theorem Plan.run_sends {p : Plan} {c : Client} {env : Env} (h : p.Sendable c env)
    (hscope : p.guardsScope = true → c.scopeCheck env p.businessID = none) :
    ∃ payload j r, 1 ≤ j ∧
      p.run c env = ⟨(List.range' 1 j).map (c.buildRequest env (c.newCall env p.method p.path
        p.businessID payload p.key p.mutation p.extraHeaders)), r⟩ := by
  rcases h.encodes with ⟨payload, hpayload⟩
  obtain ⟨j, r, hdecides, hrun⟩ := c.requestWithHeaders_decided
    (rfl : c.newCall env p.method p.path p.businessID payload p.key p.mutation
      p.extraHeaders = _) hpayload h.builds
  have hguard : p.check.or (if p.guardsScope then c.scopeCheck env p.businessID else none) =
      none := by
    rw [h.check, Option.none_or]
    split
    · rename_i hguards
      exact hscope hguards
    · rfl
  refine ⟨payload, j, r, hdecides.le, ?_⟩
  rw [Plan.run, hguard]
  exact hrun

/-- Every attempt carries the business ID of its call. -/
theorem Client.buildRequest_businessID {c : Client} {env : Env} {call : Call}
    (hextra : call.OnlyAttribution) (k : ℕ) :
    (c.buildRequest env call k).header.get? "X-Business-Id" = some call.businessID := by
  simp only [Client.buildRequest]
  rw [Header.get?_foldl_set (fun nv hnv => by rw [hextra nv hnv]; decide)]
  split <;> split <;>
    simp (disch := decide) only [Header.get?_set_of_ne, Header.get?_set_self]

/-! ## The binding -/

/-- A URL whose business segment decodes to the business of a client. -/
def Client.Targets (c : Client) (url : String) : Prop :=
  ∃ root ∈ businessRoots, ∃ segment rest,
    url = c.baseURL ++ (root ++ segment ++ "/" ++ rest) ∧
      (∀ d ∈ segment.toList, d ∉ ['/', '?', '#']) ∧
      percentDecode segment.toList = some c.businessID.toUTF8.toList

/-- A call for `businessID` keeps to the binding of its client: for another
business it fails and sends nothing, for its own one every attempt names that
business in its header and in its path. -/
structure KeepsBinding (c : Client) (businessID : String) (run : Run HTTPRequest Outcome) :
    Prop where
  other : businessID ≠ c.businessID → run.attempts = [] ∧ ∃ err, run.result = .error err
  own : businessID = c.businessID → ∀ request ∈ run.attempts,
    request.header.get? "X-Business-Id" = some c.businessID ∧ c.Targets request.url

/-- An attempt of a plan names the business of the plan. -/
theorem Plan.attempt_names {p : Plan} {c : Client} (h : p.Addresses c.businessID)
    (hextra : ∀ header ∈ p.extraHeaders, header.1 = "X-Admin-Actor") (env : Env)
    (payload : Option (List UInt8)) (k : ℕ) :
    let request := c.buildRequest env (c.newCall env p.method p.path p.businessID payload
      p.key p.mutation p.extraHeaders) k
    request.header.get? "X-Business-Id" = some c.businessID ∧ c.Targets request.url := by
  rcases h.path with ⟨root, hroot, rest, hpath⟩
  constructor
  · have hcall : Call.OnlyAttribution (c.newCall env p.method p.path p.businessID payload p.key
        p.mutation p.extraHeaders) := hextra
    rw [Client.buildRequest_businessID hcall]
    exact congrArg some h.header
  · exact ⟨root, hroot, pathEscape c.businessID, rest, congrArg (c.baseURL ++ ·) hpath,
      pathEscape_delimiters c.businessID, percentDecode_pathEscape c.businessID⟩

/-- The scope check of a bound client stops every other non-empty business ID. -/
theorem Client.scopeCheck_eq_none_iff {c : Client} (hbound : c.businessID ≠ "") (env : Env)
    (businessID : String) :
    c.scopeCheck env businessID = none ↔ businessID = "" ∨ businessID = c.businessID := by
  unfold Client.scopeCheck
  by_cases hempty : businessID = ""
  · simp [hempty]
  · by_cases hown : businessID = c.businessID
    · simp [hown]
    · simp [hbound, hempty, hown]

/-- A plan for another business that gets as far as sending leaves the binding. -/
theorem Plan.not_keepsBinding {p : Plan} {c : Client} {env : Env} {businessID : String}
    (hsendable : p.Sendable c env)
    (hscope : p.guardsScope = true → c.scopeCheck env p.businessID = none)
    (hother : businessID ≠ c.businessID) : ¬ KeepsBinding c businessID (p.run c env) := by
  intro hkeeps
  rcases Plan.run_sends hsendable hscope with ⟨payload, j, r, hpos, hrun⟩
  have hunsent := congrArg List.length (hkeeps.other hother).1
  rw [hrun, List.length_map, List.length_range', List.length_nil] at hunsent
  omega

/-- A bound client keeps to its binding in a call unless the call is for another
business and gets as far as sending, and either has an empty business ID or is
one of `AdminClient`, which make no scope check. -/
theorem keepsBinding_iff (a : AdminClient) (hbound : a.client.businessID ≠ "")
    (call : BusinessCall) {businessID : String} (hcall : call.businessID? = some businessID)
    (env : Env) (key : String) :
    KeepsBinding a.client businessID (call.perform a env key) ↔
      businessID = a.client.businessID ∨ (businessID ≠ "" ∧ call.isScoped = true) ∨
        ¬ (call.plan a env key).Sendable a.client env := by
  have haddresses := call.plan_addresses hcall a env key
  have hextra := call.plan_onlyAttribution a env key
  have hguards := call.plan_guardsScope a env key
  rw [BusinessCall.perform_eq]
  generalize call.plan a env key = p at haddresses hextra hguards ⊢
  by_cases hown : businessID = a.client.businessID
  · subst hown
    refine iff_of_true ⟨fun hother => absurd rfl hother, ?_⟩ (.inl rfl)
    intro _ request hrequest
    by_cases hsendable : p.Sendable a.client env
    · have hscope : p.guardsScope = true → a.client.scopeCheck env p.businessID = none := by
        intro _
        rw [a.client.scopeCheck_eq_none_iff hbound]
        exact .inr haddresses.header
      rcases Plan.run_sends hsendable hscope with ⟨payload, j, r, -, hrun⟩
      rw [hrun, List.mem_map] at hrequest
      rcases hrequest with ⟨k, -, rfl⟩
      exact Plan.attempt_names haddresses hextra env payload k
    · rw [(Plan.run_fails hsendable).1] at hrequest
      cases hrequest
  · simp only [hown, false_or]
    constructor
    · -- What gets as far as sending an attempt has left the binding.
      intro hkeeps
      by_contra hleaves
      rw [not_or, not_not] at hleaves
      have hscope : p.guardsScope = true → a.client.scopeCheck env p.businessID = none := by
        intro hscoped
        rw [a.client.scopeCheck_eq_none_iff hbound, haddresses.header]
        left
        by_contra hempty
        exact hleaves.1 ⟨hempty, hguards ▸ hscoped⟩
      exact Plan.not_keepsBinding hleaves.2 hscope hown hkeeps
    · intro hstops
      refine ⟨fun _ => ?_, fun hsame => absurd hsame hown⟩
      rcases hstops with ⟨hempty, hscoped⟩ | hunsendable
      · have hscope : a.client.scopeCheck env p.businessID ≠ none := by
          rw [Ne, a.client.scopeCheck_eq_none_iff hbound, haddresses.header]
          rintro (h | h)
          · exact hempty h
          · exact hown h
        rw [← hguards] at hscoped
        exact p.run_fails_of_scope hscoped hscope
      · exact Plan.run_fails hunsendable

section Example

/-- An admin client bound to the business `shop`. -/
def shopAdmin : AdminClient :=
  ⟨⟨"https://mizan.example", "token", "shop", 3⟩, "ops@example"⟩

/-- A call for another business by a method of `Client` fails before anything is
sent. -/
theorem billingSummary_of_other_refused :
    KeepsBinding shopAdmin.client "rival"
      ((BusinessCall.reading (.getBillingSummary "rival")).perform shopAdmin unansweredEnv "") := by
  have hbound : shopAdmin.client.businessID ≠ "" := by decide
  have hempty : "rival" ≠ "" := by decide
  exact (keepsBinding_iff shopAdmin hbound (.reading (.getBillingSummary "rival")) rfl
    unansweredEnv "").mpr (.inr (.inl ⟨hempty, rfl⟩))

/-- A read of the billing summary is sent once it passes the scope check. -/
theorem billingSummary_sendable (businessID : String) :
    ((ReadingCall.getBillingSummary businessID).plan shopAdmin).Sendable shopAdmin.client
      unansweredEnv :=
  ⟨rfl, ⟨none, rfl⟩, rfl⟩

/-- An attributed read is sent. -/
theorem businessAudit_sendable (businessID : String) :
    ((ReadingCall.listBusinessAudit businessID 0 25).plan shopAdmin).Sendable shopAdmin.client
      unansweredEnv := by
  have hactor : shopAdmin.actorCheck = none := by decide
  exact ⟨hactor, ⟨none, rfl⟩, rfl⟩

/-- A bound client sends a read without a business ID, and an admin read for
another business. -/
theorem bound_client_leaves_binding :
    ¬ KeepsBinding shopAdmin.client ""
        ((BusinessCall.reading (.getBillingSummary "")).perform shopAdmin unansweredEnv "") ∧
      ¬ KeepsBinding shopAdmin.client "rival"
        ((BusinessCall.reading (.listBusinessAudit "rival" 0 25)).perform shopAdmin
          unansweredEnv "") := by
  have hempty : "" ≠ shopAdmin.client.businessID := by decide
  have hrival : "rival" ≠ shopAdmin.client.businessID := by decide
  have hunchecked : shopAdmin.client.scopeCheck unansweredEnv "" = none := by
    simp [Client.scopeCheck]
  constructor
  · rw [BusinessCall.perform_eq]
    exact Plan.not_keepsBinding (billingSummary_sendable "") (fun _ => hunchecked) hempty
  · rw [BusinessCall.perform_eq]
    exact Plan.not_keepsBinding (businessAudit_sendable "rival")
      (fun hguards => Bool.noConfusion hguards) hrival

end Example

end MizanSDK.Go
