import MizanSDK.Python.BuilderErrors
import MizanSDK.Python.Replay

/-!
# Business binding of the Python clients

A client with a `business_id` is meant for that business only.  The guard stands in
`_business_path`; this file says which calls for another business end in a
`ValueError` with nothing sent, and which do not.

Main results:

- Theorem `UsageCall.perform_eq`: a metering call is the consumption of the request
  its builder returns.
- Theorem `businessCall_refuses_iff`: a call for another business is refused unless it is
  one of `MizanAdminClient`, whose paths are built without the guard, or its builder
  raises a `TypeError` first.
-/

namespace MizanSDK.Python

open JsonText BoundedRetry Checks

/-! ## Metering methods -/

section Metering

variable (c : MizanClient) (py : BuilderInterpreter) (env : Env) (businessId : PyStr)

/-- Hand the request of a builder to `consume`. -/
def MizanClient.consumeBuilt (request : Except PyError PyDict) (idempotencyKey : Option PyStr) :
    Run Request Outcome :=
  guarded request fun request => c.consume env businessId request idempotencyKey

/-- `consume_conversation_24h`. -/
def MizanClient.consumeConversation24h
    (sourceEventId occurredAt conversationId channel : PyValue) (metadata : Option PyDict)
    (idempotencyKey : Option PyStr) : Run Request Outcome :=
  c.consumeBuilt env businessId
    (conversation24h py sourceEventId occurredAt conversationId channel metadata) idempotencyKey

/-- `consume_outbound_delivered_message`. -/
def MizanClient.consumeOutboundDeliveredMessage (sourceEventId occurredAt quantity : PyValue)
    (metadata : Option PyDict) (idempotencyKey : Option PyStr) : Run Request Outcome :=
  c.consumeBuilt env businessId
    (outboundDeliveredMessage py sourceEventId occurredAt quantity metadata) idempotencyKey

/-- `consume_ai_assist_action_over_allowance`. -/
def MizanClient.consumeAiAssistActionOverAllowance
    (sourceEventId occurredAt quantity : PyValue) (metadata : Option PyDict)
    (idempotencyKey : Option PyStr) : Run Request Outcome :=
  c.consumeBuilt env businessId
    (aiAssistActionOverAllowance py sourceEventId occurredAt quantity metadata) idempotencyKey

/-- `consume_ai_reply_handling`. -/
def MizanClient.consumeAiReplyHandling (sourceEventId occurredAt quantity : PyValue)
    (metadata : Option PyDict) (idempotencyKey : Option PyStr) : Run Request Outcome :=
  c.consumeBuilt env businessId
    (aiReplyHandling py sourceEventId occurredAt quantity metadata) idempotencyKey

/-- `consume_voice_ai_started_minute`. -/
def MizanClient.consumeVoiceAiStartedMinute (sourceEventId occurredAt durationSeconds : PyValue)
    (metadata : Option PyDict) (idempotencyKey : Option PyStr) : Run Request Outcome :=
  c.consumeBuilt env businessId
    (voiceAiStartedMinute py sourceEventId occurredAt durationSeconds metadata) idempotencyKey

/-- `consume_whatsapp_meta_marketing_message`. -/
def MizanClient.consumeWhatsappMetaMarketingMessage
    (sourceEventId occurredAt providerEventId quantity : PyValue) (metadata : Option PyDict)
    (idempotencyKey : Option PyStr) : Run Request Outcome :=
  c.consumeBuilt env businessId
    (whatsappMetaMarketingMessage py sourceEventId occurredAt providerEventId quantity metadata)
    idempotencyKey

/-- `consume_telephony_voice_minute`. -/
def MizanClient.consumeTelephonyVoiceMinute
    (sourceEventId occurredAt provider providerEventId billableMinutes : PyValue)
    (metadata : Option PyDict) (idempotencyKey : Option PyStr) : Run Request Outcome :=
  c.consumeBuilt env businessId
    (telephonyVoiceMinute py sourceEventId occurredAt provider providerEventId billableMinutes
      metadata) idempotencyKey

/-- `consume_inbound_voice_minute`. -/
def MizanClient.consumeInboundVoiceMinute
    (sourceEventId occurredAt provider providerEventId billableMinutes : PyValue)
    (metadata : Option PyDict) (idempotencyKey : Option PyStr) : Run Request Outcome :=
  c.consumeBuilt env businessId
    (inboundVoiceMinute py sourceEventId occurredAt provider providerEventId billableMinutes
      metadata) idempotencyKey

/-- `consume_other_provider_charge`. -/
def MizanClient.consumeOtherProviderCharge (charge : OtherProviderCharge)
    (idempotencyKey : Option PyStr) : Run Request Outcome :=
  c.consumeBuilt env businessId (otherProviderCharge py charge) idempotencyKey

/-- Perform the metering call of a builder; the other names are aliases. -/
def UsageCall.perform (u : UsageCall) (key : Option PyStr) : Run Request Outcome :=
  match u with
  | .conversation24h s o conversation ch m =>
      c.consumeConversation24h py env businessId s o conversation ch m key
  | .outboundDeliveredMessage s o q m =>
      c.consumeOutboundDeliveredMessage py env businessId s o q m key
  | .aiAssistActionOverAllowance s o q m =>
      c.consumeAiAssistActionOverAllowance py env businessId s o q m key
  | .aiReplyHandling s o q m => c.consumeAiReplyHandling py env businessId s o q m key
  | .voiceAiStartedMinute s o d m => c.consumeVoiceAiStartedMinute py env businessId s o d m key
  | .whatsappMetaMarketingMessage s o e q m =>
      c.consumeWhatsappMetaMarketingMessage py env businessId s o e q m key
  | .telephonyVoiceMinute s o p e b m =>
      c.consumeTelephonyVoiceMinute py env businessId s o p e b m key
  | .inboundVoiceMinute s o p e b m =>
      c.consumeInboundVoiceMinute py env businessId s o p e b m key
  | .otherProviderCharge charge => c.consumeOtherProviderCharge py env businessId charge key

/-- A metering call is the consumption of the request its builder returns. -/
theorem UsageCall.perform_eq (u : UsageCall) (key : Option PyStr) :
    u.perform c py env businessId key = c.consumeBuilt env businessId (u.build py) key := by
  cases u <;> rfl

end Metering

/-! ## Calls that take a business ID -/

/-- A call of a method of one of the clients. -/
inductive BusinessCall where
  | mutating (m : MutatingCall)
  | reading (r : ReadingCall)
  | metering (businessId : PyStr) (u : UsageCall)

/-- Perform a call; the key is used by mutations. -/
def BusinessCall.perform (call : BusinessCall) (a : MizanAdminClient) (py : BuilderInterpreter)
    (env : Env) (key : Option PyStr) : Run Request Outcome :=
  match call with
  | .mutating m => m.perform a env key
  | .reading r => r.perform a env
  | .metering b u => u.perform a.toMizanClient py env b key

/-- The business ID of a mutating call, if its method takes one. -/
def MutatingCall.businessId? : MutatingCall → Option PyStr
  | .configureAddon _ _ | .configureGlobalDeliveryEndpoint _ _ => none
  | m => some m.target.2.2

/-- The business ID of a reading call, if its method takes one. -/
def ReadingCall.businessId? : ReadingCall → Option PyStr
  | .getCatalog | .getGlobalDeliveryEndpoints | .listAddons | .listBusinesses _ _ _ => none
  | r => some r.target.2.2

/-- The business ID of a call, if its method takes one. -/
def BusinessCall.businessId? : BusinessCall → Option PyStr
  | .mutating m => m.businessId?
  | .reading r => r.businessId?
  | .metering b _ => some b

/-! ## Refusals -/

/-- Whether an exception is an instance of `ValueError`, of which
`UnicodeEncodeError` is a subclass. -/
def PyError.InstanceOfValueError (e : PyError) : Prop :=
  e.IsValueError ∨ e = .unicodeEncodeError

/-- A call that raises a `ValueError` and sends nothing. -/
def Refuses (run : Run Request Outcome) : Prop :=
  run.attempts = [] ∧ ∃ e, run.result = .raised (.other e) ∧ e.InstanceOfValueError

/-- A request is sent unless its body cannot be encoded. -/
theorem MizanClient.request_refuses_iff (c : MizanClient) (env : Env) (method : String)
    (path : PyStr) (body : Option PyDict) (businessId : PyStr) (key : Option PyStr)
    (mutation : Bool) (extraHeaders : List (String × PyStr)) :
    Refuses (c.request env method path body businessId key mutation extraHeaders) ↔
      Fails PyError.InstanceOfValueError (env.encode body) := by
  cases hencode : env.encode body with
  | error e =>
      have hrun : c.request env method path body businessId key mutation extraHeaders =
          ⟨[], .raised (.other e)⟩ := by
        simp only [MizanClient.request, hencode]
      rw [hrun]
      constructor
      · rintro ⟨-, e', he', hkind⟩
        cases he'
        exact ⟨e, rfl, hkind⟩
      · rintro ⟨e', he', hkind⟩
        cases he'
        exact ⟨rfl, e, rfl, hkind⟩
  | ok encoded =>
      rcases c.request_decided (rfl : env.newCall method path encoded businessId key mutation
        extraHeaders = _) hencode with ⟨j, r, hdecides, hrun⟩
      have hpos := hdecides.le
      constructor
      · rintro ⟨hunsent, -⟩
        have hlength := congrArg List.length hunsent
        rw [hrun, List.length_map, List.length_range', List.length_nil] at hlength
        omega
      · rintro ⟨e, he, -⟩
        cases he

/-- A call whose path cannot be computed is refused if the exception is a
`ValueError`; the others are refused if their body cannot be encoded. -/
theorem MizanClient.guarded_refuses_iff (c : MizanClient) (env : Env) (method : String)
    (path : Except PyError PyStr) (body : Option PyDict) (businessId : PyStr)
    (key : Option PyStr) (mutation : Bool) (extraHeaders : List (String × PyStr)) :
    Refuses (guarded path fun path =>
        c.request env method path body businessId key mutation extraHeaders) ↔
      Fails PyError.InstanceOfValueError path ∨
        (∃ p, path = .ok p) ∧ Fails PyError.InstanceOfValueError (env.encode body) := by
  cases path with
  | error e =>
      constructor
      · rintro ⟨-, e', he', hkind⟩
        cases he'
        exact .inl ⟨e, rfl, hkind⟩
      · rintro (⟨e', he', hkind⟩ | ⟨⟨p, hp⟩, -⟩)
        · cases he'
          exact ⟨rfl, e, rfl, hkind⟩
        · cases hp
  | ok p =>
      rw [guarded, c.request_refuses_iff]
      constructor
      · intro h
        exact .inr ⟨⟨p, rfl⟩, h⟩
      · rintro (⟨e, he, -⟩ | ⟨-, h⟩)
        · cases he
        · exact h

/-! ## Paths -/

/-- A `ValueError` is one of its instances. -/
theorem failsOnly_instance {α : Type} {x : Except PyError α}
    (h : FailsOnly PyError.IsValueError x) : FailsOnly PyError.InstanceOfValueError x :=
  fun e he => .inl (h e he)

/-- A lone surrogate cannot be quoted; other text can. -/
theorem quote_eq_error_iff (s : PyStr) (e : PyError) :
    quote s = .error e ↔ s.isScalar = false ∧ e = .unicodeEncodeError := by
  rw [quote, encodeUtf8, bind_eq_error_iff]
  cases hscalar : s.isScalar with
  | false => simp [eq_comm]
  | true => simp [pure, Except.pure]

theorem quote_failsOnly (s : PyStr) : FailsOnly PyError.InstanceOfValueError (quote s) :=
  fun e he => .inr ((quote_eq_error_iff s e).mp he).2

theorem validatePaymentEventRequest_failsOnly (request : PyDict) :
    FailsOnly PyError.IsValueError (validatePaymentEventRequest request) := by
  unfold validatePaymentEventRequest
  split
  · split
    · exact failsOnly_ok _
    · exact failsOnly_error ⟨_, rfl⟩
  · exact failsOnly_error ⟨_, rfl⟩

theorem validateNoServices_failsOnly (request : PyDict) :
    FailsOnly PyError.IsValueError (validateNoServices request) := by
  unfold validateNoServices
  split
  · exact failsOnly_error ⟨_, rfl⟩
  · exact failsOnly_ok _

theorem validateRefundReason_failsOnly (request : PyDict) :
    FailsOnly PyError.IsValueError (validateRefundReason request) := by
  unfold validateRefundReason
  split
  · split
    · exact failsOnly_error ⟨_, rfl⟩
    · exact failsOnly_ok _
  · exact failsOnly_error ⟨_, rfl⟩

theorem validatePage_failsOnly (afterSequence limit : ℤ) :
    FailsOnly PyError.IsValueError (validatePage afterSequence limit) := by
  unfold validatePage
  split
  · exact failsOnly_error ⟨_, rfl⟩
  · exact failsOnly_ok _

section Bound

variable {a : MizanAdminClient} {bound businessId : PyStr}

/-- The guard: the path of a bound client for another business. -/
theorem MizanClient.businessPath_fails (hbound : a.businessId = some bound)
    (hother : businessId ≠ bound) (suffix : PyStr) :
    Fails PyError.InstanceOfValueError (a.businessPath businessId suffix) := by
  by_cases hempty : businessId = []
  · refine ⟨.valueError [.text "business_id is required"], ?_, .inl ⟨_, rfl⟩⟩
    simp [businessPath, hempty, throw, throwThe, MonadExceptOf.throw, bind, Except.bind]
  · refine ⟨.valueError [.text "client is bound to business_id ", .repr bound,
      .text ", not ", .repr businessId], ?_, .inl ⟨_, rfl⟩⟩
    simp [businessPath, hempty, hbound, hother, throw, throwThe, MonadExceptOf.throw, bind,
      Except.bind]

/-- A path below a feature passes by the guard. -/
theorem MizanClient.featurePath_fails (hbound : a.businessId = some bound)
    (hother : businessId ≠ bound) (featureCode : PyStr) (action : String) :
    Fails PyError.InstanceOfValueError (a.featurePath businessId featureCode action) :=
  Fails.bind (quote_failsOnly _) fun _ => businessPath_fails hbound hother _

/-- An admin path below a business does not: only a lone surrogate stops it. -/
theorem adminBusinessPath_fails_iff (businessId suffix : PyStr) :
    Fails PyError.InstanceOfValueError (adminBusinessPath businessId suffix) ↔
      businessId.isScalar = false := by
  constructor
  · rintro ⟨e, he, -⟩
    rw [adminBusinessPath, bind_eq_error_iff] at he
    rcases he with he | ⟨segment, -, he⟩
    · exact ((quote_eq_error_iff businessId e).mp he).1
    · cases he
  · intro h
    exact ⟨.unicodeEncodeError,
      (bind_eq_error_iff _ _ _).mpr (.inl ((quote_eq_error_iff businessId _).mpr ⟨h, rfl⟩)),
      .inr rfl⟩

/-- The path of an inherited mutation for another business. -/
theorem MutatingCall.path_fails {m : MutatingCall} (hbound : a.businessId = some bound)
    (hcall : m.businessId? = some businessId) (hother : businessId ≠ bound)
    (hinherited : ∀ b kind r, m ≠ .configureBusinessDeliveryEndpoint b kind r) :
    Fails PyError.InstanceOfValueError (m.path a) := by
  have hguard := fun suffix => MizanClient.businessPath_fails hbound hother suffix
  cases m with
  | configureAddon | configureGlobalDeliveryEndpoint => cases hcall
  | configureBusinessDeliveryEndpoint b kind r => exact absurd rfl (hinherited b kind r)
  | activateSubscription b r =>
      cases hcall
      exact Fails.bind (failsOnly_instance (validatePaymentEventRequest_failsOnly r)) fun _ =>
        Fails.bind (failsOnly_instance (validateNoServices_failsOnly r)) fun _ => hguard _
  | refundProviderBalance b r =>
      cases hcall
      exact Fails.bind (failsOnly_instance (validatePaymentEventRequest_failsOnly r)) fun _ =>
        Fails.bind (failsOnly_instance (validateRefundReason_failsOnly r)) fun _ => hguard _
  | applyRenewalEvent b r | topUpAzeerUnits b r | topUpProviderBalance b r =>
      cases hcall
      exact Fails.bind (failsOnly_instance (validatePaymentEventRequest_failsOnly r))
        fun _ => hguard _
  | setFeatureBudget b f r =>
      cases hcall
      exact MizanClient.featurePath_fails hbound hother f _
  | changeSubscription | cancelSubscription | consume =>
      cases hcall
      exact hguard _

/-- The reads of `MizanAdminClient` below one business. -/
def ReadingCall.isAdmin : ReadingCall → Bool
  | .listUsageDecisions _ _ _ | .listBusinessAudit _ _ _ | .getBusinessDeliveryEndpoints _ => true
  | _ => false

/-- The path of an inherited read for another business. -/
theorem ReadingCall.path_fails {r : ReadingCall} (hbound : a.businessId = some bound)
    (hcall : r.businessId? = some businessId) (hother : businessId ≠ bound)
    (hinherited : r.isAdmin = false) : Fails PyError.InstanceOfValueError (r.path a) := by
  have hguard := fun suffix => MizanClient.businessPath_fails hbound hother suffix
  cases r with
  | getCatalog | getGlobalDeliveryEndpoints | listAddons | listBusinesses => cases hcall
  | listUsageDecisions | listBusinessAudit | getBusinessDeliveryEndpoints => cases hinherited
  | checkEligibility b f request =>
      cases hcall
      exact MizanClient.featurePath_fails hbound hother f _
  | getEntitlement b capability =>
      cases hcall
      exact Fails.bind (quote_failsOnly _) fun _ => hguard _
  | previewBalanceImpact | getBillingSummary =>
      cases hcall
      exact hguard _
  | getLedger b after limit =>
      cases hcall
      refine Fails.bind (failsOnly_instance (validatePage_failsOnly after limit)) fun _ => ?_
      rcases hguard (str "ledger") with ⟨e, he, hkind⟩
      exact ⟨e, (bind_eq_error_iff _ _ _).mpr (.inl he), hkind⟩

/-! ## Calls for another business -/

/-- The path of a business endpoint is stopped by its kind or by a lone surrogate. -/
theorem businessEndpointPath_fails_iff (businessId kind : PyStr) :
    Fails PyError.InstanceOfValueError (businessEndpointPath businessId kind) ↔
      (kind ≠ str "ledger" ∧ kind ≠ str "notification") ∨ businessId.isScalar = false := by
  by_cases hkind : kind = str "ledger" ∨ kind = str "notification"
  · have hpath : businessEndpointPath businessId kind =
        adminBusinessPath businessId (str "delivery-endpoints/" ++ kind) := by
      rw [businessEndpointPath, validateDeliveryKind, if_pos hkind]
      rfl
    rw [hpath, adminBusinessPath_fails_iff, ← not_or]
    simp [hkind]
  · have hpath : businessEndpointPath businessId kind =
        .error (.valueError [.text "kind must be ledger or notification"]) := by
      rw [businessEndpointPath, validateDeliveryKind, if_neg hkind]
      rfl
    rw [hpath]
    exact iff_of_true ⟨_, rfl, .inl ⟨_, rfl⟩⟩ (.inl (not_or.mp hkind))

theorem businessEndpointPath_failsOnly (businessId kind : PyStr) :
    FailsOnly PyError.InstanceOfValueError (businessEndpointPath businessId kind) := by
  unfold businessEndpointPath validateDeliveryKind
  split
  · exact (failsOnly_ok _).bind fun _ _ => (quote_failsOnly businessId).bind fun _ _ =>
      failsOnly_ok _
  · exact failsOnly_error (.inl ⟨_, rfl⟩)

/-- What makes an admin mutation below another business raise a `ValueError`: an
unknown kind, a business ID that cannot be quoted, or a body `json.dumps` refuses
with one. -/
def MutatingCall.StopsOther (m : MutatingCall) (env : Env) : Prop :=
  match m with
  | .configureBusinessDeliveryEndpoint b kind r =>
      (kind ≠ str "ledger" ∧ kind ≠ str "notification") ∨ b.isScalar = false ∨
        Fails PyError.InstanceOfValueError (env.dumps r)
  | _ => True

/-- The same for the admin reads. -/
def ReadingCall.StopsOther (r : ReadingCall) : Prop :=
  r.isAdmin = true → r.target.2.2.isScalar = false

/-- What makes a call for another business raise a `ValueError`.  The builder of a
metering call runs before the guard. -/
def BusinessCall.StopsOther (call : BusinessCall) (py : BuilderInterpreter) (env : Env) : Prop :=
  match call with
  | .mutating m => m.StopsOther env
  | .reading r => r.StopsOther
  | .metering _ u => ¬ u.Raises py

theorem MutatingCall.refusesOther_iff {m : MutatingCall} (hbound : a.businessId = some bound)
    (hcall : m.businessId? = some businessId) (hother : businessId ≠ bound) (env : Env)
    (key : Option PyStr) : Refuses (m.perform a env key) ↔ m.StopsOther env := by
  rw [MutatingCall.perform_eq, MizanClient.guarded_refuses_iff]
  by_cases hadmin : ∃ b kind r, m = .configureBusinessDeliveryEndpoint b kind r
  · rcases hadmin with ⟨b, kind, r, rfl⟩
    have hencode : Fails PyError.InstanceOfValueError (env.encode (some r)) ↔
        Fails PyError.InstanceOfValueError (env.dumps r) := by
      rw [Env.encode]
      cases env.dumps r <;> simp [Fails, Except.map]
    have hpath := businessEndpointPath_fails_iff b kind
    rw [StopsOther, ← or_assoc, ← hpath, ← hencode]
    constructor
    · rintro (h | ⟨-, h⟩)
      · exact .inl h
      · exact .inr h
    · rintro (h | h)
      · exact .inl h
      · rcases (businessEndpointPath_failsOnly b kind).fails_or_ok with hfails | hok
        · exact .inl hfails
        · exact .inr ⟨hok, h⟩
  · have hinherited : ∀ b kind r, m ≠ .configureBusinessDeliveryEndpoint b kind r := by
      rintro b kind r rfl
      exact hadmin ⟨b, kind, r, rfl⟩
    refine iff_of_true (.inl (MutatingCall.path_fails hbound hcall hother hinherited)) ?_
    cases m with
    | configureBusinessDeliveryEndpoint b kind r => exact absurd rfl (hinherited b kind r)
    | _ => trivial

theorem ReadingCall.refusesOther_iff {r : ReadingCall} (hbound : a.businessId = some bound)
    (hcall : r.businessId? = some businessId) (hother : businessId ≠ bound) (env : Env) :
    Refuses (r.perform a env) ↔ r.StopsOther := by
  rw [ReadingCall.perform_eq, MizanClient.guarded_refuses_iff]
  cases hadmin : r.isAdmin with
  | false =>
      refine iff_of_true (.inl (ReadingCall.path_fails hbound hcall hother hadmin)) ?_
      rw [StopsOther, hadmin]
      simp
  | true =>
      have hencode : ¬ Fails PyError.InstanceOfValueError (env.encode r.target.2.1) := by
        rintro ⟨e, he, -⟩
        cases r with
        | listUsageDecisions | listBusinessAudit | getBusinessDeliveryEndpoints => cases he
        | _ => cases hadmin
      rw [StopsOther, or_iff_left (fun h => hencode h.2), forall_prop_of_true hadmin]
      cases r with
      | listUsageDecisions | listBusinessAudit | getBusinessDeliveryEndpoints =>
          exact adminBusinessPath_fails_iff _ _
      | _ => cases hadmin

/-- An inherited `consume` for another business is refused. -/
theorem MizanClient.consume_refuses (hbound : a.businessId = some bound)
    (hother : businessId ≠ bound) (env : Env) (request : PyDict) (key : Option PyStr) :
    Refuses (a.consume env businessId request key) :=
  (a.guarded_refuses_iff env "POST" _ (some request) businessId key true []).mpr
    (.inl (businessPath_fails hbound hother _))

theorem UsageCall.refusesOther_iff (u : UsageCall) (hbound : a.businessId = some bound)
    (hother : businessId ≠ bound) (py : BuilderInterpreter) (env : Env) (key : Option PyStr) :
    Refuses (u.perform a.toMizanClient py env businessId key) ↔ ¬ u.Raises py := by
  rw [UsageCall.perform_eq, MizanClient.consumeBuilt]
  constructor
  · rintro ⟨-, e, he, hkind⟩ hraises
    rw [hraises.build_eq] at he
    cases he
    rcases hkind with hvalue | hunicode
    · exact hvalue.ne_typeError rfl
    · cases hunicode
  · intro hraises
    cases hbuild : u.build py with
    | error e =>
        exact ⟨rfl, e, rfl, .inl ((u.not_raises_iff).mp hraises e hbuild)⟩
    | ok request => exact MizanClient.consume_refuses hbound hother env request key

/-- A call of a bound client for another business raises a `ValueError` and sends
nothing, unless it is one of `MizanAdminClient` that nothing else stops, or a
metering call whose builder raises a `TypeError`. -/
theorem businessCall_refuses_iff (hbound : a.businessId = some bound) (call : BusinessCall)
    (hcall : call.businessId? = some businessId) (hother : businessId ≠ bound)
    (py : BuilderInterpreter) (env : Env) (key : Option PyStr) :
    Refuses (call.perform a py env key) ↔ call.StopsOther py env := by
  cases call with
  | mutating m => exact MutatingCall.refusesOther_iff hbound hcall hother env key
  | reading r => exact ReadingCall.refusesOther_iff hbound hcall hother env
  | metering b u =>
      obtain rfl : b = businessId := Option.some.inj hcall
      exact u.refusesOther_iff hbound hother py env key

end Bound

section Example

/-- An admin client bound to the business `shop`. -/
def shopAdmin : MizanAdminClient :=
  { opsAdmin with
    businessId := some (str "shop")
    businessId_ne := by decide }

/-- The billing summary of another business is refused. -/
theorem summary_of_rival_refused :
    Refuses ((BusinessCall.reading (.getBillingSummary (str "rival"))).perform shopAdmin
      asciiInterpreter unansweredEnv none) := by
  have hother : str "rival" ≠ str "shop" := by decide
  have hstops : (BusinessCall.reading (.getBillingSummary (str "rival"))).StopsOther
      asciiInterpreter unansweredEnv := by
    intro hadmin
    cases hadmin
  exact (businessCall_refuses_iff rfl (.reading (.getBillingSummary (str "rival"))) rfl hother
    asciiInterpreter unansweredEnv none).mpr hstops

/-- The audit of another business is requested, also that of the empty one. -/
theorem rival_audit_requested :
    ¬ Refuses ((BusinessCall.reading (.listBusinessAudit (str "rival") 0 25)).perform shopAdmin
        asciiInterpreter unansweredEnv none) ∧
      ¬ Refuses ((BusinessCall.reading (.listBusinessAudit [] 0 25)).perform shopAdmin
        asciiInterpreter unansweredEnv none) := by
  have hrival : str "rival" ≠ str "shop" := by decide
  have hempty : [] ≠ str "shop" := by decide
  constructor
  · intro hrefuses
    have hstops := (ReadingCall.refusesOther_iff rfl rfl hrival unansweredEnv).mp hrefuses rfl
    simp [ReadingCall.target] at hstops
  · intro hrefuses
    have hstops := (ReadingCall.refusesOther_iff rfl rfl hempty unansweredEnv).mp hrefuses rfl
    cases hstops

end Example

end MizanSDK.Python
