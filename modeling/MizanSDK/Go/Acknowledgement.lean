import MizanSDK.Go.Webhooks

/-!
# Acknowledgements of the Go webhook receiver

An acknowledgement moves the sender's cursor past an event, so it may leave the
receiver only for an event that a callback has accepted.

Main results:

- Theorem `dispatchEvent_eq_invoke_iff`: which callback an object selects.
- Theorem `WebhookReceiver.dispatch_eq_invoke_iff`: what a callback invocation
  presupposes.
- Theorem `WebhookReceiver.receive_acknowledges_accepted`: what a response says
  about the callbacks that were invoked.
-/

namespace MizanSDK.Go

open JsonText

/-! ## Refusals -/

/-- A response that refuses the delivery. -/
def WebhookResponse.Refuses (response : WebhookResponse) : Prop :=
  ∃ status message, 400 ≤ status ∧ response = errorResponse status message

/-- An error response with such a status refuses. -/
theorem errorResponse_refuses {status : ℕ} (h : 400 ≤ status) (message : String) :
    (errorResponse status message).Refuses :=
  ⟨status, message, h, rfl⟩

/-- A refusal is no success. -/
theorem WebhookResponse.Refuses.statusCode_ne {response : WebhookResponse}
    (h : response.Refuses) : response.statusCode ≠ 204 := by
  obtain ⟨status, message, hstatus, rfl⟩ := h
  simp only [errorResponse]
  omega

/-- A refusal acknowledges nothing. -/
theorem WebhookResponse.Refuses.lookup_ack {response : WebhookResponse}
    (h : response.Refuses) : response.headers.lookup "X-Mizan-Ack-Sequence" = none := by
  obtain ⟨status, message, -, rfl⟩ := h
  rw [errorResponse, AList.lookup_insert_ne (by decide)]
  rfl

/-! ## The selected callback -/

/-- The object names this member. -/
def names (members : List (Text × Json)) (name : String) : Bool :=
  members.any fun m => m.1.toScalars == name

/-- The invocation an object selects: the ledger stream takes precedence, and
the event of either stream decodes and matches its contract. -/
inductive Selects (members : List (Text × Json)) (delivery : WebhookContext) :
    Invocation → Prop where
  | ledger {event : LedgerWebhook}
      (stream : names members "business_sequence" = true)
      (decodes : decodeLedgerWebhook members = some event)
      (valid : validateLedgerWebhook event = none) :
      Selects members delivery (.ledger event delivery)
  | notification {event : NotificationWebhook}
      (noLedger : names members "business_sequence" = false)
      (stream : names members "type" = true)
      (decodes : decodeNotificationWebhook members = some event)
      (valid : validateNotificationWebhook event = none) :
      Selects members delivery (.notification event delivery)

/-- Which callback an object selects. -/
theorem dispatchEvent_eq_invoke_iff (handler handler' : WebhookHandler)
    (delivery : WebhookContext) (members : List (Text × Json)) (invocation : Invocation) :
    dispatchEvent handler delivery members = .invoke handler' invocation ↔
      handler = handler' ∧ Selects members delivery invocation := by
  constructor
  · intro h
    rw [dispatchEvent] at h
    split at h
    · rename_i hledger
      split at h
      · simp at h
      · rename_i event hdecode
        split at h
        · simp at h
        · rename_i hvalid
          obtain ⟨rfl, rfl⟩ := Dispatch.invoke.inj h
          exact ⟨rfl, .ledger hledger hdecode hvalid⟩
    · rename_i hledger
      split at h
      · rename_i htype
        split at h
        · simp at h
        · rename_i event hdecode
          split at h
          · simp at h
          · rename_i hvalid
            obtain ⟨rfl, rfl⟩ := Dispatch.invoke.inj h
            refine ⟨rfl, .notification ?_ htype hdecode hvalid⟩
            simpa [names] using hledger
      · simp at h
  · rintro ⟨rfl, hselects⟩
    cases hselects with
    | ledger stream decodes valid =>
        simp only [names] at stream
        simp [dispatchEvent, stream, decodes, valid]
    | notification noLedger stream decodes valid =>
        simp only [names] at noLedger stream
        simp [dispatchEvent, noLedger, stream, decodes, valid]

/-- An object that selects no callback is unprocessable. -/
theorem dispatchEvent_respond {handler : WebhookHandler} {delivery : WebhookContext}
    {members : List (Text × Json)} {response : WebhookResponse}
    (h : dispatchEvent handler delivery members = .respond response) :
    ∃ message, response = errorResponse 422 message := by
  rw [dispatchEvent] at h
  split at h
  · split at h
    · exact ⟨_, (Dispatch.respond.inj h).symm⟩
    · split at h
      · exact ⟨_, (Dispatch.respond.inj h).symm⟩
      · simp at h
  · split at h
    · split at h
      · exact ⟨_, (Dispatch.respond.inj h).symm⟩
      · split at h
        · exact ⟨_, (Dispatch.respond.inj h).symm⟩
        · simp at h
    · exact ⟨_, (Dispatch.respond.inj h).symm⟩

/-! ## Admission -/

/-- The outbox identifier of a delivery. -/
def outboxID (headers : Header) : String := trimSpace (headers.get "X-Mizan-Outbox-Id")

/-- What a request shows before its body is read. -/
structure WebhookReceiver.Admits (r : WebhookReceiver) (headers : Header)
    (body : List UInt8) : Prop where
  nonempty : 0 < body.length
  withinLimit : (body.length : ℤ) ≤ r.bodyLimit
  authorized : r.authorized (headers.get "Authorization") = true
  outboxID : outboxID headers ≠ ""

/-- The context a callback receives. -/
def deliveryContext (headers : Header) (body : List UInt8) : WebhookContext :=
  ⟨outboxID headers, headers.del "Authorization", body⟩

/-- On an admitted request everything hangs on the body. -/
theorem WebhookReceiver.Admits.dispatch_eq {r : WebhookReceiver} {headers : Header}
    {body : List UInt8} (h : r.Admits headers body) (parse : JsonParser) :
    r.dispatch parse headers body =
      match r.handler with
      | none => .respond (errorResponse 503 "webhook handler is not configured")
      | some handler =>
          match parse body with
          | some (.object members) =>
              dispatchEvent handler (deliveryContext headers body) members
          | _ => .respond (errorResponse 400 "request body must be a JSON object") := by
  have hauthorized : ¬ (!r.authorized (headers.get "Authorization")) = true := by
    simp [h.authorized]
  have houtbox : trimSpace (headers.get "X-Mizan-Outbox-Id") ≠ "" := h.outboxID
  rw [dispatch, if_neg h.nonempty.ne', if_neg (Int.not_lt.mpr h.withinLimit),
    if_neg hauthorized]
  simp only [if_neg houtbox]
  rfl

/-- A request that is not admitted is refused. -/
theorem WebhookReceiver.dispatch_of_not_admits {r : WebhookReceiver} {headers : Header}
    {body : List UInt8} (h : ¬ r.Admits headers body) (parse : JsonParser) :
    ∃ response, r.dispatch parse headers body = .respond response ∧ response.Refuses := by
  rw [dispatch]
  split
  · exact ⟨_, rfl, errorResponse_refuses (by decide) _⟩
  · rename_i hempty
    split
    · exact ⟨_, rfl, errorResponse_refuses (by decide) _⟩
    · rename_i hlimit
      split
      · exact ⟨_, rfl, errorResponse_refuses (by decide) _⟩
      · rename_i hauthorized
        by_cases houtbox : outboxID headers = ""
        · rw [outboxID] at houtbox
          simp only [houtbox, if_true]
          exact ⟨_, rfl, errorResponse_refuses (by decide) _⟩
        · have hadmits : r.Admits headers body :=
            { nonempty := Nat.pos_of_ne_zero hempty
              withinLimit := Int.not_lt.mp hlimit
              authorized := by simpa using hauthorized
              outboxID := houtbox }
          exact absurd hadmits h

/-- What a callback invocation presupposes: an admitted request whose body is an
object that selects it. -/
theorem WebhookReceiver.dispatch_eq_invoke_iff (r : WebhookReceiver) (parse : JsonParser)
    (headers : Header) (body : List UInt8) (handler : WebhookHandler)
    (invocation : Invocation) :
    r.dispatch parse headers body = .invoke handler invocation ↔
      r.Admits headers body ∧ r.handler = some handler ∧
        ∃ members, parse body = some (.object members) ∧
          Selects members (deliveryContext headers body) invocation := by
  by_cases hadmits : r.Admits headers body
  · rw [hadmits.dispatch_eq]
    cases hhandler : r.handler with
    | none => simp
    | some configured =>
        simp only [hadmits, true_and, Option.some.injEq]
        split
        · rename_i members hparse
          rw [dispatchEvent_eq_invoke_iff]
          constructor
          · rintro ⟨hsame, hselects⟩
            exact ⟨hsame, members, hparse, hselects⟩
          · rintro ⟨hsame, members', hparse', hselects⟩
            rw [hparse] at hparse'
            obtain rfl : members = members' := by simpa using hparse'
            exact ⟨hsame, hselects⟩
        · rename_i hparse
          constructor
          · simp
          · rintro ⟨-, members, hobject, -⟩
            exact absurd hobject (hparse members)
  · obtain ⟨response, hresponse, -⟩ := dispatch_of_not_admits hadmits parse
    simp [hresponse, hadmits]

/-- A response without a callback refuses. -/
theorem WebhookReceiver.dispatch_refuses {r : WebhookReceiver} {parse : JsonParser}
    {headers : Header} {body : List UInt8} {response : WebhookResponse}
    (h : r.dispatch parse headers body = .respond response) : response.Refuses := by
  by_cases hadmits : r.Admits headers body
  · rw [hadmits.dispatch_eq] at h
    split at h
    · obtain rfl := Dispatch.respond.inj h
      exact errorResponse_refuses (by decide) _
    · split at h
      · obtain ⟨message, rfl⟩ := dispatchEvent_respond h
        exact errorResponse_refuses (by decide) _
      · obtain rfl := Dispatch.respond.inj h
        exact errorResponse_refuses (by decide) _
  · obtain ⟨refusal, hrefusal, hrefuses⟩ := dispatch_of_not_admits hadmits parse
    rw [hrefusal] at h
    obtain rfl := Dispatch.respond.inj h
    exact hrefuses

/-! ## Acknowledgement -/

/-- A failed callback is answered by a refusal. -/
theorem Invocation.respond_error_refuses (invocation : Invocation) (error : GoError) :
    (invocation.respond (some error)).Refuses := by
  cases invocation <;> exact errorResponse_refuses (by decide) _

/-- A successful callback is answered with 204. -/
theorem Invocation.respond_none_statusCode (invocation : Invocation) :
    (invocation.respond none).statusCode = 204 := by
  cases invocation <;> rfl

/-- A successful ledger callback is acknowledged with the sequence of its event. -/
theorem Invocation.respond_none_ledger_ack (event : LedgerWebhook) (delivery : WebhookContext) :
    ((Invocation.ledger event delivery).respond none).headers.lookup "X-Mizan-Ack-Sequence" =
      some [toString event.businessSequence] :=
  AList.lookup_insert _

/-- The event of an invocation passed the validation of its stream. -/
def Invocation.Validated : Invocation → Prop
  | .ledger event _ => validateLedgerWebhook event = none
  | .notification event _ => validateNotificationWebhook event = none

/-- A selected invocation is validated. -/
theorem Selects.validated {members : List (Text × Json)} {delivery : WebhookContext}
    {invocation : Invocation} (h : Selects members delivery invocation) :
    invocation.Validated := by
  cases h with
  | ledger _ _ valid => exact valid
  | notification _ _ _ valid => exact valid

/-- An invoked callback that returned nil. -/
def WebhookReceiver.Accepts (r : WebhookReceiver) (invocation : Invocation) : Prop :=
  ∃ handler, r.handler = some handler ∧ invocation.run handler = none

/-- What a reception without a callback says. -/
theorem WebhookReceiver.receive_of_respond {r : WebhookReceiver} {parse : JsonParser}
    {headers : Header} {body : List UInt8} {response : WebhookResponse}
    (h : r.dispatch parse headers body = .respond response) :
    r.receive parse headers body = ⟨response, []⟩ := by
  rw [receive, h]

/-- What a reception with a callback says. -/
theorem WebhookReceiver.receive_of_invoke {r : WebhookReceiver} {parse : JsonParser}
    {headers : Header} {body : List UInt8} {handler : WebhookHandler}
    {invocation : Invocation}
    (h : r.dispatch parse headers body = .invoke handler invocation) :
    r.receive parse headers body =
      ⟨invocation.respond (invocation.run handler), [invocation]⟩ := by
  rw [receive, h]

/-- One reception invokes at most one callback, and only for an admitted request
and a validated event; it answers 204 exactly when that callback returned nil,
and acknowledges exactly when that callback was `HandleLedger`, with the positive
sequence of the event it was handed. -/
theorem WebhookReceiver.receive_acknowledges_accepted (r : WebhookReceiver)
    (parse : JsonParser) (headers : Header) (body : List UInt8) :
    (r.receive parse headers body).invoked.length ≤ 1 ∧
    ((r.receive parse headers body).response.statusCode = 204 ↔
      ∃ invocation ∈ (r.receive parse headers body).invoked, r.Accepts invocation) ∧
    (((r.receive parse headers body).response.headers.lookup
          "X-Mizan-Ack-Sequence").isSome = true ↔
      ∃ event delivery, .ledger event delivery ∈ (r.receive parse headers body).invoked ∧
        r.Accepts (.ledger event delivery)) ∧
    (∀ event delivery, .ledger event delivery ∈ (r.receive parse headers body).invoked →
      1 ≤ event.businessSequence ∧
      (r.Accepts (.ledger event delivery) →
        (r.receive parse headers body).response.headers.lookup "X-Mizan-Ack-Sequence" =
          some [toString event.businessSequence])) ∧
    (∀ invocation ∈ (r.receive parse headers body).invoked,
      r.Admits headers body ∧ invocation.Validated) := by
  cases hdispatch : r.dispatch parse headers body with
  | respond response =>
      have hrefuses := dispatch_refuses hdispatch
      rw [receive_of_respond hdispatch]
      simp [hrefuses.statusCode_ne, hrefuses.lookup_ack]
  | invoke handler invocation =>
      obtain ⟨hadmits, hhandler, members, -, hselects⟩ :=
        (dispatch_eq_invoke_iff r parse headers body handler invocation).mp hdispatch
      have hvalidated := hselects.validated
      have haccepts : ∀ other, r.Accepts other ↔ other.run handler = none := by
        intro other
        simp [Accepts, hhandler]
      rw [receive_of_invoke hdispatch]
      simp only [List.mem_singleton, haccepts, exists_eq_left, forall_eq]
      refine ⟨le_rfl, ?status, ?presence, ?value, hadmits, hvalidated⟩
      case status =>
        cases hrun : invocation.run handler with
        | none => simp [Invocation.respond_none_statusCode]
        | some error =>
            simp [(Invocation.respond_error_refuses invocation error).statusCode_ne]
      case presence =>
        cases hrun : invocation.run handler with
        | none =>
            cases invocation with
            | ledger event delivery =>
                rw [Invocation.respond_none_ledger_ack]
                simpa using hrun
            | notification event delivery => simp [Invocation.respond]
        | some error =>
            simp only [(Invocation.respond_error_refuses invocation error).lookup_ack]
            constructor
            · simp
            · rintro ⟨event, delivery, rfl, haccepted⟩
              rw [hrun] at haccepted
              simp at haccepted
      case value =>
        rintro event delivery rfl
        refine ⟨((validateLedgerWebhook_eq_none_iff event).mp hvalidated).businessSequence, ?_⟩
        intro haccepted
        rw [haccepted, Invocation.respond_none_ledger_ack]

end MizanSDK.Go
