import MizanSDK.Python.Webhooks

/-!
# Acknowledgements and exceptions of the Python webhook receiver

The acknowledgement is read, after the callback, from the dictionary the
callback was handed, so the callback decides what is acknowledged.  Validation
looks values of any JSON type up in sets, so some of them raise.

Main results:

- Theorem `WebhookReceiver.dispatch_eq_invoke_iff`: what a callback invocation
  presupposes.
- Theorem `receive_faithful_iff`: the answers to ledger callbacks are faithful
  exactly when the callbacks leave the sequence in place.
- Theorem `receive_returns_iff`: `receive` returns a response exactly when none
  of the listed exceptions is raised.
-/

namespace MizanSDK.Python

open JsonText Checks Decimal

/-! ## The selected callback -/

/-- The invocation an event selects: the ledger stream takes precedence, and the
event of either stream matches its contract. -/
inductive Selects (py : Interpreter) (event : PyDict) (delivery : WebhookContext) :
    Invocation → Prop where
  | ledger (stream : event.has "business_sequence" = true)
      (valid : validateLedger py event = .ok ()) :
      Selects py event delivery (.ledger event delivery)
  | notification (noLedger : event.has "business_sequence" = false)
      (stream : event.has "type" = true)
      (valid : validateNotification py event = .ok ()) :
      Selects py event delivery (.notification event delivery)

/-- The events whose validation raises. -/
def EventRaises (py : Interpreter) (event : PyDict) : Prop :=
  event.has "business_sequence" = true ∧ LedgerRaises py event ∨
    event.has "business_sequence" = false ∧ NotificationRaises event

theorem NotificationRaises.has_type {event : PyDict} (h : NotificationRaises event) :
    event.has "type" = true := by
  obtain ⟨x, hx, -⟩ := h.isType
  rw [PyDict.has, hx]
  rfl

theorem dispatchValidated_eq_invoke_iff (validation : Except PyError Unit)
    (invocation other : Invocation) :
    dispatchValidated validation invocation = .ok (.invoke other) ↔
      validation = .ok () ∧ invocation = other := by
  unfold dispatchValidated
  split <;> simp

theorem dispatchValidated_eq_error_iff (validation : Except PyError Unit)
    (invocation : Invocation) (e : PyError) :
    dispatchValidated validation invocation = .error e ↔
      validation = .error e ∧ ¬ e.IsValueError := by
  unfold dispatchValidated PyError.IsValueError
  split
  · simp
  · simp only [reduceCtorEq, Except.error.injEq, false_iff, not_and, not_not]
    rintro rfl
    exact ⟨_, rfl⟩
  · rename_i err hnot
    rw [Except.error.injEq, Except.error.injEq]
    constructor
    · rintro rfl
      exact ⟨rfl, fun ⟨message, hmessage⟩ => hnot message hmessage⟩
    · rintro ⟨rfl, -⟩
      rfl

/-- Which callback an event selects. -/
theorem dispatchEvent_eq_invoke_iff (py : Interpreter) (event : PyDict)
    (delivery : WebhookContext) (invocation : Invocation) :
    dispatchEvent py event delivery = .ok (.invoke invocation) ↔
      Selects py event delivery invocation := by
  constructor
  · intro h
    rw [dispatchEvent] at h
    split at h
    · rename_i hledger
      obtain ⟨hvalid, rfl⟩ := (dispatchValidated_eq_invoke_iff _ _ _).mp h
      exact .ledger hledger hvalid
    · rename_i hledger
      split at h
      · rename_i htype
        obtain ⟨hvalid, rfl⟩ := (dispatchValidated_eq_invoke_iff _ _ _).mp h
        exact .notification (Bool.eq_false_iff.mpr hledger) htype hvalid
      · simp at h
  · intro h
    cases h with
    | ledger stream valid =>
        rw [dispatchEvent, if_pos stream, dispatchValidated_eq_invoke_iff]
        exact ⟨valid, rfl⟩
    | notification noLedger stream valid =>
        rw [dispatchEvent, if_neg (Bool.eq_false_iff.mp noLedger), if_pos stream,
          dispatchValidated_eq_invoke_iff]
        exact ⟨valid, rfl⟩

/-- An event that selects no callback is unprocessable. -/
theorem dispatchEvent_respond {py : Interpreter} {event : PyDict} {delivery : WebhookContext}
    {response : WebhookResponse}
    (h : dispatchEvent py event delivery = .ok (.respond response)) :
    ∃ message, response = errorResponse 422 message := by
  have hvalidated : ∀ {validation invocation},
      dispatchValidated validation invocation = .ok (.respond response) →
        ∃ message, response = errorResponse 422 message := by
    intro validation invocation hrespond
    unfold dispatchValidated at hrespond
    split at hrespond
    · simp at hrespond
    · exact ⟨_, (Dispatch.respond.inj (Except.ok.inj hrespond)).symm⟩
    · simp at hrespond
  rw [dispatchEvent] at h
  split at h
  · exact hvalidated h
  · split at h
    · exact hvalidated h
    · exact ⟨_, (Dispatch.respond.inj (Except.ok.inj h)).symm⟩

/-- Which exceptions leave the validation: a `TypeError` of the listed events. -/
theorem dispatchEvent_eq_error_iff (py : Interpreter) (event : PyDict)
    (delivery : WebhookContext) (e : PyError) :
    dispatchEvent py event delivery = .error e ↔ EventRaises py event ∧ e = .typeError := by
  unfold dispatchEvent EventRaises
  by_cases hledger : event.has "business_sequence" = true
  · rw [if_pos hledger, dispatchValidated_eq_error_iff]
    constructor
    · rintro ⟨hfails, hnot⟩
      rcases validateLedger_error hfails with hvalue | ⟨htype, hraises⟩
      · exact absurd hvalue hnot
      · exact ⟨.inl ⟨hledger, hraises⟩, htype⟩
    · rintro ⟨⟨-, hraises⟩ | ⟨hno, -⟩, rfl⟩
      · exact ⟨(validateLedger_eq_typeError_iff py event).mpr hraises,
          fun hvalue => hvalue.ne_typeError rfl⟩
      · rw [hledger] at hno
        exact absurd hno (by decide)
  · rw [if_neg hledger]
    by_cases htype : event.has "type" = true
    · rw [if_pos htype, dispatchValidated_eq_error_iff]
      constructor
      · rintro ⟨hfails, hnot⟩
        rcases validateNotification_error hfails with hvalue | ⟨htype, hraises⟩
        · exact absurd hvalue hnot
        · exact ⟨.inr ⟨Bool.eq_false_iff.mpr hledger, hraises⟩, htype⟩
      · rintro ⟨⟨hyes, -⟩ | ⟨-, hraises⟩, rfl⟩
        · exact absurd hyes hledger
        · exact ⟨(validateNotification_eq_typeError_iff py event).mpr hraises,
            fun hvalue => hvalue.ne_typeError rfl⟩
    · rw [if_neg htype]
      constructor
      · simp
      · rintro ⟨⟨hyes, -⟩ | ⟨-, hraises⟩, -⟩
        · exact absurd hyes hledger
        · exact absurd hraises.has_type htype

/-! ## Admission -/

section Admission

variable (r : WebhookReceiver) (py : Interpreter) (headers : List (PyStr × PyStr))
  (payload : WebhookPayload)

/-- The value of the authorization header. -/
def authorization : Option PyStr :=
  lookupLast (normalizedHeaders py headers) (str "authorization")

/-- The request delivers this event to the stream selection. -/
structure WebhookReceiver.Delivers (raw : List UInt8) (event : PyDict) : Prop where
  authorized : r.authorized (authorization py headers) = .ok true
  outboxId : outboxId py headers ≠ []
  decodes : decodePayload py payload r.maxBodyBytes = .ok (.object raw event)

/-- What becomes of a request before validation: its authorization raises, it is
refused, its payload raises, or it delivers an event. -/
theorem WebhookReceiver.dispatch_cases :
    (∃ e, r.authorized (authorization py headers) = .error e ∧
        r.dispatch py headers payload = .error e) ∨
      (∃ response, r.dispatch py headers payload = .ok (.respond response)) ∨
      (∃ e, decodePayload py payload r.maxBodyBytes = .error e ∧
        r.dispatch py headers payload = .error e) ∨
      (∃ raw event, r.Delivers py headers payload raw event ∧
        r.dispatch py headers payload =
          dispatchEvent py event (deliveryContext py headers raw)) := by
  unfold WebhookReceiver.dispatch
  rw [← authorization]
  cases hauthorized : r.authorized (authorization py headers) with
  | error e => exact .inl ⟨e, rfl, rfl⟩
  | ok authorized =>
      right
      cases authorized with
      | false => exact .inl ⟨_, rfl⟩
      | true =>
          by_cases houtbox : outboxId py headers = []
          · left
            rw [houtbox]
            exact ⟨_, rfl⟩
          · have hblank : (outboxId py headers).isEmpty = false := by
              simpa [List.isEmpty_eq_false_iff] using houtbox
            rw [hblank]
            cases hdecodes : decodePayload py payload r.maxBodyBytes with
            | error e => exact .inr (.inl ⟨e, rfl, rfl⟩)
            | ok decoded =>
                cases decoded with
                | refused status message => exact .inl ⟨_, rfl⟩
                | object raw event =>
                    exact .inr (.inr ⟨raw, event, ⟨hauthorized, houtbox, hdecodes⟩, rfl⟩)

variable {r py headers payload} in
/-- A delivered event decides the rest. -/
theorem WebhookReceiver.Delivers.dispatch_eq {raw : List UInt8} {event : PyDict}
    (h : r.Delivers py headers payload raw event) :
    r.dispatch py headers payload =
      dispatchEvent py event (deliveryContext py headers raw) := by
  have hauthorized := h.authorized
  have houtbox : (MizanSDK.Python.outboxId py headers).isEmpty = false := by
    simpa [List.isEmpty_eq_false_iff] using h.outboxId
  unfold WebhookReceiver.dispatch
  rw [← authorization, hauthorized, houtbox, h.decodes]
  rfl

/-- What a callback invocation presupposes: a request that delivers an event which
selects it. -/
theorem WebhookReceiver.dispatch_eq_invoke_iff (invocation : Invocation) :
    r.dispatch py headers payload = .ok (.invoke invocation) ↔
      ∃ raw event, r.Delivers py headers payload raw event ∧
        Selects py event (deliveryContext py headers raw) invocation := by
  constructor
  · intro h
    rcases r.dispatch_cases py headers payload with
      ⟨e, -, he⟩ | ⟨response, hresponse⟩ | ⟨e, -, he⟩ | ⟨raw, event, hdelivers, heq⟩
    · simp [he] at h
    · simp [hresponse] at h
    · simp [he] at h
    · rw [heq, dispatchEvent_eq_invoke_iff] at h
      exact ⟨raw, event, hdelivers, h⟩
  · rintro ⟨raw, event, hdelivers, hselects⟩
    rw [hdelivers.dispatch_eq, dispatchEvent_eq_invoke_iff]
    exact hselects

/-! ## Acknowledgement -/

/-- A response that carries this acknowledgement, or none. -/
def WebhookResponse.Acks (response : WebhookResponse) (ack : Option PyStr) : Prop :=
  lookupLast response.headers ackSequenceHeader = ack

/-- The answer to a ledger callback says what became of the event it was handed:
the sequence of the received event is acknowledged if the callback returned, and
nothing is if it raised. -/
def FaithfulAnswer (event : PyDict) (result : CallbackResult)
    (outcome : Except PyError WebhookResponse) : Prop :=
  match result with
  | .returns _ => ∃ response n, outcome = .ok response ∧ response.statusCode = 204 ∧
      event.get "business_sequence" = some (.int n) ∧ response.Acks (some (strInt n))
  | .raises => ∃ response, outcome = .ok response ∧ response.statusCode = 500 ∧
      response.Acks none

/-- The dictionary a callback leaves still shows the sequence of the event. -/
def LeavesSequence (py : Interpreter) (event left : PyDict) : Prop :=
  ∃ n sequence, event.get "business_sequence" = some (.int n) ∧
    left.get "business_sequence" = some sequence ∧ py.str sequence = .ok (strInt n)

/-- The answer to a callback that raised is faithful. -/
theorem faithfulAnswer_raises (py : Interpreter) (event : PyDict)
    (delivery : WebhookContext) :
    FaithfulAnswer event .raises ((Invocation.ledger event delivery).respond py .raises) :=
  ⟨_, rfl, rfl, rfl⟩

/-- The answer to a callback that returned is faithful when the callback left the
sequence. -/
theorem faithfulAnswer_returns_iff (py : Interpreter) (event left : PyDict)
    (delivery : WebhookContext) :
    FaithfulAnswer event (.returns left)
        ((Invocation.ledger event delivery).respond py (.returns left)) ↔
      LeavesSequence py event left := by
  unfold FaithfulAnswer LeavesSequence Invocation.respond
  constructor
  · rintro ⟨response, n, houtcome, -, hn, hack⟩
    cases hleft : left.get "business_sequence" with
    | none => simp [hleft] at houtcome
    | some sequence =>
        simp only [hleft, bind_eq_ok_iff] at houtcome
        obtain ⟨ack, hstr, hresponse⟩ := houtcome
        obtain rfl := Except.ok.inj hresponse
        have hsame : ack = strInt n := by
          simpa [WebhookResponse.Acks, lookupLast_cons] using hack
        exact ⟨n, sequence, hn, rfl, hsame ▸ hstr⟩
  · rintro ⟨n, sequence, hn, hleft, hstr⟩
    refine ⟨⟨204, [(ackSequenceHeader, strInt n)], none⟩, n, ?_, rfl, hn, ?_⟩
    · simp [hleft, hstr, bind, Except.bind, pure, Except.pure]
    · simp [WebhookResponse.Acks, lookupLast_cons]

theorem WebhookReceiver.receive_of_invoke {invocation : Invocation}
    (h : r.dispatch py headers payload = .ok (.invoke invocation)) :
    r.receive py headers payload =
      ⟨invocation.respond py (invocation.run r), [invocation]⟩ := by
  rw [receive, h]

theorem WebhookReceiver.mem_invoked_iff (invocation : Invocation) :
    invocation ∈ (r.receive py headers payload).invoked ↔
      r.dispatch py headers payload = .ok (.invoke invocation) := by
  unfold WebhookReceiver.receive
  split
  · rename_i err herr
    simp [herr]
  · rename_i response hresponse
    simp [hresponse]
  · rename_i selected hselected
    simp [hselected, eq_comm]

/-- Every ledger callback that was invoked was handed the decoded payload and
answered faithfully, exactly when the callback, on each event it is handed, either
raises or leaves the sequence of the event in place. -/
theorem receive_faithful_iff :
    (∀ event delivery, .ledger event delivery ∈ (r.receive py headers payload).invoked →
      (∃ raw, decodePayload py payload r.maxBodyBytes = .ok (.object raw event)) ∧
      FaithfulAnswer event (r.onLedger event delivery)
        (r.receive py headers payload).outcome) ↔
    ∀ raw event left, r.Delivers py headers payload raw event →
      event.has "business_sequence" = true → validateLedger py event = .ok () →
      r.onLedger event (deliveryContext py headers raw) = .returns left →
      LeavesSequence py event left := by
  constructor
  · intro h raw event left hdelivers hledger hvalid hleft
    have hinvoke := (r.dispatch_eq_invoke_iff py headers payload _).mpr
      ⟨raw, event, hdelivers, .ledger hledger hvalid⟩
    have hfaithful := (h event _ ((r.mem_invoked_iff py headers payload _).mpr hinvoke)).2
    rw [r.receive_of_invoke py headers payload hinvoke] at hfaithful
    simp only [Invocation.run, hleft] at hfaithful
    exact (faithfulAnswer_returns_iff py event left _).mp hfaithful
  · intro h event delivery hmem
    have hinvoke := (r.mem_invoked_iff py headers payload _).mp hmem
    obtain ⟨raw, event', hdelivers, hselects⟩ :=
      (r.dispatch_eq_invoke_iff py headers payload _).mp hinvoke
    rw [r.receive_of_invoke py headers payload hinvoke]
    cases hselects with
    | ledger hledger hvalid =>
        refine ⟨⟨raw, hdelivers.decodes⟩, ?_⟩
        simp only [Invocation.run]
        cases hresult : r.onLedger event (deliveryContext py headers raw) with
        | raises => exact faithfulAnswer_raises py event _
        | returns left =>
            exact (faithfulAnswer_returns_iff py event left _).mpr
              (h raw event left hdelivers hledger hvalid hresult)

/-! ## Exceptions -/

/-- The comparison with the bearer token raises: one side holds a lone
surrogate. -/
def WebhookReceiver.AuthorizationRaises : Prop :=
  ∃ token given, r.bearerToken = some token ∧ authorization py headers = some given ∧
    (given.isScalar = false ∨ token.isScalar = false)

theorem encodeUtf8_eq_error_iff (s : PyStr) (e : PyError) :
    encodeUtf8 s = .error e ↔ s.isScalar = false ∧ e = .unicodeEncodeError := by
  unfold encodeUtf8
  cases s.isScalar <;> simp [eq_comm]

theorem encodeUtf8_eq_ok (s : PyStr) (h : s.isScalar = true) :
    ∃ bytes, encodeUtf8 s = .ok bytes := by
  rw [encodeUtf8, if_pos h]
  exact ⟨_, rfl⟩

theorem isScalar_bearer (token : PyStr) : (str "Bearer " ++ token).isScalar = token.isScalar := by
  have hprefix : (str "Bearer ").isScalar = true := Text.isScalar_ofString _
  rw [Text.isScalar, List.all_append, ← Text.isScalar, ← Text.isScalar, hprefix,
    Bool.true_and]

/-- When `_authorized` raises. -/
theorem WebhookReceiver.authorized_eq_error_iff (e : PyError) :
    r.authorized (authorization py headers) = .error e ↔
      r.AuthorizationRaises py headers ∧ e = .unicodeEncodeError := by
  unfold WebhookReceiver.authorized WebhookReceiver.AuthorizationRaises
  cases htoken : r.bearerToken with
  | none => simp
  | some token =>
      cases hgiven : authorization py headers with
      | none => simp
      | some given =>
          simp only [bind_eq_error_iff, encodeUtf8_eq_error_iff, isScalar_bearer,
            Option.some.injEq, exists_and_left, exists_eq_left']
          constructor
          · rintro (⟨hscalar, rfl⟩ | ⟨_, -, ⟨hscalar, rfl⟩ | ⟨_, -, hpure⟩⟩)
            · exact ⟨.inl hscalar, rfl⟩
            · exact ⟨.inr hscalar, rfl⟩
            · simp [pure, Except.pure] at hpure
          · rintro ⟨hscalar, rfl⟩
            by_cases hfirst : given.isScalar = false
            · exact .inl ⟨hfirst, rfl⟩
            · obtain ⟨bytes, hbytes⟩ := encodeUtf8_eq_ok given (Bool.not_eq_false _ ▸ hfirst)
              exact .inr ⟨bytes, hbytes, .inl ⟨hscalar.resolve_left hfirst, rfl⟩⟩

/-- The dictionary a callback leaves does not yield an acknowledgement. -/
def Unreportable (left : PyDict) : Prop :=
  ∀ sequence ack, left.get "business_sequence" = some sequence → py.str sequence ≠ .ok ack

/-- The answer to a ledger callback raises when the dictionary it leaves yields no
acknowledgement. -/
theorem Invocation.respond_isOk_iff (invocation : Invocation) :
    (∃ response, invocation.respond py (invocation.run r) = .ok response) ↔
      ¬ ∃ event delivery left, invocation = .ledger event delivery ∧
        r.onLedger event delivery = .returns left ∧ Unreportable py left := by
  cases invocation with
  | notification event delivery =>
      simp only [reduceCtorEq, false_and, exists_false, not_false_eq_true, iff_true]
      cases hresult : Invocation.run r (.notification event delivery) <;>
        exact ⟨_, rfl⟩
  | ledger event delivery =>
      simp only [Invocation.run]
      cases hresult : r.onLedger event delivery with
      | raises => simp [Invocation.respond, hresult]
      | returns left =>
          have hsame : (∃ event' delivery' left', Invocation.ledger event delivery =
              .ledger event' delivery' ∧ r.onLedger event' delivery' = .returns left' ∧
              Unreportable py left') ↔ Unreportable py left := by
            constructor
            · rintro ⟨event', delivery', left', hinvocation, hleft, hun⟩
              obtain ⟨rfl, rfl⟩ := Invocation.ledger.inj hinvocation
              rw [hresult] at hleft
              obtain rfl := CallbackResult.returns.inj hleft
              exact hun
            · intro hun
              exact ⟨event, delivery, left, rfl, hresult, hun⟩
          rw [hsame]
          unfold Invocation.respond Unreportable
          cases hleft : left.get "business_sequence" with
          | none => simp [hleft]
          | some sequence =>
              cases hstr : py.str sequence <;>
                simp [hleft, hstr, bind, Except.bind, pure, Except.pure]

/-- The exceptions that escape `receive` for a body of bytes: the authorization
cannot be encoded, the validation looks a list or a dictionary up in a set, or
the dictionary a ledger callback leaves yields no acknowledgement. -/
def WebhookReceiver.Escapes (body : List UInt8) : Prop :=
  r.AuthorizationRaises py headers ∨
    ∃ event, r.Delivers py headers (.bytes body) body event ∧
      (EventRaises py event ∨
        event.has "business_sequence" = true ∧ validateLedger py event = .ok () ∧
          ∃ left, r.onLedger event (deliveryContext py headers body) = .returns left ∧
            Unreportable py left)

theorem decodeSized_object {raw raw' : List UInt8} {limit : ℕ} {decoded : PyValue}
    {event : PyDict} (h : decodeSized raw limit decoded = .object raw' event) :
    raw' = raw := by
  unfold decodeSized at h
  split at h
  · simp at h
  · split at h
    · exact (Decoded.object.inj h).1.symm
    · simp at h

/-- Bytes are kept as they came. -/
theorem decodePayload_bytes_object {body raw : List UInt8} {limit : ℕ} {event : PyDict}
    (h : decodePayload py (.bytes body) limit = .ok (.object raw event)) : raw = body := by
  simp only [decodePayload, decodeBytes] at h
  split at h
  · simp at h
  · rw [bind_eq_ok_iff] at h
    obtain ⟨decoded, -, h⟩ := h
    split at h
    · simp [pure, Except.pure] at h
    · exact decodeSized_object (Except.ok.inj h)

/-- A decoder that raises nothing else lets `_decode_payload` raise nothing. -/
theorem decodePayload_bytes_ne_error (hloads : ∀ raw, ∃ value, py.loads raw = .ok value)
    (body : List UInt8) (limit : ℕ) (e : PyError) :
    decodePayload py (.bytes body) limit ≠ .error e := by
  obtain ⟨value, hvalue⟩ := hloads body
  simp only [decodePayload, decodeBytes, hvalue]
  split
  · simp
  · cases value <;> simp [bind, Except.bind, pure, Except.pure]

/-- Which requests raise before a callback is invoked. -/
theorem WebhookReceiver.dispatch_raises_iff
    (hloads : ∀ raw, ∃ value, py.loads raw = .ok value) (body : List UInt8) :
    (∃ e, r.dispatch py headers (.bytes body) = .error e) ↔
      r.AuthorizationRaises py headers ∨
        ∃ event, r.Delivers py headers (.bytes body) body event ∧ EventRaises py event := by
  constructor
  · rintro ⟨e, h⟩
    rcases r.dispatch_cases py headers (.bytes body) with
      ⟨e', hauthorized, -⟩ | ⟨response, hresponse⟩ | ⟨e', hdecode, -⟩ |
      ⟨raw, event, hdelivers, heq⟩
    · exact .inl ((r.authorized_eq_error_iff py headers e').mp hauthorized).1
    · simp [hresponse] at h
    · exact absurd hdecode (decodePayload_bytes_ne_error py hloads body _ e')
    · obtain rfl := decodePayload_bytes_object py hdelivers.decodes
      rw [heq, dispatchEvent_eq_error_iff] at h
      exact .inr ⟨event, hdelivers, h.1⟩
  · rintro (hraises | ⟨event, hdelivers, hraises⟩)
    · have hauthorized := (r.authorized_eq_error_iff py headers _).mpr ⟨hraises, rfl⟩
      rw [authorization] at hauthorized
      exact ⟨.unicodeEncodeError, by simp [dispatch, hauthorized, bind, Except.bind]⟩
    · refine ⟨.typeError, ?_⟩
      rw [hdelivers.dispatch_eq, dispatchEvent_eq_error_iff]
      exact ⟨hraises, rfl⟩

/-- Which ledger callbacks a body invokes. -/
theorem WebhookReceiver.dispatch_ledger_iff (body : List UInt8) (event : PyDict)
    (delivery : WebhookContext) :
    r.dispatch py headers (.bytes body) = .ok (.invoke (.ledger event delivery)) ↔
      delivery = deliveryContext py headers body ∧
        r.Delivers py headers (.bytes body) body event ∧
        event.has "business_sequence" = true ∧ validateLedger py event = .ok () := by
  rw [r.dispatch_eq_invoke_iff py headers (.bytes body)]
  constructor
  · rintro ⟨raw, event', hdelivers, hselects⟩
    obtain rfl := decodePayload_bytes_object py hdelivers.decodes
    cases hselects with
    | ledger hledger hvalid => exact ⟨rfl, hdelivers, hledger, hvalid⟩
  · rintro ⟨rfl, hdelivers, hledger, hvalid⟩
    exact ⟨body, event, hdelivers, .ledger hledger hvalid⟩

/-- `receive` returns a response for a body of bytes exactly when none of the
listed exceptions escapes, provided that `json.loads` raises only what the
receiver catches. -/
theorem receive_returns_iff (hloads : ∀ raw, ∃ value, py.loads raw = .ok value)
    (body : List UInt8) :
    (∃ response, (r.receive py headers (.bytes body)).outcome = .ok response) ↔
      ¬ r.Escapes py headers body := by
  have hescapes : r.Escapes py headers body ↔
      (∃ e, r.dispatch py headers (.bytes body) = .error e) ∨
        ∃ event delivery left,
          r.dispatch py headers (.bytes body) = .ok (.invoke (.ledger event delivery)) ∧
          r.onLedger event delivery = .returns left ∧ Unreportable py left := by
    rw [r.dispatch_raises_iff py headers hloads]
    simp only [r.dispatch_ledger_iff py headers body]
    unfold WebhookReceiver.Escapes
    constructor
    · rintro (hraises | ⟨event, hdelivers, hraises | ⟨hledger, hvalid, left, hleft, hun⟩⟩)
      · exact .inl (.inl hraises)
      · exact .inl (.inr ⟨event, hdelivers, hraises⟩)
      · exact .inr ⟨event, _, left, ⟨rfl, hdelivers, hledger, hvalid⟩, hleft, hun⟩
    · rintro ((hraises | ⟨event, hdelivers, hraises⟩) |
        ⟨event, _, left, ⟨rfl, hdelivers, hledger, hvalid⟩, hleft, hun⟩)
      · exact .inl hraises
      · exact .inr ⟨event, hdelivers, .inl hraises⟩
      · exact .inr ⟨event, hdelivers, .inr ⟨hledger, hvalid, left, hleft, hun⟩⟩
  rw [hescapes]
  unfold WebhookReceiver.receive
  rcases hdispatch : r.dispatch py headers (.bytes body) with e | (response | invocation)
  · simp
  · simp
  · simp only [Invocation.respond_isOk_iff, reduceCtorEq, exists_false, false_or,
      Except.ok.injEq, Dispatch.invoke.injEq]

end Admission

/-! ## Two deliveries -/

/-- An interpreter that decodes one body, and knows no digits but the ASCII ones. -/
def oneBody (body : List UInt8) (members : List (Text × Json)) : Interpreter where
  loads raw := .ok (if raw = body then some (.dict (PyValue.ofMembers members)) else none)
  dumps _ := .ok []
  lower := lower
  repr _ := .ok []
  isDigit := isAsciiDigit
  decimal c := if isAsciiDigit c then some (c.toNat - '0'.toNat) else none
  maxStrDigits := 4300
  isDigit_ascii := asciiDigit_isDigit
  decimal_ascii := asciiDigit_decimal
  maxStrDigits_threshold := defaultMaxStrDigits_threshold

/-- A receiver without a bearer token. -/
def openReceiver (onLedger : Callback) : WebhookReceiver where
  onLedger := onLedger
  onNotification := fun event _ => .returns event
  bearerToken := none
  maxBodyBytes := 1048576
  bearerToken_ne_empty := nofun
  maxBodyBytes_pos := Nat.succ_pos 1048575

/-- The headers of a delivery. -/
def outboxHeaders : List (PyStr × PyStr) := [(str "X-Mizan-Outbox-Id", str "outbox-1")]

/-- A decoded body of such a delivery. -/
theorem delivers_oneBody (onLedger : Callback) {body : List UInt8}
    (members : List (Text × Json))
    (hlength : 0 < body.length ∧ body.length ≤ 1048576) :
    (openReceiver onLedger).Delivers (oneBody body members) outboxHeaders (.bytes body) body
      (PyValue.ofMembers members) := by
  have houtbox : strip ((lookupLast (outboxHeaders.map fun h => (lower h.1, h.2))
      (str "x-mizan-outbox-id")).getD []) ≠ [] := by decide
  have hnonempty : body.isEmpty = false := by
    simpa [List.isEmpty_eq_false_iff] using List.ne_nil_of_length_pos hlength.1
  have hfits : ¬ 1048576 < body.length := Nat.not_lt.mpr hlength.2
  refine ⟨rfl, houtbox, ?_⟩
  simp [decodePayload, decodeBytes, hnonempty, oneBody, decodeSized, openReceiver, hfits,
    bind, Except.bind, pure, Except.pure]

/-- The body of a rejected usage. -/
def usageBody : List UInt8 :=
  asciiBytes "\x7b\"event_id\":\"e\",\"business_id\":\"b\",\"business_sequence\":7," ++
    asciiBytes "\"entry\":\x7b\"id\":\"e\",\"entry_type\":\"usage_rejected\"," ++
    asciiBytes "\"source_command\":\"c\",\"source_event_id\":\"s\",\"effective_at\":\"t\"," ++
    asciiBytes "\"catalog_version\":\"v\",\"policy_version\":\"p\",\"metadata\":\x7b\x7d\x7d," ++
    asciiBytes "\"postings\":[]\x7d"

/-- A text member of an object. -/
def textMember (name value : String) : Text × Json :=
  (Text.ofString name, .string (Text.ofString value))

/-- The members of that body. -/
def usageMembers : List (Text × Json) :=
  [textMember "event_id" "e", textMember "business_id" "b",
    (Text.ofString "business_sequence", .number (.integer false 7)),
    (Text.ofString "entry", .object
      [textMember "id" "e", textMember "entry_type" "usage_rejected",
        textMember "source_command" "c", textMember "source_event_id" "s",
        textMember "effective_at" "t", textMember "catalog_version" "v",
        textMember "policy_version" "p", (Text.ofString "metadata", .object [])]),
    (Text.ofString "postings", .array [])]

theorem usageBody_length : 0 < usageBody.length ∧ usageBody.length ≤ 1048576 := by
  simp only [usageBody, List.length_append]
  decide

/-- That body is handed to the ledger callback. -/
theorem dispatch_usage (onLedger : Callback) :
    (openReceiver onLedger).dispatch (oneBody usageBody usageMembers) outboxHeaders
        (.bytes usageBody) =
      .ok (.invoke (.ledger (PyValue.ofMembers usageMembers)
        (deliveryContext (oneBody usageBody usageMembers) outboxHeaders usageBody))) := by
  have hvalid : validateLedger (oneBody usageBody usageMembers)
      (PyValue.ofMembers usageMembers) = .ok () := by
    rfl
  exact ((openReceiver onLedger).dispatch_ledger_iff _ _ _ _ _).mpr
    ⟨rfl, delivers_oneBody onLedger usageMembers usageBody_length, rfl, hvalid⟩

/-- A callback that takes the sequence out of the dictionary it was handed. -/
def popSequence : Callback := fun event _ =>
  .returns (event.filter fun entry => entry.1 != str "business_sequence")

/-- After a callback that pops the sequence, `receive` raises a `KeyError`. -/
theorem popSequence_unfaithful :
    ¬ ∀ event delivery, .ledger event delivery ∈
        ((openReceiver popSequence).receive (oneBody usageBody usageMembers) outboxHeaders
          (.bytes usageBody)).invoked →
      (∃ raw, decodePayload (oneBody usageBody usageMembers) (.bytes usageBody)
        (openReceiver popSequence).maxBodyBytes = .ok (.object raw event)) ∧
      FaithfulAnswer event ((openReceiver popSequence).onLedger event delivery)
        ((openReceiver popSequence).receive (oneBody usageBody usageMembers) outboxHeaders
          (.bytes usageBody)).outcome := by
  intro h
  have hinvoke := dispatch_usage popSequence
  have hfaithful := (h _ _ (((openReceiver popSequence).mem_invoked_iff _ _ _ _).mpr hinvoke)).2
  rw [(openReceiver popSequence).receive_of_invoke _ _ _ hinvoke] at hfaithful
  obtain ⟨response, n, houtcome, -⟩ := hfaithful
  have hraises : (Invocation.ledger (PyValue.ofMembers usageMembers)
      (deliveryContext (oneBody usageBody usageMembers) outboxHeaders usageBody)).respond
        (oneBody usageBody usageMembers)
        (.returns ((PyValue.ofMembers usageMembers).filter fun entry =>
          entry.1 != str "business_sequence")) = .error (.keyError "business_sequence") := by
    rfl
  simp [Invocation.run, openReceiver, popSequence, hraises] at houtcome

/-- A callback that leaves the dictionary as it is. -/
def keepEvent : Callback := fun event _ => .returns event

/-- For such a callback nothing escapes. -/
theorem keepEvent_returns :
    ¬ (openReceiver keepEvent).Escapes (oneBody usageBody usageMembers) outboxHeaders
      usageBody := by
  have hanswer : (Invocation.ledger (PyValue.ofMembers usageMembers)
      (deliveryContext (oneBody usageBody usageMembers) outboxHeaders usageBody)).respond
        (oneBody usageBody usageMembers) (.returns (PyValue.ofMembers usageMembers)) =
      .ok ⟨204, [(ackSequenceHeader, str "7")], none⟩ := by
    rfl
  refine (receive_returns_iff _ _ _ (fun raw => ⟨_, rfl⟩) _).mp
    ⟨⟨204, [(ackSequenceHeader, str "7")], none⟩, ?_⟩
  rw [(openReceiver keepEvent).receive_of_invoke _ _ _ (dispatch_usage keepEvent)]
  exact hanswer

/-- The body of a notification whose type is a list. -/
def listTypeBody : List UInt8 :=
  asciiBytes "\x7b\"type\":[],\"business_id\":\"b\",\"feature_code\":\"f\"\x7d"

/-- Its members. -/
def listTypeMembers : List (Text × Json) :=
  [(Text.ofString "type", .array []), textMember "business_id" "b",
    textMember "feature_code" "f"]

/-- A notification whose type is a list makes a `TypeError` escape. -/
theorem listType_escapes :
    (∀ raw, ∃ value, (oneBody listTypeBody listTypeMembers).loads raw = .ok value) ∧
    ¬ ∃ response, ((openReceiver popSequence).receive (oneBody listTypeBody listTypeMembers)
      outboxHeaders (.bytes listTypeBody)).outcome = .ok response := by
  refine ⟨fun raw => ⟨_, rfl⟩, ?_⟩
  rintro ⟨response, hresponse⟩
  have hlength : 0 < listTypeBody.length ∧ listTypeBody.length ≤ 1048576 := by decide
  have hdelivers := delivers_oneBody popSequence listTypeMembers hlength
  have hraises : dispatchEvent (oneBody listTypeBody listTypeMembers)
      (PyValue.ofMembers listTypeMembers)
      (deliveryContext (oneBody listTypeBody listTypeMembers) outboxHeaders listTypeBody) =
        .error .typeError := by
    rfl
  simp [WebhookReceiver.receive, hdelivers.dispatch_eq, hraises] at hresponse

end MizanSDK.Python
