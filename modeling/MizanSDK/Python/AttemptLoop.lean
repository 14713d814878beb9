import MizanSDK.Python.Methods

/-!
# The attempt loop of the Python client

What one attempt amounts to, and what the loop makes of it.  `Reply` is the
classification the loop acts on; unlike in the Go client a rejection may turn
into an exception of the language, and so may the backoff.

Main results:

- Theorem `attempt_verdict`: the verdict of an attempt is a function of its
  reply.
- Theorem `attempt_isAgain_iff`: a further attempt is made for a mutation only,
  before the last attempt, after a reply that asks for it and a backoff that
  can be computed.
- Theorem `request_decided`: a call whose body encodes sends the requests up to
  its deciding attempt and ends as that attempt does.
-/

namespace MizanSDK.Python

open JsonText BoundedRetry

/-! ## Replies -/

/-- The outcome of an attempt as far as the loop tells outcomes apart. -/
inductive Reply where
  | networkError (exc : NetworkError)
  | oversize
  | invalidJson
  | nonObject
  | success (payload : PyDict)
  | badEnvelope
  | rejection (status : ℤ) (headers : List (PyStr × PyStr)) (error : PyDict)

/-- Classify a response whose payload was decoded. -/
def PyValue.reply (status : ℤ) (headers : List (PyStr × PyStr)) : PyValue → Reply
  | .dict payload =>
      if 200 ≤ status ∧ status < 300 then .success payload
      else
        match (PyDict.get payload "error").getD (.dict []) with
        | .dict error => .rejection status headers error
        | _ => .badEnvelope
  | _ => .nonObject

/-- Classify the outcome of an attempt. -/
def TransportOutcome.reply (env : Env) : TransportOutcome → Reply
  | .raises exc => .networkError exc
  | .returns status headers raw =>
      if responseLimit < raw.length then .oversize
      else (env.payload raw).elim .invalidJson (PyValue.reply status headers)

/-- The reply to attempt `k`. -/
def Env.reply (env : Env) (k : ℕ) : Reply := (env.transport k).reply env

/-- The code of an error envelope. -/
def errorCode (error : PyDict) : PyValue :=
  (error.get "code").getD (.str (str "HTTP_ERROR"))

/-- The details of an error envelope. -/
def errorDetails (error : PyDict) : PyValue := (error.get "details").getD (.dict [])

/-- Whether an error envelope calls itself retryable. -/
def errorRetryable (error : PyDict) : Bool :=
  ((error.get "retryable").getD (.bool false)).truthy

/-- Whether an error envelope makes an API error. -/
def makesError (error : PyDict) : Bool :=
  (errorCode error).hashable && (dictOf (errorDetails error)).isOk

theorem makesError_iff (key : Option PyStr) (status : ℤ) (headers : List (PyStr × PyStr))
    (error : PyDict) :
    makesError error = true ↔ ∃ err, apiErrorOf key status headers error = .ok err := by
  rw [apiErrorOf_isOk_iff]
  unfold makesError errorCode errorDetails
  rw [Bool.and_eq_true]
  cases dictOf ((error.get "details").getD (.dict [])) <;> simp [Except.isOk, Except.toBool]

/-- A network error, or an API error that calls itself retryable. -/
def Reply.asksRetry : Reply → Bool
  | .networkError _ => true
  | .rejection _ _ error => makesError error && errorRetryable error
  | _ => false

/-- What a call ends with when attempt `k` has this reply and is its last. -/
def Reply.terminal (call : Call) (k : ℕ) : Reply → Outcome
  | .networkError _ =>
      .raised (.transport ⟨"Request outcome is unknown after " ++ toString k ++ " attempt(s)",
        call.correlationId, call.key⟩)
  | .oversize =>
      .raised (.protocol ⟨"Mizan response exceeded the 2 MiB safety limit",
        call.correlationId, call.key⟩)
  | .invalidJson =>
      .raised (.protocol ⟨"Mizan returned invalid JSON", call.correlationId, call.key⟩)
  | .nonObject =>
      .raised (.protocol ⟨"Mizan returned a non-object JSON response", call.correlationId,
        call.key⟩)
  | .success payload => .response payload
  | .badEnvelope =>
      .raised (.protocol ⟨"Mizan returned an invalid error envelope", call.correlationId,
        call.key⟩)
  | .rejection status headers error =>
      match apiErrorOf call.key status headers error with
      | .ok err => .raised (.api err)
      | .error exc => .raised (.other exc)

/-- The exception a retry carries on from a reply that asks for it. -/
def Reply.cause (call : Call) : Reply → LastError
  | .networkError exc => .network exc
  | .rejection status headers error =>
      match apiErrorOf call.key status headers error with
      | .ok err => .api err
      | .error _ => .network (.osError "")
  | _ => .network (.osError "")

/-! ## The verdict of an attempt -/

/-- A network error ends a read and the last attempt. -/
theorem Call.uncertain_eq (call : Call) (maxAttempts k : ℕ) (exc : NetworkError) :
    call.uncertain maxAttempts k exc =
      if call.mutation = true ∧ k ≠ maxAttempts then backoff k (.network exc)
      else .stop ((Reply.networkError exc).terminal call k) := by
  unfold Call.uncertain
  cases hm : call.mutation
  · simp [Reply.terminal]
  · by_cases hk : k = maxAttempts <;> simp [hk, Reply.terminal]

/-- An API error ends a read, the last attempt, and a call the server does not
allow to be retried; an envelope that makes none ends every call. -/
theorem Call.rejection_eq (call : Call) (maxAttempts k : ℕ) (status : ℤ)
    (headers : List (PyStr × PyStr)) (error : PyDict) :
    (match apiErrorOf call.key status headers error with
      | .error exc => .stop (.raised (.other exc))
      | .ok apiError =>
          if !call.mutation || !apiError.retryable || k == maxAttempts then
            .stop (.raised (.api apiError))
          else backoff k (.api apiError)) =
      if call.mutation = true ∧ k ≠ maxAttempts ∧
          (Reply.rejection status headers error).asksRetry = true then
        backoff k ((Reply.rejection status headers error).cause call)
      else .stop ((Reply.rejection status headers error).terminal call k) := by
  have hmakes := makesError_iff call.key status headers error
  cases hapi : apiErrorOf call.key status headers error with
  | error exc =>
      have hnot : makesError error = false := by
        rw [hapi] at hmakes
        simpa using hmakes
      simp [Reply.asksRetry, Reply.terminal, hnot, hapi]
  | ok err =>
      have hasks : (Reply.rejection status headers error).asksRetry = err.retryable := by
        have hyes : makesError error = true := hmakes.mpr ⟨err, hapi⟩
        rw [(apiErrorOf_ok hapi).2.2.2]
        simp [Reply.asksRetry, hyes, errorRetryable]
      rw [hasks]
      simp only [Reply.cause, Reply.terminal, hapi]
      cases hm : call.mutation
      · simp
      · by_cases hk : k = maxAttempts
        · simp [hk]
        · cases hr : err.retryable <;> simp [hk]

/-- What the loop makes of a decoded payload. -/
theorem Call.verdict_of_payload {call : Call} {env : Env} {maxAttempts k : ℕ} {status : ℤ}
    {headers : List (PyStr × PyStr)} {raw : List UInt8} {payload : PyValue}
    (hsize : ¬ responseLimit < raw.length) (hpayload : env.payload raw = some payload) :
    call.decide env maxAttempts k status headers raw =
      if call.mutation = true ∧ k ≠ maxAttempts ∧
          (payload.reply status headers).asksRetry = true then
        backoff k ((payload.reply status headers).cause call)
      else .stop ((payload.reply status headers).terminal call k) := by
  simp only [Call.decide, if_neg hsize, hpayload]
  cases payload with
  | dict payload =>
      by_cases hstatus : 200 ≤ status ∧ status < 300
      · simp [PyValue.reply, hstatus, Reply.asksRetry, Reply.terminal]
      · have hreply : (PyValue.dict payload).reply status headers =
            match (PyDict.get payload "error").getD (.dict []) with
            | .dict error => .rejection status headers error
            | _ => .badEnvelope := by
          simp only [PyValue.reply, if_neg hstatus]
        rw [hreply]
        simp only [if_neg hstatus]
        rcases (PyDict.get payload "error").getD (.dict []) with
          _ | _ | _ | _ | _ | _ | error
        case dict => exact call.rejection_eq maxAttempts k status headers error
        all_goals simp [Call.protocolError, Reply.asksRetry, Reply.terminal]
  | _ => simp [PyValue.reply, Call.protocolError, Reply.asksRetry, Reply.terminal]

/-- What the loop makes of the outcome of attempt `k`. -/
theorem Call.verdict_of_outcome (call : Call) (env : Env) (maxAttempts k : ℕ)
    (outcome : TransportOutcome) :
    (match outcome with
      | .raises exc => call.uncertain maxAttempts k exc
      | .returns status headers raw => call.decide env maxAttempts k status headers raw) =
      if call.mutation = true ∧ k ≠ maxAttempts ∧ (outcome.reply env).asksRetry = true then
        backoff k ((outcome.reply env).cause call)
      else .stop ((outcome.reply env).terminal call k) := by
  cases outcome with
  | raises exc =>
      simp [TransportOutcome.reply, Call.uncertain_eq, Reply.asksRetry, Reply.cause]
  | returns status headers raw =>
      by_cases hsize : responseLimit < raw.length
      · simp [TransportOutcome.reply, Call.decide, hsize, Call.protocolError,
          Reply.asksRetry, Reply.terminal]
      · cases hpayload : env.payload raw with
        | none =>
            simp [TransportOutcome.reply, Call.decide, hsize, hpayload, Call.protocolError,
              Reply.asksRetry, Reply.terminal]
        | some payload =>
            have hreply : (TransportOutcome.returns status headers raw).reply env =
                payload.reply status headers := by
              simp [TransportOutcome.reply, hsize, hpayload]
            rw [hreply]
            exact Call.verdict_of_payload hsize hpayload

/-- The verdict of an attempt is a function of its reply. -/
theorem MizanClient.attempt_verdict (c : MizanClient) (env : Env) (call : Call) (k : ℕ) :
    (c.attempt env call k).verdict =
      if call.mutation = true ∧ k ≠ c.maxAttempts ∧ (env.reply k).asksRetry = true then
        backoff k ((env.reply k).cause call)
      else .stop ((env.reply k).terminal call k) :=
  call.verdict_of_outcome env c.maxAttempts k (env.transport k)

/-- The backoff after attempt `k` can be computed up to attempt 1024. -/
theorem backoff_eq (k : ℕ) (err : LastError) :
    backoff k err =
      if k ≤ maxExponent + 1 then .again err else .stop (.raised (.other .overflowError)) := by
  unfold backoff
  by_cases hover : overflowsFloat (2 ^ (k - 1)) = true
  · have hlarge := (overflowsFloat_pow_iff (k - 1)).mp hover
    rw [if_pos hover, if_neg (by omega)]
  · have hsmall := (overflowsFloat_pow_iff (k - 1)).not.mp hover
    rw [if_neg hover, if_pos (by omega)]

/-- A further attempt needs a mutation, a remaining attempt, a reply that asks
for it and a backoff that can be computed. -/
theorem MizanClient.attempt_isAgain_iff (c : MizanClient) (env : Env) (call : Call) (k : ℕ) :
    (c.attempt env call k).verdict.isAgain = true ↔
      call.mutation = true ∧ k ≠ c.maxAttempts ∧ (env.reply k).asksRetry = true ∧
        k ≤ maxExponent + 1 := by
  rw [c.attempt_verdict]
  by_cases hretry : call.mutation = true ∧ k ≠ c.maxAttempts ∧
      (env.reply k).asksRetry = true
  · rw [if_pos hretry, backoff_eq]
    by_cases hk : k ≤ maxExponent + 1 <;> simp [hk, hretry]
  · rw [if_neg hretry]
    simp only [Verdict.isAgain_stop, Bool.false_eq_true, false_iff]
    exact fun hall => hretry ⟨hall.1, hall.2.1, hall.2.2.1⟩

/-! ## Whole calls -/

/-- Every call is decided by one of its attempts. -/
theorem MizanClient.exists_decides (c : MizanClient) (env : Env) (call : Call) :
    ∃ j r, Decides (c.attempt env call) 1 c.maxAttempts j r := by
  refine BoundedRetry.exists_decides c.maxAttempts_pos ?_
  have hlast : 1 + c.maxAttempts - 1 = c.maxAttempts := by omega
  rw [hlast]
  have hnot := (c.attempt_isAgain_iff env call c.maxAttempts).not.mpr (by simp)
  simpa using hnot

/-- A call whose body encodes sends the requests up to its deciding attempt and
ends as that attempt does. -/
theorem MizanClient.request_decided (c : MizanClient) {env : Env} {method : String}
    {path : PyStr} {body : Option PyDict} {businessId : PyStr} {idempotencyKey : Option PyStr}
    {mutation : Bool} {extraHeaders : List (String × PyStr)} {encoded : Option (List UInt8)}
    {call : Call}
    (hcall : call =
      env.newCall method path encoded businessId idempotencyKey mutation extraHeaders)
    (hencode : env.encode body = .ok encoded) :
    ∃ j r, Decides (c.attempt env call) 1 c.maxAttempts j r ∧
      c.request env method path body businessId idempotencyKey mutation extraHeaders =
        ⟨(List.range' 1 j).map (c.buildRequest env call), r⟩ := by
  subst hcall
  obtain ⟨j, r, hdec⟩ := c.exists_decides env
    (env.newCall method path encoded businessId idempotencyKey mutation extraHeaders)
  refine ⟨j, r, hdec, ?_⟩
  simp only [MizanClient.request, hencode]
  rw [loop_eq_of_decides hdec]
  have hcount : j + 1 - 1 = j := by omega
  simp only [hcount, MizanClient.attempt_sent, List.filterMap_eq_map']

/-- A call whose body does not encode sends nothing. -/
theorem MizanClient.request_unsent {c : MizanClient} {env : Env} {method : String}
    {path : PyStr} {body : Option PyDict} {businessId : PyStr} {idempotencyKey : Option PyStr}
    {mutation : Bool} {extraHeaders : List (String × PyStr)} {exc : PyError}
    (h : env.encode body = .error exc) :
    (c.request env method path body businessId idempotencyKey mutation extraHeaders).attempts =
      [] := by
  simp only [MizanClient.request, h]

theorem Reply.terminal_typed (reply : Reply) (call : Call) (k : ℕ) :
    (reply.terminal call k).Typed := by
  intro err herr
  cases reply with
  | rejection status headers error =>
      simp only [Reply.terminal] at herr
      split at herr
      · rename_i err' hmade
        obtain rfl : err' = err := by simpa using herr
        exact apiErrorOf_typed hmade
      · simp at herr
  | _ => simp [Reply.terminal] at herr

/-- A call that is decided ends with an exception of the class of its code, if it ends with
a rejection. -/
theorem request_typed {c : MizanClient} {env : Env} {call : Call} {n j : ℕ} {r : Outcome}
    (h : BoundedRetry.Decides (c.attempt env call) 1 n j r) : r.Typed := by
  have hstop := h.stop
  rw [c.attempt_verdict] at hstop
  split at hstop
  · rw [backoff_eq] at hstop
    split at hstop
    · cases hstop
    · obtain rfl := BoundedRetry.Verdict.stop.inj hstop
      intro err herr
      cases herr
  · obtain rfl := BoundedRetry.Verdict.stop.inj hstop
    exact Reply.terminal_typed _ _ _

/-! ## Headers of an attempt -/

/-- The only header a call adds is the attribution of an admin. -/
def Call.OnlyAttribution (call : Call) : Prop :=
  ∀ nv ∈ call.extraHeaders, nv.1 = "X-Admin-Actor"

/-- Headers of an attempt other than the attribution. -/
theorem MizanClient.buildRequest_header {c : MizanClient} {env : Env} {call : Call}
    (hextra : call.OnlyAttribution) (k : ℕ) {name : String} (hname : name ≠ "X-Admin-Actor") :
    (c.buildRequest env call k).header name =
      (c.buildRequest env { call with extraHeaders := [] } k).header name := by
  have hnone : lookupLast call.extraHeaders name = none :=
    lookupLast_eq_none_iff.mpr fun nv hnv => by
      rw [hextra nv hnv]
      exact hname.symm
  simp only [MizanClient.buildRequest, Request.header, lookupLast_append, hnone,
    lookupLast_nil]

/-- Every attempt carries the correlation ID of its call. -/
theorem MizanClient.buildRequest_requestId {c : MizanClient} {env : Env} {call : Call}
    (hextra : call.OnlyAttribution) (k : ℕ) :
    (c.buildRequest env call k).header "X-Request-ID" = some call.correlationId := by
  rw [c.buildRequest_header hextra k (by decide)]
  simp only [MizanClient.buildRequest, Request.header]
  split <;> split <;> (try split) <;> simp [lookupLast_cons]

/-- Every attempt carries the key of its call, unless that is missing or empty. -/
theorem MizanClient.buildRequest_idempotencyKey {c : MizanClient} {env : Env} {call : Call}
    (hextra : call.OnlyAttribution) (k : ℕ) :
    (c.buildRequest env call k).header "Idempotency-Key" =
      call.key.filter fun key => key ≠ [] := by
  rw [c.buildRequest_header hextra k (by decide)]
  simp only [MizanClient.buildRequest, Request.header]
  cases call.key with
  | none => split <;> simp [lookupLast_cons]
  | some key =>
      by_cases hkey : key = []
      · split <;> simp [hkey, lookupLast_cons, Option.filter]
      · split <;> simp [hkey, lookupLast_cons, Option.filter]

end MizanSDK.Python
