import MizanSDK.Go.Requests
import MizanSDK.Go.Runtime
import MizanSDK.Library.BoundedRetry

/-!
# The Go client

`mizan.go`: building a request, the attempt loop of `requestWithHeaders`, the
decoding of API errors, and every public method of `Client` and `AdminClient`
that reaches the network.  What lies outside the SDK (the transport, the clock,
`json.Marshal`, the JSON grammar, the timer of the backoff) is a field of `Env`.
The `Logger` callback is left out: it gets copies and returns nothing.

Main results:

- Theorem `attempt_sent`: once a request can be built, every round hands one to
  the transport, and it differs from the others in its timestamp only.
- Theorem `backoffWait_of_select`: the wait ends as the `select` does unless
  `rand.Int63n` panics on the bound it is given.
-/

namespace MizanSDK.Go

open JsonText BoundedRetry

/-! ## Errors and outcomes -/

/-- `APIError`. -/
structure APIError where
  status : ℤ
  code : String
  message : String
  retryable : Bool
  details : GoMap
  requestID : String
  idempotencyKey : String

/-- `(*APIError).Error`. -/
def APIError.error (e : APIError) : GoError := ⟨"mizan: " ++ e.code ++ ": " ++ e.message⟩

/-- `TransportError`; the wrapped error is nil only if no attempt was made. -/
structure TransportError where
  err : Option GoError
  requestID : String
  idempotencyKey : String

/-- `ProtocolError`. -/
structure ProtocolError where
  message : String
  requestID : String
  idempotencyKey : String

/-- The error a client method returns. -/
inductive CallError where
  | plain (err : GoError)
  | api (err : APIError)
  | transport (err : TransportError)
  | protocol (err : ProtocolError)
  | context (err : GoError)

/-- The `IdempotencyKey` an error carries, if its type has one. -/
def CallError.idempotencyKey : CallError → Option String
  | .plain _ => none
  | .api e => some e.idempotencyKey
  | .transport e => some e.idempotencyKey
  | .protocol e => some e.idempotencyKey
  | .context _ => none

/-- The sentinels of the SDK with the codes they stand for. -/
def domainErrors : List (String × String) :=
  [("ErrInvalidRequest", "INVALID_REQUEST"),
    ("ErrUnauthorized", "UNAUTHORIZED"),
    ("ErrForbidden", "FORBIDDEN"),
    ("ErrNotFound", "NOT_FOUND"),
    ("ErrAccountInactive", "ACCOUNT_INACTIVE"),
    ("ErrSubscriptionInactive", "SUBSCRIPTION_INACTIVE"),
    ("ErrFeatureDisabled", "FEATURE_DISABLED"),
    ("ErrFeaturePausedBudget", "FEATURE_PAUSED_BUDGET"),
    ("ErrFeaturePausedManual", "FEATURE_PAUSED_MANUAL"),
    ("ErrInsufficientAzeerUnits", "INSUFFICIENT_AZEER_UNITS"),
    ("ErrInsufficientProviderBalance", "INSUFFICIENT_PROVIDER_BALANCE"),
    ("ErrPaymentAmountMismatch", "PAYMENT_AMOUNT_MISMATCH"),
    ("ErrIdempotencyKeyReused", "IDEMPOTENCY_KEY_REUSED"),
    ("ErrInternalRetryable", "INTERNAL_RETRYABLE")]

/-- `(*APIError).Is` at the sentinel of a code. -/
def APIError.is (e : APIError) (code : String) : Bool := code == e.code

/-- `errors.Is` at the sentinel of a code.  A `TransportError` unwraps to an error of the
transport, which is no `DomainError`. -/
def CallError.is : CallError → String → Bool
  | .api e, code => e.is code
  | _, _ => false

/-- How a call ends. -/
inductive Outcome where
  | response (body : GoMap)
  | error (err : CallError)
  | panic

/-- A call returns an error that matches the sentinel of a code. -/
def Outcome.Matches (outcome : Outcome) (code : String) : Prop :=
  ∃ err, outcome = .error err ∧ err.is code = true

/-- A call returns a `TransportError`. -/
def Outcome.Uncertain (outcome : Outcome) : Prop := ∃ err, outcome = .error (.transport err)

@[simp]
theorem Outcome.matches_error_iff (err : CallError) (code : String) :
    (Outcome.error err).Matches code ↔ err.is code = true := by
  simp [Outcome.Matches]

@[simp]
theorem Outcome.not_matches_response (body : GoMap) (code : String) :
    ¬ (Outcome.response body).Matches code := by
  simp [Outcome.Matches]

/-! ## The world around a call -/

/-- An HTTP request as it is handed to the transport. -/
structure HTTPRequest where
  method : String
  url : String
  header : Header
  body : List UInt8

/-- What `client.Do` yields for one attempt. -/
inductive SendOutcome where
  | failure (err : GoError)
  | response (statusCode : ℤ) (header : Header) (body : BodyStream)

/-- How the backoff after an attempt ends. -/
inductive Wait where
  | elapsed
  | cancelled (err : GoError)
  | panicked
deriving DecidableEq

/-- Everything a call takes from outside the SDK.  `newRequest` is the error of
`http.NewRequestWithContext`, which depends on the method and the URL only; `isPrint` is
the table of `strconv.IsPrint`, which follows the Unicode version of the Go release. -/
structure Env where
  parse : JsonParser
  isPrint : Char → Bool
  marshal : RequestBody → Except GoError (List UInt8)
  newRequest : (method url : String) → Option GoError
  keySeed : IDSeed
  correlationSeed : IDSeed
  timestamp : ℕ → String
  send : ℕ → SendOutcome
  wait : ℕ → Wait

/-- `Client`, without the HTTP client and the logger. -/
structure Client where
  baseURL : String
  token : String
  businessID : String
  maxAttempts : ℤ

/-- `AdminClient`; its `Role` is ignored by every method. -/
structure AdminClient where
  client : Client
  actor : String

/-! ## Backoff -/

/-- Two's-complement wrap-around of a 64-bit integer. -/
def wrapInt64 (n : ℤ) : ℤ := (n + 2 ^ 63) % 2 ^ 64 - 2 ^ 63

/-- `minDuration`. -/
def minDuration (a b : ℤ) : ℤ := if a < b then a else b

/-- The argument of `rand.Int63n` after attempt `attempt`, in nanoseconds. -/
def jitterBound (attempt : ℕ) : ℤ :=
  wrapInt64 (minDuration (2 * 1000000000)
    (wrapInt64 (100 * 1000000 * wrapInt64 (2 ^ (attempt - 1)))) + 1)

/-- The wait after an attempt: `rand.Int63n` panics unless its argument is
positive; otherwise the `select` on the context and the timer decides. -/
def backoffWait (select : ℕ → Option GoError) (attempt : ℕ) : Wait :=
  if jitterBound attempt ≤ 0 then .panicked
  else
    match select attempt with
    | some err => .cancelled err
    | none => .elapsed

/-- Unless `rand.Int63n` panics, the wait ends as the `select` does. -/
theorem backoffWait_of_select {select : ℕ → Option GoError} {attempt : ℕ}
    (h : 0 < jitterBound attempt) :
    backoffWait select attempt =
      match select attempt with
      | some err => .cancelled err
      | none => .elapsed := by
  simp [backoffWait, Int.not_le.mpr h]

/-! ## One attempt -/

/-- The version in the `User-Agent` header. -/
def version : String := "1.8.0"

/-- The arguments of `requestWithHeaders` together with what it computes before
the first attempt. -/
structure Call where
  method : String
  path : String
  businessID : String
  payload : Option (List UInt8)
  key : String
  mutation : Bool
  extraHeaders : List (String × String)
  correlationID : String
  attempts : ℕ

/-- The request of one attempt.  Body, correlation ID and key are those of the
call; the timestamp is that of the attempt. -/
def Client.buildRequest (c : Client) (env : Env) (call : Call) (attempt : ℕ) :
    HTTPRequest :=
  let header : Header := ∅
  let header := header.set "Authorization" ("Bearer " ++ c.token)
  let header := header.set "Accept" "application/json"
  let header := header.set "User-Agent" ("mizan-go/" ++ version)
  let header := header.set "X-Business-Id" call.businessID
  let header := header.set "X-Request-ID" call.correlationID
  let header := header.set "X-Request-Timestamp" (env.timestamp attempt)
  let header :=
    if call.payload.isSome then header.set "Content-Type" "application/json" else header
  let header := if call.key ≠ "" then header.set "Idempotency-Key" call.key else header
  let header := call.extraHeaders.foldl (fun h nv => h.set nv.1 nv.2) header
  { method := call.method
    url := c.baseURL ++ call.path
    header := header
    body := call.payload.getD [] }

/-- `decodeAPIError`: a member of the wrong JSON type keeps its default. -/
def decodeAPIError (status : ℤ) (body : GoMap) : APIError :=
  let e : APIError :=
    { status := status
      code := "HTTP_ERROR"
      message := "HTTP " ++ toString status
      retryable := false
      details := []
      requestID := ""
      idempotencyKey := "" }
  match lookupLast body "error" with
  | some (.map raw) =>
      let e := match lookupLast raw "code" with
        | some (.string v) => { e with code := v }
        | _ => e
      let e := match lookupLast raw "message" with
        | some (.string v) => { e with message := v }
        | _ => e
      let e := match lookupLast raw "retryable" with
        | some (.bool v) => { e with retryable := v }
        | _ => e
      let e := match lookupLast raw "details" with
        | some (.map v) => { e with details := v }
        | _ => e
      match lookupLast raw "request_id" with
      | some (.string v) => { e with requestID := v }
      | _ => e
  | _ => e

/-- The size limit of a response body. -/
def responseLimit : ℕ := 2097152

/-- The backoff before another attempt. -/
def Env.backoff (env : Env) (attempt : ℕ) (err : GoError) : Verdict GoError Outcome :=
  match env.wait attempt with
  | .elapsed => .again err
  | .cancelled ctxErr => .stop (.error (.context ctxErr))
  | .panicked => .stop .panic

/-- A send or read error: reads are not retried, and neither is the last
attempt. -/
def Call.uncertain (call : Call) (env : Env) (attempt : ℕ) (err : GoError) :
    Verdict GoError Outcome :=
  if !call.mutation || attempt == call.attempts then
    .stop (.error (.transport ⟨some err, call.correlationID, call.key⟩))
  else env.backoff attempt err

/-- A response whose body was read: the size and object checks, the success
exit, and the API error, which is retried only when it says so. -/
def Call.decide (call : Call) (env : Env) (attempt : ℕ) (statusCode : ℤ)
    (header : Header) (raw : List UInt8) : Verdict GoError Outcome :=
  if responseLimit < raw.length then
    .stop (.error (.protocol ⟨"response exceeded the 2 MiB safety limit",
      call.correlationID, call.key⟩))
  else
    match (if 0 < raw.length then unmarshalMap env.parse raw else some []) with
    | none =>
        .stop (.error (.protocol ⟨"invalid JSON object response (HTTP " ++
          toString statusCode ++ ")", call.correlationID, call.key⟩))
    | some result =>
        if 200 ≤ statusCode ∧ statusCode < 300 then .stop (.response result)
        else
          let apiErr := { decodeAPIError statusCode result with idempotencyKey := call.key }
          let apiErr :=
            if apiErr.requestID = "" then
              { apiErr with requestID := header.get "X-Request-ID" }
            else apiErr
          if !call.mutation || !apiErr.retryable || attempt == call.attempts then
            .stop (.error (.api apiErr))
          else env.backoff attempt apiErr.error

/-- The body of the attempt loop. -/
def Client.attempt (c : Client) (env : Env) (call : Call) (attempt : ℕ) :
    Round HTTPRequest GoError Outcome :=
  match env.newRequest call.method (c.baseURL ++ call.path) with
  | some reqErr => ⟨none, .stop (.error (.plain reqErr))⟩
  | none =>
      ⟨some (c.buildRequest env call attempt),
        match env.send attempt with
        | .failure sendErr => call.uncertain env attempt sendErr
        | .response statusCode header body =>
            -- Read one byte beyond the limit so oversized responses are detectable.
            match readAll (responseLimit + 1) body with
            | .error readErr => call.uncertain env attempt readErr
            | .ok raw => call.decide env attempt statusCode header raw⟩

/-- Once a request can be built, every round hands one to the transport. -/
theorem Client.attempt_sent {c : Client} {env : Env} {call : Call}
    (h : env.newRequest call.method (c.baseURL ++ call.path) = none) (k : ℕ) :
    (c.attempt env call k).sent = some (c.buildRequest env call k) := by
  simp [Client.attempt, h]

/-! ## Calls -/

/-- `attempts` in `requestWithHeaders`. -/
def Client.attempts (c : Client) : ℕ :=
  if c.maxAttempts < 1 then 1 else c.maxAttempts.toNat

/-- The encoding step: no body stays no body. -/
def Env.encode (env : Env) : Option RequestBody → Except GoError (Option (List UInt8))
  | none => .ok none
  | some body => (env.marshal body).map some

/-- What `requestWithHeaders` fixes before the first attempt. -/
def Client.newCall (c : Client) (env : Env) (method path businessID : String)
    (payload : Option (List UInt8)) (key : String) (mutation : Bool)
    (extraHeaders : List (String × String)) : Call :=
  { method, path, businessID, payload, key, mutation, extraHeaders
    correlationID := newID env.correlationSeed
    attempts := c.attempts }

/-- `requestWithHeaders`. -/
def Client.requestWithHeaders (c : Client) (env : Env) (method path businessID : String)
    (body : Option RequestBody) (key : String) (mutation : Bool)
    (extraHeaders : List (String × String)) : Run HTTPRequest Outcome :=
  match env.encode body with
  | .error err => ⟨[], .error (.plain ⟨"mizan: encode request: " ++ err.message⟩)⟩
  | .ok payload =>
      let call := c.newCall env method path businessID payload key mutation extraHeaders
      loop (c.attempt env call)
        (fun lastErr => .error (.transport ⟨lastErr, call.correlationID, key⟩))
        call.attempts 1 none

/-- A call that fails before anything is sent. -/
def reject (message : String) : Run HTTPRequest Outcome :=
  ⟨[], .error (.plain ⟨message⟩)⟩

/-- Go on with a call when a local check found nothing. -/
def guarded (check : Option String) (call : Run HTTPRequest Outcome) :
    Run HTTPRequest Outcome :=
  match check with
  | some message => reject message
  | none => call

/-- Two checks in a row report the first finding. -/
theorem guarded_guarded (first second : Option String) (call : Run HTTPRequest Outcome) :
    guarded first (guarded second call) = guarded (first.or second) call := by
  cases first <;> rfl

/-- The business binding of `request`: a bound client refuses every other
non-empty business ID. -/
def Client.scopeCheck (c : Client) (env : Env) (businessID : String) : Option String :=
  if c.businessID ≠ "" ∧ businessID ≠ "" ∧ businessID ≠ c.businessID then
    some ("mizan: client token is scoped to business " ++ quote env.isPrint c.businessID ++
      ", not " ++ quote env.isPrint businessID)
  else none

/-- `request`. -/
def Client.request (c : Client) (env : Env) (method path businessID : String)
    (body : Option RequestBody) (key : String) (mutation : Bool) :
    Run HTTPRequest Outcome :=
  guarded (c.scopeCheck env businessID)
    (c.requestWithHeaders env method path businessID body key mutation [])

/-- `mutate`: a missing key is generated once, before the attempt loop. -/
def Client.mutate (c : Client) (env : Env) (method path businessID : String)
    (body : RequestBody) (key : String) : Run HTTPRequest Outcome :=
  c.request env method path businessID (some body)
    (if key = "" then newID env.keySeed else key) true

/-- `businessPath`. -/
def businessPath (businessID suffix : String) : String :=
  "/v1/businesses/" ++ pathEscape businessID ++ "/" ++ suffix

end MizanSDK.Go
