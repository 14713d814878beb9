import MizanSDK.Library.BoundedRetry
import MizanSDK.Python.Runtime

/-!
# The Python client

`client.py`: building a request, the attempt loop of `_request` and the errors
it raises.  What lies outside the SDK (the transport, the clock, `uuid4`,
`json.dumps`, the UTF-8 and JSON decoders) is a field of `Env`.  The logger is
left out: it gets copies and returns nothing.

Main results:

- Theorem `apiErrorOf_isOk_iff`: which error envelopes make an API error; the
  others raise an exception of the language instead.
- Theorem `attempt_sent`: every round hands a request to the transport.
-/

namespace MizanSDK.Python

open JsonText BoundedRetry

/-! ## Errors -/

/-- `MizanAPIError` or the subclass `type`.  Code, message and request ID keep
the JSON type the server gave them. -/
structure MizanAPIError where
  type : String
  status : ℤ
  code : PyValue
  message : PyValue
  retryable : Bool
  details : List (PyValue × PyValue)
  requestId : PyValue
  idempotencyKey : Option PyStr

/-- `MizanTransportError`. -/
structure MizanTransportError where
  message : String
  requestId : PyStr
  idempotencyKey : Option PyStr

/-- `MizanProtocolError`. -/
structure MizanProtocolError where
  message : String
  requestId : PyStr
  idempotencyKey : Option PyStr

/-- An exception that leaves a client method. -/
inductive Raised where
  | api (err : MizanAPIError)
  | transport (err : MizanTransportError)
  | protocol (err : MizanProtocolError)
  | other (err : PyError)

/-- The `idempotency_key` of an exception; `none` unless it is a `MizanError`
that has one. -/
def Raised.idempotencyKey : Raised → Option PyStr
  | .api err => err.idempotencyKey
  | .transport err => err.idempotencyKey
  | .protocol err => err.idempotencyKey
  | .other _ => none

/-- The classes of the SDK an exception is an instance of. -/
def Raised.classes : Raised → List String
  | .api err => [err.type, "MizanAPIError", "MizanError"]
  | .transport _ => ["MizanTransportError", "MizanError"]
  | .protocol _ => ["MizanProtocolError", "MizanError"]
  | .other _ => []

/-- How a call ends. -/
inductive Outcome where
  | response (payload : PyDict)
  | raised (err : Raised)

/-- A call raises an instance of a class. -/
def Outcome.IsCaught (outcome : Outcome) (type : String) : Prop :=
  ∃ err, outcome = .raised err ∧ type ∈ err.classes

@[simp]
theorem Outcome.isCaught_raised_iff (err : Raised) (type : String) :
    (Outcome.raised err).IsCaught type ↔ type ∈ err.classes := by
  simp [Outcome.IsCaught]

@[simp]
theorem Outcome.not_isCaught_response (payload : PyDict) (type : String) :
    ¬ (Outcome.response payload).IsCaught type := by
  simp [Outcome.IsCaught]

/-- `_API_ERROR_TYPES`. -/
def apiErrorTypes : List (String × String) :=
  [("ACCOUNT_INACTIVE", "AccountInactiveError"),
    ("DEPENDENCY_TEMPORARILY_UNAVAILABLE", "DependencyTemporarilyUnavailableError"),
    ("DUPLICATE_PAYMENT_EVENT", "DuplicatePaymentEventError"),
    ("DUPLICATE_PROVIDER_EVENT", "DuplicateProviderEventError"),
    ("DUPLICATE_SOURCE_EVENT", "DuplicateSourceEventError"),
    ("EARLY_RENEWAL_EVENT", "EarlyRenewalEventError"),
    ("FEATURE_DISABLED", "FeatureDisabledError"),
    ("FEATURE_PAUSED_BUDGET", "FeaturePausedBudgetError"),
    ("FEATURE_PAUSED_MANUAL", "FeaturePausedManualError"),
    ("FORBIDDEN", "ForbiddenError"),
    ("IDEMPOTENCY_KEY_REUSED", "IdempotencyKeyReusedError"),
    ("INSUFFICIENT_AZEER_UNITS", "InsufficientAzeerUnitsError"),
    ("INSUFFICIENT_PROVIDER_BALANCE", "InsufficientProviderBalanceError"),
    ("INTERNAL_RETRYABLE", "InternalRetryableError"),
    ("INVALID_QUANTITY", "InvalidQuantityError"),
    ("INVALID_REQUEST", "InvalidRequestError"),
    ("INVARIANT_VIOLATION", "InvariantViolationError"),
    ("MISCONFIGURED", "MisconfiguredError"),
    ("NOT_FOUND", "NotFoundError"),
    ("PAYMENT_AMOUNT_MISMATCH", "PaymentAmountMismatchError"),
    ("QUOTE_REQUIRED", "QuoteRequiredError"),
    ("QUOTE_VERIFICATION_UNAVAILABLE", "QuoteVerificationUnavailableError"),
    ("REQUEST_TIMESTAMP_OUT_OF_RANGE", "RequestTimestampOutOfRangeError"),
    ("SENSITIVE_RESERVE_REACHED", "SensitiveReserveReachedError"),
    ("STALE_PLAN_VERSION", "StalePlanVersionError"),
    ("SUBSCRIPTION_CHANGE_PENDING", "SubscriptionChangePendingError"),
    ("SUBSCRIPTION_INACTIVE", "SubscriptionInactiveError"),
    ("UNAUTHORIZED", "UnauthorizedError")]

/-- `_API_ERROR_TYPES.get(code, MizanAPIError)`, which hashes the code. -/
def apiErrorType (code : PyValue) : Except PyError String :=
  if code.hashable then
    match code with
    | .str s => .ok ((apiErrorTypes.find? fun entry => str entry.1 == s).elim
        "MizanAPIError" Prod.snd)
    | _ => .ok "MizanAPIError"
  else .error .typeError

/-- The exception of a rejection is of the class of its code. -/
def Outcome.Typed (outcome : Outcome) : Prop :=
  ∀ err, outcome = .raised (.api err) → apiErrorType err.code = .ok err.type

/-! ## The world around a call -/

/-- A request as it is handed to the transport, with the headers given to the
constructor of `Request`. -/
structure Request where
  method : String
  url : PyStr
  headers : List (String × PyStr)
  data : Option (List UInt8)

/-- The value of a header of a request. -/
def Request.header (request : Request) (name : String) : Option PyStr :=
  lookupLast request.headers name

/-- The network exceptions the attempt loop catches. -/
inductive NetworkError where
  | urlError (message : String)
  | timeoutError (message : String)
  | osError (message : String)

/-- What the transport does with one request. -/
inductive TransportOutcome where
  | raises (exc : NetworkError)
  | returns (status : ℤ) (headers : List (PyStr × PyStr)) (raw : List UInt8)

/-- Everything a call takes from outside the SDK. -/
structure Env where
  dumps : PyDict → Except PyError (List UInt8)
  decode : List UInt8 → Option PyStr
  loads : PyStr → Option PyValue
  keyUuid : { s : PyStr // s ≠ [] }
  correlationUuid : PyStr
  timestamp : ℕ → PyStr
  transport : ℕ → TransportOutcome

/-- `MizanClient`, without timeout, transport and logger.  The constructor
refuses a `max_attempts` below one and an empty `business_id`. -/
structure MizanClient where
  baseUrl : PyStr
  token : PyStr
  businessId : Option PyStr
  maxAttempts : ℕ
  businessId_ne : businessId ≠ some []
  maxAttempts_pos : 1 ≤ maxAttempts

/-- `MizanAdminClient`; its constructor refuses an empty actor. -/
structure MizanAdminClient extends MizanClient where
  actor : PyStr
  actor_ne : actor ≠ []

/-! ## One attempt -/

/-- `__version__`. -/
def version : String := "1.8.0"

/-- The arguments of `_request` together with what it computes before the first
attempt. -/
structure Call where
  method : String
  path : PyStr
  businessId : PyStr
  encoded : Option (List UInt8)
  key : Option PyStr
  mutation : Bool
  extraHeaders : List (String × PyStr)
  correlationId : PyStr

/-- The request of one attempt. -/
def MizanClient.buildRequest (c : MizanClient) (env : Env) (call : Call) (attempt : ℕ) :
    Request :=
  let headers : List (String × PyStr) :=
    [("Authorization", str "Bearer " ++ c.token),
      ("Accept", str "application/json"),
      ("User-Agent", str ("mizan-python/" ++ version)),
      ("X-Business-Id", call.businessId),
      ("X-Request-ID", call.correlationId),
      ("X-Request-Timestamp", env.timestamp attempt)]
  let headers :=
    if call.encoded.isSome then headers ++ [("Content-Type", str "application/json")]
    else headers
  let headers := headers ++
    match call.key with
    | some key => if key ≠ [] then [("Idempotency-Key", key)] else []
    | none => []
  { method := call.method
    url := c.baseUrl ++ call.path
    headers := headers ++ call.extraHeaders
    data := call.encoded }

/-- The exception of an error envelope; the lookup of its class and the
conversion of its details may raise another one. -/
def apiErrorOf (key : Option PyStr) (status : ℤ) (headers : List (PyStr × PyStr))
    (error : PyDict) : Except PyError MizanAPIError := do
  let code := (error.get "code").getD (.str (str "HTTP_ERROR"))
  let type ← apiErrorType code
  let message := (error.get "message").getD
    (.str (str ("Mizan returned HTTP " ++ toString status)))
  let retryable := ((error.get "retryable").getD (.bool false)).truthy
  let requestId := (error.get "request_id").getD .none
  let requestId :=
    if requestId.truthy then requestId
    else (header headers "x-request-id").elim .none .str
  let details ← dictOf ((error.get "details").getD (.dict []))
  return { type, status, code, message, retryable, details, requestId, idempotencyKey := key }

/-- The exception a retry carries on. -/
inductive LastError where
  | network (exc : NetworkError)
  | api (err : MizanAPIError)

/-- The size limit of a response body. -/
def responseLimit : ℕ := 2097152

/-- The backoff before another attempt: `0.1 * (2 ** (attempt - 1))` overflows
once the power is too large for a float. -/
def backoff (attempt : ℕ) (err : LastError) : Verdict LastError Outcome :=
  if overflowsFloat (2 ^ (attempt - 1)) then .stop (.raised (.other .overflowError))
  else .again err

/-- A network error: reads are not retried, and neither is the last attempt. -/
def Call.uncertain (call : Call) (maxAttempts attempt : ℕ) (exc : NetworkError) :
    Verdict LastError Outcome :=
  if !call.mutation || attempt == maxAttempts then
    .stop (.raised (.transport ⟨"Request outcome is unknown after " ++ toString attempt ++
      " attempt(s)", call.correlationId, call.key⟩))
  else backoff attempt (.network exc)

/-- A protocol error of a call. -/
def Call.protocolError (call : Call) (message : String) : Verdict LastError Outcome :=
  .stop (.raised (.protocol ⟨message, call.correlationId, call.key⟩))

/-- The payload of a response within the size limit; no bytes stand for the
empty object. -/
def Env.payload (env : Env) (raw : List UInt8) : Option PyValue :=
  if raw = [] then some (.dict []) else (env.decode raw).bind env.loads

/-- A response: the size, JSON and object checks, the success exit, and the API
error, which is retried only when it says so. -/
def Call.decide (call : Call) (env : Env) (maxAttempts attempt : ℕ) (status : ℤ)
    (headers : List (PyStr × PyStr)) (raw : List UInt8) : Verdict LastError Outcome :=
  if responseLimit < raw.length then
    call.protocolError "Mizan response exceeded the 2 MiB safety limit"
  else
    match env.payload raw with
    | none => call.protocolError "Mizan returned invalid JSON"
    | some (.dict payload) =>
        if 200 ≤ status ∧ status < 300 then .stop (.response payload)
        else
          match (PyDict.get payload "error").getD (.dict []) with
          | .dict error =>
              match apiErrorOf call.key status headers error with
              -- Only network errors are caught around the loop body.
              | .error exc => .stop (.raised (.other exc))
              | .ok apiError =>
                  if !call.mutation || !apiError.retryable || attempt == maxAttempts then
                    .stop (.raised (.api apiError))
                  else backoff attempt (.api apiError)
          | _ => call.protocolError "Mizan returned an invalid error envelope"
    | some _ => call.protocolError "Mizan returned a non-object JSON response"

/-- The body of the attempt loop. -/
def MizanClient.attempt (c : MizanClient) (env : Env) (call : Call) (attempt : ℕ) :
    Round Request LastError Outcome :=
  ⟨some (c.buildRequest env call attempt),
    match env.transport attempt with
    | .raises exc => call.uncertain c.maxAttempts attempt exc
    | .returns status headers raw => call.decide env c.maxAttempts attempt status headers raw⟩

/-- Every round hands a request to the transport. -/
theorem MizanClient.attempt_sent (c : MizanClient) (env : Env) (call : Call) (k : ℕ) :
    (c.attempt env call k).sent = some (c.buildRequest env call k) := rfl

/-! ## Calls -/

/-- `key` in `_request`: the caller's key unless that is empty or missing; then
a mutation gets a generated one and a read none. -/
def Env.key (env : Env) (idempotencyKey : Option PyStr) (mutation : Bool) : Option PyStr :=
  match idempotencyKey with
  | some (c :: rest) => some (c :: rest)
  | _ => if mutation then some env.keyUuid.1 else none

/-- `encoded` in `_request`. -/
def Env.encode (env : Env) : Option PyDict → Except PyError (Option (List UInt8))
  | none => .ok none
  | some body => (env.dumps body).map some

/-- What `_request` fixes before the first attempt. -/
def Env.newCall (env : Env) (method : String) (path : PyStr)
    (encoded : Option (List UInt8)) (businessId : PyStr) (idempotencyKey : Option PyStr)
    (mutation : Bool) (extraHeaders : List (String × PyStr)) : Call :=
  { method, path, businessId, encoded, mutation, extraHeaders
    key := env.key idempotencyKey mutation
    correlationId := env.correlationUuid }

/-- `_request`. -/
def MizanClient.request (c : MizanClient) (env : Env) (method : String) (path : PyStr)
    (body : Option PyDict) (businessId : PyStr) (idempotencyKey : Option PyStr)
    (mutation : Bool) (extraHeaders : List (String × PyStr)) : Run Request Outcome :=
  match env.encode body with
  | .error exc => ⟨[], .raised (.other exc)⟩
  | .ok encoded =>
      let call := env.newCall method path encoded businessId idempotencyKey mutation extraHeaders
      loop (c.attempt env call)
        (fun _ => .raised (.transport ⟨"Request outcome is unknown", call.correlationId,
          call.key⟩))
        c.maxAttempts 1 none

/-- Go on with a call when what it computes first raises nothing. -/
def guarded {α : Type*} (first : Except PyError α) (call : α → Run Request Outcome) :
    Run Request Outcome :=
  match first with
  | .error exc => ⟨[], .raised (.other exc)⟩
  | .ok a => call a

/-- `_business_path`. -/
def MizanClient.businessPath (c : MizanClient) (businessId suffix : PyStr) :
    Except PyError PyStr := do
  if businessId = [] then throw (.valueError [.text "business_id is required"])
  match c.businessId with
  | some bound =>
      if businessId ≠ bound then
        throw (.valueError [.text "client is bound to business_id ", .repr bound,
          .text ", not ", .repr businessId])
  | none => pure ()
  let segment ← quote businessId
  return str "/v1/businesses/" ++ segment ++ str "/" ++ suffix

/-! ## Error envelopes -/

/-- The class of an API error is found unless the code has no hash. -/
theorem apiErrorType_isOk_iff (code : PyValue) :
    (∃ type, apiErrorType code = .ok type) ↔ code.hashable = true := by
  unfold apiErrorType
  by_cases hhash : code.hashable = true
  · rw [if_pos hhash]
    cases code <;> simp_all
  · rw [if_neg hhash]
    simp [hhash]

/-- An envelope makes an API error unless its code has no hash or its details
are not accepted by `dict`. -/
theorem apiErrorOf_isOk_iff (key : Option PyStr) (status : ℤ)
    (headers : List (PyStr × PyStr)) (error : PyDict) :
    (∃ err, apiErrorOf key status headers error = .ok err) ↔
      ((error.get "code").getD (.str (str "HTTP_ERROR"))).hashable = true ∧
        ∃ details, dictOf ((error.get "details").getD (.dict [])) = .ok details := by
  rw [← apiErrorType_isOk_iff]
  simp only [apiErrorOf]
  cases apiErrorType ((error.get "code").getD (.str (str "HTTP_ERROR"))) with
  | error exc => simp [bind, Except.bind]
  | ok type =>
      cases dictOf ((error.get "details").getD (.dict [])) with
      | error exc => simp [bind, Except.bind]
      | ok details => simp [bind, Except.bind, pure, Except.pure]

/-- Status, key, code and retry flag of an API error. -/
theorem apiErrorOf_ok {key : Option PyStr} {status : ℤ} {headers : List (PyStr × PyStr)}
    {error : PyDict} {err : MizanAPIError} (h : apiErrorOf key status headers error = .ok err) :
    err.status = status ∧ err.idempotencyKey = key ∧
      err.code = (error.get "code").getD (.str (str "HTTP_ERROR")) ∧
      err.retryable = ((error.get "retryable").getD (.bool false)).truthy := by
  simp only [apiErrorOf] at h
  cases htype : apiErrorType ((error.get "code").getD (.str (str "HTTP_ERROR"))) with
  | error exc => simp [htype, bind, Except.bind] at h
  | ok type =>
      cases hdetails : dictOf ((error.get "details").getD (.dict [])) with
      | error exc => simp [htype, hdetails, bind, Except.bind] at h
      | ok details =>
          simp only [htype, hdetails, bind, Except.bind, pure, Except.pure,
            Except.ok.injEq] at h
          subst h
          exact ⟨rfl, rfl, rfl, rfl⟩

/-- It is of the class of its code. -/
theorem apiErrorOf_typed {key : Option PyStr} {status : ℤ} {headers : List (PyStr × PyStr)}
    {error : PyDict} {err : MizanAPIError} (h : apiErrorOf key status headers error = .ok err) :
    apiErrorType err.code = .ok err.type := by
  simp only [apiErrorOf] at h
  cases htype : apiErrorType ((error.get "code").getD (.str (str "HTTP_ERROR"))) with
  | error exc => simp [htype, bind, Except.bind] at h
  | ok type =>
      cases hdetails : dictOf ((error.get "details").getD (.dict [])) with
      | error exc => simp [htype, hdetails, bind, Except.bind] at h
      | ok details =>
          simp only [htype, hdetails, bind, Except.bind, pure, Except.pure,
            Except.ok.injEq] at h
          subst h
          exact htype

end MizanSDK.Python
