import MizanSDK.Go.Methods

/-!
# The attempt loop of the Go client

What one attempt amounts to, what the loop makes of it, and what a whole call
therefore sends and returns.  `Reply` is the classification the loop acts on:
a send error, a read error, an oversized body, a body that is no JSON object,
an object with a success status, and an object with any other status.

Main results:

- Theorem `reply_response`: the reply to a response is told by its stream.
- Theorem `attempt_verdict`: the verdict of an attempt is a function of its
  reply.
- Theorem `attempt_isAgain_iff`: a further attempt is made for a mutation only,
  before the last attempt, after a reply that asks for it and a wait that ends.
- Theorem `requestWithHeaders_decided`: a call whose request can be built sends
  the requests up to its deciding attempt and returns what that attempt returns.
-/

namespace MizanSDK.Go

open JsonText BoundedRetry

/-! ## Replies -/

/-- The outcome of an attempt as far as the loop tells outcomes apart. -/
inductive Reply where
  | sendError (err : GoError)
  | readError (err : GoError)
  | oversize
  | notAnObject (statusCode : ℤ)
  | success (result : GoMap)
  | rejection (statusCode : ℤ) (header : Header) (result : GoMap)

/-- Classify the outcome of an attempt.  An empty body counts as the empty
object. -/
def SendOutcome.reply (parse : JsonParser) : SendOutcome → Reply
  | .failure err => .sendError err
  | .response statusCode header body =>
      match readAll (responseLimit + 1) body with
      | .error err => .readError err
      | .ok raw =>
          if responseLimit < raw.length then .oversize
          else
            match (if 0 < raw.length then unmarshalMap parse raw else some []) with
            | none => .notAnObject statusCode
            | some result =>
                if 200 ≤ statusCode ∧ statusCode < 300 then .success result
                else .rejection statusCode header result

theorem SendOutcome.reply_of_readError {parse : JsonParser} {statusCode : ℤ}
    {header : Header} {body : BodyStream} {err : GoError}
    (h : readAll (responseLimit + 1) body = .error err) :
    (SendOutcome.response statusCode header body).reply parse = .readError err := by
  simp only [SendOutcome.reply, h]

theorem SendOutcome.reply_of_read {parse : JsonParser} {statusCode : ℤ}
    {header : Header} {body : BodyStream} {raw : List UInt8}
    (h : readAll (responseLimit + 1) body = .ok raw) :
    (SendOutcome.response statusCode header body).reply parse =
      if responseLimit < raw.length then .oversize
      else
        match (if 0 < raw.length then unmarshalMap parse raw else some []) with
        | none => .notAnObject statusCode
        | some result =>
            if 200 ≤ statusCode ∧ statusCode < 300 then .success result
            else .rejection statusCode header result := by
  simp only [SendOutcome.reply, h]

/-- The reply to a response, told by the stream itself: more than 2 MiB are oversize, a
failure before that is a read error, and what ends properly is read in full. -/
theorem SendOutcome.reply_response (parse : JsonParser) (statusCode : ℤ) (header : Header)
    (body : BodyStream) :
    (SendOutcome.response statusCode header body).reply parse =
      if 2097152 < body.bytes.length then .oversize
      else
        match body.failure with
        | some err => .readError err
        | none =>
            match (if body.bytes = [] then some [] else unmarshalMap parse body.bytes) with
            | none => .notAnObject statusCode
            | some result =>
                if 200 ≤ statusCode ∧ statusCode < 300 then .success result
                else .rejection statusCode header result := by
  by_cases hlong : 2097152 < body.bytes.length
  · have hread : readAll (responseLimit + 1) body = .ok (body.bytes.take (responseLimit + 1)) :=
      if_pos hlong
    have hcut : responseLimit < (body.bytes.take (responseLimit + 1)).length := by
      rw [List.length_take, responseLimit]
      omega
    rw [reply_of_read hread, if_pos hcut, if_pos hlong]
  · have hshort : ¬ responseLimit < body.bytes.length := hlong
    have hunread : ¬ responseLimit + 1 ≤ body.bytes.length := hlong
    rw [if_neg hlong]
    cases hfailure : body.failure with
    | some err =>
        have hread : readAll (responseLimit + 1) body = .error err := by
          rw [readAll, if_neg hunread, hfailure]
        exact reply_of_readError hread
    | none =>
        have hread : readAll (responseLimit + 1) body = .ok body.bytes := by
          rw [readAll, if_neg hunread, hfailure]
        have hempty : (if 0 < body.bytes.length then unmarshalMap parse body.bytes else some []) =
            if body.bytes = [] then some [] else unmarshalMap parse body.bytes := by
          cases body.bytes with
          | nil => rfl
          | cons byte rest => rfl
        rw [reply_of_read hread, if_neg hshort, hempty]
        rfl

/-- The oversize replies are the responses of more than 2 MiB. -/
theorem SendOutcome.reply_eq_oversize_iff {parse : JsonParser} {outcome : SendOutcome} :
    outcome.reply parse = .oversize ↔ ∃ statusCode header body,
      outcome = .response statusCode header body ∧ 2097152 < body.bytes.length := by
  constructor
  · intro h
    cases outcome with
    | failure err => cases h
    | response statusCode header body =>
        refine ⟨statusCode, header, body, rfl, ?_⟩
        by_contra hlong
        rw [reply_response, if_neg hlong] at h
        repeat' split at h
        all_goals cases h
  · rintro ⟨statusCode, header, body, rfl, hlong⟩
    rw [reply_response, if_pos hlong]

/-- The read errors are the failures of a response within 2 MiB. -/
theorem SendOutcome.reply_eq_readError_iff {parse : JsonParser} {outcome : SendOutcome}
    {err : GoError} : outcome.reply parse = .readError err ↔ ∃ statusCode header body,
      outcome = .response statusCode header body ∧ body.bytes.length ≤ 2097152 ∧
        body.failure = some err := by
  constructor
  · intro h
    cases outcome with
    | failure cause => cases h
    | response statusCode header body =>
        rw [reply_response] at h
        split at h
        · cases h
        · rename_i hshort
          cases hfailure : body.failure with
          | some cause =>
              rw [hfailure] at h
              obtain rfl : cause = err := Reply.readError.inj h
              exact ⟨statusCode, header, body, rfl, Nat.not_lt.mp hshort, hfailure⟩
          | none =>
              rw [hfailure] at h
              dsimp only at h
              repeat' split at h
              all_goals cases h
  · rintro ⟨statusCode, header, body, rfl, hshort, hfailure⟩
    rw [reply_response, if_neg (Nat.not_lt.mpr hshort), hfailure]

/-- The reply to attempt `k`. -/
def Env.reply (env : Env) (k : ℕ) : Reply := (env.send k).reply env.parse

/-- A send error, a read error, or an API error that calls itself retryable. -/
def Reply.asksRetry : Reply → Bool
  | .sendError _ => true
  | .readError _ => true
  | .rejection statusCode _ result => (decodeAPIError statusCode result).retryable
  | _ => false

/-- An object with a success status. -/
def Reply.isSuccess : Reply → Bool
  | .success _ => true
  | _ => false

/-- The API error of a call: key and fallback request ID are filled in. -/
def Call.apiError (call : Call) (statusCode : ℤ) (header : Header) (result : GoMap) :
    APIError :=
  let e := { decodeAPIError statusCode result with idempotencyKey := call.key }
  if e.requestID = "" then { e with requestID := header.get "X-Request-ID" } else e

@[simp] theorem Call.apiError_status (call : Call) (s : ℤ) (h : Header) (r : GoMap) :
    (call.apiError s h r).status = (decodeAPIError s r).status := by
  simp only [Call.apiError]
  split <;> rfl

@[simp] theorem Call.apiError_code (call : Call) (s : ℤ) (h : Header) (r : GoMap) :
    (call.apiError s h r).code = (decodeAPIError s r).code := by
  simp only [Call.apiError]
  split <;> rfl

@[simp] theorem Call.apiError_retryable (call : Call) (s : ℤ) (h : Header) (r : GoMap) :
    (call.apiError s h r).retryable = (decodeAPIError s r).retryable := by
  simp only [Call.apiError]
  split <;> rfl

@[simp] theorem Call.apiError_idempotencyKey (call : Call) (s : ℤ) (h : Header) (r : GoMap) :
    (call.apiError s h r).idempotencyKey = call.key := by
  simp only [Call.apiError]
  split <;> rfl

/-- What a call returns when an attempt with this reply is its last. -/
def Reply.terminal (call : Call) : Reply → Outcome
  | .sendError err => .error (.transport ⟨some err, call.correlationID, call.key⟩)
  | .readError err => .error (.transport ⟨some err, call.correlationID, call.key⟩)
  | .oversize =>
      .error (.protocol ⟨"response exceeded the 2 MiB safety limit", call.correlationID,
        call.key⟩)
  | .notAnObject statusCode =>
      .error (.protocol ⟨"invalid JSON object response (HTTP " ++ toString statusCode ++ ")",
        call.correlationID, call.key⟩)
  | .success result => .response result
  | .rejection statusCode header result =>
      .error (.api (call.apiError statusCode header result))

/-- The error a retry carries on from a reply that asks for it. -/
def Reply.cause (call : Call) : Reply → GoError
  | .sendError err => err
  | .readError err => err
  | .rejection statusCode header result => (call.apiError statusCode header result).error
  | _ => ⟨""⟩

/-! ## The verdict of an attempt -/

/-- A send or read error ends a read and the last attempt. -/
theorem Call.uncertain_eq (call : Call) (env : Env) (k : ℕ) (err : GoError) :
    call.uncertain env k err =
      if call.mutation = true ∧ k ≠ call.attempts then env.backoff k err
      else .stop (.error (.transport ⟨some err, call.correlationID, call.key⟩)) := by
  unfold Call.uncertain
  cases hm : call.mutation
  · simp
  · by_cases hk : k = call.attempts <;> simp [hk]

/-- A rejection ends a read, the last attempt, and a call the server does not
allow to be retried. -/
theorem Call.decide_rejection {call : Call} {env : Env} {raw : List UInt8} {result : GoMap}
    {statusCode : ℤ} (hsize : ¬ responseLimit < raw.length)
    (hobj : (if 0 < raw.length then unmarshalMap env.parse raw else some []) = some result)
    (hstatus : ¬ (200 ≤ statusCode ∧ statusCode < 300)) (k : ℕ) (header : Header) :
    call.decide env k statusCode header raw =
      if call.mutation = true ∧ k ≠ call.attempts ∧
          (decodeAPIError statusCode result).retryable = true then
        env.backoff k (call.apiError statusCode header result).error
      else .stop (.error (.api (call.apiError statusCode header result))) := by
  have hunfold : call.decide env k statusCode header raw =
      if !call.mutation || !(call.apiError statusCode header result).retryable ||
          k == call.attempts then
        .stop (.error (.api (call.apiError statusCode header result)))
      else env.backoff k (call.apiError statusCode header result).error := by
    unfold Call.decide
    rw [if_neg hsize, hobj]
    exact if_neg hstatus
  rw [hunfold, Call.apiError_retryable]
  cases hm : call.mutation
  · simp
  · by_cases hk : k = call.attempts
    · simp [hk]
    · cases hr : (decodeAPIError statusCode result).retryable <;> simp [hk]

/-- What the loop makes of the outcome of attempt `k`. -/
theorem Call.verdict_of_outcome (call : Call) (env : Env) (k : ℕ) (outcome : SendOutcome) :
    (match outcome with
      | .failure sendErr => call.uncertain env k sendErr
      | .response statusCode header body =>
          match readAll (responseLimit + 1) body with
          | .error readErr => call.uncertain env k readErr
          | .ok raw => call.decide env k statusCode header raw) =
      if call.mutation = true ∧ k ≠ call.attempts ∧
          (outcome.reply env.parse).asksRetry = true then
        env.backoff k ((outcome.reply env.parse).cause call)
      else .stop ((outcome.reply env.parse).terminal call) := by
  cases outcome with
  | failure err =>
      simp [SendOutcome.reply, Reply.asksRetry, Reply.terminal, Reply.cause,
        Call.uncertain_eq]
  | response statusCode header body =>
      rcases hread : readAll (responseLimit + 1) body with err | raw
      · rw [SendOutcome.reply_of_readError hread]
        simp only [hread]
        simp [Reply.asksRetry, Reply.terminal, Reply.cause, Call.uncertain_eq]
      · rw [SendOutcome.reply_of_read hread]
        simp only [hread]
        by_cases hsize : responseLimit < raw.length
        · simp [Call.decide, hsize, Reply.asksRetry, Reply.terminal]
        · rw [if_neg hsize]
          rcases hobj : (if 0 < raw.length then unmarshalMap env.parse raw else some [])
            with _ | result
          · simp [Call.decide, hsize, hobj, Reply.asksRetry, Reply.terminal]
          · by_cases hstatus : 200 ≤ statusCode ∧ statusCode < 300
            · simp [Call.decide, hsize, hobj, hstatus, Reply.asksRetry, Reply.terminal]
            · simp only [Call.decide_rejection hsize hobj hstatus, if_neg hstatus]
              rfl

/-- The verdict of an attempt is a function of its reply: the call ends with it
unless the call is a mutation, attempts are left and the reply asks for one. -/
theorem Client.attempt_verdict (c : Client) {env : Env} (call : Call)
    (h : env.newRequest call.method (c.baseURL ++ call.path) = none) (k : ℕ) :
    (c.attempt env call k).verdict =
      if call.mutation = true ∧ k ≠ call.attempts ∧ (env.reply k).asksRetry = true then
        env.backoff k ((env.reply k).cause call)
      else .stop ((env.reply k).terminal call) := by
  simp only [Client.attempt, h]
  exact call.verdict_of_outcome env k (env.send k)

/-- A further attempt needs a mutation, a remaining attempt, a reply that asks
for it and a wait that ends. -/
theorem Client.attempt_isAgain_iff (c : Client) {env : Env} (call : Call)
    (h : env.newRequest call.method (c.baseURL ++ call.path) = none) (k : ℕ) :
    (c.attempt env call k).verdict.isAgain = true ↔
      call.mutation = true ∧ k ≠ call.attempts ∧ (env.reply k).asksRetry = true ∧
        env.wait k = .elapsed := by
  rw [c.attempt_verdict call h]
  by_cases hretry : call.mutation = true ∧ k ≠ call.attempts ∧
      (env.reply k).asksRetry = true
  · rw [if_pos hretry]
    unfold Env.backoff
    cases hwait : env.wait k <;> simp [hretry]
  · rw [if_neg hretry]
    simp only [Verdict.isAgain_stop, Bool.false_eq_true, false_iff]
    exact fun hall => hretry ⟨hall.1, hall.2.1, hall.2.2.1⟩

/-! ## Whole calls -/

theorem Client.attempts_pos (c : Client) : 0 < c.attempts := by
  unfold Client.attempts
  split <;> omega

/-- The number of admissible attempts is `max(1, MaxAttempts)`. -/
theorem Client.attempts_eq_max (c : Client) : (c.attempts : ℤ) = max 1 c.maxAttempts := by
  unfold Client.attempts
  split <;> omega

/-- A call whose request cannot be built leaves the loop in its first round,
whatever follows the loop. -/
theorem Client.loop_unbuilt {c : Client} {env : Env} {call : Call} {err : GoError}
    (hcount : call.attempts = c.attempts)
    (h : env.newRequest call.method (c.baseURL ++ call.path) = some err)
    (after : Option GoError → Outcome) :
    loop (c.attempt env call) after call.attempts 1 none =
      ⟨[], .error (.plain err)⟩ := by
  have hfirst : c.attempt env call 1 = ⟨none, .stop (.error (.plain err))⟩ := by
    simp [Client.attempt, h]
  obtain ⟨n, hn⟩ := Nat.exists_eq_succ_of_ne_zero (hcount ▸ c.attempts_pos).ne'
  rw [hn, loop_of_stop (by rw [hfirst]), hfirst]
  rfl

/-- A call whose body does not encode, or whose request cannot be built, sends
nothing. -/
theorem Client.requestWithHeaders_unsent {c : Client} {env : Env}
    {method path businessID key : String} {body : Option RequestBody} {mutation : Bool}
    {extraHeaders : List (String × String)}
    (h : (∃ err, env.encode body = .error err) ∨
      ∃ err, env.newRequest method (c.baseURL ++ path) = some err) :
    (c.requestWithHeaders env method path businessID body key mutation
      extraHeaders).attempts = [] := by
  unfold Client.requestWithHeaders
  cases hencode : env.encode body with
  | error err => rfl
  | ok payload =>
      rcases h with ⟨err, herr⟩ | ⟨err, herr⟩
      · simp [hencode] at herr
      · dsimp only
        rw [Client.loop_unbuilt rfl herr]

/-- A call whose request can be built is decided by one of its attempts. -/
theorem Client.exists_decides (c : Client) {env : Env} (call : Call)
    (hcount : call.attempts = c.attempts)
    (h : env.newRequest call.method (c.baseURL ++ call.path) = none) :
    ∃ j r, Decides (c.attempt env call) 1 call.attempts j r := by
  have hpos : 0 < call.attempts := hcount ▸ c.attempts_pos
  refine BoundedRetry.exists_decides hpos ?_
  have hlast : 1 + call.attempts - 1 = call.attempts := by omega
  rw [hlast]
  have hnot := (c.attempt_isAgain_iff call h call.attempts).not.mpr (by simp)
  simpa using hnot

/-- A call whose request can be built sends the requests up to its deciding
attempt and returns what that attempt returns, whatever follows the loop. -/
theorem Client.loop_decided {c : Client} {env : Env} {call : Call} {j : ℕ} {r : Outcome}
    (h : env.newRequest call.method (c.baseURL ++ call.path) = none)
    (hdec : Decides (c.attempt env call) 1 call.attempts j r)
    (after : Option GoError → Outcome) :
    loop (c.attempt env call) after call.attempts 1 none =
      ⟨(List.range' 1 j).map (c.buildRequest env call), r⟩ := by
  have hattempts : (loop (c.attempt env call) after call.attempts 1 none).attempts = _ :=
    attempts_eq_map (Client.attempt_sent h) hdec none
  have hrun : loop (c.attempt env call) after call.attempts 1 none = _ :=
    loop_eq_of_decides hdec none
  have hcount : j + 1 - 1 = j := by omega
  rw [hcount] at hattempts
  rw [← hattempts, hrun]

/-- `requestWithHeaders` of a call whose request can be built. -/
theorem Client.requestWithHeaders_decided (c : Client) {env : Env}
    {method path businessID key : String} {body : Option RequestBody} {mutation : Bool}
    {extraHeaders : List (String × String)} {payload : Option (List UInt8)} {call : Call}
    (hcall : call = c.newCall env method path businessID payload key mutation extraHeaders)
    (hencode : env.encode body = .ok payload)
    (h : env.newRequest method (c.baseURL ++ path) = none) :
    ∃ j r, Decides (c.attempt env call) 1 c.attempts j r ∧
      c.requestWithHeaders env method path businessID body key mutation extraHeaders =
        ⟨(List.range' 1 j).map (c.buildRequest env call), r⟩ := by
  subst hcall
  obtain ⟨j, r, hdec⟩ := c.exists_decides
    (c.newCall env method path businessID payload key mutation extraHeaders) rfl h
  refine ⟨j, r, hdec, ?_⟩
  simp only [Client.requestWithHeaders, hencode]
  exact Client.loop_decided h hdec _

/-! ## Headers of an attempt -/

/-- Headers other than those a list sets keep their values. -/
theorem Header.get?_foldl_set {name : String} {extra : List (String × String)}
    (hextra : ∀ nv ∈ extra, canonicalMIMEHeaderKey name ≠ canonicalMIMEHeaderKey nv.1)
    (h : Header) :
    (extra.foldl (fun h nv => h.set nv.1 nv.2) h).get? name = h.get? name := by
  induction extra generalizing h with
  | nil => rfl
  | cons nv extra ih =>
      rw [List.foldl_cons, ih (fun other hother => hextra other (by simp [hother]))]
      exact Header.get?_set_of_ne (hextra nv (by simp)) h nv.2

/-- The only header a call adds is the attribution of an admin. -/
def Call.OnlyAttribution (call : Call) : Prop :=
  ∀ nv ∈ call.extraHeaders, nv.1 = "X-Admin-Actor"

/-- Every attempt carries the correlation ID of its call. -/
theorem Client.buildRequest_requestID {c : Client} {env : Env} {call : Call}
    (hextra : call.OnlyAttribution) (k : ℕ) :
    (c.buildRequest env call k).header.get? "X-Request-ID" = some call.correlationID := by
  simp only [Client.buildRequest]
  rw [Header.get?_foldl_set (fun nv hnv => by rw [hextra nv hnv]; decide)]
  split <;> split <;>
    simp (disch := decide) only [Header.get?_set_of_ne, Header.get?_set_self]

/-- Every attempt carries the key of its call, or no key if that is empty. -/
theorem Client.buildRequest_idempotencyKey {c : Client} {env : Env} {call : Call}
    (hextra : call.OnlyAttribution) (k : ℕ) :
    (c.buildRequest env call k).header.get? "Idempotency-Key" =
      if call.key = "" then none else some call.key := by
  simp only [Client.buildRequest]
  rw [Header.get?_foldl_set (fun nv hnv => by rw [hextra nv hnv]; decide)]
  by_cases hkey : call.key = ""
  · simp only [hkey, ne_eq, not_true_eq_false, if_false, if_true]
    split <;>
      simp (disch := decide) only [Header.get?_set_of_ne] <;> rfl
  · simp only [ne_eq, hkey, not_false_eq_true, if_true, if_false, Header.get?_set_self]

end MizanSDK.Go
