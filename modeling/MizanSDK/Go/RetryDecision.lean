import MizanSDK.Go.AttemptLoop

/-!
# Retry decisions of the Go client

When `requestWithHeaders` makes a further attempt, and what the last attempt
makes it return, stated over the members of the error envelope instead of the
decoded `APIError`.

Main results:

- Theorem `decodeAPIError_eq`: code and retry flag of an API error are what the
  error envelope reports.
- Theorem `requestWithHeaders_retryDecision`: while no backoff is cut short, the
  replies decide how many attempts are made, the last one decides the result,
  and the statement after the loop decides nothing.
-/

namespace MizanSDK.Go

open JsonText BoundedRetry

/-! ## What an error envelope reports -/

/-- A member of the object under `error`, if there is such an object. -/
def envelopeMember (result : GoMap) (name : String) : Option GoAny :=
  match lookupLast result "error" with
  | some (.map raw) => lookupLast raw name
  | _ => none

/-- The code an error response reports; `HTTP_ERROR` stands in for a missing or
malformed one. -/
def reportedCode (result : GoMap) : String :=
  match envelopeMember result "code" with
  | some (.string code) => code
  | _ => "HTTP_ERROR"

/-- An error response allows a retry by the JSON value `true` and nothing else. -/
def ReportsRetryable (result : GoMap) : Prop :=
  envelopeMember result "retryable" = some (.bool true)

/-- An envelope sets the code by a string and the retry flag by a boolean. -/
theorem decodeAPIError_of_map {result raw : GoMap}
    (h : lookupLast result "error" = some (.map raw)) (status : ℤ) :
    (decodeAPIError status result).status = status ∧
    (decodeAPIError status result).code =
      (match lookupLast raw "code" with
        | some (.string code) => code
        | _ => "HTTP_ERROR") ∧
    (decodeAPIError status result).retryable =
      (match lookupLast raw "retryable" with
        | some (.bool retryable) => retryable
        | _ => false) := by
  unfold decodeAPIError
  extract_lets fallback
  split
  · rename_i other hother
    obtain rfl : raw = other := by simpa [h] using hother
    -- Each member sets one field and leaves the others as they are.
    extract_lets withCode withMessage withRetryable withDetails
    have hcode : withCode.status = status ∧ withCode.retryable = false ∧ withCode.code =
        (match lookupLast raw "code" with
          | some (.string code) => code
          | _ => "HTTP_ERROR") := by
      unfold withCode
      rcases lookupLast raw "code" with _ | (_ | _ | _ | _ | _ | _) <;> exact ⟨rfl, rfl, rfl⟩
    have hmessage : withMessage.status = withCode.status ∧
        withMessage.retryable = withCode.retryable ∧ withMessage.code = withCode.code := by
      unfold withMessage
      split <;> exact ⟨rfl, rfl, rfl⟩
    have hretryable : withRetryable.status = withMessage.status ∧
        withRetryable.code = withMessage.code ∧ withRetryable.retryable =
          (match lookupLast raw "retryable" with
            | some (.bool retryable) => retryable
            | _ => withMessage.retryable) := by
      unfold withRetryable
      rcases lookupLast raw "retryable" with _ | (_ | _ | _ | _ | _ | _) <;>
        exact ⟨rfl, rfl, rfl⟩
    have hdetails : withDetails.status = withRetryable.status ∧
        withDetails.code = withRetryable.code ∧
        withDetails.retryable = withRetryable.retryable := by
      unfold withDetails
      split <;> exact ⟨rfl, rfl, rfl⟩
    have hlast : withDetails.status = status ∧ withDetails.code = withCode.code ∧
        withDetails.retryable =
          (match lookupLast raw "retryable" with
            | some (.bool retryable) => retryable
            | _ => false) := by
      rw [hdetails.1, hdetails.2.1, hdetails.2.2, hretryable.1, hretryable.2.1, hretryable.2.2,
        hmessage.1, hmessage.2.1, hmessage.2.2, hcode.1, hcode.2.1]
      exact ⟨rfl, rfl, rfl⟩
    rw [← hcode.2.2, ← hlast.2.1, ← hlast.2.2]
    split <;> exact ⟨hlast.1, rfl, rfl⟩
  · rename_i hother
    exact absurd h (hother raw)

/-- Code and retry flag of an API error are what the envelope reports. -/
theorem decodeAPIError_eq (status : ℤ) (result : GoMap) :
    (decodeAPIError status result).status = status ∧
    (decodeAPIError status result).code = reportedCode result ∧
    ((decodeAPIError status result).retryable = true ↔ ReportsRetryable result) := by
  rcases herror : lookupLast result "error" with _ | (_ | _ | _ | _ | _ | raw)
  case some.map =>
    obtain ⟨hstatus, hcode, hretryable⟩ := decodeAPIError_of_map herror status
    rw [hstatus, hcode, hretryable, reportedCode, ReportsRetryable, envelopeMember,
      envelopeMember, herror]
    refine ⟨rfl, rfl, ?_⟩
    dsimp only
    split <;> simp_all
  all_goals simp [decodeAPIError, reportedCode, ReportsRetryable, envelopeMember, herror]

/-! ## The decision -/

/-- The replies after which a mutation may be attempted again. -/
inductive Reply.AllowsRetry : Reply → Prop where
  | sendError (err : GoError) : AllowsRetry (.sendError err)
  | readError (err : GoError) : AllowsRetry (.readError err)
  | rejection (statusCode : ℤ) (header : Header) {result : GoMap}
      (h : ReportsRetryable result) : AllowsRetry (.rejection statusCode header result)

theorem Reply.asksRetry_iff (reply : Reply) :
    reply.asksRetry = true ↔ reply.AllowsRetry := by
  constructor
  · intro h
    cases reply with
    | sendError err => exact .sendError err
    | readError err => exact .readError err
    | rejection statusCode header result =>
        exact .rejection statusCode header ((decodeAPIError_eq statusCode result).2.2.mp h)
    | _ => simp [Reply.asksRetry] at h
  · intro h
    cases h with
    | sendError err => rfl
    | readError err => rfl
    | rejection statusCode header h => exact (decodeAPIError_eq statusCode _).2.2.mpr h

/-- What a call returns for the reply to its last attempt. -/
inductive EndsWith : Reply → Outcome → Prop where
  | success (result : GoMap) : EndsWith (.success result) (.response result)
  | oversize (err : ProtocolError) : EndsWith .oversize (.error (.protocol err))
  | notAnObject (statusCode : ℤ) (err : ProtocolError) :
      EndsWith (.notAnObject statusCode) (.error (.protocol err))
  | rejection (statusCode : ℤ) (header : Header) (result : GoMap) (err : APIError)
      (hstatus : err.status = statusCode) (hcode : err.code = reportedCode result)
      (hretryable : err.retryable = true ↔ ReportsRetryable result) :
      EndsWith (.rejection statusCode header result) (.error (.api err))
  | sendError (cause : GoError) (requestID key : String) :
      EndsWith (.sendError cause) (.error (.transport ⟨some cause, requestID, key⟩))
  | readError (cause : GoError) (requestID key : String) :
      EndsWith (.readError cause) (.error (.transport ⟨some cause, requestID, key⟩))

theorem Reply.endsWith_terminal (reply : Reply) (call : Call) :
    EndsWith reply (reply.terminal call) := by
  cases reply with
  | sendError err => exact .sendError err call.correlationID call.key
  | readError err => exact .readError err call.correlationID call.key
  | oversize => exact .oversize _
  | notAnObject statusCode => exact .notAnObject statusCode _
  | success result => exact .success result
  | rejection statusCode header result =>
      obtain ⟨hstatus, hcode, hretryable⟩ := decodeAPIError_eq statusCode result
      exact .rejection statusCode header result _
        (by rw [Call.apiError_status, hstatus]) (by rw [Call.apiError_code, hcode])
        (by rw [Call.apiError_retryable, hretryable])

/-- While no backoff is cut short, a reached attempt leaves the loop with what
its reply amounts to. -/
theorem Client.attempt_stop_terminal {c : Client} {env : Env} {call : Call} {k : ℕ}
    {r : Outcome} (h : env.newRequest call.method (c.baseURL ++ call.path) = none)
    (helapsed : ∀ k, env.wait k = .elapsed)
    (hstop : (c.attempt env call k).verdict = .stop r) : r = (env.reply k).terminal call := by
  rw [c.attempt_verdict call h] at hstop
  split at hstop
  · simp [Env.backoff, helapsed] at hstop
  · simpa using hstop.symm

/-- A call that sends nothing was stopped by its body or by its request. -/
theorem Client.sends_of_not_stopped {c : Client} {env : Env} {method path : String}
    {body : Option RequestBody}
    (h : ¬ ((∃ err, env.encode body = .error err) ∨
      ∃ err, env.newRequest method (c.baseURL ++ path) = some err)) :
    (∃ payload, env.encode body = .ok payload) ∧
      env.newRequest method (c.baseURL ++ path) = none := by
  obtain ⟨hencodes, hbuilds⟩ := not_or.mp h
  constructor
  · cases hencode : env.encode body with
    | error err => exact absurd ⟨err, hencode⟩ hencodes
    | ok payload => exact ⟨payload, rfl⟩
  · cases hnew : env.newRequest method (c.baseURL ++ path) with
    | none => rfl
    | some err => exact absurd ⟨err, hnew⟩ hbuilds

/-- While no backoff is cut short, a call goes past an attempt it makes exactly
when it is a mutation, attempts are left and the reply allows a retry. -/
theorem Client.decided_continues_iff {c : Client} {env : Env} {call : Call} {j : ℕ}
    {r : Outcome} (hcount : call.attempts = c.attempts)
    (h : env.newRequest call.method (c.baseURL ++ call.path) = none)
    (helapsed : ∀ k, env.wait k = .elapsed)
    (hdec : Decides (c.attempt env call) 1 c.attempts j r) {k : ℕ} (hk : 1 ≤ k) (hkj : k ≤ j) :
    k + 1 ≤ j ↔
      call.mutation = true ∧ (k : ℤ) < max 1 c.maxAttempts ∧ (env.reply k).AllowsRetry := by
  have hmax := c.attempts_eq_max
  have hjn := hdec.lt
  rw [hdec.continues_iff hk hkj, c.attempt_isAgain_iff call h, hcount, ← Reply.asksRetry_iff]
  constructor
  · rintro ⟨hmutation, hlast, hasks, -⟩
    exact ⟨hmutation, by omega, hasks⟩
  · rintro ⟨hmutation, hlt, hasks⟩
    exact ⟨hmutation, by omega, hasks, helapsed k⟩

/-- Exact retry decision and terminal result of `requestWithHeaders`. -/
theorem requestWithHeaders_retryDecision (c : Client) (env : Env)
    (method path businessID key : String) (body : Option RequestBody) (mutation : Bool)
    (extraHeaders : List (String × String)) (helapsed : ∀ k, env.wait k = .elapsed) :
    let run := c.requestWithHeaders env method path businessID body key mutation extraHeaders
    -- Nothing is sent exactly when the body does not encode or the request cannot be built.
    (run.attempts = [] ↔
      (∃ err, env.encode body = .error err) ∨
        ∃ err, env.newRequest method (c.baseURL ++ path) = some err) ∧
    -- A further attempt is made exactly when it is allowed.
    (∀ k, 1 ≤ k → k ≤ run.attempts.length →
      (k + 1 ≤ run.attempts.length ↔
        mutation = true ∧ (k : ℤ) < max 1 c.maxAttempts ∧ (env.reply k).AllowsRetry)) ∧
    -- A read is attempted once.
    (mutation = false → run.attempts ≠ [] → run.attempts.length = 1) ∧
    -- The reply to the last attempt decides the result.
    (run.attempts ≠ [] → EndsWith (env.reply run.attempts.length) run.result) ∧
    -- The statement after the loop is not reached: any other one would do.
    ∀ payload after, env.encode body = .ok payload →
      loop (c.attempt env
          (c.newCall env method path businessID payload key mutation extraHeaders))
        after c.attempts 1 none = run := by
  intro run
  by_cases hunsent : (∃ err, env.encode body = .error err) ∨
      ∃ err, env.newRequest method (c.baseURL ++ path) = some err
  · have hnone : run.attempts = [] := Client.requestWithHeaders_unsent hunsent
    refine ⟨by simp [hnone, hunsent], ?_, fun _ h => absurd hnone h,
      fun h => absurd hnone h, ?_⟩
    · intro k hk hle
      simp only [hnone, List.length_nil] at hle
      omega
    · intro payload after hencode
      rcases hunsent with ⟨err, herr⟩ | ⟨err, herr⟩
      · rw [hencode] at herr
        simp at herr
      · simp only [run, Client.requestWithHeaders, hencode]
        exact (Client.loop_unbuilt rfl herr _).trans (Client.loop_unbuilt rfl herr _).symm
  · obtain ⟨⟨payload, hpayload⟩, hbuild⟩ := Client.sends_of_not_stopped hunsent
    obtain ⟨j, r, hdec, hrun⟩ := c.requestWithHeaders_decided
      (rfl : c.newCall env method path businessID payload key mutation extraHeaders = _)
      hpayload hbuild
    have hlength : run.attempts.length = j := by
      simp only [run, hrun, List.length_map, List.length_range']
    have hresult : run.result = r := by simp only [run, hrun]
    have hj := hdec.le
    have hdecide : ∀ k, 1 ≤ k → k ≤ j → (k + 1 ≤ j ↔
        mutation = true ∧ (k : ℤ) < max 1 c.maxAttempts ∧ (env.reply k).AllowsRetry) :=
      fun k hk hkj => Client.decided_continues_iff rfl hbuild helapsed hdec hk hkj
    refine ⟨?_, ?_, ?_, ?_, ?_⟩
    · constructor
      · intro hempty
        rw [hempty] at hlength
        simp only [List.length_nil] at hlength
        omega
      · exact fun h => absurd h hunsent
    · rw [hlength]
      exact hdecide
    · intro hread _
      rw [hlength]
      by_contra hmany
      have hfirst := (hdecide 1 le_rfl hj).mp (by omega)
      rw [hread] at hfirst
      simp at hfirst
    · intro _
      rw [hlength, hresult, Client.attempt_stop_terminal hbuild helapsed hdec.stop]
      exact Reply.endsWith_terminal _ _
    · intro payload' after hencode
      obtain rfl : payload = payload' := by
        rw [hpayload] at hencode
        simpa using hencode
      exact (Client.loop_decided hbuild hdec after).trans hrun.symm

/-- A server that rejects the first attempt as retryable and accepts the second. -/
def recoveringEnv : Env :=
  { parse := fun raw =>
      if raw = [1] then
        some (.object [(Text.ofString "error", .object
          [(Text.ofString "code", .string (Text.ofString "D1_RETRYABLE")),
            (Text.ofString "retryable", .bool true)])])
      else some (.object [])
    isPrint := Char.isAlphanum
    marshal := fun _ => .ok []
    newRequest := fun _ _ => none
    keySeed := ⟨1, 2⟩
    correlationSeed := ⟨3, 4⟩
    timestamp := fun _ => "2026-01-01T00:00:00Z"
    send := fun k =>
      if k = 1 then .response 503 ∅ ⟨[1], none⟩ else .response 200 ∅ ⟨[2], none⟩
    wait := fun _ => .elapsed }

/-- A mutation is attempted twice against that server. -/
theorem recoveringEnv_retries :
    let run := (⟨"https://mizan.example", "token", "", 3⟩ : Client).requestWithHeaders
      recoveringEnv "POST" "/v1/consumptions" "shop" none "key" true []
    1 + 1 ≤ run.attempts.length := by
  intro run
  have hdecision := requestWithHeaders_retryDecision
    ⟨"https://mizan.example", "token", "", 3⟩ recoveringEnv "POST" "/v1/consumptions" "shop"
    "key" none true [] (fun _ => rfl)
  have hsent : 1 ≤ run.attempts.length := by decide
  refine (hdecision.2.1 1 le_rfl hsent).mpr ⟨rfl, by decide, ?_⟩
  exact Reply.AllowsRetry.rejection 503 ∅ rfl

end MizanSDK.Go
