import MizanSDK.Library.Journal
import MizanSDK.Python.Binding

/-!
# The lifecycle log of the Python client

`_log` in `_request`: what the `logger` of a client is told of a call, in the order of
the source.  A round logs its completion before it returns the payload, or its retry
before it computes the backoff, which may overflow; a round that raises logs nothing.

Main results:

- Theorem `log_tells_run`: the log of a call says how many attempts were made, which
  of them were followed by a backoff, and whether the last one succeeded.
- Theorem `log_depends`: the log and the outcome depend on the key, the correlation ID,
  the attempt limit and the answers alone.
- Theorem `token_kept`: the token of a client reaches nothing but the authorization
  header of its requests.
-/

namespace MizanSDK.Python

open JsonText BoundedRetry

/-! ## Events -/

/-- The value of a field of an event. -/
inductive LogValue where
  | int (n : ℤ)
  | str (s : PyStr)
  | none
deriving DecidableEq

/-- The arguments of the logger. -/
structure LogEvent where
  event : String
  fields : List (String × LogValue)
deriving DecidableEq

/-- `self._log("request_complete", ...)`. -/
def requestComplete (correlationId : PyStr) (attempt : ℕ) (status : ℤ) : LogEvent :=
  ⟨"request_complete", [("status", .int status), ("attempt", .int attempt),
    ("request_id", .str correlationId)]⟩

/-- `self._log("request_retry", ...)`. -/
def requestRetry (correlationId : PyStr) (key : Option PyStr) (attempt : ℕ) : LogEvent :=
  ⟨"request_retry", [("attempt", .int attempt), ("request_id", .str correlationId),
    ("idempotency_key", key.elim .none .str)]⟩

/-- What is logged after a network error. -/
def Call.uncertainEvents (call : Call) (maxAttempts attempt : ℕ) : List LogEvent :=
  if !call.mutation || attempt == maxAttempts then []
  else [requestRetry call.correlationId call.key attempt]

/-- What is logged after a response. -/
def Call.decideEvents (call : Call) (env : Env) (maxAttempts attempt : ℕ) (status : ℤ)
    (headers : List (PyStr × PyStr)) (raw : List UInt8) : List LogEvent :=
  if responseLimit < raw.length then []
  else
    match env.payload raw with
    | some (.dict payload) =>
        if 200 ≤ status ∧ status < 300 then [requestComplete call.correlationId attempt status]
        else
          match (PyDict.get payload "error").getD (.dict []) with
          | .dict error =>
              match apiErrorOf call.key status headers error with
              | .error _ => []
              | .ok apiError =>
                  if !call.mutation || !apiError.retryable || attempt == maxAttempts then []
                  else [requestRetry call.correlationId call.key attempt]
          | _ => []
    | _ => []

/-- What one round of the loop logs. -/
def MizanClient.events (c : MizanClient) (env : Env) (call : Call) (attempt : ℕ) :
    List LogEvent :=
  match env.transport attempt with
  | .raises _ => call.uncertainEvents c.maxAttempts attempt
  | .returns status headers raw =>
      call.decideEvents env c.maxAttempts attempt status headers raw

/-- What `_request` logs. -/
def MizanClient.lifecycle (c : MizanClient) (env : Env) (method : String) (path : PyStr)
    (body : Option PyDict) (businessId : PyStr) (idempotencyKey : Option PyStr)
    (mutation : Bool) (extraHeaders : List (String × PyStr)) : List LogEvent :=
  match env.encode body with
  | .error _ => []
  | .ok encoded =>
      let call := env.newCall method path encoded businessId idempotencyKey mutation extraHeaders
      journal (c.attempt env call) (c.events env call) c.maxAttempts 1

/-- What is logged once a first computation raises nothing. -/
def guardedLog {α : Type*} (first : Except PyError α) (log : α → List LogEvent) :
    List LogEvent :=
  match first with
  | .error _ => []
  | .ok a => log a

/-- What a mutating call logs. -/
def MutatingCall.lifecycle (m : MutatingCall) (a : MizanAdminClient) (env : Env)
    (key : Option PyStr) : List LogEvent :=
  guardedLog (m.path a) fun path =>
    a.lifecycle env m.target.1 path (some m.target.2.1) m.target.2.2 key true (m.extraHeaders a)

/-- What a reading call logs. -/
def ReadingCall.lifecycle (m : ReadingCall) (a : MizanAdminClient) (env : Env) :
    List LogEvent :=
  guardedLog (m.path a) fun path =>
    a.lifecycle env m.target.1 path m.target.2.1 m.target.2.2 none false (m.extraHeaders a)

/-- What a call of any method logs. -/
def BusinessCall.lifecycle (call : BusinessCall) (a : MizanAdminClient) (py : BuilderInterpreter)
    (env : Env) (key : Option PyStr) : List LogEvent :=
  match call with
  | .mutating m => m.lifecycle a env key
  | .reading r => r.lifecycle a env
  | .metering b u =>
      guardedLog (u.build py) fun request => (MutatingCall.consume b request).lifecycle a env key

/-! ## The events of a round -/

/-- The status of a success. -/
def Env.successStatus (env : Env) (k : ℕ) : Option ℤ :=
  match env.transport k, env.reply k with
  | .returns status _ _, .success _ => some status
  | _, _ => none

/-- An object with a success status. -/
def Reply.isSuccess : Reply → Bool
  | .success _ => true
  | _ => false

/-- What a round logs whose reply, of that status, is `reply`. -/
def Reply.events (call : Call) (maxAttempts k : ℕ) (status : ℤ) (reply : Reply) :
    List LogEvent :=
  if call.mutation = true ∧ k ≠ maxAttempts ∧ reply.asksRetry = true then
    [requestRetry call.correlationId call.key k]
  else if reply.isSuccess then [requestComplete call.correlationId k status]
  else []

/-- A rejection is logged if it is retried. -/
theorem Call.rejection_events (call : Call) (maxAttempts k : ℕ) (status : ℤ)
    (headers : List (PyStr × PyStr)) (error : PyDict) :
    (match apiErrorOf call.key status headers error with
      | .error _ => []
      | .ok apiError =>
          if !call.mutation || !apiError.retryable || k == maxAttempts then []
          else [requestRetry call.correlationId call.key k]) =
      (Reply.rejection status headers error).events call maxAttempts k status := by
  have hmakes := makesError_iff call.key status headers error
  cases hapi : apiErrorOf call.key status headers error with
  | error exc =>
      have hnot : makesError error = false := by
        rw [hapi] at hmakes
        simpa using hmakes
      simp [Reply.events, Reply.asksRetry, Reply.isSuccess, hnot]
  | ok err =>
      have hasks : (Reply.rejection status headers error).asksRetry = err.retryable := by
        have hyes : makesError error = true := hmakes.mpr ⟨err, hapi⟩
        rw [(apiErrorOf_ok hapi).2.2.2]
        simp [Reply.asksRetry, hyes, errorRetryable]
      have hsuccess : (Reply.rejection status headers error).isSuccess = false := rfl
      rw [Reply.events, hasks, hsuccess]
      dsimp only
      cases call.mutation
      · simp
      · by_cases hk : k = maxAttempts
        · simp [hk]
        · cases err.retryable <;> simp [hk]

/-- What is logged after a response is decided by its reply. -/
theorem Call.decideEvents_eq (call : Call) (env : Env) (maxAttempts k : ℕ) (status : ℤ)
    (headers : List (PyStr × PyStr)) (raw : List UInt8) :
    call.decideEvents env maxAttempts k status headers raw =
      ((TransportOutcome.returns status headers raw).reply env).events call maxAttempts k
        status := by
  rw [Call.decideEvents, TransportOutcome.reply]
  by_cases hsize : responseLimit < raw.length
  · rw [if_pos hsize, if_pos hsize]
    simp [Reply.events, Reply.asksRetry, Reply.isSuccess]
  · rw [if_neg hsize, if_neg hsize]
    rcases env.payload raw with _ | payload
    · simp [Reply.events, Reply.asksRetry, Reply.isSuccess]
    · cases payload with
      | dict payload =>
          by_cases hstatus : 200 ≤ status ∧ status < 300
          · simp [PyValue.reply, hstatus, Reply.events, Reply.asksRetry, Reply.isSuccess]
          · simp only [Option.elim_some, PyValue.reply, if_neg hstatus]
            rcases (PyDict.get payload "error").getD (.dict []) with
              _ | _ | _ | _ | _ | _ | error
            case dict => exact call.rejection_events maxAttempts k status headers error
            all_goals simp [Reply.events, Reply.asksRetry, Reply.isSuccess]
      | _ => simp [PyValue.reply, Reply.events, Reply.asksRetry, Reply.isSuccess]

/-- What a round logs is decided by its reply. -/
theorem MizanClient.events_eq (c : MizanClient) (env : Env) (call : Call) (k : ℕ) :
    c.events env call k =
      if call.mutation = true ∧ k ≠ c.maxAttempts ∧ (env.reply k).asksRetry = true then
        [requestRetry call.correlationId call.key k]
      else (env.successStatus k).toList.map (requestComplete call.correlationId k) := by
  rw [MizanClient.events, Env.successStatus, Env.reply]
  cases env.transport k with
  | raises exc =>
      simp only [Call.uncertainEvents, TransportOutcome.reply, Reply.asksRetry]
      cases call.mutation
      · simp
      · by_cases hk : k = c.maxAttempts <;> simp [hk]
  | returns status headers raw =>
      dsimp only
      rw [Call.decideEvents_eq, Reply.events]
      generalize (TransportOutcome.returns status headers raw).reply env = reply
      cases reply <;> simp [Reply.isSuccess]

/-! ## What the log tells -/

/-- The parts of `details` raise no overflow. -/
theorem pairsOf_ne_overflow (elements : List PyValue) (index : ℕ) :
    pairsOf index elements ≠ .error .overflowError := by
  induction elements generalizing index with
  | nil => simp [pairsOf]
  | cons element rest ih =>
      have hpair : pairOf index element ≠ .error .overflowError := by
        unfold pairOf
        split
        · split <;> simp
        · simp
        · simp
      have htail := ih (index + 1)
      rw [pairsOf]
      cases hhead : pairOf index element with
      | error exc => simpa [hhead, bind, Except.bind] using hpair
      | ok pair =>
          cases hrest : pairsOf (index + 1) rest with
          | error exc => simpa [hrest, bind, Except.bind] using htail
          | ok pairs => simp [bind, Except.bind, pure, Except.pure]

theorem dictOf_ne_overflow (v : PyValue) : dictOf v ≠ .error .overflowError := by
  unfold dictOf
  split
  · split
    · simp
    · split
      · exact pairsOf_ne_overflow _ 0
      · simp
  · simp

theorem apiErrorType_ne_overflow (code : PyValue) :
    apiErrorType code ≠ .error .overflowError := by
  unfold apiErrorType
  split
  · split <;> simp
  · simp

/-- An error envelope raises no overflow. -/
theorem apiErrorOf_ne_overflow (key : Option PyStr) (status : ℤ)
    (headers : List (PyStr × PyStr)) (error : PyDict) :
    apiErrorOf key status headers error ≠ .error .overflowError := by
  have htype := apiErrorType_ne_overflow ((error.get "code").getD (.str (str "HTTP_ERROR")))
  have hdict := dictOf_ne_overflow ((error.get "details").getD (.dict []))
  rw [apiErrorOf]
  cases hcode : apiErrorType ((error.get "code").getD (.str (str "HTTP_ERROR"))) with
  | error exc => simpa [hcode, bind, Except.bind] using htype
  | ok type =>
      cases hdetails : dictOf ((error.get "details").getD (.dict [])) with
      | error exc => simpa [hdetails, bind, Except.bind] using hdict
      | ok details => simp [bind, Except.bind, pure, Except.pure]

/-- The call was left by the computation of a backoff. -/
def Outcome.leftWaiting : Outcome → Bool
  | .raised (.other exc) => exc == .overflowError
  | _ => false

/-- No reply ends a call in that way. -/
theorem Reply.terminal_leftWaiting (reply : Reply) (call : Call) (k : ℕ) :
    (reply.terminal call k).leftWaiting = false := by
  cases reply with
  | rejection status headers error =>
      have hne := apiErrorOf_ne_overflow call.key status headers error
      rw [Reply.terminal]
      cases hapi : apiErrorOf call.key status headers error with
      | ok err => rfl
      | error exc =>
          rw [hapi] at hne
          have hexc : exc ≠ .overflowError := fun h => hne (by rw [h])
          simpa [Outcome.leftWaiting] using hexc
  | networkError | oversize | invalidJson | nonObject | success | badEnvelope => rfl

/-- A success has a status, which is one of success. -/
theorem Env.exists_successStatus {env : Env} {k : ℕ} {payload : PyDict}
    (h : env.reply k = .success payload) :
    ∃ status, env.successStatus k = some status ∧ 200 ≤ status ∧ status < 300 := by
  rw [Env.successStatus, h]
  rw [Env.reply] at h
  cases hsend : env.transport k with
  | raises exc =>
      rw [hsend] at h
      cases h
  | returns status headers raw =>
      refine ⟨status, rfl, ?_⟩
      rw [hsend, TransportOutcome.reply] at h
      split at h
      · cases h
      · cases hpayload : env.payload raw with
        | none => simp [hpayload] at h
        | some value =>
            rw [hpayload, Option.elim_some, PyValue.reply.eq_def] at h
            split at h
            · split at h
              · assumption
              · split at h <;> cases h
            · cases h

/-- Nothing else has one. -/
theorem Env.successStatus_eq_none {env : Env} {k : ℕ} (h : (env.reply k).isSuccess = false) :
    env.successStatus k = none := by
  rw [Env.successStatus]
  split
  · rename_i hreply
    rw [hreply] at h
    cases h
  · rfl

/-- What closes the log of a call: its completion, if it succeeded. -/
def closes (correlationId : PyStr) (attempts : ℕ) (outcome : Outcome) (last : List LogEvent) :
    Prop :=
  match outcome with
  | .response _ => ∃ status, 200 ≤ status ∧ status < 300 ∧
      last = [requestComplete correlationId attempts status]
  | .raised _ => last = []

/-- What a log tells of a run: a retry for every attempt that was followed by a backoff,
and a completion at the end if the call succeeded. -/
def TellsRun (correlationId : PyStr) (key : Option PyStr) :
    Run Request Outcome → List LogEvent → Prop :=
  Tells Outcome.leftWaiting (requestRetry correlationId key) (closes correlationId)

/-- What a round logs that ends its call closes the log. -/
theorem closes_terminal (env : Env) (call : Call) (k : ℕ) :
    closes call.correlationId k ((env.reply k).terminal call k)
      ((env.successStatus k).toList.map (requestComplete call.correlationId k)) := by
  by_cases hsuccess : (env.reply k).isSuccess = true
  · cases hreply : env.reply k with
    | success payload =>
        rcases Env.exists_successStatus hreply with ⟨status, hstatus, hlow, hhigh⟩
        refine ⟨status, hlow, hhigh, ?_⟩
        rw [hstatus]
        rfl
    | networkError | oversize | invalidJson | nonObject | badEnvelope | rejection =>
        rw [hreply] at hsuccess
        cases hsuccess
  · have hraised : ∃ err, (env.reply k).terminal call k = .raised err := by
      cases hreply : env.reply k with
      | success payload => exact absurd (by rw [hreply]; rfl) hsuccess
      | rejection status headers error =>
          rw [Reply.terminal]
          cases apiErrorOf call.key status headers error with
          | ok err => exact ⟨_, rfl⟩
          | error exc => exact ⟨_, rfl⟩
      | networkError | oversize | invalidJson | nonObject | badEnvelope => exact ⟨_, rfl⟩
    rcases hraised with ⟨err, herr⟩
    rw [herr, Env.successStatus_eq_none (Bool.not_eq_true _ ▸ hsuccess)]
    rfl

/-- What the deciding round of a call logs. -/
theorem MizanClient.deciding_events (c : MizanClient) {env : Env} {call : Call} {j : ℕ}
    {r : Outcome} (h : Decides (c.attempt env call) 1 c.maxAttempts j r) :
    (r.leftWaiting = true ∧ c.events env call j =
      [requestRetry call.correlationId call.key j] ∧ closes call.correlationId j r []) ∨
    (r.leftWaiting = false ∧ closes call.correlationId j r (c.events env call j)) := by
  have hstop := h.stop
  rw [c.attempt_verdict env call] at hstop
  rw [c.events_eq env call]
  by_cases hretry : call.mutation = true ∧ j ≠ c.maxAttempts ∧ (env.reply j).asksRetry = true
  · rw [if_pos hretry, backoff] at hstop
    left
    rw [if_pos hretry]
    split at hstop
    · obtain rfl := Verdict.stop.inj hstop
      exact ⟨rfl, rfl, rfl⟩
    · cases hstop
  · rw [if_neg hretry] at hstop
    right
    rw [if_neg hretry]
    obtain rfl := Verdict.stop.inj hstop
    exact ⟨Reply.terminal_leftWaiting _ _ _, closes_terminal env call j⟩

/-- What follows a round that asks for another one. -/
theorem MizanClient.events_of_isAgain (c : MizanClient) {env : Env} {call : Call} {k : ℕ}
    (h : (c.attempt env call k).verdict.isAgain = true) :
    c.events env call k = [requestRetry call.correlationId call.key k] := by
  obtain ⟨hmutation, hk, hasks, -⟩ := (c.attempt_isAgain_iff env call k).mp h
  rw [c.events_eq env call, if_pos ⟨hmutation, hk, hasks⟩]

/-- The log of a call tells its run. -/
theorem MizanClient.lifecycle_tells (c : MizanClient) (env : Env) (method : String)
    (path : PyStr) (body : Option PyDict) (businessId : PyStr) (idempotencyKey : Option PyStr)
    (mutation : Bool) (extraHeaders : List (String × PyStr)) :
    TellsRun env.correlationUuid (env.key idempotencyKey mutation)
      (c.request env method path body businessId idempotencyKey mutation extraHeaders)
      (c.lifecycle env method path body businessId idempotencyKey mutation extraHeaders) := by
  cases hencode : env.encode body with
  | error exc =>
      rw [MizanClient.request, MizanClient.lifecycle, hencode]
      exact tells_unsent rfl rfl
  | ok encoded =>
      obtain ⟨call, hcall⟩ : ∃ call, call = env.newCall method path encoded businessId
          idempotencyKey mutation extraHeaders := ⟨_, rfl⟩
      have hkey : call.key = env.key idempotencyKey mutation := by rw [hcall]; rfl
      have hid : call.correlationId = env.correlationUuid := by rw [hcall]; rfl
      obtain ⟨j, r, hdec, hrun⟩ := c.request_decided hcall hencode
      have hlength : ((List.range' 1 j).map (c.buildRequest env call)).length = j := by simp
      rw [hrun, MizanClient.lifecycle, hencode, ← hkey, ← hid]
      dsimp only
      rw [← hcall]
      apply journal_tells
      · rwa [hlength]
      · exact fun i hi => c.events_of_isAgain hi
      · rw [hlength]
        exact c.deciding_events hdec

/-- A first computation that raises is not logged. -/
theorem tells_guarded {α : Type*} {correlationId : PyStr} {key : Option PyStr}
    {first : Except PyError α} {call : α → Run Request Outcome} {log : α → List LogEvent}
    (h : ∀ a, TellsRun correlationId key (call a) (log a)) :
    TellsRun correlationId key (guarded first call) (guardedLog first log) := by
  cases first with
  | error exc => exact tells_unsent rfl rfl
  | ok a => exact h a

/-- The key of a call: a read has none. -/
def BusinessCall.usedKey (call : BusinessCall) (env : Env) (key : Option PyStr) :
    Option PyStr :=
  match call with
  | .reading _ => none
  | _ => env.key key true

/-- The log of a call of any method tells its run. -/
theorem log_tells_run (call : BusinessCall) (a : MizanAdminClient) (py : BuilderInterpreter)
    (env : Env) (key : Option PyStr) :
    TellsRun env.correlationUuid (call.usedKey env key) (call.perform a py env key)
      (call.lifecycle a py env key) := by
  have hmutating : ∀ m : MutatingCall, TellsRun env.correlationUuid (env.key key true)
      (m.perform a env key) (m.lifecycle a env key) := by
    intro m
    rw [MutatingCall.perform_eq]
    exact tells_guarded fun path => a.lifecycle_tells env _ _ _ _ _ _ _
  cases call with
  | mutating m => exact hmutating m
  | reading r =>
      rw [BusinessCall.perform, ReadingCall.perform_eq]
      exact tells_guarded fun path => a.lifecycle_tells env _ _ _ _ none false _
  | metering b u =>
      rw [BusinessCall.perform, UsageCall.perform_eq]
      exact tells_guarded fun request => hmutating (.consume b request)

/-! ## What the log depends on -/

/-- Two worlds that answer a call alike, under the same correlation ID. -/
structure Env.AnswersAlike (env env' : Env) : Prop where
  decode : env'.decode = env.decode
  loads : env'.loads = env.loads
  transport : env'.transport = env.transport
  correlationId : env'.correlationUuid = env.correlationUuid

/-- Two calls that the loop does not tell apart. -/
structure Call.Alike (call call' : Call) : Prop where
  key : call'.key = call.key
  mutation : call'.mutation = call.mutation
  correlationId : call'.correlationId = call.correlationId

section Alike

variable {c c' : MizanClient} {env env' : Env} {call call' : Call}

theorem Env.AnswersAlike.reply_eq (h : env.AnswersAlike env') (k : ℕ) :
    env'.reply k = env.reply k := by
  have hpayload : ∀ raw, env'.payload raw = env.payload raw := fun raw => by
    rw [Env.payload, Env.payload, h.decode, h.loads]
  rw [Env.reply, Env.reply, h.transport]
  cases env.transport k with
  | raises exc => rfl
  | returns status headers raw =>
      rw [TransportOutcome.reply, TransportOutcome.reply, hpayload]

theorem Env.AnswersAlike.successStatus_eq (h : env.AnswersAlike env') (k : ℕ) :
    env'.successStatus k = env.successStatus k := by
  rw [Env.successStatus, Env.successStatus, h.transport, h.reply_eq]

theorem Call.Alike.terminal_eq (h : call.Alike call') (k : ℕ) (reply : Reply) :
    reply.terminal call' k = reply.terminal call k := by
  cases reply <;> simp only [Reply.terminal, h.key, h.correlationId]

theorem Call.Alike.cause_eq (h : call.Alike call') (reply : Reply) :
    reply.cause call' = reply.cause call := by
  cases reply <;> simp only [Reply.cause, h.key]

/-- Alike calls in alike worlds have the same verdicts. -/
theorem attempt_verdict_alike (henv : env.AnswersAlike env') (hcall : call.Alike call')
    (hlimit : c'.maxAttempts = c.maxAttempts) (k : ℕ) :
    (c'.attempt env' call' k).verdict = (c.attempt env call k).verdict := by
  rw [c.attempt_verdict, c'.attempt_verdict, henv.reply_eq, hcall.mutation, hlimit,
    hcall.terminal_eq, hcall.cause_eq]

/-- They write the same events. -/
theorem events_alike (henv : env.AnswersAlike env') (hcall : call.Alike call')
    (hlimit : c'.maxAttempts = c.maxAttempts) :
    c'.events env' call' = c.events env call := by
  funext k
  rw [c.events_eq, c'.events_eq, henv.reply_eq, henv.successStatus_eq, hcall.mutation, hlimit,
    hcall.key, hcall.correlationId]

end Alike

/-- Two calls that are alike to the loop: they log the same, end alike, and send requests
up to the same attempt. -/
theorem request_alike {c c' : MizanClient} {env env' : Env} {method method' : String}
    {path path' businessId businessId' : PyStr} {body body' : Option PyDict}
    {key key' : Option PyStr} {mutation : Bool} {extraHeaders extraHeaders' : List (String × PyStr)}
    {encoded encoded' : Option (List UInt8)}
    (henv : env.AnswersAlike env') (hlimit : c'.maxAttempts = c.maxAttempts)
    (hkey : env'.key key' mutation = env.key key mutation)
    (hencode : env.encode body = .ok encoded) (hencode' : env'.encode body' = .ok encoded') :
    c'.lifecycle env' method' path' body' businessId' key' mutation extraHeaders' =
      c.lifecycle env method path body businessId key mutation extraHeaders ∧
    ∃ j r,
      c.request env method path body businessId key mutation extraHeaders =
        ⟨(List.range' 1 j).map (c.buildRequest env
          (env.newCall method path encoded businessId key mutation extraHeaders)), r⟩ ∧
      c'.request env' method' path' body' businessId' key' mutation extraHeaders' =
        ⟨(List.range' 1 j).map (c'.buildRequest env'
          (env'.newCall method' path' encoded' businessId' key' mutation extraHeaders')), r⟩ := by
  have hcall : (env.newCall method path encoded businessId key mutation extraHeaders).Alike
      (env'.newCall method' path' encoded' businessId' key' mutation extraHeaders') :=
    ⟨hkey, rfl, henv.correlationId⟩
  obtain ⟨j, r, hdec, hrun⟩ := c.request_decided rfl hencode
  obtain ⟨j', r', hdec', hrun'⟩ := c'.request_decided rfl hencode'
  have hsame := hdec.congr (attempt_verdict_alike henv hcall hlimit)
  obtain ⟨rfl, rfl⟩ := hsame.eq_of_stop hdec'.le hdec'.reaches hdec'.stop
  refine ⟨?_, _, _, hrun, hrun'⟩
  rw [MizanClient.lifecycle, MizanClient.lifecycle, hencode, hencode']
  dsimp only
  rw [journal_eq_of_decides hdec, journal_eq_of_decides hdec', events_alike henv hcall hlimit]

/-- The log, the number of attempts and the outcome of a call depend on its key, on whether
it mutates, on its correlation ID, on the attempt limit and on the answers: clients, business
IDs, paths, bodies, headers and timestamps do not show. -/
theorem log_depends {c c' : MizanClient} {env env' : Env} {method method' : String}
    {path path' businessId businessId' : PyStr} {body body' : Option PyDict}
    {key key' : Option PyStr} {mutation : Bool} {extraHeaders extraHeaders' : List (String × PyStr)}
    (henv : env.AnswersAlike env') (hlimit : c'.maxAttempts = c.maxAttempts)
    (hkey : env'.key key' mutation = env.key key mutation)
    (hencode : ∃ encoded, env.encode body = .ok encoded)
    (hencode' : ∃ encoded, env'.encode body' = .ok encoded) :
    c'.lifecycle env' method' path' body' businessId' key' mutation extraHeaders' =
      c.lifecycle env method path body businessId key mutation extraHeaders ∧
    (c'.request env' method' path' body' businessId' key' mutation extraHeaders').result =
      (c.request env method path body businessId key mutation extraHeaders).result ∧
    (c'.request env' method' path' body' businessId' key' mutation
      extraHeaders').attempts.length =
      (c.request env method path body businessId key mutation extraHeaders).attempts.length := by
  obtain ⟨encoded, hencode⟩ := hencode
  obtain ⟨encoded', hencode'⟩ := hencode'
  obtain ⟨hlog, j, r, hrun, hrun'⟩ := request_alike henv hlimit hkey hencode hencode'
  refine ⟨hlog, ?_, ?_⟩
  · rw [hrun', hrun]
  · rw [hrun', hrun, List.length_map, List.length_map]

/-! ## Where the token goes -/

/-- An admin client with another token. -/
def MizanAdminClient.withToken (a : MizanAdminClient) (token : PyStr) : MizanAdminClient :=
  { a with token }

/-- Two requests that differ in their authorization at most. -/
structure Request.SameButAuthorization (request request' : Request) : Prop where
  method : request'.method = request.method
  url : request'.url = request.url
  data : request'.data = request.data
  header : ∀ name, name ≠ "Authorization" → request'.header name = request.header name

/-- The requests of two clients that differ in their tokens. -/
theorem MizanAdminClient.buildRequest_withToken (a : MizanAdminClient) (token : PyStr)
    (env : Env) (call : Call) (k : ℕ) :
    (a.buildRequest env call k).SameButAuthorization
      ((a.withToken token).buildRequest env call k) where
  method := rfl
  url := rfl
  data := rfl
  header := by
    intro name hname
    have hfirst : ∀ (value : PyStr) (rest : List (String × PyStr)),
        lookupLast (("Authorization", value) :: rest) name = lookupLast rest name := by
      intro value rest
      rw [lookupLast_cons, if_neg hname.symm, Option.or_none]
    simp only [Request.header, MizanClient.buildRequest]
    cases call.encoded <;>
      simp only [Option.isSome_none, Option.isSome_some, Bool.false_eq_true, if_true, if_false,
        List.cons_append, hfirst]

/-- With another token `_request` logs the same, ends alike and sends as many requests,
which differ in their authorization at most. -/
theorem MizanAdminClient.request_withToken (a : MizanAdminClient) (token : PyStr) (env : Env)
    (method : String) (path : PyStr) (body : Option PyDict) (businessId : PyStr)
    (key : Option PyStr) (mutation : Bool) (extraHeaders : List (String × PyStr)) :
    (a.withToken token).lifecycle env method path body businessId key mutation extraHeaders =
      a.lifecycle env method path body businessId key mutation extraHeaders ∧
    ((a.withToken token).request env method path body businessId key mutation
      extraHeaders).result =
      (a.request env method path body businessId key mutation extraHeaders).result ∧
    List.Forall₂ Request.SameButAuthorization
      (a.request env method path body businessId key mutation extraHeaders).attempts
      ((a.withToken token).request env method path body businessId key mutation
        extraHeaders).attempts := by
  cases hencode : env.encode body with
  | error exc =>
      simp only [MizanClient.lifecycle, MizanClient.request, hencode]
      exact ⟨trivial, trivial, .nil⟩
  | ok encoded =>
      have henv : env.AnswersAlike env := ⟨rfl, rfl, rfl, rfl⟩
      have hlimit : (a.withToken token).maxAttempts = a.maxAttempts := rfl
      obtain ⟨hlog, j, r, hrun, hrun'⟩ := request_alike henv hlimit rfl hencode hencode
      rw [hrun, hrun']
      refine ⟨hlog, rfl, ?_⟩
      rw [List.forall₂_map_left_iff, List.forall₂_map_right_iff]
      exact List.forall₂_same.mpr fun k _ => a.buildRequest_withToken token env _ k

/-- The token of a client reaches nothing but the authorization of its requests: with another
token a call of any method logs the same, ends alike and sends as many requests, which differ
in that header at most. -/
theorem token_kept (call : BusinessCall) (a : MizanAdminClient) (token : PyStr)
    (py : BuilderInterpreter) (env : Env) (key : Option PyStr) :
    call.lifecycle (a.withToken token) py env key = call.lifecycle a py env key ∧
    (call.perform (a.withToken token) py env key).result = (call.perform a py env key).result ∧
    List.Forall₂ Request.SameButAuthorization (call.perform a py env key).attempts
      (call.perform (a.withToken token) py env key).attempts := by
  have hmutating : ∀ m : MutatingCall,
      m.lifecycle (a.withToken token) env key = m.lifecycle a env key ∧
      (m.perform (a.withToken token) env key).result = (m.perform a env key).result ∧
      List.Forall₂ Request.SameButAuthorization (m.perform a env key).attempts
        (m.perform (a.withToken token) env key).attempts := by
    intro m
    have hpath : m.path (a.withToken token) = m.path a := by cases m <;> rfl
    have hextra : m.extraHeaders (a.withToken token) = m.extraHeaders a := by cases m <;> rfl
    rw [MutatingCall.perform_eq, MutatingCall.perform_eq, MutatingCall.lifecycle,
      MutatingCall.lifecycle, hpath, hextra]
    cases m.path a with
    | error exc => exact ⟨rfl, rfl, .nil⟩
    | ok path => exact a.request_withToken token env _ path _ _ key true _
  cases call with
  | mutating m => exact hmutating m
  | reading r =>
      have hpath : r.path (a.withToken token) = r.path a := by cases r <;> rfl
      have hextra : r.extraHeaders (a.withToken token) = r.extraHeaders a := by cases r <;> rfl
      rw [BusinessCall.perform, BusinessCall.perform, ReadingCall.perform_eq,
        ReadingCall.perform_eq, BusinessCall.lifecycle, BusinessCall.lifecycle,
        ReadingCall.lifecycle, ReadingCall.lifecycle, hpath, hextra]
      cases r.path a with
      | error exc => exact ⟨rfl, rfl, .nil⟩
      | ok path => exact a.request_withToken token env _ path _ _ none false _
  | metering b u =>
      rw [BusinessCall.perform, BusinessCall.perform, UsageCall.perform_eq,
        UsageCall.perform_eq, BusinessCall.lifecycle, BusinessCall.lifecycle]
      cases hbuild : u.build py with
      | error exc =>
          simp only [MizanClient.consumeBuilt]
          exact ⟨rfl, rfl, .nil⟩
      | ok request =>
          simp only [MizanClient.consumeBuilt]
          exact hmutating (.consume b request)

end MizanSDK.Python
