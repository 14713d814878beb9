import MizanSDK.Go.Binding
import MizanSDK.Library.Journal

/-!
# The lifecycle log of the Go client

`Client.log` in `requestWithHeaders`: what a `Logger` is told of a call, in the order
of the source.  A round logs its completion before it returns the response, or its
retry before it waits; a round that gives up logs nothing.

Main results:

- Theorem `lifecycle_tells_run`: the log of a call says how many attempts were made,
  which of them were followed by a wait, and whether the last one succeeded.
- Theorem `lifecycle_depends`: the log and the result depend on the key, the correlation
  ID, the attempt limit and the answers alone.
- Theorem `token_confined`: the token of a client reaches nothing but the authorization
  header of its requests.
-/

namespace MizanSDK.Go

open JsonText BoundedRetry

/-! ## Events -/

/-- The value of a field of an event. -/
inductive LogValue where
  | int (n : ℤ)
  | string (s : String)
deriving DecidableEq

/-- The arguments of `Logger`. -/
structure LogEvent where
  event : String
  fields : List (String × LogValue)
deriving DecidableEq

/-- `c.log("request_complete", ...)`. -/
def requestComplete (correlationID : String) (attempt : ℕ) (statusCode : ℤ) : LogEvent :=
  ⟨"request_complete", [("attempt", .int attempt), ("status", .int statusCode),
    ("request_id", .string correlationID)]⟩

/-- `c.log("request_retry", ...)`. -/
def requestRetry (correlationID key : String) (attempt : ℕ) : LogEvent :=
  ⟨"request_retry", [("attempt", .int attempt), ("request_id", .string correlationID),
    ("idempotency_key", .string key)]⟩

/-- What is logged after a send or read error. -/
def Call.uncertainEvents (call : Call) (attempt : ℕ) : List LogEvent :=
  if !call.mutation || attempt == call.attempts then []
  else [requestRetry call.correlationID call.key attempt]

/-- What is logged after a response whose body was read. -/
def Call.decideEvents (call : Call) (env : Env) (attempt : ℕ) (statusCode : ℤ)
    (raw : List UInt8) : List LogEvent :=
  if responseLimit < raw.length then []
  else
    match (if 0 < raw.length then unmarshalMap env.parse raw else some []) with
    | none => []
    | some result =>
        if 200 ≤ statusCode ∧ statusCode < 300 then
          [requestComplete call.correlationID attempt statusCode]
        else if !call.mutation || !(decodeAPIError statusCode result).retryable ||
            attempt == call.attempts then []
        else [requestRetry call.correlationID call.key attempt]

/-- What one round of the loop logs. -/
def Client.events (c : Client) (env : Env) (call : Call) (attempt : ℕ) : List LogEvent :=
  match env.newRequest call.method (c.baseURL ++ call.path) with
  | some _ => []
  | none =>
      match env.send attempt with
      | .failure _ => call.uncertainEvents attempt
      | .response statusCode _ body =>
          match readAll (responseLimit + 1) body with
          | .error _ => call.uncertainEvents attempt
          | .ok raw => call.decideEvents env attempt statusCode raw

/-- What `requestWithHeaders` logs. -/
def Client.lifecycle (c : Client) (env : Env) (method path businessID : String)
    (body : Option RequestBody) (key : String) (mutation : Bool)
    (extraHeaders : List (String × String)) : List LogEvent :=
  match env.encode body with
  | .error _ => []
  | .ok payload =>
      let call := c.newCall env method path businessID payload key mutation extraHeaders
      journal (c.attempt env call) (c.events env call) call.attempts 1

/-- What a plan logs. -/
def Plan.lifecycle (p : Plan) (c : Client) (env : Env) : List LogEvent :=
  match p.check.or (if p.guardsScope then c.scopeCheck env p.businessID else none) with
  | some _ => []
  | none =>
      c.lifecycle env p.method p.path p.businessID p.body p.key p.mutation p.extraHeaders

/-- What a method logs. -/
def MethodCall.lifecycle (call : MethodCall) (a : AdminClient) (env : Env) (key : String) :
    List LogEvent :=
  (call.plan a env key).lifecycle a.client env

/-! ## The events of a round -/

/-- The status of a success. -/
def Env.successStatus (env : Env) (k : ℕ) : Option ℤ :=
  match env.send k, env.reply k with
  | .response statusCode _ _, .success _ => some statusCode
  | _, _ => none

/-- What a round logs is decided by its reply. -/
theorem Client.events_eq (c : Client) {env : Env} (call : Call)
    (h : env.newRequest call.method (c.baseURL ++ call.path) = none) (k : ℕ) :
    c.events env call k =
      if call.mutation = true ∧ k ≠ call.attempts ∧ (env.reply k).asksRetry = true then
        [requestRetry call.correlationID call.key k]
      else (env.successStatus k).toList.map (requestComplete call.correlationID k) := by
  have huncertain : call.uncertainEvents k =
      if call.mutation = true ∧ k ≠ call.attempts then
        [requestRetry call.correlationID call.key k] else [] := by
    rw [Call.uncertainEvents]
    cases call.mutation
    · simp
    · by_cases hk : k = call.attempts <;> simp [hk]
  rw [Client.events, h]
  cases hsend : env.send k with
  | failure err =>
      simp only [Env.successStatus, Env.reply, hsend, SendOutcome.reply, Reply.asksRetry,
        huncertain]
      simp
  | response statusCode header body =>
      rcases hread : readAll (responseLimit + 1) body with err | raw
      · simp only [Env.successStatus, Env.reply, hsend, SendOutcome.reply_of_readError hread,
          Reply.asksRetry, huncertain, hread]
        simp
      · simp only [Env.successStatus, Env.reply, hsend, SendOutcome.reply_of_read hread, hread]
        by_cases hsize : responseLimit < raw.length
        · simp [Call.decideEvents, hsize, Reply.asksRetry]
        · rcases hobj : (if 0 < raw.length then unmarshalMap env.parse raw else some [])
            with _ | result
          · simp [Call.decideEvents, hsize, hobj, Reply.asksRetry]
          · by_cases hstatus : 200 ≤ statusCode ∧ statusCode < 300
            · simp [Call.decideEvents, hsize, hobj, hstatus, Reply.asksRetry]
            · rw [Call.decideEvents, if_neg hsize, hobj]
              simp only [if_neg hsize, if_neg hstatus, Reply.asksRetry]
              cases call.mutation
              · simp
              · by_cases hk : k = call.attempts
                · simp [hk]
                · cases (decodeAPIError statusCode result).retryable <;> simp [hk]

/-- A success has a status, which is one of success. -/
theorem Env.exists_successStatus {env : Env} {k : ℕ} {result : GoMap}
    (h : env.reply k = .success result) :
    ∃ statusCode, env.successStatus k = some statusCode ∧ 200 ≤ statusCode ∧
      statusCode < 300 := by
  rw [Env.successStatus, h]
  rw [Env.reply] at h
  cases hsend : env.send k with
  | failure err =>
      rw [hsend] at h
      cases h
  | response statusCode header body =>
      refine ⟨statusCode, rfl, ?_⟩
      rw [hsend] at h
      rcases hread : readAll (responseLimit + 1) body with err | raw
      · rw [SendOutcome.reply_of_readError hread] at h
        cases h
      · rw [SendOutcome.reply_of_read hread] at h
        split at h
        · cases h
        · split at h
          · cases h
          · split at h
            · assumption
            · cases h

/-- Nothing else has one. -/
theorem Env.successStatus_eq_none {env : Env} {k : ℕ}
    (h : ∀ result, env.reply k ≠ .success result) : env.successStatus k = none := by
  rw [Env.successStatus]
  split
  · rename_i hreply
    exact absurd hreply (h _)
  · rfl

/-! ## What the log tells -/

/-- The call was left while it waited for another attempt. -/
def Outcome.leftWaiting : Outcome → Bool
  | .error (.context _) => true
  | .panic => true
  | _ => false

/-- What closes the log of a call: its completion, if it succeeded. -/
def closes (correlationID : String) (attempts : ℕ) (result : Outcome) (last : List LogEvent) :
    Prop :=
  match result with
  | .response _ => ∃ statusCode, 200 ≤ statusCode ∧ statusCode < 300 ∧
      last = [requestComplete correlationID attempts statusCode]
  | _ => last = []

/-- What a log tells of a run: a retry for every attempt that was followed by a wait,
and a completion at the end if the call succeeded. -/
def TellsRun (correlationID key : String) : Run HTTPRequest Outcome → List LogEvent → Prop :=
  Tells Outcome.leftWaiting (requestRetry correlationID key) (closes correlationID)

/-- What a round logs that ends its call closes the log. -/
theorem closes_terminal (env : Env) (call : Call) (k : ℕ) :
    closes call.correlationID k ((env.reply k).terminal call)
      ((env.successStatus k).toList.map (requestComplete call.correlationID k)) := by
  cases hreply : env.reply k with
  | success result =>
      rcases Env.exists_successStatus hreply with ⟨statusCode, hstatus, hlow, hhigh⟩
      refine ⟨statusCode, hlow, hhigh, ?_⟩
      rw [hstatus]
      rfl
  | sendError | readError | oversize | notAnObject | rejection =>
      have hnone : env.successStatus k = none := by
        apply Env.successStatus_eq_none
        rw [hreply]
        intro result
        simp
      rw [hnone]
      rfl

/-- What the deciding round of a call logs. -/
theorem Client.deciding_events (c : Client) {env : Env} {call : Call}
    (hbuilds : env.newRequest call.method (c.baseURL ++ call.path) = none) {j : ℕ} {r : Outcome}
    (h : Decides (c.attempt env call) 1 call.attempts j r) :
    (r.leftWaiting = true ∧ c.events env call j =
      [requestRetry call.correlationID call.key j] ∧ closes call.correlationID j r []) ∨
    (r.leftWaiting = false ∧ closes call.correlationID j r (c.events env call j)) := by
  have hstop := h.stop
  rw [c.attempt_verdict call hbuilds] at hstop
  rw [c.events_eq call hbuilds]
  by_cases hretry : call.mutation = true ∧ j ≠ call.attempts ∧ (env.reply j).asksRetry = true
  · rw [if_pos hretry, Env.backoff] at hstop
    left
    rw [if_pos hretry]
    cases hwait : env.wait j with
    | elapsed =>
        rw [hwait] at hstop
        cases hstop
    | cancelled err =>
        rw [hwait] at hstop
        obtain rfl := Verdict.stop.inj hstop
        exact ⟨rfl, rfl, rfl⟩
    | panicked =>
        rw [hwait] at hstop
        obtain rfl := Verdict.stop.inj hstop
        exact ⟨rfl, rfl, rfl⟩
  · rw [if_neg hretry] at hstop
    right
    rw [if_neg hretry]
    obtain rfl := Verdict.stop.inj hstop
    refine ⟨?_, closes_terminal env call j⟩
    cases env.reply j <;> rfl

/-- What follows a round that asks for another one. -/
theorem Client.events_of_isAgain (c : Client) {env : Env} {call : Call}
    (hbuilds : env.newRequest call.method (c.baseURL ++ call.path) = none) {k : ℕ}
    (h : (c.attempt env call k).verdict.isAgain = true) :
    c.events env call k = [requestRetry call.correlationID call.key k] := by
  obtain ⟨hmutation, hk, hasks, -⟩ := (c.attempt_isAgain_iff call hbuilds k).mp h
  rw [c.events_eq call hbuilds, if_pos ⟨hmutation, hk, hasks⟩]

/-- A call whose request cannot be built logs nothing. -/
theorem Client.journal_unbuilt {c : Client} {env : Env} {call : Call} {err : GoError}
    (hcount : call.attempts = c.attempts)
    (hbuilds : env.newRequest call.method (c.baseURL ++ call.path) = some err) :
    journal (c.attempt env call) (c.events env call) call.attempts 1 = [] := by
  have hfirst : (c.attempt env call 1).verdict = .stop (.error (.plain err)) := by
    simp [Client.attempt, hbuilds]
  obtain ⟨n, hn⟩ := Nat.exists_eq_succ_of_ne_zero (hcount ▸ c.attempts_pos).ne'
  rw [hn, journal_of_stop hfirst, Client.events, hbuilds]

/-- The log of a call tells its run. -/
theorem Client.lifecycle_tells (c : Client) (env : Env) (method path businessID : String)
    (body : Option RequestBody) (key : String) (mutation : Bool)
    (extraHeaders : List (String × String)) :
    TellsRun (newID env.correlationSeed) key
      (c.requestWithHeaders env method path businessID body key mutation extraHeaders)
      (c.lifecycle env method path businessID body key mutation extraHeaders) := by
  rw [Client.requestWithHeaders, Client.lifecycle]
  cases env.encode body with
  | error err => exact tells_unsent rfl rfl
  | ok payload =>
      dsimp only
      obtain ⟨call, hcall⟩ : ∃ call, call =
          c.newCall env method path businessID payload key mutation extraHeaders := ⟨_, rfl⟩
      have hkey : call.key = key := by rw [hcall]; rfl
      have hid : call.correlationID = newID env.correlationSeed := by rw [hcall]; rfl
      have hcount : call.attempts = c.attempts := by rw [hcall]; rfl
      rw [← hcall, ← hkey, ← hid]
      cases hbuilds : env.newRequest call.method (c.baseURL ++ call.path) with
      | some err =>
          rw [Client.journal_unbuilt hcount hbuilds, Client.loop_unbuilt hcount hbuilds]
          exact tells_unsent rfl rfl
      | none =>
          obtain ⟨j, r, hdec⟩ := c.exists_decides call hcount hbuilds
          have hlength : ((List.range' 1 j).map (c.buildRequest env call)).length = j := by simp
          rw [Client.loop_decided hbuilds hdec]
          apply journal_tells
          · rwa [hlength]
          · exact fun i hi => c.events_of_isAgain hbuilds hi
          · rw [hlength]
            exact c.deciding_events hbuilds hdec

/-- The log of a call of any method tells its run. -/
theorem lifecycle_tells_run (call : MethodCall) (a : AdminClient) (env : Env) (key : String) :
    TellsRun (newID env.correlationSeed) (call.plan a env key).key (call.perform a env key)
      (call.lifecycle a env key) := by
  rw [MethodCall.perform_eq_run, MethodCall.lifecycle, Plan.run, Plan.lifecycle]
  cases (call.plan a env key).check.or _ with
  | some message => exact tells_unsent rfl rfl
  | none => exact Client.lifecycle_tells _ _ _ _ _ _ _ _ _

/-! ## What the log depends on -/

/-- Two worlds that answer a call alike, under the same correlation ID. -/
structure Env.AnswersAlike (env env' : Env) : Prop where
  parse : env'.parse = env.parse
  send : env'.send = env.send
  wait : env'.wait = env.wait
  correlationID : newID env'.correlationSeed = newID env.correlationSeed

/-- Two calls that the loop does not tell apart. -/
structure Call.Alike (call call' : Call) : Prop where
  key : call'.key = call.key
  mutation : call'.mutation = call.mutation
  correlationID : call'.correlationID = call.correlationID
  attempts : call'.attempts = call.attempts

section Alike

variable {c c' : Client} {env env' : Env} {call call' : Call}

theorem Env.AnswersAlike.reply_eq (h : env.AnswersAlike env') (k : ℕ) :
    env'.reply k = env.reply k := by
  rw [Env.reply, Env.reply, h.send, h.parse]

theorem Env.AnswersAlike.successStatus_eq (h : env.AnswersAlike env') (k : ℕ) :
    env'.successStatus k = env.successStatus k := by
  rw [Env.successStatus, Env.successStatus, h.send, h.reply_eq]

theorem Call.Alike.terminal_eq (h : call.Alike call') (reply : Reply) :
    reply.terminal call' = reply.terminal call := by
  cases reply <;> simp only [Reply.terminal, Call.apiError, h.key, h.correlationID]

theorem Call.Alike.cause_eq (h : call.Alike call') (reply : Reply) :
    reply.cause call' = reply.cause call := by
  cases reply <;> simp only [Reply.cause, Call.apiError, h.key]

/-- Alike calls in alike worlds have the same verdicts. -/
theorem attempt_verdict_alike (henv : env.AnswersAlike env') (hcall : call.Alike call')
    (hbuilds : env.newRequest call.method (c.baseURL ++ call.path) = none)
    (hbuilds' : env'.newRequest call'.method (c'.baseURL ++ call'.path) = none) (k : ℕ) :
    (c'.attempt env' call' k).verdict = (c.attempt env call k).verdict := by
  rw [c.attempt_verdict call hbuilds, c'.attempt_verdict call' hbuilds', henv.reply_eq,
    hcall.mutation, hcall.attempts, hcall.terminal_eq, hcall.cause_eq, Env.backoff, Env.backoff,
    henv.wait]

/-- They write the same events. -/
theorem events_alike (henv : env.AnswersAlike env') (hcall : call.Alike call')
    (hbuilds : env.newRequest call.method (c.baseURL ++ call.path) = none)
    (hbuilds' : env'.newRequest call'.method (c'.baseURL ++ call'.path) = none) :
    c'.events env' call' = c.events env call := by
  funext k
  rw [c.events_eq call hbuilds, c'.events_eq call' hbuilds', henv.reply_eq,
    henv.successStatus_eq, hcall.mutation, hcall.attempts, hcall.key, hcall.correlationID]

/-- A decided call: its requests, its result and its log. -/
theorem loop_alike (henv : env.AnswersAlike env') (hcall : call.Alike call')
    (hbuilds : env.newRequest call.method (c.baseURL ++ call.path) = none)
    (hbuilds' : env'.newRequest call'.method (c'.baseURL ++ call'.path) = none)
    (hcount : call.attempts = c.attempts) :
    ∃ j r,
      (∀ after, loop (c.attempt env call) after call.attempts 1 none =
        ⟨(List.range' 1 j).map (c.buildRequest env call), r⟩) ∧
      (∀ after, loop (c'.attempt env' call') after call'.attempts 1 none =
        ⟨(List.range' 1 j).map (c'.buildRequest env' call'), r⟩) ∧
      journal (c'.attempt env' call') (c'.events env' call') call'.attempts 1 =
        journal (c.attempt env call) (c.events env call) call.attempts 1 := by
  obtain ⟨j, r, hdec⟩ := c.exists_decides call hcount hbuilds
  have hdec' : Decides (c'.attempt env' call') 1 call'.attempts j r := by
    rw [hcall.attempts]
    exact hdec.congr (attempt_verdict_alike henv hcall hbuilds hbuilds')
  refine ⟨j, r, Client.loop_decided hbuilds hdec, Client.loop_decided hbuilds' hdec', ?_⟩
  rw [journal_eq_of_decides hdec, journal_eq_of_decides hdec',
    events_alike henv hcall hbuilds hbuilds']

/-- The log, the number of attempts and the result of a call depend on its key, on whether
it mutates, on its correlation ID, on the attempt limit and on the answers: clients, business
IDs, paths, bodies, headers and timestamps do not show. -/
theorem lifecycle_depends {method path businessID method' path' businessID' key : String}
    {body body' : Option RequestBody} {mutation : Bool}
    {extraHeaders extraHeaders' : List (String × String)}
    (henv : env.AnswersAlike env') (hlimit : c'.attempts = c.attempts)
    (hencode : ∃ payload, env.encode body = .ok payload)
    (hencode' : ∃ payload, env'.encode body' = .ok payload)
    (hbuilds : env.newRequest method (c.baseURL ++ path) = none)
    (hbuilds' : env'.newRequest method' (c'.baseURL ++ path') = none) :
    c'.lifecycle env' method' path' businessID' body' key mutation extraHeaders' =
      c.lifecycle env method path businessID body key mutation extraHeaders ∧
    (c'.requestWithHeaders env' method' path' businessID' body' key mutation
      extraHeaders').result =
      (c.requestWithHeaders env method path businessID body key mutation extraHeaders).result ∧
    (c'.requestWithHeaders env' method' path' businessID' body' key mutation
      extraHeaders').attempts.length =
      (c.requestWithHeaders env method path businessID body key mutation
        extraHeaders).attempts.length := by
  obtain ⟨payload, hpayload⟩ := hencode
  obtain ⟨payload', hpayload'⟩ := hencode'
  have hcall : (c.newCall env method path businessID payload key mutation extraHeaders).Alike
      (c'.newCall env' method' path' businessID' payload' key mutation extraHeaders') :=
    ⟨rfl, rfl, henv.correlationID, hlimit⟩
  obtain ⟨j, r, hrun, hrun', hlog⟩ := loop_alike henv hcall hbuilds hbuilds' rfl
  simp only [Client.lifecycle, Client.requestWithHeaders, hpayload, hpayload']
  refine ⟨hlog, ?_, ?_⟩
  · rw [hrun', hrun]
  · rw [hrun', hrun, List.length_map, List.length_map]

end Alike

/-- A client for another deployment than `shopAdmin`. -/
def euClient : Client := ⟨"https://eu.mizan.example", "ops", "", 3⟩

/-- A top-up and an addon that nobody answers are logged alike. -/
theorem unanswered_logged_alike :
    euClient.lifecycle unansweredEnv "PUT" "/admin/api/addons/voice" "" (some oneMessage.body)
        "key-1" true [("X-Admin-Actor", "ops@example")] =
      shopAdmin.client.lifecycle unansweredEnv "POST" (businessPath "shop" "top-ups") "shop"
        none "key-1" true [] := by
  have henv : unansweredEnv.AnswersAlike unansweredEnv := ⟨rfl, rfl, rfl, rfl⟩
  have hlimit : euClient.attempts = shopAdmin.client.attempts := rfl
  have hencode : ∃ payload, unansweredEnv.encode none = .ok payload := ⟨none, rfl⟩
  have hencode' : ∃ payload, unansweredEnv.encode (some oneMessage.body) = .ok payload :=
    ⟨some [], rfl⟩
  exact (lifecycle_depends henv hlimit hencode hencode' rfl rfl).1

/-! ## Where the token goes -/

/-- Two requests that differ in their authorization at most. -/
structure HTTPRequest.SameButAuthorization (request request' : HTTPRequest) : Prop where
  method : request'.method = request.method
  url : request'.url = request.url
  body : request'.body = request.body
  header : ∀ field, field ≠ "Authorization" →
    request'.header.lookup field = request.header.lookup field

/-- An admin client with another token. -/
def AdminClient.withToken (a : AdminClient) (token : String) : AdminClient :=
  { a with client := { a.client with token } }

/-- Setting a field in two headers that agree on `field` keeps them so. -/
theorem Header.lookup_set_congr {h h' : Header} {field : String}
    (hsame : h'.lookup field = h.lookup field) (name value : String) :
    (h'.set name value).lookup field = (h.set name value).lookup field := by
  rw [Header.set, Header.set]
  by_cases hname : field = canonicalMIMEHeaderKey name
  · rw [hname, AList.lookup_insert, AList.lookup_insert]
  · rw [AList.lookup_insert_ne hname, AList.lookup_insert_ne hname, hsame]

/-- Nor does a list of fields tell such headers apart. -/
theorem Header.lookup_foldl_set_congr {h h' : Header} {field : String}
    (hsame : h'.lookup field = h.lookup field) (extra : List (String × String)) :
    (extra.foldl (fun h nv => h.set nv.1 nv.2) h').lookup field =
      (extra.foldl (fun h nv => h.set nv.1 nv.2) h).lookup field := by
  induction extra generalizing h h' with
  | nil => exact hsame
  | cons nv extra ih => exact ih (Header.lookup_set_congr hsame nv.1 nv.2)

/-- The requests of two clients that differ in their tokens. -/
theorem Client.buildRequest_withToken (c : Client) (token : String) (env : Env) (call : Call)
    (k : ℕ) :
    (c.buildRequest env call k).SameButAuthorization
      (({ c with token } : Client).buildRequest env call k) where
  method := rfl
  url := rfl
  body := rfl
  header := by
    intro field hfield
    rw [Client.buildRequest, Client.buildRequest]
    apply Header.lookup_foldl_set_congr
    have hstart : ((∅ : Header).set "Authorization" ("Bearer " ++ token)).lookup field =
        ((∅ : Header).set "Authorization" ("Bearer " ++ c.token)).lookup field := by
      have hname : field ≠ canonicalMIMEHeaderKey "Authorization" := by
        rwa [show canonicalMIMEHeaderKey "Authorization" = "Authorization" by decide]
      rw [Header.set, Header.set, AList.lookup_insert_ne hname, AList.lookup_insert_ne hname]
    have hfixed := Header.lookup_set_congr (Header.lookup_set_congr (Header.lookup_set_congr
      (Header.lookup_set_congr (Header.lookup_set_congr hstart "Accept" "application/json")
        "User-Agent" ("mizan-go/" ++ version)) "X-Business-Id" call.businessID)
        "X-Request-ID" call.correlationID) "X-Request-Timestamp" (env.timestamp k)
    split <;> split
    · exact Header.lookup_set_congr (Header.lookup_set_congr hfixed _ _) _ _
    · exact Header.lookup_set_congr hfixed _ _
    · exact Header.lookup_set_congr hfixed _ _
    · exact hfixed

/-- The plan of a call does not look at the token. -/
theorem MethodCall.plan_withToken (call : MethodCall) (a : AdminClient) (token : String)
    (env : Env) (key : String) :
    call.plan (a.withToken token) env key = call.plan a env key := by
  cases call with
  | overall call => cases call <;> rfl
  | business call =>
      cases call with
      | mutating m => cases m <;> rfl
      | reading r => cases r <;> rfl
      | metering b u =>
          rw [MethodCall.plan, MethodCall.plan, BusinessCall.plan, BusinessCall.plan]
          cases u.request <;> rfl

/-- The token of a client reaches nothing but the authorization of its requests: with another
token a call of any method logs the same, ends alike and sends as many requests, which differ
in that field at most. -/
theorem token_confined (call : MethodCall) (a : AdminClient) (token : String) (env : Env)
    (key : String) :
    call.lifecycle (a.withToken token) env key = call.lifecycle a env key ∧
    (call.perform (a.withToken token) env key).result = (call.perform a env key).result ∧
    List.Forall₂ HTTPRequest.SameButAuthorization (call.perform a env key).attempts
      (call.perform (a.withToken token) env key).attempts := by
  rw [MethodCall.perform_eq_run, MethodCall.perform_eq_run, MethodCall.lifecycle,
    MethodCall.lifecycle, MethodCall.plan_withToken]
  generalize call.plan a env key = p
  have hscope : (a.withToken token).client.scopeCheck env p.businessID =
      a.client.scopeCheck env p.businessID := rfl
  rw [Plan.run, Plan.run, Plan.lifecycle, Plan.lifecycle, hscope]
  cases p.check.or _ with
  | some message => exact ⟨rfl, rfl, .nil⟩
  | none =>
      simp only [guarded, Client.lifecycle, Client.requestWithHeaders]
      cases env.encode p.body with
      | error err => exact ⟨rfl, rfl, .nil⟩
      | ok payload =>
          dsimp only
          obtain ⟨act, hact⟩ : ∃ act, act = a.client.newCall env p.method p.path p.businessID
            payload p.key p.mutation p.extraHeaders := ⟨_, rfl⟩
          have hact' : (a.withToken token).client.newCall env p.method p.path p.businessID
            payload p.key p.mutation p.extraHeaders = act := by rw [hact]; rfl
          rw [hact', ← hact]
          have hcount : act.attempts = a.client.attempts := by rw [hact]; rfl
          cases hbuilds : env.newRequest act.method (a.client.baseURL ++ act.path) with
          | some err =>
              have hbuilds' : env.newRequest act.method
                ((a.withToken token).client.baseURL ++ act.path) = some err := hbuilds
              have hcount' : act.attempts = (a.withToken token).client.attempts := hcount
              rw [Client.journal_unbuilt hcount hbuilds, Client.loop_unbuilt hcount hbuilds,
                Client.journal_unbuilt hcount' hbuilds', Client.loop_unbuilt hcount' hbuilds']
              exact ⟨rfl, rfl, .nil⟩
          | none =>
              have hbuilds' : env.newRequest act.method
                ((a.withToken token).client.baseURL ++ act.path) = none := hbuilds
              have henv : env.AnswersAlike env := ⟨rfl, rfl, rfl, rfl⟩
              have hact : act.Alike act := ⟨rfl, rfl, rfl, rfl⟩
              obtain ⟨j, r, hrun, hrun', hlog⟩ := loop_alike henv hact hbuilds hbuilds' hcount
              rw [hrun, hrun']
              refine ⟨hlog, rfl, ?_⟩
              rw [List.forall₂_map_left_iff, List.forall₂_map_right_iff]
              exact List.forall₂_same.mpr fun k _ =>
                a.client.buildRequest_withToken token env act k

end MizanSDK.Go
