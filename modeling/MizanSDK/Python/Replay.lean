import MizanSDK.Python.AttemptLoop

/-!
# Replay safety of the Python mutations

What the attempts of one call share, and whether the caller gets the key back
when a mutation fails.

Main results:

- Theorem `mutation_replays_and_read_is_single`: the attempts of a mutation share
  body, request ID and a non-empty key; a read is attempted once and sends no
  key.
- Theorem `mutation_handsBackKey_iff`: a failed mutation hands back the key that
  was sent, unless an error envelope cannot be made an exception or the backoff
  is too large for a float.
-/

namespace MizanSDK.Python

open BoundedRetry

/-! ## Calls that reach the transport -/

/-- A mutating call whose path can be computed and whose body encodes. -/
structure MutatingCall.Admitted (m : MutatingCall) (a : MizanAdminClient) (env : Env) :
    Prop where
  path : ∃ path, m.path a = .ok path
  encodes : ∃ encoded, env.dumps m.target.2.1 = .ok encoded

/-- A reading call whose path can be computed and whose body, if any, encodes. -/
structure ReadingCall.Admitted (m : ReadingCall) (a : MizanAdminClient) (env : Env) :
    Prop where
  path : ∃ path, m.path a = .ok path
  encodes : ∃ encoded, env.encode m.target.2.1 = .ok encoded

/-- The call a mutating method hands to the attempt loop. -/
def MutatingCall.call (m : MutatingCall) (a : MizanAdminClient) (env : Env)
    (key : Option PyStr) (path : PyStr) (encoded : List UInt8) : Call :=
  env.newCall m.target.1 path (some encoded) m.target.2.2 key true (m.extraHeaders a)

/-- The call a reading method hands to the attempt loop. -/
def ReadingCall.call (m : ReadingCall) (a : MizanAdminClient) (env : Env) (path : PyStr)
    (encoded : Option (List UInt8)) : Call :=
  env.newCall m.target.1 path encoded m.target.2.2 none false (m.extraHeaders a)

theorem MutatingCall.call_onlyAttribution (m : MutatingCall) (a : MizanAdminClient)
    (env : Env) (key : Option PyStr) (path : PyStr) (encoded : List UInt8) :
    (m.call a env key path encoded).OnlyAttribution := by
  intro nv hnv
  exact MutatingCall.extraHeaders_name hnv

theorem ReadingCall.call_onlyAttribution (m : ReadingCall) (a : MizanAdminClient)
    (env : Env) (path : PyStr) (encoded : Option (List UInt8)) :
    (m.call a env path encoded).OnlyAttribution := by
  intro nv hnv
  exact ReadingCall.extraHeaders_name hnv

/-- An admitted mutation is decided by one of its attempts. -/
theorem MutatingCall.perform_of_admitted {m : MutatingCall} {a : MizanAdminClient}
    {env : Env} (h : m.Admitted a env) (key : Option PyStr) :
    ∃ path encoded j r,
      Decides (a.attempt env (m.call a env key path encoded)) 1 a.maxAttempts j r ∧
      m.perform a env key =
        ⟨(List.range' 1 j).map (a.buildRequest env (m.call a env key path encoded)), r⟩ := by
  obtain ⟨path, hpath⟩ := h.path
  obtain ⟨encoded, hdumps⟩ := h.encodes
  have hencode : env.encode (some m.target.2.1) = .ok (some encoded) := by
    simp [Env.encode, hdumps, Except.map]
  obtain ⟨j, r, hdec, hrun⟩ :=
    a.request_decided (rfl : m.call a env key path encoded = _) hencode
  refine ⟨path, encoded, j, r, hdec, ?_⟩
  rw [MutatingCall.perform_eq, hpath]
  exact hrun

/-- A mutation that is not admitted sends nothing. -/
theorem MutatingCall.perform_unsent {m : MutatingCall} {a : MizanAdminClient} {env : Env}
    (h : ¬ m.Admitted a env) (key : Option PyStr) : (m.perform a env key).attempts = [] := by
  rw [MutatingCall.perform_eq]
  cases hpath : m.path a with
  | error exc => rfl
  | ok path =>
      cases hdumps : env.dumps m.target.2.1 with
      | error exc =>
          have hencode : env.encode (some m.target.2.1) = .error exc := by
            simp [Env.encode, hdumps, Except.map]
          exact a.request_unsent hencode
      | ok encoded => exact absurd ⟨⟨path, hpath⟩, ⟨encoded, hdumps⟩⟩ h

/-- An admitted read is decided by one of its attempts. -/
theorem ReadingCall.perform_of_admitted {m : ReadingCall} {a : MizanAdminClient}
    {env : Env} (h : m.Admitted a env) :
    ∃ path encoded j r,
      Decides (a.attempt env (m.call a env path encoded)) 1 a.maxAttempts j r ∧
      m.perform a env =
        ⟨(List.range' 1 j).map (a.buildRequest env (m.call a env path encoded)), r⟩ := by
  obtain ⟨path, hpath⟩ := h.path
  obtain ⟨encoded, hencode⟩ := h.encodes
  obtain ⟨j, r, hdec, hrun⟩ :=
    a.request_decided (rfl : m.call a env path encoded = _) hencode
  refine ⟨path, encoded, j, r, hdec, ?_⟩
  rw [ReadingCall.perform_eq, hpath]
  exact hrun

/-- A read that is not admitted sends nothing. -/
theorem ReadingCall.perform_unsent {m : ReadingCall} {a : MizanAdminClient} {env : Env}
    (h : ¬ m.Admitted a env) : (m.perform a env).attempts = [] := by
  rw [ReadingCall.perform_eq]
  cases hpath : m.path a with
  | error exc => rfl
  | ok path =>
      cases hencode : env.encode m.target.2.1 with
      | error exc => exact a.request_unsent hencode
      | ok encoded => exact absurd ⟨⟨path, hpath⟩, ⟨encoded, hencode⟩⟩ h

/-! ## Replay identity -/

/-- The key of a mutation is never empty, and it is the caller's if that is not
empty. -/
theorem Env.key_mutation (env : Env) (key : Option PyStr) :
    ∃ sentKey, env.key key true = some sentKey ∧ sentKey ≠ [] ∧
      ∀ given, key = some given → given ≠ [] → sentKey = given := by
  rcases key with _ | _ | ⟨c, rest⟩
  · exact ⟨env.keyUuid.1, rfl, env.keyUuid.2, by simp⟩
  · exact ⟨env.keyUuid.1, rfl, env.keyUuid.2, by simp⟩
  · exact ⟨c :: rest, rfl, by simp, by simp⟩

/-- The attempts of a call made with the caller's key `key` replay one request:
they share the encoded body, the request ID and a non-empty idempotency key,
which is the caller's if that is not empty, and there are at most
`max_attempts`. -/
structure ReplayIdentity (c : MizanClient) (key : Option PyStr) (run : Run Request Outcome) :
    Prop where
  bounded : run.attempts.length ≤ c.maxAttempts
  stable : ∃ data requestId sentKey, sentKey ≠ [] ∧
    (∀ given, key = some given → given ≠ [] → sentKey = given) ∧
    ∀ req ∈ run.attempts,
      req.data = data ∧
      req.header "X-Request-ID" = some requestId ∧
      req.header "Idempotency-Key" = some sentKey

/-- The attempts of a decided mutation replay one request. -/
theorem MutatingCall.replayIdentity_of_decides {m : MutatingCall} {a : MizanAdminClient}
    {env : Env} {key : Option PyStr} {path : PyStr} {encoded : List UInt8} {j : ℕ}
    {r : Outcome}
    (hdec : Decides (a.attempt env (m.call a env key path encoded)) 1 a.maxAttempts j r) :
    ReplayIdentity a.toMizanClient key
      ⟨(List.range' 1 j).map (a.buildRequest env (m.call a env key path encoded)), r⟩ := by
  obtain ⟨sentKey, hkey, hne, hgiven⟩ := env.key_mutation key
  have honly := m.call_onlyAttribution a env key path encoded
  refine ⟨?_, some encoded, env.correlationUuid, sentKey, hne, hgiven, ?_⟩
  · have hlt := hdec.lt
    simp only [List.length_map, List.length_range']
    omega
  · intro req hreq
    obtain ⟨k, -, rfl⟩ := List.mem_map.mp hreq
    refine ⟨rfl, a.buildRequest_requestId honly k, ?_⟩
    rw [a.buildRequest_idempotencyKey honly]
    simp [MutatingCall.call, Env.newCall, hkey, hne, Option.filter]

/-- A run that sends nothing replays nothing. -/
theorem ReplayIdentity.of_unsent {c : MizanClient} {key : Option PyStr} (env : Env)
    {run : Run Request Outcome} (h : run.attempts = []) : ReplayIdentity c key run := by
  obtain ⟨sentKey, -, hne, hgiven⟩ := env.key_mutation key
  exact ⟨by simp [h], none, [], sentKey, hne, hgiven, by simp [h]⟩

/-- A read is not attempted again. -/
theorem ReadingCall.decides_first {m : ReadingCall} {a : MizanAdminClient} {env : Env}
    {path : PyStr} {encoded : Option (List UInt8)} {j : ℕ} {r : Outcome}
    (hdec : Decides (a.attempt env (m.call a env path encoded)) 1 a.maxAttempts j r) :
    j = 1 := by
  by_contra hmore
  have hle := hdec.le
  have hagain := hdec.reaches 1 le_rfl (by omega)
  have hmutation := ((a.attempt_isAgain_iff env _ 1).mp hagain).1
  simp [ReadingCall.call, Env.newCall] at hmutation

/-- Replay identity of every mutation, and the single attempt of every read.  A
call that raises before its first attempt sends nothing. -/
theorem mutation_replays_and_read_is_single (a : MizanAdminClient) (env : Env) :
    (∀ (m : MutatingCall) (key : Option PyStr),
      ReplayIdentity a.toMizanClient key (m.perform a env key) ∧
      (m.Admitted a env → 1 ≤ (m.perform a env key).attempts.length) ∧
      (¬ m.Admitted a env → (m.perform a env key).attempts = [])) ∧
    ∀ m : ReadingCall,
      (m.Admitted a env → (m.perform a env).attempts.length = 1) ∧
      (¬ m.Admitted a env → (m.perform a env).attempts = []) ∧
      ∀ req ∈ (m.perform a env).attempts, req.header "Idempotency-Key" = none := by
  constructor
  · intro m key
    refine ⟨?_, ?_, fun h => m.perform_unsent h key⟩
    · by_cases hadm : m.Admitted a env
      · obtain ⟨path, encoded, j, r, hdec, hrun⟩ := MutatingCall.perform_of_admitted hadm key
        rw [hrun]
        exact MutatingCall.replayIdentity_of_decides hdec
      · exact ReplayIdentity.of_unsent env (m.perform_unsent hadm key)
    · intro hadm
      obtain ⟨path, encoded, j, r, hdec, hrun⟩ := MutatingCall.perform_of_admitted hadm key
      rw [hrun]
      simpa using hdec.le
  · intro m
    refine ⟨?_, fun h => m.perform_unsent h, ?_⟩
    · intro hadm
      obtain ⟨path, encoded, j, r, hdec, hrun⟩ := ReadingCall.perform_of_admitted hadm
      rw [hrun, ReadingCall.decides_first hdec]
      rfl
    · intro req hreq
      by_cases hadm : m.Admitted a env
      · obtain ⟨path, encoded, j, r, hdec, hrun⟩ := ReadingCall.perform_of_admitted hadm
        rw [hrun] at hreq
        obtain ⟨k, -, rfl⟩ := List.mem_map.mp hreq
        rw [a.buildRequest_idempotencyKey (m.call_onlyAttribution a env path encoded)]
        rfl
      · rw [m.perform_unsent hadm] at hreq
        simp at hreq

/-- An environment in which every request is handed to the transport and the
transport gives no answer. -/
def unansweredEnv : Env :=
  { dumps := fun _ => .ok []
    decode := fun _ => none
    loads := fun _ => none
    keyUuid := ⟨str "generated", by decide⟩
    correlationUuid := str "correlation"
    timestamp := fun _ => str "2026-01-01T00:00:00+00:00"
    transport := fun _ => .raises (.urlError "connection reset by peer") }

/-- An admin client with three attempts. -/
def opsAdmin : MizanAdminClient :=
  { baseUrl := str "https://mizan.example"
    token := str "token"
    businessId := none
    maxAttempts := 3
    businessId_ne := by simp
    maxAttempts_pos := by decide
    actor := str "ops@example"
    actor_ne := by decide }

/-- A consumption whose fields do not matter here. -/
def oneMessage : MutatingCall := .consume (str "shop") []

theorem oneMessage_admitted (env : Env) (h : env.dumps [] = .ok []) :
    oneMessage.Admitted opsAdmin env :=
  ⟨⟨_, rfl⟩, ⟨[], h⟩⟩

/-- A mutation that gets no answer is attempted at least once. -/
theorem unanswered_consume_attempted :
    1 ≤ (oneMessage.perform opsAdmin unansweredEnv none).attempts.length :=
  ((mutation_replays_and_read_is_single opsAdmin unansweredEnv).1 oneMessage none).2.1
    (oneMessage_admitted unansweredEnv rfl)

/-! ## Handing the key back -/

/-- A call that sent something returns an object, or raises a `MizanError` that
carries the key it sent. -/
def HandsBackKey (run : Run Request Outcome) : Prop :=
  ∀ req ∈ run.attempts,
    (∃ payload, run.result = .response payload) ∨
      ∃ err sentKey, run.result = .raised err ∧ err.idempotencyKey = some sentKey ∧
        req.header "Idempotency-Key" = some sentKey

/-- Every attempt before `k` is answered by a reply that asks for a retry, and
its backoff can be computed. -/
def Env.Reaches (env : Env) (k : ℕ) : Prop :=
  ∀ i, 1 ≤ i → i < k → (env.reply i).asksRetry = true ∧ i ≤ maxExponent + 1

/-- Values that `dict(x or {})` turns into a dictionary. -/
def PyValue.AcceptedByDict (v : PyValue) : Prop :=
  v.truthy = false ∨ (∃ entries, v = .dict entries) ∨
    ∃ elements, v.iterate = some elements ∧ ∀ element ∈ elements, element.IsPair

/-- Attempt `k` is answered by an error envelope with a code that has no hash or
with details `dict` does not accept. -/
structure Env.Poisoned (env : Env) (k : ℕ) (error : PyDict) : Prop where
  answered : ∃ status headers raw payload,
    env.transport k = .returns status headers raw ∧ ¬ responseLimit < raw.length ∧
      env.payload raw = some (.dict payload) ∧ ¬ (200 ≤ status ∧ status < 300) ∧
      (PyDict.get payload "error").getD (.dict []) = .dict error
  poison : (errorCode error).hashable = false ∨ ¬ (errorDetails error).AcceptedByDict

/-- An envelope makes no API error exactly when its code or its details are
poison. -/
theorem makesError_eq_false_iff (error : PyDict) :
    makesError error = false ↔
      (errorCode error).hashable = false ∨ ¬ (errorDetails error).AcceptedByDict := by
  have hdict := dictOf_isOk_iff (errorDetails error)
  unfold makesError PyValue.AcceptedByDict
  rw [Bool.and_eq_false_iff, ← hdict]
  cases dictOf (errorDetails error) <;> simp [Except.isOk, Except.toBool]

/-- The replies to rejections, from the response they classify. -/
theorem Env.reply_eq_rejection_iff {env : Env} {k : ℕ} {error : PyDict} :
    (∃ status headers, env.reply k = .rejection status headers error) ↔
      ∃ status headers raw payload,
        env.transport k = .returns status headers raw ∧ ¬ responseLimit < raw.length ∧
          env.payload raw = some (.dict payload) ∧ ¬ (200 ≤ status ∧ status < 300) ∧
          (PyDict.get payload "error").getD (.dict []) = .dict error := by
  unfold Env.reply
  constructor
  · rintro ⟨status, headers, hreply⟩
    rcases htransport : env.transport k with exc | ⟨status', headers', raw⟩
    · simp [htransport, TransportOutcome.reply] at hreply
    · simp only [htransport, TransportOutcome.reply] at hreply
      split at hreply
      · simp at hreply
      · rename_i hsize
        rcases hpayload : env.payload raw with _ | payload
        · simp [hpayload] at hreply
        · simp only [hpayload, Option.elim_some] at hreply
          cases payload with
          | dict payload =>
              simp only [PyValue.reply] at hreply
              split at hreply
              · simp at hreply
              · rename_i hstatus
                refine ⟨status', headers', raw, payload, rfl, hsize, hpayload, hstatus, ?_⟩
                split at hreply
                · rename_i error' herror
                  simp only [Reply.rejection.injEq] at hreply
                  rw [herror, hreply.2.2]
                · simp at hreply
          | _ => simp [PyValue.reply] at hreply
  · rintro ⟨status, headers, raw, payload, htransport, hsize, hpayload, hstatus, herror⟩
    exact ⟨status, headers, by
      simp [htransport, TransportOutcome.reply, hsize, hpayload, PyValue.reply, hstatus,
        herror]⟩

/-- Attempt `k` raises an exception of the language: its error envelope is
poison, or a further attempt is due and its backoff is too large for a float. -/
def Env.EscapesAt (env : Env) (maxAttempts k : ℕ) : Prop :=
  (∃ error, env.Poisoned k error) ∨
    (maxExponent + 1 < k ∧ k < maxAttempts ∧ (env.reply k).asksRetry = true)

section Deciding

variable {c : MizanClient} {env : Env} {call : Call} {j : ℕ} {r : Outcome}

/-- For a mutation the loop arrives at an attempt exactly when the environment
lets it. -/
theorem reaches_attempt_iff (hmutation : call.mutation = true) {k : ℕ}
    (hk : k ≤ c.maxAttempts) :
    BoundedRetry.Reaches (c.attempt env call) 1 k ↔ env.Reaches k := by
  constructor
  · intro h i hi hik
    have hagain := (c.attempt_isAgain_iff env call i).mp (h i hi hik)
    exact ⟨hagain.2.2.1, hagain.2.2.2⟩
  · intro h i hi hik
    obtain ⟨hasks, hsmall⟩ := h i hi hik
    exact (c.attempt_isAgain_iff env call i).mpr ⟨hmutation, by omega, hasks, hsmall⟩

/-- A reply ends a call with an exception of the language exactly when it is
poison. -/
theorem terminal_escapes_iff (k : ℕ) :
    (∃ exc, (env.reply k).terminal call k = .raised (.other exc)) ↔
      ∃ error, env.Poisoned k error := by
  constructor
  · rintro ⟨exc, hterminal⟩
    cases hreply : env.reply k with
    | rejection status headers error =>
        rw [hreply] at hterminal
        simp only [Reply.terminal] at hterminal
        split at hterminal
        · simp at hterminal
        · rename_i exc' hapi
          have hnot : makesError error = false := by
            have hmakes := makesError_iff call.key status headers error
            rw [hapi] at hmakes
            simpa using hmakes
          exact ⟨error, Env.reply_eq_rejection_iff.mp ⟨status, headers, hreply⟩,
            (makesError_eq_false_iff error).mp hnot⟩
    | _ => simp [hreply, Reply.terminal] at hterminal
  · rintro ⟨error, hpoisoned⟩
    obtain ⟨status, headers, hreply⟩ := Env.reply_eq_rejection_iff.mpr hpoisoned.answered
    have hnot := (makesError_eq_false_iff error).mpr hpoisoned.poison
    have hmakes := makesError_iff call.key status headers error
    rw [hreply]
    simp only [Reply.terminal]
    cases hapi : apiErrorOf call.key status headers error with
    | error exc => exact ⟨exc, rfl⟩
    | ok err =>
        have hyes := hmakes.mpr ⟨err, hapi⟩
        rw [hnot] at hyes
        simp at hyes

/-- An attempt ends a mutation with an exception of the language exactly when it
escapes. -/
theorem attempt_escapes_iff (hmutation : call.mutation = true) {k : ℕ}
    (hk : k ≤ c.maxAttempts) :
    (∃ exc, (c.attempt env call k).verdict = .stop (.raised (.other exc))) ↔
      env.EscapesAt c.maxAttempts k := by
  rw [c.attempt_verdict]
  by_cases hretry : call.mutation = true ∧ k ≠ c.maxAttempts ∧
      (env.reply k).asksRetry = true
  · rw [if_pos hretry, backoff_eq]
    have hclean : ¬ ∃ error, env.Poisoned k error := by
      rintro ⟨error, hpoisoned⟩
      obtain ⟨status, headers, hreply⟩ := Env.reply_eq_rejection_iff.mpr hpoisoned.answered
      have hnot := (makesError_eq_false_iff error).mpr hpoisoned.poison
      have hasks := hretry.2.2
      simp [hreply, Reply.asksRetry, hnot] at hasks
    unfold Env.EscapesAt
    by_cases hsmall : k ≤ maxExponent + 1
    · rw [if_pos hsmall]
      constructor
      · rintro ⟨exc, hexc⟩
        simp at hexc
      · rintro (hpoisoned | hlarge)
        · exact absurd hpoisoned hclean
        · omega
    · rw [if_neg hsmall]
      constructor
      · intro _
        exact Or.inr ⟨by omega, by omega, hretry.2.2⟩
      · intro _
        exact ⟨_, rfl⟩
  · rw [if_neg hretry]
    simp only [Verdict.stop.injEq]
    rw [terminal_escapes_iff]
    unfold Env.EscapesAt
    constructor
    · exact Or.inl
    · rintro (hpoisoned | ⟨-, hlt, hasks⟩)
      · exact hpoisoned
      · exact absurd ⟨hmutation, by omega, hasks⟩ hretry

/-- What ends a decided call is an object, an exception of the language, or a
`MizanError` with the key of the call. -/
theorem result_cases (hdec : Decides (c.attempt env call) 1 c.maxAttempts j r) :
    (∃ payload, r = .response payload) ∨ (∃ exc, r = .raised (.other exc)) ∨
      ∃ err, r = .raised err ∧ err.idempotencyKey = call.key := by
  have hstop := hdec.stop
  rw [c.attempt_verdict] at hstop
  split at hstop
  · rw [backoff_eq] at hstop
    split at hstop
    · simp at hstop
    · right; left
      exact ⟨_, by simpa using hstop.symm⟩
  · obtain rfl : (env.reply j).terminal call j = r := by simpa using hstop
    cases hreply : env.reply j with
    | success payload => exact Or.inl ⟨payload, rfl⟩
    | rejection status headers error =>
        simp only [Reply.terminal]
        cases hapi : apiErrorOf call.key status headers error with
        | ok err => exact Or.inr (Or.inr ⟨.api err, rfl, (apiErrorOf_ok hapi).2.1⟩)
        | error exc => exact Or.inr (Or.inl ⟨exc, rfl⟩)
    | _ => exact Or.inr (Or.inr ⟨_, rfl, rfl⟩)

/-- A mutation ends with an exception of the language exactly when an attempt it
reaches escapes. -/
theorem result_escapes_iff (hdec : Decides (c.attempt env call) 1 c.maxAttempts j r)
    (hmutation : call.mutation = true) :
    (∃ exc, r = .raised (.other exc)) ↔
      ∃ k, 1 ≤ k ∧ k ≤ c.maxAttempts ∧ env.Reaches k ∧ env.EscapesAt c.maxAttempts k := by
  have hlt := hdec.lt
  constructor
  · rintro ⟨exc, rfl⟩
    have hj : j ≤ c.maxAttempts := by omega
    exact ⟨j, hdec.le, hj, (reaches_attempt_iff hmutation hj).mp hdec.reaches,
      (attempt_escapes_iff hmutation hj).mp ⟨exc, hdec.stop⟩⟩
  · rintro ⟨k, hk, hkn, hreach, hescapes⟩
    obtain ⟨exc, hstop⟩ :
        ∃ exc, (c.attempt env call k).verdict = .stop (.raised (.other exc)) :=
      (attempt_escapes_iff hmutation hkn).mpr hescapes
    have hreach' := (reaches_attempt_iff hmutation hkn).mpr hreach
    exact ⟨exc, (hdec.eq_of_stop hk hreach' hstop).2.symm⟩

end Deciding

/-- A failed mutation hands back the key that was sent, unless an attempt it
reaches escapes. -/
theorem mutation_handsBackKey_iff (m : MutatingCall) (a : MizanAdminClient) (env : Env)
    (key : Option PyStr) :
    HandsBackKey (m.perform a env key) ↔
      (m.Admitted a env → ∀ k, 1 ≤ k → k ≤ a.maxAttempts → env.Reaches k →
        ¬ env.EscapesAt a.maxAttempts k) := by
  by_cases hadm : m.Admitted a env
  · obtain ⟨path, encoded, j, r, hdec, hrun⟩ := MutatingCall.perform_of_admitted hadm key
    have hescapes := result_escapes_iff hdec rfl
    have hresult : (m.perform a env key).result = r := by rw [hrun]
    have hident := MutatingCall.replayIdentity_of_decides hdec
    rw [← hrun] at hident
    obtain ⟨data, requestId, sentKey, hne, -, hall⟩ := hident.stable
    have hfirst : a.buildRequest env (m.call a env key path encoded) 1 ∈
        (m.perform a env key).attempts := by
      have hpos : 0 < j := hdec.le
      rw [hrun]
      exact List.mem_map_of_mem (by simpa using hpos)
    constructor
    · intro hback _ k hk hkn hreach hescape
      obtain ⟨exc, hexc⟩ := hescapes.mpr ⟨k, hk, hkn, hreach, hescape⟩
      rcases hback _ hfirst with ⟨payload, hpayload⟩ | ⟨err, key', hraised, hnamed, -⟩
      · rw [hresult, hexc] at hpayload
        simp at hpayload
      · rw [hresult, hexc] at hraised
        obtain rfl : Raised.other exc = err := by simpa using hraised
        simp [Raised.idempotencyKey] at hnamed
    · intro hsafe req hreq
      rcases result_cases hdec with ⟨payload, hpayload⟩ | hexc | ⟨err, herr, hnamed⟩
      · exact Or.inl ⟨payload, hresult.trans hpayload⟩
      · obtain ⟨k, hk, hkn, hreach, hescape⟩ := hescapes.mp hexc
        exact absurd hescape (hsafe hadm k hk hkn hreach)
      · right
        refine ⟨err, sentKey, hresult.trans herr, ?_, (hall req hreq).2.2⟩
        have hsent := (hall _ hfirst).2.2
        rw [a.buildRequest_idempotencyKey
          (m.call_onlyAttribution a env key path encoded)] at hsent
        rw [hnamed]
        exact (Option.filter_eq_some_iff.mp hsent).1
  · have hunsent := m.perform_unsent hadm key
    constructor
    · exact fun _ h => absurd h hadm
    · intro _ req hreq
      rw [hunsent] at hreq
      simp at hreq

/-- A server that answers with an error whose code is a list. -/
def listCodeEnv : Env :=
  { unansweredEnv with
    decode := fun _ => some []
    loads := fun _ => some (.dict [(str "error", .dict [(str "code", .list [])])])
    transport := fun _ => .returns 500 [] [0] }

/-- A code that is a list makes a `TypeError` escape, without the key. -/
theorem listCode_loses_key : ¬ HandsBackKey (oneMessage.perform opsAdmin listCodeEnv none) := by
  intro hback
  have hresult : (oneMessage.perform opsAdmin listCodeEnv none).result =
      .raised (.other .typeError) := by
    rfl
  have hsent : (oneMessage.perform opsAdmin listCodeEnv none).attempts.length = 1 := by
    rfl
  obtain ⟨req, hreq⟩ := List.exists_mem_of_length_pos (by omega : 0 <
    (oneMessage.perform opsAdmin listCodeEnv none).attempts.length)
  rcases hback req hreq with ⟨payload, hpayload⟩ | ⟨err, sentKey, hraised, hnamed, -⟩
  · rw [hresult] at hpayload
    simp at hpayload
  · rw [hresult] at hraised
    obtain rfl : Raised.other PyError.typeError = err := by simpa using hraised
    simp [Raised.idempotencyKey] at hnamed

end MizanSDK.Python
