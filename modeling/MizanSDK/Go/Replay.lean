import MizanSDK.Go.AttemptLoop

/-!
# Replay safety of the Go mutations

A mutation whose outcome is unknown may only be repeated with the same body and
the same idempotency key.  This file says what the attempts of one mutating call
share, and whether the caller gets the key back when the call fails.

Main results:

- Theorem `perform_replayIdentity_iff`: the attempts of a call share body,
  request ID and a non-empty key, except where `ConfigureAddon` is called
  without a key.
- Theorem `perform_handsBackKey_iff`: an error hands back the key that was sent,
  unless the context ends during a backoff or no key was sent at all.

Current gaps: redirects that the HTTP client follows by itself are part of one
attempt.
-/

namespace MizanSDK.Go

open BoundedRetry

/-! ## Calls that reach the transport -/

/-- A mutating call that passes its local checks, whose body encodes and whose
request can be built. -/
structure MutatingCall.Admitted (m : MutatingCall) (a : AdminClient) (env : Env) : Prop where
  passes : m.localCheck a env = none
  encodes : ∃ payload, env.marshal m.body = .ok payload
  builds : env.newRequest m.target.1 (a.client.baseURL ++ m.target.2.1) = none

/-- The call a mutating method hands to the attempt loop. -/
def MutatingCall.call (m : MutatingCall) (a : AdminClient) (env : Env) (key : String)
    (payload : List UInt8) : Call :=
  a.client.newCall env m.target.1 m.target.2.1 m.target.2.2 (some payload)
    (m.usedKey env key) true (m.extraHeaders a)

/-- The headers a mutating method adds leave those of the loop alone. -/
theorem MutatingCall.call_onlyAttribution (m : MutatingCall) (a : AdminClient) (env : Env)
    (key : String) (payload : List UInt8) : (m.call a env key payload).OnlyAttribution := by
  intro nv hnv
  exact MutatingCall.extraHeaders_name hnv

/-- An admitted call is decided by one of its attempts. -/
theorem MutatingCall.perform_of_admitted {m : MutatingCall} {a : AdminClient} {env : Env}
    (h : m.Admitted a env) (key : String) :
    ∃ payload j r,
      Decides (a.client.attempt env (m.call a env key payload)) 1 a.client.attempts j r ∧
      m.perform a env key =
        ⟨(List.range' 1 j).map (a.client.buildRequest env (m.call a env key payload)), r⟩ := by
  obtain ⟨payload, hpayload⟩ := h.encodes
  have hencode : env.encode (some m.body) = .ok (some payload) := by
    simp [Env.encode, hpayload, Except.map]
  obtain ⟨j, r, hdec, hrun⟩ := a.client.requestWithHeaders_decided
    (rfl : m.call a env key payload = _) hencode h.builds
  refine ⟨payload, j, r, hdec, ?_⟩
  rw [MutatingCall.perform_eq, h.passes]
  exact hrun

/-- A call that is not admitted sends nothing. -/
theorem MutatingCall.perform_unsent {m : MutatingCall} {a : AdminClient} {env : Env}
    (h : ¬ m.Admitted a env) (key : String) : (m.perform a env key).attempts = [] := by
  rw [MutatingCall.perform_eq]
  cases hpass : m.localCheck a env with
  | some message => rfl
  | none =>
      apply Client.requestWithHeaders_unsent
      cases hmarshal : env.marshal m.body with
      | error err =>
          left
          exact ⟨err, by simp [Env.encode, hmarshal, Except.map]⟩
      | ok payload =>
          right
          cases hbuild : env.newRequest m.target.1 (a.client.baseURL ++ m.target.2.1) with
          | some err => exact ⟨err, rfl⟩
          | none => exact absurd ⟨hpass, ⟨payload, hmarshal⟩, hbuild⟩ h

/-! ## Replay identity -/

/-- The attempts of a call made with the caller's key `key` replay one request:
they share body, request ID and a non-empty idempotency key, which is the
caller's unless that is empty, and there are at most `max(1, MaxAttempts)`. -/
structure ReplayIdentity (c : Client) (key : String) (run : Run HTTPRequest Outcome) :
    Prop where
  bounded : (run.attempts.length : ℤ) ≤ max 1 c.maxAttempts
  stable : ∃ body requestID sentKey, sentKey ≠ "" ∧ (key ≠ "" → sentKey = key) ∧
    ∀ req ∈ run.attempts,
      req.body = body ∧
      req.header.get? "X-Request-ID" = some requestID ∧
      req.header.get? "Idempotency-Key" = some sentKey

/-- A call that sends nothing replays nothing. -/
theorem ReplayIdentity.of_unsent {c : Client} {key : String} {run : Run HTTPRequest Outcome}
    (h : run.attempts = []) : ReplayIdentity c key run := by
  refine ⟨by simp [h], [], "", if key = "" then "-" else key, ?_, ?_, by simp [h]⟩
  · split
    · decide
    · assumption
  · intro hkey
    rw [if_neg hkey]

/-- An attempt of an admitted call carries the key of that call. -/
theorem MutatingCall.attempt_key {m : MutatingCall} {a : AdminClient} {env : Env}
    {key : String} {payload : List UInt8} (k : ℕ) :
    (a.client.buildRequest env (m.call a env key payload) k).header.get? "Idempotency-Key" =
      if m.usedKey env key = "" then none else some (m.usedKey env key) :=
  Client.buildRequest_idempotencyKey (m.call_onlyAttribution a env key payload) k

/-- The attempts of a mutating call replay one request with a non-empty key,
except where an admitted `ConfigureAddon` is called without a key. -/
theorem perform_replayIdentity_iff (m : MutatingCall) (a : AdminClient) (env : Env)
    (key : String) :
    ReplayIdentity a.client key (m.perform a env key) ↔
      ¬ (m.Admitted a env ∧ m.isConfigureAddon = true ∧ key = "") := by
  by_cases hadm : m.Admitted a env
  · obtain ⟨payload, j, r, hdec, hrun⟩ := MutatingCall.perform_of_admitted hadm key
    have hkeyless := m.usedKey_eq_empty_iff env key
    constructor
    · rintro ⟨-, body, requestID, sentKey, -, -, hall⟩ ⟨-, hkey⟩
      -- The first attempt carries no key at all.
      have hfirst : a.client.buildRequest env (m.call a env key payload) 1 ∈
          (m.perform a env key).attempts := by
        have hpos : 0 < j := hdec.le
        rw [hrun]
        exact List.mem_map_of_mem (by simpa using hpos)
      have hsent := (hall _ hfirst).2.2
      rw [MutatingCall.attempt_key, if_pos (hkeyless.mpr hkey)] at hsent
      simp at hsent
    · intro hkeyed
      have hused : m.usedKey env key ≠ "" := by
        intro hempty
        exact hkeyed ⟨hadm, hkeyless.mp hempty⟩
      refine ⟨?_, payload, newID env.correlationSeed, m.usedKey env key, hused,
        m.usedKey_of_ne_empty env, ?_⟩
      · have hlt := hdec.lt
        have hmax := a.client.attempts_eq_max
        simp only [hrun, List.length_map, List.length_range']
        omega
      · intro req hreq
        rw [hrun] at hreq
        obtain ⟨k, -, rfl⟩ := List.mem_map.mp hreq
        refine ⟨rfl, Client.buildRequest_requestID (m.call_onlyAttribution a env key payload) k,
          ?_⟩
        rw [MutatingCall.attempt_key, if_neg hused]
  · have hunsent := MutatingCall.perform_unsent hadm key
    exact ⟨fun _ hbad => hadm hbad.1, fun _ => ReplayIdentity.of_unsent hunsent⟩

/-- An environment in which every request is handed to the transport and the
transport gives no answer. -/
def unansweredEnv : Env :=
  { parse := fun _ => none
    isPrint := Char.isAlphanum
    marshal := fun _ => .ok []
    newRequest := fun _ _ => none
    keySeed := ⟨1, 2⟩
    correlationSeed := ⟨3, 4⟩
    timestamp := fun _ => "2026-01-01T00:00:00Z"
    send := fun _ => .failure ⟨"connection reset by peer"⟩
    wait := backoffWait fun _ => none }

/-- An admin client with three attempts. -/
def opsAdmin : AdminClient := ⟨⟨"https://mizan.example", "token", "", 3⟩, "ops@example"⟩

/-- The roll-out of an add-on to general availability. -/
def addonRollout : MutatingCall :=
  .configureAddon "voice" ⟨"", "", [], "general", some true, none, none, "launch"⟩

theorem addonRollout_admitted : addonRollout.Admitted opsAdmin unansweredEnv :=
  ⟨by decide, ⟨[], rfl⟩, rfl⟩

/-- Without a key of the caller, `ConfigureAddon` sends its attempts without
any key. -/
theorem configureAddon_sends_no_key :
    ¬ ReplayIdentity opsAdmin.client "" (addonRollout.perform opsAdmin unansweredEnv "") := by
  rintro ⟨-, body, requestID, sentKey, -, -, hall⟩
  obtain ⟨payload, j, r, hdec, hrun⟩ :=
    MutatingCall.perform_of_admitted addonRollout_admitted ""
  have hpos : 0 < j := hdec.le
  have hfirst : opsAdmin.client.buildRequest unansweredEnv
      (addonRollout.call opsAdmin unansweredEnv "" payload) 1 ∈
        (addonRollout.perform opsAdmin unansweredEnv "").attempts := by
    rw [hrun]
    exact List.mem_map_of_mem (by simpa using hpos)
  have hsent := (hall _ hfirst).2.2
  rw [MutatingCall.attempt_key] at hsent
  simp [MutatingCall.usedKey, MutatingCall.isConfigureAddon, addonRollout] at hsent

/-! ## Handing the key back -/

/-- A call that returns an error after it sent something returns one that
carries the key it sent. -/
def HandsBackKey (run : Run HTTPRequest Outcome) : Prop :=
  ∀ err, run.result = .error err → ∀ req ∈ run.attempts,
    ∃ sentKey, err.idempotencyKey = some sentKey ∧
      req.header.get? "Idempotency-Key" = some sentKey

/-- Every attempt before `k` is answered by a reply that asks for a retry and
followed by a backoff that elapses. -/
def Env.Reaches (env : Env) (k : ℕ) : Prop :=
  ∀ i, 1 ≤ i → i < k → (env.reply i).asksRetry = true ∧ env.wait i = .elapsed

/-- The context ends during the backoff between two of `n` attempts. -/
def Env.CancelledWithin (env : Env) (n : ℕ) : Prop :=
  ∃ k, 1 ≤ k ∧ k < n ∧ env.Reaches k ∧ (env.reply k).asksRetry = true ∧
    ∃ err, env.wait k = .cancelled err

/-- One of `n` attempts is the last and was not answered by success: its reply
asks for no retry, or no attempt is left. -/
def Env.FailsWithin (env : Env) (n : ℕ) : Prop :=
  ∃ k, 1 ≤ k ∧ k ≤ n ∧ env.Reaches k ∧ (env.reply k).isSuccess = false ∧
    ((env.reply k).asksRetry = true → k = n)

section Deciding

variable {c : Client} {env : Env} {call : Call} {j : ℕ} {r : Outcome}

/-- For a mutation the loop arrives at an attempt exactly when the environment
lets it. -/
theorem reaches_attempt_iff (hmutation : call.mutation = true)
    (hbuilds : env.newRequest call.method (c.baseURL ++ call.path) = none) {k : ℕ}
    (hk : k ≤ call.attempts) :
    BoundedRetry.Reaches (c.attempt env call) 1 k ↔ env.Reaches k := by
  constructor
  · intro h i hi hik
    have hagain := (c.attempt_isAgain_iff call hbuilds i).mp (h i hi hik)
    exact ⟨hagain.2.2.1, hagain.2.2.2⟩
  · intro h i hi hik
    obtain ⟨hasks, hwait⟩ := h i hi hik
    exact (c.attempt_isAgain_iff call hbuilds i).mpr ⟨hmutation, by omega, hasks, hwait⟩

/-- An attempt that asks for a retry with attempts left ends as its backoff
does. -/
theorem attempt_verdict_of_asksRetry (hmutation : call.mutation = true)
    (hbuilds : env.newRequest call.method (c.baseURL ++ call.path) = none) {k : ℕ}
    (hk : k ≠ call.attempts) (hasks : (env.reply k).asksRetry = true) :
    (c.attempt env call k).verdict = env.backoff k ((env.reply k).cause call) := by
  rw [c.attempt_verdict call hbuilds, if_pos ⟨hmutation, hk, hasks⟩]

/-- An attempt that asks for no retry, or the last one, ends the call with what
its reply amounts to. -/
theorem attempt_verdict_of_last
    (hbuilds : env.newRequest call.method (c.baseURL ++ call.path) = none) {k : ℕ}
    (hlast : (env.reply k).asksRetry = true → k = call.attempts) :
    (c.attempt env call k).verdict = .stop ((env.reply k).terminal call) := by
  rw [c.attempt_verdict call hbuilds, if_neg]
  rintro ⟨-, hk, hasks⟩
  exact hk (hlast hasks)

/-- An error that is the end of a reply carries the key of the call. -/
theorem Reply.terminal_idempotencyKey {reply : Reply} {err : CallError}
    (h : reply.terminal call = .error err) : err.idempotencyKey = some call.key := by
  cases reply <;> simp only [Reply.terminal, Outcome.error.injEq, reduceCtorEq] at h <;>
    subst h <;> simp [CallError.idempotencyKey]

theorem Reply.exists_terminal_error_iff (reply : Reply) (call : Call) :
    (∃ err, reply.terminal call = .error err) ↔ reply.isSuccess = false := by
  cases reply <;> simp [Reply.terminal, Reply.isSuccess]

/-- A call returns the bare context error exactly when its context ends during a
backoff. -/
theorem result_context_iff
    (hdec : Decides (c.attempt env call) 1 call.attempts j r)
    (hmutation : call.mutation = true)
    (hbuilds : env.newRequest call.method (c.baseURL ++ call.path) = none) :
    (∃ err, r = .error (.context err)) ↔ env.CancelledWithin call.attempts := by
  have hj := hdec.lt
  constructor
  · rintro ⟨err, rfl⟩
    have hstop := hdec.stop
    rw [c.attempt_verdict call hbuilds] at hstop
    split at hstop
    · rename_i hretry
      refine ⟨j, hdec.le, by omega, ?_, hretry.2.2, ?_⟩
      · exact (reaches_attempt_iff hmutation hbuilds (by omega)).mp hdec.reaches
      · unfold Env.backoff at hstop
        split at hstop <;> simp_all
    · have hterminal : (env.reply j).terminal call = .error (.context err) := by
        simpa using hstop
      have hkey := Reply.terminal_idempotencyKey hterminal
      simp [CallError.idempotencyKey] at hkey
  · rintro ⟨k, hk, hkn, hreach, hasks, err, hwait⟩
    have hstop : (c.attempt env call k).verdict = .stop (.error (.context err)) := by
      rw [attempt_verdict_of_asksRetry hmutation hbuilds (by omega) hasks]
      simp [Env.backoff, hwait]
    have hreach' := (reaches_attempt_iff hmutation hbuilds (by omega)).mpr hreach
    exact ⟨err, (hdec.eq_of_stop hk hreach' hstop).2.symm⟩

/-- A call returns an error that names its key exactly when one of its attempts
fails for good. -/
theorem result_keyed_iff
    (hdec : Decides (c.attempt env call) 1 call.attempts j r)
    (hmutation : call.mutation = true)
    (hbuilds : env.newRequest call.method (c.baseURL ++ call.path) = none) :
    (∃ err, r = .error err ∧ err.idempotencyKey = some call.key) ↔
      env.FailsWithin call.attempts := by
  have hj := hdec.lt
  constructor
  · rintro ⟨err, rfl, hkey⟩
    have hstop := hdec.stop
    rw [c.attempt_verdict call hbuilds] at hstop
    split at hstop
    · unfold Env.backoff at hstop
      split at hstop
      · simp at hstop
      · simp only [Verdict.stop.injEq, Outcome.error.injEq] at hstop
        rw [← hstop] at hkey
        simp [CallError.idempotencyKey] at hkey
      · simp at hstop
    · rename_i hlast
      refine ⟨j, hdec.le, by omega, ?_, ?_, ?_⟩
      · exact (reaches_attempt_iff hmutation hbuilds (by omega)).mp hdec.reaches
      · exact (Reply.exists_terminal_error_iff (env.reply j) call).mp ⟨err, by simpa using hstop⟩
      · intro hasks
        by_contra hne
        exact hlast ⟨hmutation, hne, hasks⟩
  · rintro ⟨k, hk, hkn, hreach, hfail, hlast⟩
    obtain ⟨err, hterminal⟩ := (Reply.exists_terminal_error_iff _ call).mpr hfail
    have hstop : (c.attempt env call k).verdict = .stop ((env.reply k).terminal call) :=
      attempt_verdict_of_last hbuilds hlast
    have hreach' := (reaches_attempt_iff hmutation hbuilds hkn).mpr hreach
    refine ⟨err, ?_, Reply.terminal_idempotencyKey hterminal⟩
    rw [← (hdec.eq_of_stop hk hreach' hstop).2, hterminal]

/-- An error a decided call returns is the context error or names the key. -/
theorem result_error_cases
    (hdec : Decides (c.attempt env call) 1 call.attempts j r)
    (hbuilds : env.newRequest call.method (c.baseURL ++ call.path) = none) {err : CallError}
    (h : r = .error err) :
    (∃ ctxErr, err = .context ctxErr) ∨ err.idempotencyKey = some call.key := by
  subst h
  have hstop := hdec.stop
  rw [c.attempt_verdict call hbuilds] at hstop
  split at hstop
  · unfold Env.backoff at hstop
    split at hstop
    · simp at hstop
    · rename_i ctxErr _
      left
      exact ⟨ctxErr, by simpa using hstop.symm⟩
    · simp at hstop
  · right
    exact Reply.terminal_idempotencyKey (by simpa using hstop)

end Deciding

/-- An error hands back the key that was sent, unless the context ends during a
backoff, or a `ConfigureAddon` that sent no key fails. -/
theorem perform_handsBackKey_iff (m : MutatingCall) (a : AdminClient) (env : Env)
    (key : String) :
    HandsBackKey (m.perform a env key) ↔
      (m.Admitted a env → ¬ env.CancelledWithin a.client.attempts ∧
        ¬ (m.isConfigureAddon = true ∧ key = "" ∧ env.FailsWithin a.client.attempts)) := by
  by_cases hadm : m.Admitted a env
  · obtain ⟨payload, j, r, hdec, hrun⟩ := MutatingCall.perform_of_admitted hadm key
    have hcontext := result_context_iff hdec rfl hadm.builds
    have hkeyed := result_keyed_iff hdec rfl hadm.builds
    have hkeyless := m.usedKey_eq_empty_iff env key
    have hfirst : a.client.buildRequest env (m.call a env key payload) 1 ∈
        (m.perform a env key).attempts := by
      have hpos : 0 < j := hdec.le
      rw [hrun]
      exact List.mem_map_of_mem (by simpa using hpos)
    have hresult : (m.perform a env key).result = r := by rw [hrun]
    constructor
    · intro hback _
      constructor
      · intro hcancelled
        obtain ⟨err, herr⟩ := hcontext.mpr hcancelled
        obtain ⟨sentKey, hnamed, -⟩ := hback _ (hresult.trans herr) _ hfirst
        simp [CallError.idempotencyKey] at hnamed
      · rintro ⟨haddon, hkey, hfails⟩
        obtain ⟨err, herr, -⟩ := hkeyed.mpr hfails
        obtain ⟨sentKey, -, hsent⟩ := hback _ (hresult.trans herr) _ hfirst
        rw [MutatingCall.attempt_key, if_pos (hkeyless.mpr ⟨haddon, hkey⟩)] at hsent
        simp at hsent
    · intro hsafe err herr req hreq
      obtain ⟨huncancelled, hkeyedOrFine⟩ := hsafe hadm
      rw [hresult] at herr
      have hnamed : err.idempotencyKey = some (m.usedKey env key) := by
        rcases result_error_cases hdec hadm.builds herr with ⟨ctxErr, rfl⟩ | hnamed
        · exact absurd (hcontext.mp ⟨ctxErr, herr⟩) huncancelled
        · exact hnamed
      have hused : m.usedKey env key ≠ "" := by
        intro hempty
        obtain ⟨haddon, hkey⟩ := hkeyless.mp hempty
        exact hkeyedOrFine ⟨haddon, hkey, hkeyed.mp ⟨err, herr, hnamed⟩⟩
      refine ⟨m.usedKey env key, hnamed, ?_⟩
      rw [hrun] at hreq
      obtain ⟨k, -, rfl⟩ := List.mem_map.mp hreq
      rw [MutatingCall.attempt_key, if_neg hused]
  · have hunsent := MutatingCall.perform_unsent hadm key
    constructor
    · exact fun _ h => absurd h hadm
    · intro _ err _ req hreq
      rw [hunsent] at hreq
      simp at hreq

/-- The context of `unansweredEnv` ends during the first backoff. -/
def cancelledEnv : Env :=
  { unansweredEnv with wait := backoffWait fun _ => some ⟨"context canceled"⟩ }

/-- The consumption of one message. -/
def oneMessage : MutatingCall :=
  .consume "shop" ⟨"event-1", ⟨false, "2026-01-01T00:00:00Z"⟩, "message", "1", "", "", none, []⟩

/-- A context that ends during the backoff loses the generated key. -/
theorem consume_cancelled_loses_key :
    ¬ HandsBackKey (oneMessage.perform opsAdmin cancelledEnv "") := by
  intro hback
  have hrun : (oneMessage.perform opsAdmin cancelledEnv "").result =
      .error (.context ⟨"context canceled"⟩) := by
    rfl
  have hsent : (oneMessage.perform opsAdmin cancelledEnv "").attempts.length = 1 := by
    rfl
  obtain ⟨req, hreq⟩ := List.exists_mem_of_length_pos (by omega : 0 <
    (oneMessage.perform opsAdmin cancelledEnv "").attempts.length)
  obtain ⟨sentKey, hnamed, -⟩ := hback _ hrun req hreq
  simp [CallError.idempotencyKey] at hnamed

end MizanSDK.Go
