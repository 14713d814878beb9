import MizanSDK.Go.Replay

/-!
# The backoff of the Go client

The delay before another attempt is drawn below `min(2s, 100ms * 2^(k-1))`, which
`requestWithHeaders` computes in 64-bit arithmetic: the product wraps around
before the cap is applied.

Main results:

- Theorem `soundBackoff_iff`: the attempt numbers for which the computed bound is
  the mathematical one.
- Theorem `Client.DrawsDelay.le`: no call draws a delay after attempt 39 or later,
  because drawing one after attempt 38 panics.
- Theorem `backoff_sound_iff`: a call backs off properly and does not panic
  unless it draws a delay after attempt 38.
-/

namespace MizanSDK.Go

open BoundedRetry

/-! ## The bound of a delay -/

/-- The longest delay after attempt `attempt` in nanoseconds, as a number. -/
def backoffCap (attempt : ℕ) : ℤ :=
  min (2 * 1000000000) (100 * 1000000 * 2 ^ (attempt - 1))

/-- The computed bound is the mathematical one: `rand.Int63n` gets a positive
argument, and the delays it may yield are those up to the cap. -/
structure SoundBackoff (attempt : ℕ) : Prop where
  exact : jitterBound attempt = backoffCap attempt + 1
  positive : 0 < jitterBound attempt
  delays : ∀ delay : ℤ, 0 ≤ delay ∧ delay < jitterBound attempt ↔
    0 ≤ delay ∧ delay ≤ backoffCap attempt

theorem backoffCap_nonneg (attempt : ℕ) : 0 ≤ backoffCap attempt := by
  have hpow : (0 : ℤ) ≤ 2 ^ (attempt - 1) := by positivity
  unfold backoffCap
  omega

/-- A bound that is exact is positive and admits the delays up to the cap. -/
theorem SoundBackoff.of_exact {attempt : ℕ}
    (h : jitterBound attempt = backoffCap attempt + 1) : SoundBackoff attempt := by
  have hcap := backoffCap_nonneg attempt
  refine ⟨h, by omega, fun delay => ?_⟩
  rw [h, Int.lt_add_one_iff]

/-- From attempt 65 on the power of two alone wraps around to zero. -/
theorem wrapInt64_two_pow {n : ℕ} (h : 64 ≤ n) : wrapInt64 (2 ^ n) = 0 := by
  obtain ⟨m, rfl⟩ := Nat.exists_eq_add_of_le h
  have hsplit : (2 : ℤ) ^ (64 + m) = 2 ^ 64 * 2 ^ m := pow_add 2 64 m
  unfold wrapInt64
  rw [hsplit, Int.mul_add_emod_self_left]
  rfl

/-- A bound that lost its product admits no delay but zero. -/
theorem jitterBound_of_le {attempt : ℕ} (h : 65 ≤ attempt) : jitterBound attempt = 1 := by
  unfold jitterBound
  rw [wrapInt64_two_pow (by omega)]
  rfl

theorem backoffCap_of_le {attempt : ℕ} (h : 65 ≤ attempt) :
    backoffCap attempt = 2 * 1000000000 := by
  have hpow : (2 : ℤ) ^ 6 ≤ 2 ^ (attempt - 1) :=
    pow_le_pow_right₀ (by decide) (by omega)
  unfold backoffCap
  omega

/-- The attempts before 65 whose bound is exact.  Behind 37 the wrapped product
is above the cap only by chance. -/
def fittingAttempts : List ℕ := List.range' 1 37 ++ [39, 45, 47, 52, 53, 54, 55]

theorem jitterBound_exact_iff_of_lt :
    ∀ attempt < 65, 1 ≤ attempt →
      (jitterBound attempt = backoffCap attempt + 1 ↔ attempt ∈ fittingAttempts) := by
  decide

/-- The computed bound is the mathematical one for the attempts up to 37 and for
seven later ones. -/
theorem soundBackoff_iff {attempt : ℕ} (hattempt : 1 ≤ attempt) :
    SoundBackoff attempt ↔ attempt ∈ fittingAttempts := by
  have hexact : SoundBackoff attempt ↔ jitterBound attempt = backoffCap attempt + 1 :=
    ⟨SoundBackoff.exact, SoundBackoff.of_exact⟩
  rw [hexact]
  by_cases hlt : attempt < 65
  · exact jitterBound_exact_iff_of_lt attempt hlt hattempt
  · have hge : 65 ≤ attempt := Nat.le_of_not_lt hlt
    rw [jitterBound_of_le hge, backoffCap_of_le hge]
    constructor
    · intro h
      omega
    · intro hmem
      have hbounded : ∀ k ∈ fittingAttempts, k < 65 := by decide
      exact absurd (hbounded attempt hmem) hlt

/-- After attempt 38 the product has wrapped around to a negative number. -/
theorem jitterBound_thirty_eight : jitterBound 38 ≤ 0 := by decide

theorem soundBackoff_of_le {attempt : ℕ} (hpos : 1 ≤ attempt) (h : attempt ≤ 37) :
    SoundBackoff attempt := by
  rw [soundBackoff_iff hpos, fittingAttempts, List.mem_append, List.mem_range'_1]
  exact .inl ⟨hpos, by omega⟩

/-! ## Calls that back off -/

/-- The environment whose waits are those of the client: `rand.Int63n` draws the
delay, and `select` says how the waiting for it ends. -/
def Env.jittered (env : Env) (select : ℕ → Option GoError) : Env :=
  { env with wait := backoffWait select }

theorem Env.jittered_wait (env : Env) (select : ℕ → Option GoError) :
    (env.jittered select).wait = backoffWait select := by
  unfold Env.jittered
  with_reducible rfl

/-- The call draws a delay after attempt `k`: it gets there, the outcome of the
attempt asks for another one, and one is left. -/
structure Client.DrawsDelay (c : Client) (env : Env) (method path : String)
    (body : Option RequestBody) (mutation : Bool) (k : ℕ) : Prop where
  encodes : ∃ payload, env.encode body = .ok payload
  builds : env.newRequest method (c.baseURL ++ path) = none
  mutation : mutation = true
  pos : 1 ≤ k
  left : k < c.attempts
  reaches : env.Reaches k
  asks : (env.reply k).asksRetry = true

section Calls

variable {c : Client} {env : Env} {select : ℕ → Option GoError}
  {method path businessID key : String} {body : Option RequestBody} {mutation : Bool}
  {extraHeaders : List (String × String)}

/-- Drawing a delay from a bound that is not positive panics. -/
theorem jittered_wait_of_nonpos {k : ℕ} (h : jitterBound k ≤ 0) :
    (env.jittered select).wait k = .panicked := by
  simp [Env.jittered, backoffWait, h]

theorem jittered_wait_ne_panicked {k : ℕ} (h : 0 < jitterBound k) :
    (env.jittered select).wait k ≠ .panicked := by
  simp only [Env.jittered, backoffWait_of_select h]
  cases select k <;> simp

/-- No call gets past the delay after attempt 38. -/
theorem Client.DrawsDelay.le {k : ℕ}
    (h : c.DrawsDelay (env.jittered select) method path body mutation k) : k ≤ 38 := by
  by_contra hlt
  have helapsed := (h.reaches 38 (by decide) (by omega)).2
  rw [jittered_wait_of_nonpos jitterBound_thirty_eight] at helapsed
  simp at helapsed

/-- A backoff stops with a panic only if the wait does. -/
theorem Env.backoff_ne_panic {k : ℕ} (h : env.wait k ≠ .panicked) (err : GoError) :
    env.backoff k err ≠ .stop .panic := by
  unfold Env.backoff
  cases hwait : env.wait k with
  | panicked => exact absurd hwait h
  | elapsed => simp
  | cancelled ctxErr => simp

/-- A call that draws a delay from a bound that is not positive panics. -/
theorem requestWithHeaders_panics {k : ℕ}
    (h : c.DrawsDelay (env.jittered select) method path body mutation k)
    (hbound : jitterBound k ≤ 0) :
    (c.requestWithHeaders (env.jittered select) method path businessID body key mutation
      extraHeaders).result = .panic := by
  obtain ⟨payload, hencode⟩ := h.encodes
  obtain ⟨call, hcall⟩ : ∃ call, call = c.newCall (env.jittered select) method path businessID
    payload key mutation extraHeaders := ⟨_, rfl⟩
  obtain ⟨j, r, hdec, hrun⟩ := c.requestWithHeaders_decided hcall hencode h.builds
  have hmutation : call.mutation = true := by rw [hcall]; exact h.mutation
  have hbuilds : (env.jittered select).newRequest call.method (c.baseURL ++ call.path) = none := by
    rw [hcall]
    exact h.builds
  have hleft : k < call.attempts := by rw [hcall]; exact h.left
  have hreaches := (reaches_attempt_iff hmutation hbuilds hleft.le).mpr h.reaches
  have hverdict := attempt_verdict_of_asksRetry hmutation hbuilds hleft.ne h.asks
  rw [Env.backoff, jittered_wait_of_nonpos hbound] at hverdict
  obtain ⟨-, hresult⟩ := hdec.eq_of_stop h.pos hreaches hverdict
  rw [hrun, ← hresult]

/-- A call panics only where it draws a delay from a bound that is not positive. -/
theorem exists_drawsDelay_of_panic
    (h : (c.requestWithHeaders (env.jittered select) method path businessID body key mutation
      extraHeaders).result = .panic) :
    ∃ k, c.DrawsDelay (env.jittered select) method path body mutation k ∧
      jitterBound k ≤ 0 := by
  cases hencode : (env.jittered select).encode body with
  | error err => simp [Client.requestWithHeaders, hencode] at h
  | ok payload =>
      cases hbuild : (env.jittered select).newRequest method (c.baseURL ++ path) with
      | some err =>
          simp only [Client.requestWithHeaders, hencode] at h
          rw [Client.loop_unbuilt rfl hbuild] at h
          simp at h
      | none =>
          obtain ⟨call, hcall⟩ : ∃ call, call = c.newCall (env.jittered select) method path
            businessID payload key mutation extraHeaders := ⟨_, rfl⟩
          obtain ⟨j, r, hdec, hrun⟩ := c.requestWithHeaders_decided hcall hencode hbuild
          have hbuilds : (env.jittered select).newRequest call.method
              (c.baseURL ++ call.path) = none := by
            rw [hcall]
            exact hbuild
          have hstop := hdec.stop
          rw [c.attempt_verdict call hbuilds] at hstop
          obtain rfl : r = .panic := by rw [hrun] at h; exact h
          split at hstop
          · rename_i hretry
            obtain ⟨hmutation, hne, hasks⟩ := hretry
            have hlt : j < call.attempts := by
              have hbound : j < 1 + c.attempts := hdec.lt
              have hcount : call.attempts = c.attempts := by rw [hcall]; rfl
              omega
            have hreaches := (reaches_attempt_iff hmutation hbuilds hlt.le).mp hdec.reaches
            refine ⟨j, ⟨⟨payload, hencode⟩, hbuild, ?_, hdec.le, ?_, hreaches, hasks⟩, ?_⟩
            · rw [hcall] at hmutation
              exact hmutation
            · rw [hcall] at hlt
              exact hlt
            · by_contra hpos
              have hwait : (env.jittered select).wait j ≠ .panicked :=
                jittered_wait_ne_panicked (Int.not_le.mp hpos)
              exact Env.backoff_ne_panic hwait _ hstop
          · have hpanic : ((env.jittered select).reply j).terminal call = .panic := by
              simpa using hstop
            cases hreply : (env.jittered select).reply j <;>
              simp [hreply, Reply.terminal] at hpanic

/-- A call backs off properly when it does not panic and every delay it draws
comes from a sound bound. -/
structure BacksOffSoundly (c : Client) (env : Env) (method path businessID : String)
    (body : Option RequestBody) (key : String) (mutation : Bool)
    (extraHeaders : List (String × String)) : Prop where
  noPanic : (c.requestWithHeaders env method path businessID body key mutation
    extraHeaders).result ≠ .panic
  sound : ∀ k, c.DrawsDelay env method path body mutation k → SoundBackoff k

/-- A call backs off properly unless it draws a delay after attempt 38. -/
theorem backoff_sound_iff (c : Client) (env : Env) (select : ℕ → Option GoError)
    (method path businessID : String) (body : Option RequestBody) (key : String)
    (mutation : Bool) (extraHeaders : List (String × String)) :
    BacksOffSoundly c (env.jittered select) method path businessID body key mutation
        extraHeaders ↔
      ¬ c.DrawsDelay (env.jittered select) method path body mutation 38 := by
  constructor
  · intro h hdraws
    exact h.noPanic (requestWithHeaders_panics hdraws jitterBound_thirty_eight)
  · intro h
    have hsound : ∀ k, c.DrawsDelay (env.jittered select) method path body mutation k →
        SoundBackoff k := by
      intro k hdraws
      have hne : k ≠ 38 := by
        rintro rfl
        exact h hdraws
      have hle := hdraws.le
      exact soundBackoff_of_le hdraws.pos (by omega)
    refine ⟨fun hpanic => ?_, hsound⟩
    obtain ⟨k, hdraws, hbound⟩ := exists_drawsDelay_of_panic hpanic
    have hpositive := (hsound k hdraws).positive
    omega

end Calls

/-- A client that was configured to sit out a long outage. -/
def patientClient : Client := ⟨"https://mizan.example", "token", "", 50⟩

/-- An environment in which no request is ever answered and every wait is left to
run its course. -/
def outage : Env := unansweredEnv.jittered fun _ => none

theorem outage_reaches : outage.Reaches 38 := by
  intro i hpos hlt
  have hpositive := (soundBackoff_of_le hpos (Nat.lt_succ_iff.mp hlt)).positive
  have hreply : outage.reply i = .sendError ⟨"connection reset by peer"⟩ := rfl
  have hwait : outage.wait = backoffWait fun _ => none := unansweredEnv.jittered_wait _
  rw [hreply, hwait, backoffWait_of_select hpositive]
  exact ⟨rfl, rfl⟩

theorem outage_drawsDelay :
    patientClient.DrawsDelay outage "POST" (businessPath "shop" "consumptions")
      (some oneMessage.body) true 38 where
  encodes := ⟨some [], rfl⟩
  builds := rfl
  mutation := rfl
  pos := by decide
  left := by decide
  reaches := outage_reaches
  asks := by
    have hreply : outage.reply 38 = .sendError ⟨"connection reset by peer"⟩ := rfl
    rw [hreply]
    rfl

/-- Under a lasting outage a call does not end with an error: it panics. -/
theorem consume_panics_in_outage :
    (oneMessage.perform ⟨patientClient, ""⟩ outage "key-1").result = .panic := by
  rw [MutatingCall.perform_eq]
  exact requestWithHeaders_panics outage_drawsDelay jitterBound_thirty_eight

end MizanSDK.Go
