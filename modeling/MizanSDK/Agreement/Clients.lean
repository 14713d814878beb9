import MizanSDK.Agreement.Answers

/-!
# Agreement of the two clients

How a call of the Go client and one of the Python client end that face the same
script of answers.

Main results:

- Theorem `verdicts_agree_iff`: what one attempt has to be like for both clients
  to do the same after it.
- Theorem `clients_react_alike`: both clients make the same number of attempts
  and end alike exactly when the answers they reach are tame, except that an
  error member that is no object ends the call as an API error in Go and as a
  protocol error in Python.
-/

namespace MizanSDK.Agreement

open JsonText BoundedRetry

/-! ## Ends of calls -/

/-- Two calls end in the same class of result; an API error with the same
status, code, retry flag and key. -/
inductive EndsAlike : Go.Outcome → Python.Outcome → Prop where
  | success (result : Go.GoMap) (payload : Python.PyDict) :
      EndsAlike (.response result) (.response payload)
  | api (goErr : Go.APIError) (pyErr : Python.MizanAPIError)
      (hstatus : pyErr.status = goErr.status)
      (hcode : pyErr.code = .str (Text.ofString goErr.code))
      (hretryable : pyErr.retryable = goErr.retryable)
      (hkey : pyErr.idempotencyKey.getD [] = Text.ofString goErr.idempotencyKey) :
      EndsAlike (.error (.api goErr)) (.raised (.api pyErr))
  | protocol (goErr : Go.ProtocolError) (pyErr : Python.MizanProtocolError)
      (hkey : pyErr.idempotencyKey.getD [] = Text.ofString goErr.idempotencyKey) :
      EndsAlike (.error (.protocol goErr)) (.raised (.protocol pyErr))
  | transport (goErr : Go.TransportError) (pyErr : Python.MizanTransportError)
      (hkey : pyErr.idempotencyKey.getD [] = Text.ofString goErr.idempotencyKey) :
      EndsAlike (.error (.transport goErr)) (.raised (.transport pyErr))

/-- How a call ends at a rejection whose error member is no object: in Go with
the fallback code and no retry, in Python with a protocol error. -/
inductive ForeignEnd : Go.Outcome → Python.Outcome → Prop where
  | mk (goErr : Go.APIError) (pyErr : Python.MizanProtocolError)
      (hcode : goErr.code = "HTTP_ERROR") (hretryable : goErr.retryable = false)
      (hkey : pyErr.idempotencyKey.getD [] = Text.ofString goErr.idempotencyKey) :
      ForeignEnd (.error (.api goErr)) (.raised (.protocol pyErr))

/-- How two calls end whose last attempts get the same answer. -/
def Related (answer : Answer) (go : Go.Outcome) (py : Python.Outcome) : Prop :=
  (answer.Foreign → ForeignEnd go py) ∧ (¬ answer.Foreign → EndsAlike go py)

/-- A panic ends a call like nothing in Python. -/
theorem Related.ne_panic {answer : Answer} {go : Go.Outcome} {py : Python.Outcome}
    (h : Related answer go py) : go ≠ .panic := by
  rintro rfl
  by_cases hforeign : answer.Foreign
  · cases h.1 hforeign
  · cases h.2 hforeign

/-- An exception of the language ends a call like nothing in Go. -/
theorem Related.ne_other {answer : Answer} {go : Go.Outcome} {py : Python.Outcome}
    (h : Related answer go py) (exc : Python.PyError) : py ≠ .raised (.other exc) := by
  rintro rfl
  by_cases hforeign : answer.Foreign
  · cases h.1 hforeign
  · cases h.2 hforeign

section Replies

variable {answer : Answer} {go : Go.Reply} {py : Python.Reply} {final : Prop}
  {goCall : Go.Call} {pyCall : Python.Call}

/-- A rejection whose error member is missing or an object is no protocol error in
Python. -/
theorem not_endsAlike_protocol (goErr : Go.ProtocolError) (status : ℤ)
    (headers : List (Python.PyStr × Python.PyStr)) (error : Python.PyDict) (k : ℕ) :
    ¬ EndsAlike (.error (.protocol goErr))
      ((Python.Reply.rejection status headers error).terminal pyCall k) := by
  intro h
  simp only [Python.Reply.terminal] at h
  split at h <;> cases h

/-- After a tame answer both clients ask for a retry, or neither does. -/
theorem asksRetry_eq (hgo : GoReplies answer go) (hpy : PyReplies answer py)
    (htame : answer.Tame final) : go.asksRetry = py.asksRetry := by
  cases hpy with
  | failure exc => cases hgo; rfl
  | notObject => cases hgo; rfl
  | success members => cases hgo <;> rfl
  | bare status headers herror =>
      have hfalse : Python.errorRetryable [] = false := rfl
      cases hgo with
      | @rejection _ header _ result hdecode =>
          have hnone := envelopeMember_none hdecode (by simp [herror]) "retryable"
          have hflag := (Go.decodeAPIError_eq status result).2.2
          rw [Go.ReportsRetryable, hnone] at hflag
          simpa [Go.Reply.asksRetry, Python.Reply.asksRetry, hfalse] using hflag
      | unreadRejection => simp [Go.Reply.asksRetry, Python.Reply.asksRetry, hfalse]
  | @envelope status headers members envelope herror =>
      rcases htame with ⟨⟨result, hdecode⟩, henvelope⟩ | ⟨-, hforeign⟩
      · cases hgo with
        | @rejection _ header _ result' hdecode' =>
            obtain ⟨hmakes, hflag, -⟩ := (tameEnvelope_iff hdecode' herror status final).mp
              (henvelope envelope herror)
            rw [Go.Reply.asksRetry, Python.Reply.asksRetry, hmakes, Bool.true_and, hflag]
        | unreadRejection _ hunread => exact absurd ⟨result, hdecode⟩ hunread
      · exact absurd herror hforeign.not_object
  | @foreign status members hforeign =>
      cases hgo with
      | @rejection _ header _ result hdecode =>
          have hnone := envelopeMember_none hdecode (fun _ => hforeign.not_object) "retryable"
          have hflag := (Go.decodeAPIError_eq status result).2.2
          rw [Go.ReportsRetryable, hnone] at hflag
          simpa [Go.Reply.asksRetry, Python.Reply.asksRetry] using hflag
      | unreadRejection => rfl

section Rejections

variable {members envelope : List (Text × Json)} {result : Go.GoMap}
  (hdecode : Go.decodeMembers members = some result)
  (hkey : pyCall.key.getD [] = Text.ofString goCall.key) (status : ℤ) (header : Go.Header)
  (headers : List (Python.PyStr × Python.PyStr)) (k : ℕ)
include hdecode hkey

/-- A rejection without an error member ends both calls with the fallback code. -/
theorem bare_endsAlike (herror : errorMember members = none) :
    EndsAlike ((Go.Reply.rejection status header result).terminal goCall)
      ((Python.Reply.rejection status headers []).terminal pyCall k) := by
  have hnone := envelopeMember_none hdecode (by simp [herror])
  obtain ⟨hstatus, hcode, hflag⟩ := Go.decodeAPIError_eq status result
  rw [Go.reportedCode, hnone "code"] at hcode
  rw [Go.ReportsRetryable, hnone "retryable"] at hflag
  refine .api _ _ ?_ ?_ ?_ ?_
  · rw [Go.Call.apiError_status, hstatus]
  · rw [Go.Call.apiError_code, hcode]
    rfl
  · rw [Go.Call.apiError_retryable, Bool.eq_iff_iff, hflag]
    simp [Python.PyDict.get, Python.PyValue.truthy]
  · rw [Go.Call.apiError_idempotencyKey]
    exact hkey

/-- A rejection with a tame envelope ends both calls with what the envelope says. -/
theorem envelope_endsAlike (herror : errorMember members = some (.object envelope))
    (htame : TameEnvelope envelope final) (hfinal : final) :
    EndsAlike ((Go.Reply.rejection status header result).terminal goCall)
      ((Python.Reply.rejection status headers (Python.PyValue.ofMembers envelope)).terminal
        pyCall k) := by
  obtain ⟨hmakes, hflag, hcode⟩ := (tameEnvelope_iff hdecode herror status final).mp htame
  obtain ⟨pyErr, hpyErr⟩ := (Python.makesError_iff pyCall.key status headers _).mp hmakes
  obtain ⟨hpyStatus, hpyKey, hpyCode, hpyFlag⟩ := Python.apiErrorOf_ok hpyErr
  simp only [Python.Reply.terminal, hpyErr]
  refine .api _ _ ?_ ?_ ?_ ?_
  · rw [Go.Call.apiError_status, (Go.decodeAPIError_eq status result).1, hpyStatus]
  · rw [Go.Call.apiError_code, hpyCode]
    exact hcode hfinal
  · rw [Go.Call.apiError_retryable, hpyFlag]
    exact hflag
  · rw [Go.Call.apiError_idempotencyKey, hpyKey]
    exact hkey

/-- A rejection whose error member is no object ends the Go call with the fallback
code and the Python call with a protocol error. -/
theorem foreign_foreignEnd (hforeign : ForeignError members) :
    ForeignEnd ((Go.Reply.rejection status header result).terminal goCall)
      (Python.Reply.badEnvelope.terminal pyCall k) := by
  have hnone := envelopeMember_none hdecode (fun _ => hforeign.not_object)
  obtain ⟨hstatus, hcode, hflag⟩ := Go.decodeAPIError_eq status result
  rw [Go.reportedCode, hnone "code"] at hcode
  rw [Go.ReportsRetryable, hnone "retryable"] at hflag
  refine .mk _ _ ?_ ?_ ?_
  · rw [Go.Call.apiError_code, hcode]
  · rw [Go.Call.apiError_retryable]
    simpa using hflag
  · rw [Go.Call.apiError_idempotencyKey]
    exact hkey

end Rejections

/-- After a tame answer that is final both clients end alike, or as they do at a
foreign error member. -/
theorem terminal_related (hgo : GoReplies answer go) (hpy : PyReplies answer py)
    (htame : answer.Tame final) (hfinal : final)
    (hkey : pyCall.key.getD [] = Text.ofString goCall.key) (k : ℕ) :
    Related answer (go.terminal goCall) (py.terminal pyCall k) := by
  cases hpy with
  | failure exc =>
      cases hgo
      exact ⟨fun h => h.elim, fun _ => .transport _ _ hkey⟩
  | notObject =>
      cases hgo
      exact ⟨fun h => h.elim, fun _ => .protocol _ _ hkey⟩
  | success members =>
      cases hgo with
      | success hdecode => exact ⟨fun h => h.elim, fun _ => .success _ _⟩
      | unreadSuccess _ hunread => exact absurd htame hunread
  | @bare status headers members herror =>
      rcases htame with ⟨hdecodable, -⟩ | ⟨-, hforeign⟩
      · cases hgo with
        | rejection _ header hdecode =>
            exact ⟨fun hforeign => absurd herror hforeign.2.ne_none,
              fun _ => bare_endsAlike hdecode hkey status header headers k herror⟩
        | unreadRejection _ hunread => exact absurd hdecodable hunread
      · exact absurd herror hforeign.ne_none
  | @envelope status headers members envelope herror =>
      rcases htame with ⟨hdecodable, henvelope⟩ | ⟨-, hforeign⟩
      · cases hgo with
        | rejection _ header hdecode =>
            exact ⟨fun hforeign => absurd herror hforeign.2.not_object,
              fun _ => envelope_endsAlike hdecode hkey status header headers k herror
                (henvelope envelope herror) hfinal⟩
        | unreadRejection _ hunread => exact absurd hdecodable hunread
      · exact absurd herror hforeign.not_object
  | @foreign status members hforeign =>
      cases hgo with
      | @rejection _ header _ result hdecode =>
          exact ⟨fun _ => foreign_foreignEnd hdecode hkey status header k hforeign,
            fun h => absurd ⟨⟨result, hdecode⟩, hforeign⟩ h⟩
      | unreadRejection _ hunread =>
          exact ⟨fun h => absurd h.1 hunread, fun _ => .protocol _ _ hkey⟩

/-- An answer after which both clients ask for a retry is tame. -/
theorem tame_of_asksRetry (hgo : GoReplies answer go) (hpy : PyReplies answer py)
    (hgoAsks : go.asksRetry = true) (hpyAsks : py.asksRetry = true) : answer.Tame False := by
  cases hpy with
  | failure exc => trivial
  | notObject => trivial
  | success members => simp [Python.Reply.asksRetry] at hpyAsks
  | bare status headers herror =>
      have hfalse : Python.errorRetryable [] = false := rfl
      simp [Python.Reply.asksRetry, hfalse] at hpyAsks
  | @envelope status headers members envelope herror =>
      cases hgo with
      | @rejection _ header _ result hdecode =>
          rw [Python.Reply.asksRetry, Bool.and_eq_true] at hpyAsks
          refine Or.inl ⟨⟨result, hdecode⟩, fun other hother => ?_⟩
          obtain rfl : envelope = other := by simpa [herror] using hother
          exact (tameEnvelope_iff hdecode herror status False).mpr
            ⟨hpyAsks.1, hpyAsks.2.trans hgoAsks.symm, False.elim⟩
      | unreadRejection => simp [Go.Reply.asksRetry] at hgoAsks
  | foreign status hforeign => simp [Python.Reply.asksRetry] at hpyAsks

/-- A final answer after which both calls end as they should is tame. -/
theorem tame_of_related (hgo : GoReplies answer go) (hpy : PyReplies answer py) {k : ℕ}
    (hrelated : Related answer (go.terminal goCall) (py.terminal pyCall k)) :
    answer.Tame True := by
  cases hpy with
  | failure exc => trivial
  | notObject => trivial
  | success members =>
      cases hgo with
      | success hdecode => exact ⟨_, hdecode⟩
      | unreadSuccess _ hunread => nomatch hrelated.2 False.elim
  | @bare status headers members herror =>
      cases hgo with
      | @rejection _ header _ result hdecode =>
          exact Or.inl ⟨⟨result, hdecode⟩, fun envelope henvelope => by simp [herror] at henvelope⟩
      | unreadRejection _ hunread =>
          exact absurd (hrelated.2 fun h => hunread h.1) (not_endsAlike_protocol _ _ _ _ _)
  | @envelope status headers members envelope herror =>
      have hends := hrelated.2 fun h => h.2.not_object herror
      cases hgo with
      | @rejection _ header _ result hdecode =>
          refine Or.inl ⟨⟨result, hdecode⟩, fun other hother => ?_⟩
          obtain rfl : envelope = other := by simpa [herror] using hother
          simp only [Go.Reply.terminal, Python.Reply.terminal] at hends
          split at hends
          · rename_i pyErr hpyErr
            obtain ⟨-, -, hpyCode, hpyFlag⟩ := Python.apiErrorOf_ok hpyErr
            cases hends with
            | api _ _ hstatus hcode hflag hkey =>
                rw [Go.Call.apiError_code, hpyCode] at hcode
                rw [Go.Call.apiError_retryable, hpyFlag] at hflag
                exact (tameEnvelope_iff hdecode herror status True).mpr
                  ⟨(Python.makesError_iff pyCall.key status headers _).mpr ⟨pyErr, hpyErr⟩,
                    hflag, fun _ => hcode⟩
          · cases hends
      | unreadRejection _ hunread => exact absurd hends (not_endsAlike_protocol _ _ _ _ _)
  | @foreign status members hforeign =>
      cases hgo with
      | @rejection _ header _ result hdecode =>
          exact Or.inl ⟨⟨result, hdecode⟩,
            fun envelope herror => absurd herror hforeign.not_object⟩
      | unreadRejection _ hunread => exact Or.inr ⟨hunread, hforeign⟩

end Replies

/-! ## Whole calls -/

/-- Whether attempt `k` of `n` is followed by another one when no backoff
fails. -/
def Retried (g : Go.Env) (mutation : Bool) (n k : ℕ) : Prop :=
  mutation = true ∧ k ≠ n ∧ (g.reply k).asksRetry = true

/-- Attempt `k` of `n` gets a tame answer, and if it is retried both clients can
compute the backoff. -/
structure TameAttempt (g : Go.Env) (script : ℕ → Step) (mutation : Bool) (n k : ℕ) : Prop where
  answer : ((script k).answer g.parse).Tame (¬ Retried g mutation n k)
  goBackoff : Retried g mutation n k → 0 < Go.jitterBound k
  pyBackoff : Retried g mutation n k → k ≤ Python.maxExponent + 1

/-- When the context is never cancelled only a bound that is not positive stops
the backoff. -/
theorem goBackoff_eq {g : Go.Env} {k : ℕ} (h : g.wait k = Go.backoffWait (fun _ => none) k)
    (err : Go.GoError) :
    g.backoff k err = if 0 < Go.jitterBound k then .again err else .stop .panic := by
  rw [Go.Env.backoff, h, Go.backoffWait]
  by_cases hbound : 0 < Go.jitterBound k
  · rw [if_neg (Int.not_le.mpr hbound), if_pos hbound]
  · rw [if_pos (Int.not_lt.mp hbound), if_neg hbound]

section Attempts

variable {c : Go.Client} {g : Go.Env} {p : Python.MizanClient} {q : Python.Env}
  {script : ℕ → Step} {mutation : Bool} {k : ℕ} {goCall : Go.Call} {pyCall : Python.Call}

/-- The two verdicts on an attempt agree exactly when it is tame. -/
theorem verdicts_agree_iff (hserver : SameServer c g p q script)
    (hgoMutation : goCall.mutation = mutation) (hpyMutation : pyCall.mutation = mutation)
    (hattempts : goCall.attempts = p.maxAttempts)
    (hbuilds : g.newRequest goCall.method (c.baseURL ++ goCall.path) = none)
    (hkey : pyCall.key.getD [] = Text.ofString goCall.key) :
    Verdict.Agree (Related ((script k).answer g.parse))
        (c.attempt g goCall k).verdict (p.attempt q pyCall k).verdict ↔
      TameAttempt g script mutation p.maxAttempts k := by
  have hgo : GoReplies ((script k).answer g.parse) (g.reply k) := by
    rw [Go.Env.reply, hserver.goSend]
    exact goReply_eq (hserver.readable k)
  have hpy : PyReplies ((script k).answer g.parse) (q.reply k) := by
    rw [Python.Env.reply, hserver.pySend]
    exact pyReply_eq (hserver.readable k)
  rw [c.attempt_verdict goCall hbuilds, p.attempt_verdict, hgoMutation, hpyMutation, hattempts,
    goBackoff_eq (hserver.neverCancelled k), Python.backoff_eq]
  constructor
  · intro hagree
    by_cases hgoRetry : mutation = true ∧ k ≠ p.maxAttempts ∧ (g.reply k).asksRetry = true
    · rw [if_pos hgoRetry] at hagree
      by_cases hbound : 0 < Go.jitterBound k
      · rw [if_pos hbound] at hagree
        by_cases hpyRetry : mutation = true ∧ k ≠ p.maxAttempts ∧ (q.reply k).asksRetry = true
        · rw [if_pos hpyRetry] at hagree
          by_cases hsmall : k ≤ Python.maxExponent + 1
          · exact ⟨(tame_of_asksRetry hgo hpy hgoRetry.2.2 hpyRetry.2.2).mono
              fun h => h hgoRetry, fun _ => hbound, fun _ => hsmall⟩
          · rw [if_neg hsmall] at hagree
            exact hagree.elim
        · rw [if_neg hpyRetry] at hagree
          exact hagree.elim
      · -- The Go client panics, which the Python client has no counterpart of.
        rw [if_neg hbound] at hagree
        split at hagree
        · split at hagree
          · exact hagree.elim
          · exact absurd rfl (Related.ne_panic hagree)
        · exact absurd rfl (Related.ne_panic hagree)
    · rw [if_neg hgoRetry] at hagree
      by_cases hpyRetry : mutation = true ∧ k ≠ p.maxAttempts ∧ (q.reply k).asksRetry = true
      · rw [if_pos hpyRetry] at hagree
        split at hagree
        · exact hagree.elim
        · exact absurd rfl (Related.ne_other hagree _)
      · rw [if_neg hpyRetry] at hagree
        exact ⟨(tame_of_related hgo hpy hagree).mono fun _ => trivial,
          fun h => absurd h hgoRetry, fun h => absurd h hgoRetry⟩
  · intro htame
    rw [← asksRetry_eq hgo hpy htame.answer]
    by_cases hretry : mutation = true ∧ k ≠ p.maxAttempts ∧ (g.reply k).asksRetry = true
    · rw [if_pos hretry, if_pos hretry, if_pos (htame.goBackoff hretry),
        if_pos (htame.pyBackoff hretry)]
      trivial
    · rw [if_neg hretry, if_neg hretry]
      exact terminal_related hgo hpy htame.answer hretry hkey k

/-- A tame attempt that is retried is followed by another one in Go. -/
theorem TameAttempt.isAgain (hserver : SameServer c g p q script)
    (hgoMutation : goCall.mutation = mutation) (hattempts : goCall.attempts = p.maxAttempts)
    (hbuilds : g.newRequest goCall.method (c.baseURL ++ goCall.path) = none)
    (htame : TameAttempt g script mutation p.maxAttempts k)
    (hretried : Retried g mutation p.maxAttempts k) :
    (c.attempt g goCall k).verdict.isAgain = true := by
  have hwait : g.wait k = .elapsed := by
    rw [hserver.neverCancelled, Go.backoffWait_of_select (htame.goBackoff hretried)]
  rw [c.attempt_isAgain_iff goCall hbuilds, hgoMutation, hattempts]
  exact ⟨hretried.1, hretried.2.1, hretried.2.2, hwait⟩

/-- The verdicts agree wherever both loops arrive exactly when every attempt that
the flags of the answers lead to is tame. -/
theorem reached_agree_iff (hserver : SameServer c g p q script)
    (hgoMutation : goCall.mutation = mutation) (hpyMutation : pyCall.mutation = mutation)
    (hattempts : goCall.attempts = p.maxAttempts)
    (hbuilds : g.newRequest goCall.method (c.baseURL ++ goCall.path) = none)
    (hkey : pyCall.key.getD [] = Text.ofString goCall.key) :
    (∀ k, 1 ≤ k → k < 1 + p.maxAttempts → Reaches (c.attempt g goCall) 1 k →
      Reaches (p.attempt q pyCall) 1 k →
      Verdict.Agree (Related ((script k).answer g.parse))
        (c.attempt g goCall k).verdict (p.attempt q pyCall k).verdict) ↔
      ∀ k, 1 ≤ k → k ≤ p.maxAttempts →
        (∀ i, 1 ≤ i → i < k → Retried g mutation p.maxAttempts i) →
        TameAttempt g script mutation p.maxAttempts k := by
  have hagree_iff : ∀ k, _ ↔ _ := fun k => verdicts_agree_iff (k := k) hserver hgoMutation
    hpyMutation hattempts hbuilds hkey
  constructor
  · intro hagree k
    induction k using Nat.strong_induction_on with
    | h k ih =>
        intro hk hkn hretried
        -- Every earlier attempt is tame, so both loops come past it.
        have hearlier : ∀ i, 1 ≤ i → i < k →
            TameAttempt g script mutation p.maxAttempts i := fun i hi hik =>
          ih i hik hi (by omega) fun j hj hji => hretried j hj (by omega)
        have hgoReach : Reaches (c.attempt g goCall) 1 k := fun i hi hik =>
          (hearlier i hi hik).isAgain hserver hgoMutation hattempts hbuilds (hretried i hi hik)
        have hpyReach : Reaches (p.attempt q pyCall) 1 k := fun i hi hik => by
          rw [← ((hagree_iff i).mpr (hearlier i hi hik)).isAgain_eq]
          exact hgoReach i hi hik
        exact (hagree_iff k).mp (hagree k hk (by omega) hgoReach hpyReach)
  · intro htame k hk hkn hgoReach _
    refine (hagree_iff k).mpr (htame k hk (by omega) fun i hi hik => ?_)
    have hagain := (c.attempt_isAgain_iff goCall hbuilds i).mp (hgoReach i hi hik)
    rw [hgoMutation, hattempts] at hagain
    exact ⟨hagain.1, hagain.2.1, hagain.2.2.1⟩

end Attempts

/-- Both clients make the same number of attempts and end alike, a last answer
with a foreign error member ending the call as an API error in Go and as a
protocol error in Python, exactly when every attempt they are led to is tame. -/
theorem clients_react_alike {c : Go.Client} {g : Go.Env} {p : Python.MizanClient}
    {q : Python.Env} {script : ℕ → Step} (hserver : SameServer c g p q script)
    (goMethod goPath goBusinessID goKey : String) (goBody : Option Go.RequestBody)
    (goHeaders : List (String × String)) (pyMethod : String)
    (pyPath pyBusinessId : Python.PyStr) (pyBody : Option Python.PyDict)
    (pyKey : Option Python.PyStr) (pyHeaders : List (String × Python.PyStr)) (mutation : Bool)
    (hgoEncodes : ∃ payload, g.encode goBody = .ok payload)
    (hgoBuilds : g.newRequest goMethod (c.baseURL ++ goPath) = none)
    (hpyEncodes : ∃ encoded, q.encode pyBody = .ok encoded)
    (hkey : (q.key pyKey mutation).getD [] = Text.ofString goKey) :
    let goRun := c.requestWithHeaders g goMethod goPath goBusinessID goBody goKey mutation
      goHeaders
    let pyRun := p.request q pyMethod pyPath pyBody pyBusinessId pyKey mutation pyHeaders
    (goRun.attempts.length = pyRun.attempts.length ∧
        Related ((script goRun.attempts.length).answer g.parse) goRun.result pyRun.result) ↔
      ∀ k, 1 ≤ k → k ≤ p.maxAttempts →
        (∀ i, 1 ≤ i → i < k → Retried g mutation p.maxAttempts i) →
        TameAttempt g script mutation p.maxAttempts k := by
  intro goRun pyRun
  obtain ⟨payload, hpayload⟩ := hgoEncodes
  obtain ⟨encoded, hencoded⟩ := hpyEncodes
  obtain ⟨goCall, hgoCall⟩ : ∃ goCall, goCall =
      c.newCall g goMethod goPath goBusinessID payload goKey mutation goHeaders := ⟨_, rfl⟩
  obtain ⟨pyCall, hpyCall⟩ : ∃ pyCall, pyCall =
      q.newCall pyMethod pyPath encoded pyBusinessId pyKey mutation pyHeaders := ⟨_, rfl⟩
  have hbuilds : g.newRequest goCall.method (c.baseURL ++ goCall.path) = none := by
    rw [hgoCall]
    exact hgoBuilds
  obtain ⟨j, r, hgoDec⟩ := c.exists_decides goCall (by rw [hgoCall]; rfl) hbuilds
  obtain ⟨j', s, hpyDec⟩ := p.exists_decides q pyCall
  have hattempts : goCall.attempts = p.maxAttempts := by
    rw [hgoCall]
    exact hserver.attempts
  rw [hattempts] at hgoDec
  have hgoRun : goRun = loop (c.attempt g goCall) (fun lastErr => .error (.transport
      ⟨lastErr, goCall.correlationID, goKey⟩)) p.maxAttempts 1 none := by
    simp only [goRun, Go.Client.requestWithHeaders, hpayload, ← hgoCall, hattempts]
  have hpyRun : pyRun = loop (p.attempt q pyCall) (fun _ => .raised (.transport
      ⟨"Request outcome is unknown", pyCall.correlationId, pyCall.key⟩))
        p.maxAttempts 1 none := by
    simp only [pyRun, Python.MizanClient.request, hencoded, ← hpyCall]
  rw [hgoRun, hpyRun, loop_agree_iff (fun k => Related ((script k).answer g.parse))
    (Go.Client.attempt_sent hbuilds) (p.attempt_sent q pyCall) hgoDec hpyDec]
  exact reached_agree_iff hserver (by rw [hgoCall]; rfl) (by rw [hpyCall]; rfl) hattempts
    hbuilds (by rw [hgoCall, hpyCall]; exact hkey)

/-! ## A server that is down and one that recovers -/

/-- The Go side of a server whose bodies spell one document. -/
def goSide (script : ℕ → Step) (body : List UInt8) (document : Json) : Go.Env :=
  { parse := fun raw => if raw = body then some document else none
    isPrint := Char.isAlphanum
    marshal := fun _ => .ok []
    newRequest := fun _ _ => none
    keySeed := ⟨1, 2⟩
    correlationSeed := ⟨3, 4⟩
    timestamp := fun _ => "2026-01-01T00:00:00Z"
    send := fun k => (script k).toGo
    wait := Go.backoffWait fun _ => none }

/-- The Python side of the same server. -/
def pySide (script : ℕ → Step) (body : List UInt8) (document : Json) : Python.Env :=
  { dumps := fun _ => .ok []
    decode := fun raw => if raw = body then some [] else none
    loads := fun _ => some (Python.PyValue.ofJson document)
    keyUuid := Python.unansweredEnv.keyUuid
    correlationUuid := Python.str "correlation"
    timestamp := fun _ => Python.str "2026-01-01T00:00:00+00:00"
    transport := fun k => (script k).toPython }

/-- A Go client with three attempts. -/
def goClient : Go.Client := ⟨"https://mizan.example", "token", "", 3⟩

/-- A Python client with three attempts. -/
def pyClient : Python.MizanClient := Python.opsAdmin.toMizanClient

/-- Two clients face one server when its bodies are empty or spell the document. -/
theorem sameServer_of_body {script : ℕ → Step} {body : List UInt8} {document : Json}
    (hsize : body.length ≤ 2097152)
    (hbody : ∀ k status header headers raw,
      script k = .response status header headers raw → raw = [] ∨ raw = body) :
    SameServer goClient (goSide script body document) pyClient (pySide script body document)
      script := by
  refine ⟨fun _ => rfl, fun _ => rfl, rfl, fun _ => by simp only [goSide], ?_⟩
  intro k status header headers raw hstep
  rcases hbody k status header headers raw hstep with rfl | rfl
  · exact ⟨by simp, fun h => absurd rfl h⟩
  · exact ⟨hsize, fun _ => ⟨document, by simp [goSide], by simp [pySide]⟩⟩

/-- The body of a proxy that is down. -/
def downBody : List UInt8 := asciiBytes "\x7b\"error\":\"down\"\x7d"

/-- Its document. -/
def downDocument : Json :=
  .object [(Text.ofString "error", .string (Text.ofString "down"))]

/-- Every attempt is answered by that body. -/
def downScript (_ : ℕ) : Step := .response 502 ∅ [] downBody

/-- An error member that is no object ends a call as an API error in Go and as a
protocol error in Python. -/
theorem down_ends_differently :
    SameServer goClient (goSide downScript downBody downDocument) pyClient
      (pySide downScript downBody downDocument) downScript ∧
    ¬ EndsAlike
      (goClient.requestWithHeaders (goSide downScript downBody downDocument) "POST"
        "/v1/catalog" "" none "key" true []).result
      (pyClient.request (pySide downScript downBody downDocument) "POST"
        (Python.str "/v1/catalog") none [] (some (Python.str "key")) true []).result := by
  constructor
  · refine sameServer_of_body (by decide) ?_
    intro k status header headers raw hstep
    simp only [downScript, Step.response.injEq] at hstep
    exact Or.inr hstep.2.2.2.symm
  · have hpy : (pyClient.request (pySide downScript downBody downDocument) "POST"
        (Python.str "/v1/catalog") none [] (some (Python.str "key")) true []).result =
        .raised (.protocol ⟨"Mizan returned an invalid error envelope",
          Python.str "correlation", some (Python.str "key")⟩) := by
      rfl
    have hgo : ∃ err, (goClient.requestWithHeaders
        (goSide downScript downBody downDocument) "POST" "/v1/catalog" "" none "key" true
          []).result = .error (.api err) := ⟨_, rfl⟩
    obtain ⟨err, hgo⟩ := hgo
    rw [hpy, hgo]
    intro h
    cases h

/-- The body of a retryable rejection. -/
def retryableBody : List UInt8 :=
  asciiBytes "\x7b\"error\":\x7b\"code\":\"INTERNAL_RETRYABLE\",\"retryable\":true\x7d\x7d"

/-- Its error envelope. -/
def retryableEnvelope : List (Text × Json) :=
  [(Text.ofString "code", .string (Text.ofString "INTERNAL_RETRYABLE")),
    (Text.ofString "retryable", .bool true)]

/-- Its document. -/
def retryableDocument : Json := .object [(Text.ofString "error", .object retryableEnvelope)]

/-- The first attempt is rejected as retryable, the others are accepted. -/
def recoveringScript (k : ℕ) : Step :=
  if k = 1 then .response 503 ∅ [] retryableBody else .response 200 ∅ [] []

theorem retryableEnvelope_tame (final : Prop) : TameEnvelope retryableEnvelope final := by
  refine ⟨?_, ?_, ?_, ?_⟩
  · intro value hvalue
    obtain rfl : Json.string (Text.ofString "INTERNAL_RETRYABLE") = value :=
      Option.some.inj hvalue
    rfl
  · intro _ value hvalue
    exact ⟨"INTERNAL_RETRYABLE", (Option.some.inj hvalue).symm⟩
  · intro value hvalue
    exact Or.inl (Option.some.inj hvalue).symm
  · intro value hvalue
    exact absurd hvalue (by rintro ⟨⟩)

/-- Both clients face the server that recovers. -/
theorem recovering_sameServer : SameServer goClient
    (goSide recoveringScript retryableBody retryableDocument) pyClient
    (pySide recoveringScript retryableBody retryableDocument) recoveringScript := by
  refine sameServer_of_body (by decide) ?_
  intro k status header headers raw hstep
  unfold recoveringScript at hstep
  split at hstep
  · exact Or.inr (Step.response.inj hstep).2.2.2.symm
  · exact Or.inl (Step.response.inj hstep).2.2.2.symm

/-- Every attempt of a mutation at that server is tame. -/
theorem recovering_tame (k : ℕ) : TameAttempt
    (goSide recoveringScript retryableBody retryableDocument) recoveringScript true
    pyClient.maxAttempts k := by
  by_cases hfirst : k = 1
  · subst hfirst
    refine ⟨Or.inl ⟨⟨_, rfl⟩, ?_⟩, fun _ => by decide, fun _ => by decide⟩
    intro envelope henvelope
    obtain rfl : retryableEnvelope = envelope := by
      simpa using Option.some.inj henvelope
    exact retryableEnvelope_tame _
  · have hstep : recoveringScript k = .response 200 ∅ [] [] := if_neg hfirst
    have hanswer : (recoveringScript k).answer
        (goSide recoveringScript retryableBody retryableDocument).parse = .success [] := by
      rw [hstep]
      rfl
    have hdone : ¬ Retried (goSide recoveringScript retryableBody retryableDocument) true
        pyClient.maxAttempts k := by
      rintro ⟨-, -, hasks⟩
      have hreply : (goSide recoveringScript retryableBody retryableDocument).reply k =
          .success [] := by
        simp only [Go.Env.reply, goSide, hstep]
        rfl
      rw [hreply] at hasks
      simp [Go.Reply.asksRetry] at hasks
    refine ⟨?_, fun h => absurd h hdone, fun h => absurd h hdone⟩
    rw [hanswer]
    exact ⟨[], rfl⟩

/-- Both clients make two attempts against a server that recovers. -/
theorem recovering_ends_alike :
    let goRun := goClient.requestWithHeaders
      (goSide recoveringScript retryableBody retryableDocument) "POST" "/v1/catalog" "" none
      "key" true []
    let pyRun := pyClient.request (pySide recoveringScript retryableBody retryableDocument)
      "POST" (Python.str "/v1/catalog") none [] (some (Python.str "key")) true []
    goRun.attempts.length = 2 ∧ pyRun.attempts.length = 2 ∧
      EndsAlike goRun.result pyRun.result := by
  intro goRun pyRun
  have hagree := (clients_react_alike recovering_sameServer "POST" "/v1/catalog" "" "key" none
    [] "POST" (Python.str "/v1/catalog") [] none (some (Python.str "key")) [] true ⟨none, rfl⟩
    rfl ⟨none, rfl⟩ rfl).mpr fun k _ _ _ => recovering_tame k
  have hlength : goRun.attempts.length = 2 := by decide
  refine ⟨hlength, hagree.1.symm.trans hlength, hagree.2.2 ?_⟩
  exact fun hforeign => hforeign.elim

end MizanSDK.Agreement
