import MizanSDK.Python.Replay
import MizanSDK.Library.Idempotency

/-!
# Python mutations against a server that keeps idempotency keys

The counterpart of the Go sessions.  Here every mutation has a key: the client
generates one for a caller without any.

Main results:

- Theorem `MutatingCall.perform_asked`: the attempts of a call are one request of
  one key.
- Theorem `MutatingCall.session_takes_effect_once`: a mutation takes effect at most
  once however often it is attempted and repeated, and what it returns is the answer
  to the one time it took effect.
-/

namespace MizanSDK.Python

open JsonText BoundedRetry Idempotency

/-! ## What the server sees -/

/-- What tells two commands apart. -/
structure Command where
  method : String
  url : PyStr
  data : Option (List UInt8)
deriving DecidableEq

/-- A request as the server reads it. -/
def Request.asked (req : Request) : Idempotency.Request PyStr Command :=
  ⟨req.header "Idempotency-Key", ⟨req.method, req.url, req.data⟩⟩

/-- An answer that arrives whole. -/
structure Answer where
  status : ℤ
  headers : List (PyStr × PyStr)
  raw : List UInt8

/-- What stays the same between the calls of a caller: the `json` module and the
decoding of UTF-8. -/
structure Codec where
  dumps : PyDict → Except PyError (List UInt8)
  decode : List UInt8 → Option PyStr
  loads : PyStr → Option PyValue

/-- The payload of a body. -/
def Codec.payload (codec : Codec) (raw : List UInt8) : Option PyValue :=
  if raw = [] then some (.dict []) else (codec.decode raw).bind codec.loads

/-- The dictionary of a successful answer. -/
def Answer.Yields (answer : Answer) (codec : Codec) (result : PyDict) : Prop :=
  (200 ≤ answer.status ∧ answer.status < 300) ∧ codec.payload answer.raw = some (.dict result)

/-- An answer without a success status. -/
def Answer.Fails (answer : Answer) : Prop := ¬ (200 ≤ answer.status ∧ answer.status < 300)

/-- Such an answer yields nothing. -/
theorem Answer.Fails.not_yields {answer : Answer} (h : answer.Fails) (codec : Codec)
    (result : PyDict) : ¬ answer.Yields codec result :=
  fun hyields => h hyields.1

/-- What the transport does with an attempt. -/
def outcomeOf : Sight NetworkError Answer → TransportOutcome
  | .silence exc => .raises exc
  | .answer answer => .returns answer.status answer.headers answer.raw

/-- A server whose answer to a key that stands for another command is an error. -/
structure Server (σ : Type*) extends Idempotency.Service σ Command Answer where
  conflict_fails : conflict.Fails

/-! ## Calls against the server -/

/-- What one call meets: its identifiers and its clock, and the ways of its attempts.
Nobody on the way answers with success. -/
structure Circumstances where
  keyUuid : { s : PyStr // s ≠ [] }
  correlationUuid : PyStr
  timestamp : ℕ → PyStr
  legs : ℕ → Leg PyStr Command NetworkError Answer
  refusals : ∀ k answer, (legs k).fate = .refused answer → answer.Fails

/-- The world around a call that sees this of its attempts. -/
def Circumstances.env (x : Circumstances) (codec : Codec)
    (sights : ℕ → Sight NetworkError Answer) : Env where
  dumps := codec.dumps
  decode := codec.decode
  loads := codec.loads
  keyUuid := x.keyUuid
  correlationUuid := x.correlationUuid
  timestamp := x.timestamp
  transport k := outcomeOf (sights k)

/-- An attempt that succeeds shows an answer that yields its payload. -/
theorem Circumstances.yields_of_reply {x : Circumstances} {codec : Codec}
    {sights : ℕ → Sight NetworkError Answer} {k : ℕ} {result : PyDict}
    (h : (x.env codec sights).reply k = .success result) :
    ∃ answer, sights k = .answer answer ∧ answer.Yields codec result := by
  unfold Env.reply at h
  rw [show (x.env codec sights).transport k = outcomeOf (sights k) from rfl] at h
  cases hsight : sights k with
  | silence exc =>
      rw [hsight] at h
      cases h
  | answer answer =>
      rw [hsight] at h
      refine ⟨answer, rfl, ?_⟩
      simp only [outcomeOf, TransportOutcome.reply] at h
      split at h
      · cases h
      · cases hpayload : (x.env codec sights).payload answer.raw with
        | none =>
            rw [hpayload] at h
            cases h
        | some payload =>
            rw [hpayload] at h
            have hcodec : codec.payload answer.raw = some payload := hpayload
            cases payload with
            | dict entries =>
                simp only [Option.elim_some, PyValue.reply] at h
                split at h
                · rename_i hstatus
                  obtain rfl := Reply.success.inj h
                  exact ⟨hstatus, hcodec⟩
                · split at h <;> cases h
            | _ => cases h

namespace MutatingCall

/-- The key of a call. -/
def sentKey (x : Circumstances) (key : Option PyStr) : Option PyStr :=
  match key with
  | some (c :: rest) => some (c :: rest)
  | _ => some x.keyUuid.1

/-- The command of a call. -/
def command (m : MutatingCall) (a : MizanAdminClient) (codec : Codec) : Command :=
  ⟨m.target.1, a.baseUrl ++ (m.path a).toOption.getD [], (codec.dumps m.target.2.1).toOption⟩

/-- The request of a call. -/
def asks (m : MutatingCall) (a : MizanAdminClient) (codec : Codec) (x : Circumstances)
    (key : Option PyStr) : Idempotency.Request PyStr Command :=
  ⟨sentKey x key, m.command a codec⟩

/-- The key an exception hands back for a repetition of the call. -/
def retryKey : Outcome → Option (Option PyStr)
  | .raised (.transport err) => some err.idempotencyKey
  | .raised (.protocol err) => some err.idempotencyKey
  | .raised (.api err) => if err.retryable then some err.idempotencyKey else none
  | _ => none

/-- Such an exception carries the key. -/
theorem idempotencyKey_of_retryKey {result : Outcome} {key : Option PyStr}
    (h : retryKey result = some key) :
    ∃ err, result = .raised err ∧ (∀ exc, err ≠ .other exc) ∧ err.idempotencyKey = key := by
  unfold retryKey at h
  split at h
  · exact ⟨_, rfl, by rintro exc ⟨⟩, Option.some.inj h⟩
  · exact ⟨_, rfl, by rintro exc ⟨⟩, Option.some.inj h⟩
  · split at h
    · exact ⟨_, rfl, by rintro exc ⟨⟩, Option.some.inj h⟩
    · cases h
  · cases h

section Calls

/-- A key that was sent is sent again. -/
theorem sentKey_again (x x' : Circumstances) (key : Option PyStr) :
    sentKey x' (sentKey x key) = sentKey x key := by
  have hmade : sentKey x' (some x.keyUuid.1) = some x.keyUuid.1 := by
    cases hkey : x.keyUuid.1 with
    | nil => exact absurd hkey x.keyUuid.2
    | cons c rest => rfl
  rcases key with _ | _ | ⟨c, rest⟩
  · exact hmade
  · exact hmade
  · rfl

/-- A call has a key, the caller's if that is not empty. -/
theorem exists_sentKey (x : Circumstances) (key : Option PyStr) :
    ∃ sent, sentKey x key = some sent ∧ sent ≠ [] ∧
      ∀ given, key = some given → given ≠ [] → sent = given := by
  rcases key with _ | _ | ⟨c, rest⟩
  · exact ⟨_, rfl, x.keyUuid.2, by simp⟩
  · exact ⟨_, rfl, x.keyUuid.2, by simp⟩
  · exact ⟨_, rfl, by simp, by simp⟩

variable {m : MutatingCall} {a : MizanAdminClient} {codec : Codec} {x : Circumstances}
  {sights : ℕ → Sight NetworkError Answer} {key : Option PyStr}

/-- The attempts of a call are the request it asks, whatever it sees of them. -/
theorem perform_asked {req : Request}
    (hreq : req ∈ (m.perform a (x.env codec sights) key).attempts) :
    req.asked = m.asks a codec x key := by
  by_cases hadm : m.Admitted a (x.env codec sights)
  · obtain ⟨path, hpath⟩ := hadm.path
    obtain ⟨encoded, hdumps⟩ := hadm.encodes
    have hencode : (x.env codec sights).encode (some m.target.2.1) = .ok (some encoded) := by
      simp [Env.encode, hdumps, Except.map]
    obtain ⟨j, r, -, hrun⟩ := a.request_decided
      (rfl : m.call a (x.env codec sights) key path encoded = _) hencode
    have hperform := m.perform_eq a (x.env codec sights) key
    rw [hpath] at hperform
    rw [hperform] at hreq
    simp only [guarded, hrun] at hreq
    obtain ⟨k, -, rfl⟩ := List.mem_map.mp hreq
    obtain ⟨sent, hsent, hne, -⟩ := exists_sentKey x key
    have hcall : (m.call a (x.env codec sights) key path encoded).key = some sent := hsent
    have hcodec : codec.dumps m.target.2.1 = .ok encoded := hdumps
    rw [Request.asked, a.buildRequest_idempotencyKey (m.call_onlyAttribution a _ key path encoded),
      hcall, asks, command, hpath, hcodec, hsent]
    simp [hne, Option.filter, MizanClient.buildRequest, MutatingCall.call, Env.newCall,
      Except.toOption]
  · rw [MutatingCall.perform_unsent hadm] at hreq
    cases hreq

/-- A call that is not admitted ends in an exception of the language. -/
theorem perform_other (h : ¬ m.Admitted a (x.env codec sights)) (key : Option PyStr) :
    ∃ exc, (m.perform a (x.env codec sights) key).result = .raised (.other exc) := by
  rw [MutatingCall.perform_eq]
  cases hpath : m.path a with
  | error exc => exact ⟨exc, rfl⟩
  | ok path =>
      cases hdumps : (x.env codec sights).dumps m.target.2.1 with
      | error exc =>
          refine ⟨exc, ?_⟩
          simp [guarded, MizanClient.request, Env.encode, hdumps, Except.map]
      | ok encoded => exact absurd ⟨⟨path, hpath⟩, ⟨encoded, hdumps⟩⟩ h

/-- An exception that asks for a repetition carries the key that was sent. -/
theorem retryKey_perform {key' : Option PyStr}
    (h : retryKey (m.perform a (x.env codec sights) key).result = some key') :
    key' = sentKey x key := by
  obtain ⟨err, herr, hnamed, hkey⟩ := idempotencyKey_of_retryKey h
  by_cases hadm : m.Admitted a (x.env codec sights)
  · obtain ⟨path, encoded, j, r, hdec, hrun⟩ := MutatingCall.perform_of_admitted hadm key
    rw [hrun] at herr
    rcases result_cases hdec with ⟨payload, hpayload⟩ | ⟨exc, hexc⟩ | ⟨err', herr', hsent⟩
    · rw [hpayload] at herr
      cases herr
    · rw [hexc] at herr
      exact absurd (Outcome.raised.inj herr).symm (hnamed exc)
    · rw [herr'] at herr
      obtain rfl := Outcome.raised.inj herr
      exact hkey.symm.trans hsent
  · rcases perform_other hadm key with ⟨exc, hexc⟩
    rw [hexc] at herr
    exact absurd (Outcome.raised.inj herr).symm (hnamed exc)

/-- A call that returns a dictionary saw a successful answer that yields it. -/
theorem perform_response {result : PyDict}
    (h : (m.perform a (x.env codec sights) key).result = .response result) :
    ∃ i answer, 1 ≤ i ∧ i ≤ (m.perform a (x.env codec sights) key).attempts.length ∧
      sights i = .answer answer ∧ answer.Yields codec result := by
  by_cases hadm : m.Admitted a (x.env codec sights)
  · obtain ⟨path, encoded, j, r, hdec, hrun⟩ := MutatingCall.perform_of_admitted hadm key
    rw [hrun] at h ⊢
    obtain rfl : r = .response result := h
    have hstop := hdec.stop
    rw [a.attempt_verdict] at hstop
    have hreply : (x.env codec sights).reply j = .success result := by
      split at hstop
      · rw [backoff_eq] at hstop
        split at hstop <;> cases hstop
      · cases hreply : (x.env codec sights).reply j with
        | success other =>
            rw [hreply] at hstop
            simpa [Reply.terminal] using hstop
        | rejection status headers error =>
            rw [hreply] at hstop
            simp only [Reply.terminal] at hstop
            split at hstop <;> cases hstop
        | _ =>
            rw [hreply] at hstop
            cases hstop
    obtain ⟨answer, hsight, hyields⟩ := Circumstances.yields_of_reply hreply
    exact ⟨j, answer, hdec.le, by simp, hsight, hyields⟩
  · rcases perform_other hadm key with ⟨exc, hexc⟩
    rw [hexc] at h
    cases h

end Calls

/-! ## Sessions -/

/-- The caller of the README: a call whose outcome is unknown, or whose error calls
itself retryable, is repeated with identical input and the key of the exception. -/
def caller (m : MutatingCall) (a : MizanAdminClient) (codec : Codec) :
    Caller Circumstances (Option PyStr) PyStr Command NetworkError Answer Outcome where
  request := m.asks a codec
  legs x := x.legs
  call x key sights :=
    ((m.perform a (x.env codec sights) key).attempts.length,
      (m.perform a (x.env codec sights) key).result)
  again := retryKey
  keeps x key sights key' h x' := by
    rw [retryKey_perform h, asks, sentKey_again, asks]

variable {σ : Type*}

/-- How the caller of the README fares against a server: it calls under the first
circumstances and, as long as it has to, under the following ones. -/
def against (m : MutatingCall) (a : MizanAdminClient) (codec : Codec) (server : Server σ)
    (x : Circumstances) (rest : List Circumstances) (key : Option PyStr)
    (desk : Desk σ PyStr Command Answer) : Session σ PyStr Command Answer Outcome :=
  (m.caller a codec).session server.toService x rest key desk

variable (m : MutatingCall) (a : MizanAdminClient) (codec : Codec) (server : Server σ)
  (x : Circumstances) (rest : List Circumstances) (key : Option PyStr)
  (desk : Desk σ PyStr Command Answer)

/-- A mutation takes effect at most once however often it is attempted and repeated,
not at all if its key was known, and what it returns is the answer to the one command
that was carried out under its key.  All its attempts are the one request that the
server is said to see. -/
theorem session_takes_effect_once :
    ∃ sent, sent ≠ [] ∧ (∀ given, key = some given → given ≠ [] → sent = given) ∧
      (∀ sights, ∀ req ∈ (m.perform a (x.env codec sights) key).attempts,
        req.asked = ⟨some sent, m.command a codec⟩) ∧
      (∀ sights key', retryKey (m.perform a (x.env codec sights) key).result = some key' →
        ∀ (x' : Circumstances) sights',
          ∀ req ∈ (m.perform a (x'.env codec sights') key').attempts,
            req.asked = ⟨some sent, m.command a codec⟩) ∧
      (m.against a codec server x rest key desk).effects + recorded desk (some sent) ≤ 1 ∧
      ∀ result, (m.against a codec server x rest key desk).result = .response result →
        ∃ entry ∈ (m.against a codec server x rest key desk).desk.log,
          entry.key = some sent ∧ entry.command = m.command a codec ∧
            entry.answer.Yields codec result ∧
            ∀ other ∈ (m.against a codec server x rest key desk).desk.log,
              other.key = some sent → other = entry := by
  obtain ⟨sent, hsent, hne, hgiven⟩ := exists_sentKey x key
  have hasked : m.asks a codec x key = ⟨some sent, m.command a codec⟩ := by
    rw [asks, hsent]
  refine ⟨sent, hne, hgiven, ?_, ?_, ?_, ?_⟩
  · intro sights req hreq
    rw [perform_asked hreq, hasked]
  · intro sights key' hretry x' sights' req hreq
    rw [perform_asked hreq, ← hasked]
    exact (m.caller a codec).keeps x key sights key' hretry x'
  · exact ((m.caller a codec).session_effects_le server.toService hsent desk).trans
      (recorded_le_one _ _)
  · intro result hresult
    exact (m.caller a codec).session_backed server.toService (· = .response result)
      (·.Yields codec result)
      (fun _ _ _ h => perform_response h)
      (fun x i answer h => (x.refusals i answer h).not_yields codec result)
      (server.conflict_fails.not_yields codec result) hsent desk hresult

end MutatingCall

end MizanSDK.Python
