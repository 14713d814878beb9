import MizanSDK.Go.Replay
import MizanSDK.Library.Idempotency

/-!
# Mutations against a server that keeps idempotency keys

The server knows a command by its idempotency key: it answers a command it has
carried out from its log, and refuses a key that stands for another one.  Between
it and the client lies a network that may lose requests and answers.  The caller
follows the procedure of the README: after a transport or protocol error, and
after an API error that calls itself retryable, it repeats the call with identical
input and the key of the error.

Main results:

- Theorem `MutatingCall.perform_asked`: the attempts of a call are one request of
  one key.
- Theorem `MutatingCall.session_exactly_once`: a keyed mutation takes effect at most
  once however often it is attempted and repeated, and what it returns as success
  is the answer to the one time it took effect.
-/

namespace MizanSDK.Go

open BoundedRetry Idempotency

/-! ## What the server sees -/

/-- What tells two commands apart. -/
structure Command where
  method : String
  url : String
  body : List UInt8
deriving DecidableEq

/-- A request as the server reads it. -/
def HTTPRequest.asked (req : HTTPRequest) : Idempotency.Request String Command :=
  ⟨req.header.get? "Idempotency-Key", ⟨req.method, req.url, req.body⟩⟩

/-- An answer that arrives whole. -/
structure Answer where
  statusCode : ℤ
  header : Header
  body : List UInt8

/-- The answer as the transport hands it over. -/
def Answer.outcome (answer : Answer) : SendOutcome :=
  .response answer.statusCode answer.header ⟨answer.body, none⟩

/-- The object of a successful answer. -/
def Answer.Yields (answer : Answer) (parse : JsonParser) (result : GoMap) : Prop :=
  answer.outcome.reply parse = .success result

/-- An answer without a success status. -/
def Answer.Fails (answer : Answer) : Prop :=
  ¬ (200 ≤ answer.statusCode ∧ answer.statusCode < 300)

/-- Such an answer yields nothing. -/
theorem Answer.Fails.not_yields {answer : Answer} (h : answer.Fails) (parse : JsonParser)
    (result : GoMap) : ¬ answer.Yields parse result := by
  intro hyields
  have hread := readAll_complete (responseLimit + 1) answer.body
  rw [Yields, outcome, SendOutcome.reply_of_read hread] at hyields
  split at hyields
  · cases hyields
  · split at hyields
    · cases hyields
    · rw [if_neg h] at hyields
      cases hyields

/-- An attempt that shows no answer: nothing was received, or not all of it. -/
def SendOutcome.Silent : SendOutcome → Prop
  | .failure _ => True
  | .response _ _ body => ∃ err, readAll (responseLimit + 1) body = .error err

/-- A silent attempt does not succeed. -/
theorem SendOutcome.Silent.reply_ne {outcome : SendOutcome} (h : outcome.Silent)
    (parse : JsonParser) (result : GoMap) : outcome.reply parse ≠ .success result := by
  intro hreply
  cases outcome with
  | failure err => cases hreply
  | response statusCode header body =>
      rcases h with ⟨err, hread⟩
      rw [SendOutcome.reply_of_readError hread] at hreply
      cases hreply

/-- The outcome of an attempt. -/
def outcomeOf : Sight { outcome : SendOutcome // outcome.Silent } Answer → SendOutcome
  | .silence seen => seen.1
  | .answer answer => answer.outcome

/-- A server whose answer to a key that stands for another command is an error. -/
structure Server (σ : Type*) extends Idempotency.Service σ Command Answer where
  conflict_fails : conflict.Fails

/-! ## Calls against the server -/

/-- What stays the same between the calls of a caller: `encoding/json`, the table of
`strconv.IsPrint` and the construction of requests. -/
structure Codec where
  parse : JsonParser
  isPrint : Char → Bool
  marshal : RequestBody → Except GoError (List UInt8)
  newRequest : (method url : String) → Option GoError

/-- What one call meets: its identifiers, its clock and its timers, and the ways of
its attempts.  Nobody on the way answers with success. -/
structure Circumstances where
  keySeed : IDSeed
  correlationSeed : IDSeed
  timestamp : ℕ → String
  wait : ℕ → Wait
  legs : ℕ → Leg String Command { outcome : SendOutcome // outcome.Silent } Answer
  refusals : ∀ k answer, (legs k).fate = .refused answer → answer.Fails

/-- The world around a call that sees this of its attempts. -/
def Circumstances.env (x : Circumstances) (codec : Codec)
    (sights : ℕ → Sight { outcome : SendOutcome // outcome.Silent } Answer) : Env where
  parse := codec.parse
  isPrint := codec.isPrint
  marshal := codec.marshal
  newRequest := codec.newRequest
  keySeed := x.keySeed
  correlationSeed := x.correlationSeed
  timestamp := x.timestamp
  send k := outcomeOf (sights k)
  wait := x.wait

namespace MutatingCall

/-- `usedKey` for the seed of a call. -/
def sentKey (m : MutatingCall) (seed : IDSeed) (key : String) : String :=
  if key = "" ∧ m.isConfigureAddon = false then newID seed else key

/-- The command of a call. -/
def command (m : MutatingCall) (a : AdminClient) (codec : Codec) : Command :=
  ⟨m.target.1, a.client.baseURL ++ m.target.2.1,
    match codec.marshal m.body with
    | .ok payload => payload
    | .error _ => []⟩

/-- The request of a call. -/
def asks (m : MutatingCall) (a : AdminClient) (codec : Codec) (x : Circumstances)
    (key : String) : Idempotency.Request String Command :=
  ⟨if m.sentKey x.keySeed key = "" then none else some (m.sentKey x.keySeed key),
    m.command a codec⟩

/-- The key an error hands back for a repetition of the call. -/
def retryKey : Outcome → Option String
  | .error (.transport err) => some err.idempotencyKey
  | .error (.protocol err) => some err.idempotencyKey
  | .error (.api err) => if err.retryable then some err.idempotencyKey else none
  | _ => none

/-- Such an error carries the key. -/
theorem idempotencyKey_of_retryKey {result : Outcome} {key : String}
    (h : retryKey result = some key) :
    ∃ err, result = .error err ∧ err.idempotencyKey = some key := by
  unfold retryKey at h
  split at h
  · exact ⟨_, rfl, h⟩
  · exact ⟨_, rfl, h⟩
  · split at h
    · exact ⟨_, rfl, h⟩
    · cases h
  · cases h

section Calls

variable (m : MutatingCall) (a : AdminClient) (codec : Codec)

/-- A key that was sent is sent again. -/
theorem sentKey_again (seed seed' : IDSeed) (key : String) :
    m.sentKey seed' (m.sentKey seed key) = m.sentKey seed key := by
  by_cases hmade : key = "" ∧ m.isConfigureAddon = false
  · simp [sentKey, hmade, newID_ne_empty]
  · simp [sentKey, hmade]

/-- A call has a key unless it is one of `ConfigureAddon` and its caller gave none. -/
theorem sentKey_ne_empty {key : String} (h : ¬ (m.isConfigureAddon = true ∧ key = ""))
    (seed : IDSeed) : m.sentKey seed key ≠ "" := by
  unfold sentKey
  split
  · exact newID_ne_empty seed
  · rename_i hsent
    rintro rfl
    exact h ⟨by simpa using hsent, rfl⟩

variable {m a codec} {x : Circumstances}
  {sights : ℕ → Sight { outcome : SendOutcome // outcome.Silent } Answer} {key : String}

/-- The attempts of a call are the request it asks, whatever it sees of them. -/
theorem perform_asked {req : HTTPRequest}
    (hreq : req ∈ (m.perform a (x.env codec sights) key).attempts) :
    req.asked = m.asks a codec x key := by
  by_cases hadm : m.Admitted a (x.env codec sights)
  · obtain ⟨payload, hpayload⟩ := hadm.encodes
    obtain ⟨j, r, -, hrun⟩ := a.client.requestWithHeaders_decided
      (rfl : m.call a (x.env codec sights) key payload = _)
      (show (x.env codec sights).encode (some m.body) = .ok (some payload) by
        simp [Env.encode, hpayload, Except.map]) hadm.builds
    have hperform : m.perform a (x.env codec sights) key = _ := m.perform_eq a _ key
    rw [hadm.passes] at hperform
    rw [hperform, guarded, hrun] at hreq
    obtain ⟨k, -, rfl⟩ := List.mem_map.mp hreq
    have hmarshal : codec.marshal m.body = .ok payload := hpayload
    rw [HTTPRequest.asked, MutatingCall.attempt_key, asks, command, hmarshal]
    rfl
  · rw [MutatingCall.perform_unsent hadm] at hreq
    cases hreq

/-- A call that is not admitted ends in a plain error. -/
theorem perform_plain (h : ¬ m.Admitted a (x.env codec sights)) (key : String) :
    ∃ plain, (m.perform a (x.env codec sights) key).result = .error (.plain plain) := by
  rw [MutatingCall.perform_eq]
  cases hpass : m.localCheck a (x.env codec sights) with
  | some message => exact ⟨_, rfl⟩
  | none =>
      cases hmarshal : (x.env codec sights).marshal m.body with
      | error err =>
          refine ⟨⟨"mizan: encode request: " ++ err.message⟩, ?_⟩
          simp [guarded, Client.requestWithHeaders, Env.encode, hmarshal, Except.map]
      | ok payload =>
          cases hbuild : (x.env codec sights).newRequest m.target.1
            (a.client.baseURL ++ m.target.2.1) with
          | some err =>
              refine ⟨err, ?_⟩
              simp only [guarded, Client.requestWithHeaders, Env.encode, hmarshal, Except.map]
              rw [Client.loop_unbuilt rfl hbuild]
          | none => exact absurd ⟨hpass, ⟨payload, hmarshal⟩, hbuild⟩ h

/-- An error that asks for a repetition carries the key that was sent. -/
theorem retryKey_perform {key' : String}
    (h : retryKey (m.perform a (x.env codec sights) key).result = some key') :
    key' = m.sentKey x.keySeed key := by
  obtain ⟨err, herr, hkey⟩ := idempotencyKey_of_retryKey h
  by_cases hadm : m.Admitted a (x.env codec sights)
  · obtain ⟨payload, j, r, hdec, hrun⟩ := MutatingCall.perform_of_admitted hadm key
    rw [hrun] at herr
    rcases result_error_cases hdec hadm.builds herr with ⟨ctxErr, rfl⟩ | hnamed
    · cases hkey
    · rw [hkey, Option.some.injEq] at hnamed
      exact hnamed
  · rcases perform_plain hadm key with ⟨plain, hplain⟩
    rw [hplain] at herr
    obtain rfl := Outcome.error.inj herr
    cases hkey

/-- A call that returns an object saw a successful answer that yields it. -/
theorem perform_response {result : GoMap}
    (h : (m.perform a (x.env codec sights) key).result = .response result) :
    ∃ i answer, 1 ≤ i ∧ i ≤ (m.perform a (x.env codec sights) key).attempts.length ∧
      sights i = .answer answer ∧ answer.Yields codec.parse result := by
  by_cases hadm : m.Admitted a (x.env codec sights)
  · obtain ⟨payload, j, r, hdec, hrun⟩ := MutatingCall.perform_of_admitted hadm key
    rw [hrun] at h ⊢
    obtain rfl : r = .response result := h
    have hstop := hdec.stop
    rw [Client.attempt_verdict _ _ hadm.builds] at hstop
    have hreply : (x.env codec sights).reply j = .success result := by
      split at hstop
      · unfold Env.backoff at hstop
        split at hstop <;> cases hstop
      · cases hreply : (x.env codec sights).reply j with
        | success other =>
            rw [hreply] at hstop
            simpa [Reply.terminal] using hstop
        | _ =>
            rw [hreply] at hstop
            simp [Reply.terminal] at hstop
    have hreply' : (outcomeOf (sights j)).reply codec.parse = .success result := hreply
    cases hsight : sights j with
    | silence seen =>
        rw [hsight] at hreply'
        exact absurd hreply' (seen.2.reply_ne codec.parse result)
    | answer answer =>
        rw [hsight] at hreply'
        exact ⟨j, answer, hdec.le, by simp, hsight, hreply'⟩
  · rcases perform_plain hadm key with ⟨plain, hplain⟩
    rw [hplain] at h
    cases h

end Calls

/-! ## Sessions -/

/-- The caller of the README: a call whose outcome is unknown, or whose error calls
itself retryable, is repeated with identical input and the key of the error. -/
def caller (m : MutatingCall) (a : AdminClient) (codec : Codec) :
    Caller Circumstances String String Command { outcome : SendOutcome // outcome.Silent }
      Answer Outcome where
  request := m.asks a codec
  legs x := x.legs
  call x key sights :=
    ((m.perform a (x.env codec sights) key).attempts.length,
      (m.perform a (x.env codec sights) key).result)
  again := retryKey
  keeps x key sights key' h x' := by
    rw [retryKey_perform h, asks, sentKey_again, asks]

variable {σ : Type*}

/-- How the caller of the README fares against a server: it calls under the first
circumstances and, as long as it has to, under the following ones. -/
def against (m : MutatingCall) (a : AdminClient) (codec : Codec) (server : Server σ)
    (x : Circumstances) (rest : List Circumstances) (key : String)
    (desk : Desk σ String Command Answer) : Session σ String Command Answer Outcome :=
  (m.caller a codec).session server.toService x rest key desk

variable (m : MutatingCall) (a : AdminClient) (codec : Codec) (server : Server σ)
  (x : Circumstances) (rest : List Circumstances) (key : String)
  (desk : Desk σ String Command Answer)

theorem asks_keyed (hkeyed : ¬ (m.isConfigureAddon = true ∧ key = "")) :
    (m.asks a codec x key).key = some (m.sentKey x.keySeed key) :=
  if_neg (m.sentKey_ne_empty hkeyed x.keySeed)

/-- A keyed mutation takes effect at most once however often it is attempted and
repeated, not at all if its key was known, and what it returns as success is the
answer to the one command that was carried out under its key.  All its attempts
are the one request that the server is said to see. -/
theorem session_exactly_once (hkeyed : ¬ (m.isConfigureAddon = true ∧ key = "")) :
    (∀ sights, ∀ req ∈ (m.perform a (x.env codec sights) key).attempts,
      req.asked = ⟨some (m.sentKey x.keySeed key), m.command a codec⟩) ∧
    (∀ sights key', retryKey (m.perform a (x.env codec sights) key).result = some key' →
      ∀ (x' : Circumstances) sights', ∀ req ∈ (m.perform a (x'.env codec sights') key').attempts,
        req.asked = ⟨some (m.sentKey x.keySeed key), m.command a codec⟩) ∧
    (m.against a codec server x rest key desk).effects +
      recorded desk (some (m.sentKey x.keySeed key)) ≤ 1 ∧
    ∀ result, (m.against a codec server x rest key desk).result = .response result →
      ∃ entry ∈ (m.against a codec server x rest key desk).desk.log,
        entry.key = some (m.sentKey x.keySeed key) ∧ entry.command = m.command a codec ∧
          entry.answer.Yields codec.parse result ∧
          ∀ other ∈ (m.against a codec server x rest key desk).desk.log,
            other.key = some (m.sentKey x.keySeed key) → other = entry := by
  have hasked : m.asks a codec x key =
      ⟨some (m.sentKey x.keySeed key), m.command a codec⟩ := by
    rw [← m.asks_keyed a codec x key hkeyed]
    rfl
  refine ⟨?_, ?_, ?_, ?_⟩
  · intro sights req hreq
    rw [perform_asked hreq, hasked]
  · intro sights key' hretry x' sights' req hreq
    rw [perform_asked hreq, ← hasked]
    exact (m.caller a codec).keeps x key sights key' hretry x'
  · exact ((m.caller a codec).session_effects_le server.toService
      (m.asks_keyed a codec x key hkeyed)
      desk).trans (recorded_le_one _ _)
  · intro result hresult
    exact (m.caller a codec).session_backed server.toService (· = .response result)
      (·.Yields codec.parse result)
      (fun _ _ _ h => perform_response h)
      (fun x i answer h => (x.refusals i answer h).not_yields codec.parse result)
      (server.conflict_fails.not_yields codec.parse result)
      (m.asks_keyed a codec x key hkeyed) desk hresult

/-- Without a key every attempt of a call that arrives takes effect. -/
theorem against_unkeyed_effects (hbare : m.isConfigureAddon = true ∧ key = "") :
    (m.against a codec server x [] key desk).effects =
      (List.range' 1 ((m.caller a codec).call x key
        (sight server.toService x.legs (m.asks a codec x key) desk)).1).countP
          fun k => (x.legs k).fate.arrives := by
  have hunkeyed : (m.asks a codec x key).key = none := by
    simp [asks, sentKey, hbare]
  exact effects_of_unkeyed server.toService x.legs hunkeyed desk _

end MutatingCall

/-- A server that counts what it carries out. -/
def countingServer : Server ℕ where
  serve n _ := (n + 1, ⟨200, ∅, []⟩)
  conflict := ⟨409, ∅, []⟩
  conflict_fails := by
    rintro ⟨-, h⟩
    exact absurd h (by decide)

/-- The answer to the first attempt is lost. -/
def answerLost : Circumstances where
  keySeed := ⟨1, 2⟩
  correlationSeed := ⟨3, 4⟩
  timestamp _ := "2026-01-01T00:00:00Z"
  wait _ := .elapsed
  legs k :=
    if k = 1 then ⟨[], .unanswered ⟨.failure ⟨"connection reset by peer"⟩, trivial⟩⟩
    else ⟨[], .answered⟩
  refusals k answer h := by
    split at h <;> cases h

/-- The ledger of every business goes to one endpoint. -/
def ledgerEndpoint : MutatingCall :=
  .configureGlobalDeliveryEndpoint "ledger"
    ⟨"https://books.example/mizan", "none", "", false, some true, "launch"⟩

/-- What `encoding/json` writes and reads does not matter here. -/
def bareCodec : Codec := 
  ⟨fun _ => none, Char.isAlphanum, fun _ => .ok [], fun _ _ => none⟩

/-- An endpoint whose configuration is answered in vain is configured once, and the
second attempt returns the answer to the first. -/
theorem ledgerEndpoint_configured_once :
    (ledgerEndpoint.against opsAdmin bareCodec countingServer answerLost [] "launch-1"
      ⟨0, [], List.nodup_nil⟩).effects = 1 ∧
    ∃ entry ∈ (ledgerEndpoint.against opsAdmin bareCodec countingServer answerLost []
      "launch-1" ⟨0, [], List.nodup_nil⟩).desk.log,
      entry.key = some "launch-1" ∧ entry.answer.Yields bareCodec.parse [] := by
  have honce := ledgerEndpoint.session_exactly_once opsAdmin bareCodec countingServer
    answerLost [] "launch-1" ⟨0, [], List.nodup_nil⟩ (by rintro ⟨h, -⟩; cases h)
  obtain ⟨entry, hentry, hkey, -, hyields, -⟩ := honce.2.2.2 [] rfl
  exact ⟨rfl, entry, hentry, hkey, hyields⟩

end MizanSDK.Go
