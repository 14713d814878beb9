import MizanSDK.Agreement.Clients
import MizanSDK.Go.Lifecycle
import MizanSDK.Python.Lifecycle

/-!
# Agreement of the lifecycle logs

What the loggers of the two clients are told of calls that face the same script of
answers.  The two clients put the fields of an event in different orders, which a map
does not keep.

Main results:

- Theorem `events_agree`: after a tame attempt both clients log the same.
- Theorem `logs_agree`: if every attempt both are led to is tame, their logs have the
  same events one by one.
-/

namespace MizanSDK.Agreement

open JsonText BoundedRetry

/-! ## Events -/

/-- Two values of a field agree. -/
inductive SameValue : Go.LogValue → Python.LogValue → Prop where
  | int (n : ℤ) : SameValue (.int n) (.int n)
  | text (s : String) : SameValue (.string s) (.str (Text.ofString s))

/-- Two events agree: the same event with the same fields. -/
structure SameEvent (go : Go.LogEvent) (py : Python.LogEvent) : Prop where
  event : go.event = py.event
  fields : ∃ fields, fields.Perm py.fields ∧
    List.Forall₂ (fun f f' => f.1 = f'.1 ∧ SameValue f.2 f'.2) go.fields fields

theorem sameEvent_complete {id : String} {id' : Python.PyStr} (hid : id' = Text.ofString id)
    (k : ℕ) (status : ℤ) :
    SameEvent (Go.requestComplete id k status) (Python.requestComplete id' k status) := by
  subst hid
  refine ⟨rfl, _, List.Perm.swap _ _ _, ?_⟩
  exact .cons ⟨rfl, .int _⟩ (.cons ⟨rfl, .int _⟩ (.cons ⟨rfl, .text _⟩ .nil))

theorem sameEvent_retry {id key : String} {id' : Python.PyStr} {key' : Option Python.PyStr}
    (hid : id' = Text.ofString id) (hkey : key' = some (Text.ofString key)) (k : ℕ) :
    SameEvent (Go.requestRetry id key k) (Python.requestRetry id' key' k) := by
  subst hid hkey
  refine ⟨rfl, _, List.Perm.refl _, ?_⟩
  exact .cons ⟨rfl, .int _⟩ (.cons ⟨rfl, .text _⟩ (.cons ⟨rfl, .text _⟩ .nil))

/-! ## Rounds -/

/-- After a tame answer both clients take it for a success, or neither does. -/
theorem isSuccess_eq {answer : Answer} {go : Go.Reply} {py : Python.Reply} {final : Prop}
    (hgo : GoReplies answer go) (hpy : PyReplies answer py) (htame : answer.Tame final) :
    go.isSuccess = py.isSuccess := by
  cases hpy with
  | failure | notObject | bare | envelope | foreign => cases hgo <;> rfl
  | success members =>
      cases hgo with
      | success => rfl
      | unreadSuccess status hunread => exact absurd htame hunread

section Rounds

variable {c : Go.Client} {g : Go.Env} {p : Python.MizanClient} {q : Python.Env}
  {script : ℕ → Step} {mutation : Bool} {k : ℕ} {goCall : Go.Call} {pyCall : Python.Call}

theorem goReplies_of_server (hserver : SameServer c g p q script) (k : ℕ) :
    GoReplies ((script k).answer g.parse) (g.reply k) := by
  rw [Go.Env.reply, hserver.goSend]
  exact goReply_eq (hserver.readable k)

theorem pyReplies_of_server (hserver : SameServer c g p q script) (k : ℕ) :
    PyReplies ((script k).answer g.parse) (q.reply k) := by
  rw [Python.Env.reply, hserver.pySend]
  exact pyReply_eq (hserver.readable k)

/-- Both clients see the status of a tame success. -/
theorem successStatus_eq (hserver : SameServer c g p q script) {final : Prop}
    (htame : ((script k).answer g.parse).Tame final) :
    g.successStatus k = q.successStatus k := by
  have hsame := isSuccess_eq (goReplies_of_server hserver k) (pyReplies_of_server hserver k) htame
  rw [Go.Env.successStatus, Python.Env.successStatus, hserver.goSend, hserver.pySend]
  cases hstep : script k with
  | networkFailure err exc => rfl
  | response status header headers body =>
      dsimp only [Step.toGo, Step.toPython]
      cases hgo : g.reply k <;> cases hpy : q.reply k <;> rw [hgo, hpy] at hsame <;>
        first | rfl | cases hsame

/-- After a tame attempt both clients log the same. -/
theorem events_agree (hserver : SameServer c g p q script)
    (hgoMutation : goCall.mutation = mutation) (hpyMutation : pyCall.mutation = mutation)
    (hattempts : goCall.attempts = p.maxAttempts)
    (hbuilds : g.newRequest goCall.method (c.baseURL ++ goCall.path) = none)
    (hid : pyCall.correlationId = Text.ofString goCall.correlationID)
    (hkey : mutation = true → pyCall.key = some (Text.ofString goCall.key))
    (htame : TameAttempt g script mutation p.maxAttempts k) :
    List.Forall₂ SameEvent (c.events g goCall k) (p.events q pyCall k) := by
  have hasks := asksRetry_eq (goReplies_of_server hserver k) (pyReplies_of_server hserver k)
    htame.answer
  rw [c.events_eq goCall hbuilds, p.events_eq, hgoMutation, hpyMutation, hattempts, ← hasks,
    successStatus_eq hserver htame.answer]
  by_cases hretry : mutation = true ∧ k ≠ p.maxAttempts ∧ (g.reply k).asksRetry = true
  · rw [if_pos hretry, if_pos hretry]
    exact .cons (sameEvent_retry hid (hkey hretry.1) k) .nil
  · rw [if_neg hretry, if_neg hretry]
    cases q.successStatus k with
    | none => exact .nil
    | some status => exact .cons (sameEvent_complete hid k status) .nil

end Rounds

/-! ## Whole calls -/

/-- A mutation of the Python client has a key. -/
theorem key_of_mutation {q : Python.Env} {key : Option Python.PyStr} {mutation : Bool}
    {goKey : String} (h : (q.key key mutation).getD [] = Text.ofString goKey)
    (hmutation : mutation = true) : q.key key mutation = some (Text.ofString goKey) := by
  have hsome : ∃ used, q.key key mutation = some used := by
    rw [Python.Env.key.eq_def, hmutation]
    split
    · exact ⟨_, rfl⟩
    · exact ⟨_, rfl⟩
  rcases hsome with ⟨used, hused⟩
  rw [hused] at h ⊢
  rw [← h]
  rfl

/-- If every attempt the two clients are led to is tame, their loggers are told the same
events one by one. -/
theorem logs_agree {c : Go.Client} {g : Go.Env} {p : Python.MizanClient}
    {q : Python.Env} {script : ℕ → Step} (hserver : SameServer c g p q script)
    (goMethod goPath goBusinessID goKey : String) (goBody : Option Go.RequestBody)
    (goHeaders : List (String × String)) (pyMethod : String)
    (pyPath pyBusinessId : Python.PyStr) (pyBody : Option Python.PyDict)
    (pyKey : Option Python.PyStr) (pyHeaders : List (String × Python.PyStr)) (mutation : Bool)
    (hgoEncodes : ∃ payload, g.encode goBody = .ok payload)
    (hgoBuilds : g.newRequest goMethod (c.baseURL ++ goPath) = none)
    (hpyEncodes : ∃ encoded, q.encode pyBody = .ok encoded)
    (hkey : (q.key pyKey mutation).getD [] = Text.ofString goKey)
    (hid : q.correlationUuid = Text.ofString (Go.newID g.correlationSeed))
    (htame : ∀ k, 1 ≤ k → k ≤ p.maxAttempts →
      (∀ i, 1 ≤ i → i < k → Retried g mutation p.maxAttempts i) →
      TameAttempt g script mutation p.maxAttempts k) :
    List.Forall₂ SameEvent
      (c.lifecycle g goMethod goPath goBusinessID goBody goKey mutation goHeaders)
      (p.lifecycle q pyMethod pyPath pyBody pyBusinessId pyKey mutation pyHeaders) := by
  obtain ⟨payload, hpayload⟩ := hgoEncodes
  obtain ⟨encoded, hencoded⟩ := hpyEncodes
  rw [Go.Client.lifecycle, Python.MizanClient.lifecycle, hpayload, hencoded]
  dsimp only
  obtain ⟨goCall, hgoCall⟩ : ∃ goCall, goCall =
      c.newCall g goMethod goPath goBusinessID payload goKey mutation goHeaders := ⟨_, rfl⟩
  obtain ⟨pyCall, hpyCall⟩ : ∃ pyCall, pyCall =
      q.newCall pyMethod pyPath encoded pyBusinessId pyKey mutation pyHeaders := ⟨_, rfl⟩
  have hgoMutation : goCall.mutation = mutation := by rw [hgoCall]; rfl
  have hpyMutation : pyCall.mutation = mutation := by rw [hpyCall]; rfl
  have hattempts : goCall.attempts = p.maxAttempts := by rw [hgoCall]; exact hserver.attempts
  have hbuilds : g.newRequest goCall.method (c.baseURL ++ goCall.path) = none := by
    rw [hgoCall]
    exact hgoBuilds
  have hkeys : pyCall.key.getD [] = Text.ofString goCall.key := by
    rw [hgoCall, hpyCall]
    exact hkey
  have hretryKey : mutation = true → pyCall.key = some (Text.ofString goCall.key) := by
    intro hmutation
    rw [hgoCall, hpyCall]
    exact key_of_mutation hkey hmutation
  have hids : pyCall.correlationId = Text.ofString goCall.correlationID := by
    rw [hgoCall, hpyCall]
    exact hid
  rw [← hgoCall, ← hpyCall, hattempts]
  obtain ⟨j, r, hgoDec⟩ := c.exists_decides goCall (by rw [hgoCall]; rfl) hbuilds
  obtain ⟨j', s, hpyDec⟩ := p.exists_decides q pyCall
  rw [hattempts] at hgoDec
  -- Both loops leave in the same round, and every round up to it is tame.
  have hagree := (reached_agree_iff hserver hgoMutation hpyMutation hattempts hbuilds hkeys).mpr
    htame
  obtain ⟨rfl, -⟩ := (decides_agree_iff hgoDec hpyDec).mpr hagree
  apply journal_forall₂ hgoDec hpyDec
  intro i hi hij
  refine events_agree hserver hgoMutation hpyMutation hattempts hbuilds hids hretryKey
    (htame i hi ?_ ?_)
  · have := hgoDec.lt
    omega
  · intro m hm hmi
    have hagain := (c.attempt_isAgain_iff goCall hbuilds m).mp
      (hgoDec.reaches m hm (by omega))
    rw [hgoMutation, hattempts] at hagain
    exact ⟨hagain.1, hagain.2.1, hagain.2.2.1⟩

/-- The Python side of a server that recovers, under the correlation ID of the Go side. -/
def recoveringPySide : Python.Env :=
  { pySide recoveringScript retryableBody retryableDocument with
    correlationUuid := Text.ofString (Go.newID
      (goSide recoveringScript retryableBody retryableDocument).correlationSeed) }

/-- Both clients log that a mutation is retried and that it is complete. -/
theorem recovering_logs_agree :
    List.Forall₂ SameEvent
      (goClient.lifecycle (goSide recoveringScript retryableBody retryableDocument) "POST"
        "/v1/catalog" "" none "key" true [])
      (pyClient.lifecycle recoveringPySide "POST" (Python.str "/v1/catalog") none []
        (some (Python.str "key")) true []) ∧
    (goClient.lifecycle (goSide recoveringScript retryableBody retryableDocument) "POST"
      "/v1/catalog" "" none "key" true []).length = 2 := by
  have hserver : SameServer goClient
      (goSide recoveringScript retryableBody retryableDocument) pyClient recoveringPySide
      recoveringScript := by
    refine ⟨recovering_sameServer.goSend, recovering_sameServer.pySend,
      recovering_sameServer.attempts, recovering_sameServer.neverCancelled, ?_⟩
    intro k status header headers body hstep
    have hreadable := recovering_sameServer.readable k status header headers body hstep
    exact ⟨hreadable.size, hreadable.text⟩
  refine ⟨?_, by decide⟩
  exact logs_agree hserver "POST" "/v1/catalog" "" "key" none [] "POST"
    (Python.str "/v1/catalog") [] none (some (Python.str "key")) [] true ⟨none, rfl⟩ rfl
    ⟨none, rfl⟩ rfl rfl fun k _ _ _ => recovering_tame k

end MizanSDK.Agreement
