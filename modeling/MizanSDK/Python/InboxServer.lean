import MizanSDK.Library.Bytes
import MizanSDK.Library.Deliveries
import MizanSDK.Python.Acknowledgement
import MizanSDK.Python.SQLiteInbox

/-!
# The Python webhook receiver with its SQLite inbox

`examples/webhook_receiver.py` as a whole: the endpoint of `fastapi.py` in front of
the callbacks that persist an event, over any run of requests, with the exceptions of
`sqlite3` and the deaths of the process.  The callbacks are synchronous, so the calls
of `persist` form one sequence; a commit is durable and a transaction without one
leaves nothing behind.

Main results:

- Theorem `InboxServer.acknowledged_rows_last`: an event that is answered with 204 has
  the one row of its event for good.
- Theorem `InboxServer.rows_authorized`: every row is the validated event of an
  authorized request, and no two rows share an outbox ID or an event.
- Theorem `InboxServer.table_replicates`: the table is a gap-free beginning of a ledger
  stream in its order, which grows with every healthy attempt.

Current gaps: the column `received_at`, and requests whose body does not arrive.
-/

namespace MizanSDK.Python

open JsonText Checks Bindings Deliveries Bytes

/-! ## Callbacks -/

/-- What stops a call of `persist`: an exception of `sqlite3` or the death of the
process, before the commit or after it. -/
structure Interruption where
  died : Bool
  committed : Bool

/-- How a call of `persist` ends. -/
inductive Ending where
  | returns
  | raises
  | died
deriving DecidableEq

/-- `d[name]` where it is known to be an `int`. -/
def PyDict.integer (d : PyDict) (name : String) : Option ℤ :=
  match d.get name with
  | some (.int n) => some n
  | _ => none

theorem PyDict.integer_eq {d : PyDict} {name : String} {n : ℤ}
    (h : d.get name = some (.int n)) : d.integer name = some n := by
  rw [PyDict.integer, h]

/-- The event a callback is handed. -/
def Invocation.event : Invocation → PyDict
  | .ledger event _ => event
  | .notification event _ => event

/-- The row a callback of the example persists: `on_ledger` and `on_notification`. -/
def Invocation.row : Invocation → InboxDelivery
  | .ledger event delivery =>
      { outboxID := delivery.outboxId
        stream := str "ledger"
        eventID := event.text "event_id"
        businessID := event.text "business_id"
        businessSequence := event.integer "business_sequence"
        payload := delivery.rawBody }
  | .notification event delivery =>
      { outboxID := delivery.outboxId
        stream := str "notification"
        eventID := delivery.outboxId
        businessID := event.text "business_id"
        businessSequence := none
        payload := delivery.rawBody }

/-- What a callback does after its call of `persist`; nobody sees the exception of a
process that died. -/
def Ending.result (event : PyDict) : Ending → CallbackResult
  | .returns => .returns event
  | .raises | .died => .raises

/-- The answer to a persisted event. -/
def Invocation.acknowledgement : Invocation → WebhookResponse
  | .ledger event _ =>
      { statusCode := 204
        headers := (event.integer "business_sequence").toList.map fun n =>
          (ackSequenceHeader, strInt n)
        body := none }
  | .notification _ _ => { statusCode := 204, headers := [], body := none }

/-! ## What the table keeps -/

namespace SQLiteInbox

/-- `SQLiteInbox.persist`, which may be stopped. -/
def persistIn (x : Option Interruption) (rows : SQLiteInbox) (d : InboxDelivery) :
    SQLiteInbox × Ending :=
  match x with
  | none =>
      match persist rows d with
      | .ok rows' => (rows', .returns)
      | .error _ => (rows, .raises)
  | some stop =>
      (if stop.committed then store.next rows d else rows,
        if stop.died then .died else .raises)

section Rows

variable {rows : SQLiteInbox} {d : InboxDelivery}

/-- A call leaves the rows alone or does all that an undisturbed one does. -/
theorem persistIn_fst_cases (x : Option Interruption) (rows : SQLiteInbox) (d : InboxDelivery) :
    (persistIn x rows d).1 = rows ∨ (persistIn x rows d).1 = store.next rows d := by
  cases x with
  | none =>
      right
      simp only [persistIn, store]
      cases persist rows d <;> rfl
  | some stop =>
      rw [persistIn]
      cases stop.committed
      · exact .inl rfl
      · exact .inr rfl

/-- A call that returns was undisturbed and accepted. -/
theorem persistIn_eq_returns_iff (x : Option Interruption) (rows : SQLiteInbox)
    (d : InboxDelivery) :
    (persistIn x rows d).2 = .returns ↔ x = none ∧ store.accepts rows d := by
  cases x with
  | none =>
      simp only [persistIn, store]
      cases persist rows d <;> simp
  | some stop =>
      rw [persistIn]
      cases stop.died <;> simp

/-- After a call that returns the table is that of an undisturbed one. -/
theorem persistIn_of_returns {x : Option Interruption}
    (h : (persistIn x rows d).2 = .returns) : (persistIn x rows d).1 = store.next rows d := by
  obtain ⟨rfl, haccepts⟩ := (persistIn_eq_returns_iff x rows d).mp h
  rcases haccepts with ⟨rows', hpersist⟩
  simp only [persistIn, store, hpersist]

/-- The rows that are there stay. -/
theorem mem_persistIn {row : InboxDelivery} (h : row ∈ rows) (x : Option Interruption)
    (d : InboxDelivery) : row ∈ (persistIn x rows d).1 := by
  rcases persistIn_fst_cases x rows d with hsame | hnext
  · rwa [hsame]
  · rcases next_eq_append rows d with ⟨new, hnew⟩
    rw [hnext, hnew]
    exact List.mem_append_left _ h

/-- What a call can do with the table: nothing, or append the row of an event and an
outbox ID that are both new. -/
theorem persistIn_cases (x : Option Interruption) (rows : SQLiteInbox) (d : InboxDelivery) :
    (persistIn x rows d).1 = rows ∨
      (∀ row ∈ rows, row.outboxID ≠ d.outboxID ∧ row.event ≠ d.event) ∧
        (persistIn x rows d).1 = rows ++ [d] := by
  rcases persistIn_fst_cases x rows d with hsame | hnext
  · exact .inl hsame
  · rcases next_cases rows d with hsame | haccepted
    · exact .inl (hnext.trans hsame)
    · rw [hnext]
      generalize store.next rows d = out at haccepted ⊢
      cases haccepted with
      | retries => exact .inl rfl
      | repeats => exact .inl rfl
      | inserts newOutbox newEvent =>
          rw [selectOutbox, List.find?_eq_none] at newOutbox
          rw [selectEvent, List.find?_eq_none] at newEvent
          refine .inr ⟨fun row hrow => ⟨?_, ?_⟩, rfl⟩
          · simpa using newOutbox row hrow
          · simpa using newEvent row hrow

/-- The constraints of the table. -/
structure Constrained (rows : SQLiteInbox) : Prop where
  primaryKey : ∀ a ∈ rows, ∀ b ∈ rows, a.outboxID = b.outboxID → a = b
  unique : UniqueEvents rows

theorem constrained_empty : Constrained [] := by
  constructor
  · intro a ha
    cases ha
  · intro a ha
    cases ha

/-- A call keeps the constraints. -/
theorem Constrained.persistIn (h : Constrained rows) (x : Option Interruption)
    (d : InboxDelivery) : Constrained (persistIn x rows d).1 := by
  rcases persistIn_cases x rows d with hsame | ⟨hnew, happend⟩
  · rwa [hsame]
  · rw [happend]
    constructor
    · intro a ha b hb hsame
      rw [List.mem_append, List.mem_singleton] at ha hb
      rcases ha with ha | rfl
      · rcases hb with hb | rfl
        · exact h.primaryKey a ha b hb hsame
        · exact absurd hsame (hnew a ha).1
      · rcases hb with hb | rfl
        · exact absurd hsame.symm (hnew b hb).1
        · rfl
    · intro a ha b hb hsame
      rw [List.mem_append, List.mem_singleton] at ha hb
      rcases ha with ha | rfl
      · rcases hb with hb | rfl
        · exact h.unique a ha b hb hsame
        · exact absurd hsame (hnew a ha).2
      · rcases hb with hb | rfl
        · exact absurd hsame.symm (hnew b hb).2
        · rfl

/-- The table has a row of the identity. -/
def Has (rows : SQLiteInbox) (d : InboxDelivery) : Prop :=
  ∃ row ∈ rows, row.identity = d.identity

theorem Has.persistIn {held : InboxDelivery} (h : Has rows held) (x : Option Interruption)
    (d : InboxDelivery) : Has (persistIn x rows d).1 held := by
  rcases h with ⟨row, hrow, hidentity⟩
  exact ⟨row, mem_persistIn hrow x d, hidentity⟩

/-- An accepted row is there, or one of its identity is. -/
theorem has_of_returns {x : Option Interruption} (h : (persistIn x rows d).2 = .returns) :
    Has (SQLiteInbox.persistIn x rows d).1 d := by
  rw [persistIn_of_returns h]
  have haccepted := accepted_next ((persistIn_eq_returns_iff x rows d).mp h).2
  generalize store.next rows d = out at haccepted ⊢
  cases haccepted with
  | inserts => exact ⟨d, by simp, rfl⟩
  | retries existing known same => exact ⟨existing, List.mem_of_find?_eq_some known, same⟩
  | repeats existing newOutbox known same =>
      exact ⟨existing, List.mem_of_find?_eq_some known, same⟩

theorem bindText_eq_ok_iff (s : PyStr) : bindText s = .ok () ↔ s.isScalar = true := by
  rw [bindText, encodeUtf8]
  cases s.isScalar <;> simp [bind, Except.bind, pure, Except.pure]

theorem bindInteger_eq_ok_iff (n : Option ℤ) :
    bindInteger n = .ok () ↔ ∀ m, n = some m → -(2 ^ 63) ≤ m ∧ m < 2 ^ 63 := by
  cases n with
  | none => simp [bindInteger]
  | some m =>
      rw [bindInteger]
      split <;> simp_all

/-- Which parameters can be bound: text without lone surrogates and integers of 64
bits. -/
theorem bindDelivery_eq_ok_iff (d : InboxDelivery) :
    bindDelivery d = .ok () ↔
      d.outboxID.isScalar = true ∧ d.stream.isScalar = true ∧ d.eventID.isScalar = true ∧
        d.businessID.isScalar = true ∧
        ∀ n, d.businessSequence = some n → -(2 ^ 63) ≤ n ∧ n < 2 ^ 63 := by
  simp only [bindDelivery, bind_eq_ok_iff, bindInteger_eq_ok_iff, ← bindText_eq_ok_iff]
  constructor
  · rintro ⟨⟨⟩, houtbox, ⟨⟩, hstream, ⟨⟩, hevent, ⟨⟩, hbusiness, hinteger⟩
    exact ⟨houtbox, hstream, hevent, hbusiness, hinteger⟩
  · rintro ⟨houtbox, hstream, hevent, hbusiness, hinteger⟩
    exact ⟨(), houtbox, (), hstream, (), hevent, (), hbusiness, hinteger⟩

/-- The parameters of an accepted row were bound. -/
theorem bindDelivery_of_accepts (h : store.accepts rows d) : bindDelivery d = .ok () := by
  rcases h with ⟨rows', hpersist⟩
  rw [persist] at hpersist
  split at hpersist
  · cases hpersist
  · assumption

/-- Nothing stands in the way of a row: what shares its outbox ID or its event has its
identity. -/
def Expects (rows : SQLiteInbox) (d : InboxDelivery) : Prop :=
  ∀ row ∈ rows, row.outboxID = d.outboxID ∨ row.event = d.event → row.identity = d.identity

/-- An expected row is accepted. -/
theorem Expects.accepts (h : Expects rows d) (hbind : bindDelivery d = .ok ()) :
    store.accepts rows d := by
  change ∃ rows', persist rows d = .ok rows'
  rw [persist, hbind]
  dsimp only
  by_cases hviolates : violates rows d = true
  · rw [if_pos hviolates]
    cases houtbox : selectOutbox rows d.outboxID with
    | some existing =>
        have hsame := h existing (List.mem_of_find?_eq_some houtbox)
          (.inl (by simpa using List.find?_some houtbox))
        exact ⟨rows, if_pos hsame⟩
    | none =>
        cases hevent : selectEvent rows d.event with
        | none => simp [violates, houtbox, hevent] at hviolates
        | some existing =>
            have hsame := h existing (List.mem_of_find?_eq_some hevent)
              (.inr (by simpa using List.find?_some hevent))
            exact ⟨rows, if_pos (by rw [Option.map_some, hsame])⟩
  · rw [if_neg hviolates]
    exact ⟨_, rfl⟩

/-- However its own calls end, a row stays expected. -/
theorem Expects.persistIn_same (h : Expects rows d) (x : Option Interruption) :
    Expects (persistIn x rows d).1 d := by
  rcases persistIn_cases x rows d with hsame | ⟨-, happend⟩
  · rwa [hsame]
  · rw [happend]
    intro row hrow hshares
    rw [List.mem_append, List.mem_singleton] at hrow
    rcases hrow with hrow | rfl
    · exact h row hrow hshares
    · rfl

/-- Calls for other events under other outbox IDs change nothing about it. -/
theorem Expects.persistIn_other (h : Expects rows d) {other : InboxDelivery}
    (houtbox : other.outboxID ≠ d.outboxID) (hevent : other.event ≠ d.event)
    (x : Option Interruption) : Expects (persistIn x rows other).1 d := by
  rcases persistIn_cases x rows other with hsame | ⟨-, happend⟩
  · rwa [hsame]
  · rw [happend]
    intro row hrow hshares
    rw [List.mem_append, List.mem_singleton] at hrow
    rcases hrow with hrow | rfl
    · exact h row hrow hshares
    · rcases hshares with hsame | hsame
      · exact absurd hsame houtbox
      · exact absurd hsame hevent

/-- An event that is there leaves the table alone, and is accepted again unless its
outbox ID stands for another one. -/
theorem Has.persist_again (h : Has rows d) (hrows : Constrained rows)
    (hbind : bindDelivery d = .ok ()) :
    store.next rows d = rows ∧
      (store.accepts rows d ↔
        ∀ row ∈ rows, row.outboxID = d.outboxID → row.identity = d.identity) := by
  rcases h with ⟨held, hheld, hidentity⟩
  have hevent : held.event = d.event := congrArg Prod.fst hidentity
  constructor
  · rcases next_cases rows d with hsame | haccepted
    · exact hsame
    · generalize store.next rows d = out at haccepted ⊢
      cases haccepted with
      | retries => rfl
      | repeats => rfl
      | inserts newOutbox newEvent =>
          rw [selectEvent, List.find?_eq_none] at newEvent
          exact absurd (by simpa using hevent) (newEvent held hheld)
  · constructor
    · intro haccepts row hrow houtbox
      have haccepted := accepted_next haccepts
      generalize store.next rows d = out at haccepted
      cases haccepted with
      | inserts newOutbox newEvent =>
          rw [selectOutbox, List.find?_eq_none] at newOutbox
          exact absurd (by simpa using houtbox) (newOutbox row hrow)
      | retries existing known same =>
          have hknown : existing.outboxID = d.outboxID := by
            simpa using List.find?_some known
          rw [hrows.primaryKey row hrow existing (List.mem_of_find?_eq_some known)
            (houtbox.trans hknown.symm), same]
      | repeats existing newOutbox known same =>
          rw [selectOutbox, List.find?_eq_none] at newOutbox
          exact absurd (by simpa using houtbox) (newOutbox row hrow)
    · intro hfree
      have hexpects : Expects rows d := by
        intro row hrow hshares
        rcases hshares with houtbox | hsame
        · exact hfree row hrow houtbox
        · rw [hrows.unique row hrow held hheld (hsame.trans hevent.symm), hidentity]
      exact hexpects.accepts hbind

end Rows

end SQLiteInbox

/-! ## The server -/

/-- The process of the example: its interpreter, and the bearer token, without which it
does not start. -/
structure InboxServer where
  py : Interpreter
  token : PyStr
  token_ne : token ≠ []

/-- A request as the endpoint of `fastapi.py` reads it. -/
structure IncomingRequest where
  headers : List (PyStr × PyStr)
  body : List UInt8

namespace InboxServer

variable (server : InboxServer)

/-- The token of a server and the default size limit are those of a receiver. -/
theorem token_admitted : some server.token ≠ some [] := mt Option.some.inj server.token_ne

theorem defaultLimit_pos : 1 ≤ 1048576 := Nat.succ_pos 1048575

/-- The receiver of the example, on the table as it stands. -/
def receiver (x : Option Interruption) (rows : SQLiteInbox) : WebhookReceiver where
  onLedger event delivery :=
    (rows.persistIn x (Invocation.ledger event delivery).row).2.result event
  onNotification event delivery :=
    (rows.persistIn x (Invocation.notification event delivery).row).2.result event
  bearerToken := some server.token
  maxBodyBytes := 1048576
  bearerToken_ne_empty := server.token_admitted
  maxBodyBytes_pos := defaultLimit_pos

/-- Serve one request: the table after it, and, unless the process died, the response
or the exception that escapes the endpoint. -/
def serve (rows : SQLiteInbox) (request : IncomingRequest) (x : Option Interruption) :
    SQLiteInbox × Option (Except PyError WebhookResponse) :=
  let reception := (server.receiver x rows).receive server.py request.headers
    (.bytes request.body)
  match reception.invoked with
  | [] => (rows, some reception.outcome)
  | invocation :: _ =>
      let out := rows.persistIn x invocation.row
      (out.1, if out.2 = .died then none else some reception.outcome)

/-- The server as a receiver of deliveries. -/
def deliveries : Receiver SQLiteInbox IncomingRequest (Option Interruption)
    (Except PyError WebhookResponse) where
  receive := server.serve

/-- Whether an answer has status 204; an exception is answered otherwise. -/
def acknowledges : Except PyError WebhookResponse → Bool
  | .ok response => response.statusCode == 204
  | .error _ => false

/-! ### What a request selects -/

/-- A request that is admitted and selects a callback, whatever the callbacks do. -/
def Selects (request : IncomingRequest) (invocation : Invocation) : Prop :=
  (server.receiver none []).dispatch server.py request.headers (.bytes request.body) =
    .ok (.invoke invocation)

variable {server} {request : IncomingRequest} {invocation : Invocation}

/-- A request selects one event. -/
theorem Selects.unique (h : server.Selects request invocation) {other : Invocation}
    (hother : server.Selects request other) : invocation = other :=
  Dispatch.invoke.inj (Except.ok.inj (h.symm.trans hother))

/-- Encoded alike, a text is the same. -/
theorem encodeUtf8_inj {s t : PyStr} {bytes : List UInt8} (hs : encodeUtf8 s = .ok bytes)
    (ht : encodeUtf8 t = .ok bytes) : s = t := by
  rw [encodeUtf8] at hs ht
  split at hs
  · rename_i hscalar
    split at ht
    · rename_i hscalar'
      have hbytes : s.toScalars = t.toScalars :=
        toUTF8_inj.mp ((Except.ok.inj hs).trans (Except.ok.inj ht).symm)
      rw [← Text.ofString_toScalars hscalar, hbytes, Text.ofString_toScalars hscalar']
    · cases ht
  · cases hs

/-- A request that selects an event carries the token. -/
theorem Selects.authorization (h : server.Selects request invocation) :
    Python.authorization server.py request.headers = some (str "Bearer " ++ server.token) := by
  rw [Selects, WebhookReceiver.dispatch_eq_invoke_iff] at h
  rcases h with ⟨raw, event, hdelivers, -⟩
  have hauthorized := hdelivers.authorized
  simp only [WebhookReceiver.authorized, receiver] at hauthorized
  cases hgiven : Python.authorization server.py request.headers with
  | none => simp [hgiven] at hauthorized
  | some given =>
      simp only [hgiven, bind_eq_ok_iff] at hauthorized
      obtain ⟨bytes, hencode, expected, hexpected, hsame⟩ := hauthorized
      obtain rfl : bytes = expected := by simpa [pure, Except.pure] using hsame
      rw [encodeUtf8_inj hencode hexpected]

/-- The event of a callback matches its contract. -/
def Validated (py : Interpreter) : Invocation → Prop
  | .ledger event _ => LedgerValid py event
  | .notification event _ => ∃ type, NotificationValid py event type

/-- A selected event does, and comes with the context of its request. -/
theorem Selects.validated (h : server.Selects request invocation) :
    Validated server.py invocation ∧ invocation.row.payload = request.body ∧
      invocation.row.outboxID = Python.outboxId server.py request.headers := by
  rw [Selects, WebhookReceiver.dispatch_eq_invoke_iff] at h
  rcases h with ⟨raw, event, hdelivers, hselects⟩
  obtain rfl := decodePayload_bytes_object server.py hdelivers.decodes
  cases hselects with
  | ledger stream valid => exact ⟨(validateLedger_eq_ok_iff _ _).mp valid, rfl, rfl⟩
  | notification noLedger stream valid =>
      exact ⟨(validateNotification_eq_ok_iff _ _).mp valid, rfl, rfl⟩

/-- The sequence of a validated ledger event is that of its row. -/
theorem integer_of_valid {py : Interpreter} {event : PyDict} {delivery : WebhookContext}
    (h : Validated py (.ledger event delivery)) :
    ∃ n, event.get "business_sequence" = some (.int n) ∧ 1 ≤ n ∧
      (Invocation.ledger event delivery).row.businessSequence = some n := by
  rcases h with ⟨entry, postings, moves, hfields, -, -⟩
  rcases hfields.businessSequence with ⟨n, hn, hpos⟩
  exact ⟨n, hn, hpos, PyDict.integer_eq hn⟩

/-! ### What the server does -/

/-- A request that selects no event is not acknowledged. -/
theorem dispatch_respond {r : WebhookReceiver} {py : Interpreter}
    {headers : List (PyStr × PyStr)} {body : List UInt8} {response : WebhookResponse}
    (h : r.dispatch py headers (.bytes body) = .ok (.respond response)) :
    response.statusCode ≠ 204 := by
  have hdecode : ∀ {status message},
      decodePayload py (.bytes body) r.maxBodyBytes = .ok (.refused status message) →
        status ≠ 204 := by
    intro status message hrefused
    simp only [decodePayload, decodeBytes] at hrefused
    split at hrefused
    · simp only [Except.ok.injEq, Decoded.refused.injEq] at hrefused
      omega
    · rw [bind_eq_ok_iff] at hrefused
      obtain ⟨decoded, -, hrefused⟩ := hrefused
      cases decoded with
      | none =>
          simp only [pure, Except.pure, Except.ok.injEq, Decoded.refused.injEq] at hrefused
          omega
      | some value =>
          simp only [pure, Except.pure, Except.ok.injEq, decodeSized] at hrefused
          split at hrefused
          · simp only [Decoded.refused.injEq] at hrefused
            omega
          · split at hrefused
            · cases hrefused
            · simp only [Decoded.refused.injEq] at hrefused
              omega
  rw [WebhookReceiver.dispatch, bind_eq_ok_iff] at h
  obtain ⟨authorized, -, h⟩ := h
  split at h
  · obtain rfl := Dispatch.respond.inj (Except.ok.inj h)
    decide
  · split at h
    · obtain rfl := Dispatch.respond.inj (Except.ok.inj h)
      decide
    · simp only [bind_eq_ok_iff] at h
      obtain ⟨decoded, hdecoded, h⟩ := h
      cases decoded with
      | refused status message =>
          obtain rfl := Dispatch.respond.inj (Except.ok.inj h)
          exact hdecode hdecoded
      | object raw event =>
          rcases dispatchEvent_respond h with ⟨message, rfl⟩
          exact (by decide : 422 ≠ 204)

variable (server) in
theorem run_receiver (x : Option Interruption) (rows : SQLiteInbox) (invocation : Invocation) :
    invocation.run (server.receiver x rows) =
      (rows.persistIn x invocation.row).2.result invocation.event := by
  cases invocation <;> rfl

/-- A selected event is persisted, and the answer says how that ended. -/
theorem serve_of_selects (h : server.Selects request invocation) (rows : SQLiteInbox)
    (x : Option Interruption) :
    server.serve rows request x =
      ((rows.persistIn x invocation.row).1,
        if (rows.persistIn x invocation.row).2 = .died then none
        else some (invocation.respond server.py
          ((rows.persistIn x invocation.row).2.result invocation.event))) := by
  have hdispatch : (server.receiver x rows).dispatch server.py request.headers
      (.bytes request.body) = .ok (.invoke invocation) := h
  rw [serve, WebhookReceiver.receive_of_invoke _ _ _ _ hdispatch, run_receiver]

/-- Every other request leaves the table alone and is not acknowledged. -/
theorem serve_of_unselected (h : ∀ invocation, ¬ server.Selects request invocation)
    (rows : SQLiteInbox) (x : Option Interruption) :
    ∃ outcome, acknowledges outcome = false ∧
      server.serve rows request x = (rows, some outcome) := by
  rw [serve, WebhookReceiver.receive]
  cases hdispatch : (server.receiver x rows).dispatch server.py request.headers
    (.bytes request.body) with
  | error err => exact ⟨_, rfl, rfl⟩
  | ok dispatch =>
      cases dispatch with
      | respond response => exact ⟨_, by simpa [acknowledges] using dispatch_respond hdispatch, rfl⟩
      | invoke invocation => exact absurd hdispatch (h invocation)

/-- Everything the server can do with a request. -/
theorem serve_cases (server : InboxServer) (rows : SQLiteInbox) (request : IncomingRequest)
    (x : Option Interruption) :
    (∃ invocation, server.Selects request invocation) ∨
      ∃ outcome, acknowledges outcome = false ∧
        server.serve rows request x = (rows, some outcome) := by
  by_cases hselected : ∃ invocation, server.Selects request invocation
  · exact .inl hselected
  · exact .inr (serve_of_unselected (not_exists.mp hselected) rows x)

/-- A 64-bit integer is short enough to be written. -/
theorem withinDigits_of_lt (py : Interpreter) {n : ℤ} (hpos : 1 ≤ n) (hlt : n < 2 ^ 63) :
    py.withinDigits (Nat.toDigits 10 n.natAbs).length = true := by
  have hshort : (Nat.toDigits 10 n.natAbs).length ≤ 19 := by
    apply Nat.toDigits_length
    · decide
    · have hbound : (2 : ℤ) ^ 63 < 10 ^ 19 := by norm_num
      omega
  rw [Interpreter.withinDigits]
  rcases py.maxStrDigits_threshold with hnone | hlimit
  · rw [hnone]
    rfl
  · rw [Bool.or_eq_true, decide_eq_true_eq]
    exact .inr (by omega)

/-- A persisted event is acknowledged. -/
theorem Selects.respond (h : server.Selects request invocation)
    (hbind : bindDelivery invocation.row = .ok ()) :
    invocation.respond server.py (.returns invocation.event) =
      .ok invocation.acknowledgement := by
  cases invocation with
  | notification event delivery => rfl
  | ledger event delivery =>
      rcases integer_of_valid h.validated.1 with ⟨n, hn, hpos, hrow⟩
      have hlt : n < 2 ^ 63 :=
        (((SQLiteInbox.bindDelivery_eq_ok_iff _).mp hbind).2.2.2.2 n hrow).2
      simp only [Invocation.respond, Invocation.event, hn, Interpreter.str,
        withinDigits_of_lt server.py hpos hlt, if_true, Invocation.acknowledgement,
        PyDict.integer_eq hn]
      rfl

/-- Every other ending is not. -/
theorem respond_raises (py : Interpreter) (invocation : Invocation) :
    acknowledges (invocation.respond py .raises) = false := by
  cases invocation <;> rfl

/-- A selected event is acknowledged exactly if it is accepted without a disturbance. -/
theorem serve_eq (h : server.Selects request invocation) (rows : SQLiteInbox) :
    (SQLiteInbox.store.accepts rows invocation.row →
      server.serve rows request none =
        (SQLiteInbox.store.next rows invocation.row, some (.ok invocation.acknowledgement))) ∧
    ∀ x, server.deliveries.Acknowledges acknowledges rows request x →
      x = none ∧ SQLiteInbox.store.accepts rows invocation.row := by
  constructor
  · intro haccepts
    have hreturns := (SQLiteInbox.persistIn_eq_returns_iff none rows invocation.row).mpr
      ⟨rfl, haccepts⟩
    rw [serve_of_selects h, hreturns, if_neg (by decide), SQLiteInbox.persistIn_of_returns hreturns,
      Ending.result, h.respond (SQLiteInbox.bindDelivery_of_accepts haccepts)]
  · intro x hacked
    change ((server.serve rows request x).2.any acknowledges) = true at hacked
    rw [serve_of_selects h] at hacked
    rw [← SQLiteInbox.persistIn_eq_returns_iff]
    cases hending : (rows.persistIn x invocation.row).2 with
    | returns => rfl
    | raises =>
        rw [hending, if_neg (by decide), Option.any_some, Ending.result, respond_raises] at hacked
        cases hacked
    | died =>
        rw [hending, if_pos rfl] at hacked
        cases hacked

/-! ### Durability -/

variable (server) in
/-- The event of a request has a row. -/
def Kept (rows : SQLiteInbox) (request : IncomingRequest) : Prop :=
  ∃ invocation, server.Selects request invocation ∧ rows.Has invocation.row

/-- An acknowledged request selects an event, which is accepted. -/
theorem selects_of_acknowledged {rows : SQLiteInbox} {x : Option Interruption}
    (hacked : server.deliveries.Acknowledges acknowledges rows request x) :
    ∃ invocation, server.Selects request invocation ∧ x = none ∧
      SQLiteInbox.store.accepts rows invocation.row := by
  rcases server.serve_cases rows request x with
    ⟨invocation, hselects⟩ | ⟨outcome, hrefused, hserve⟩
  · exact ⟨invocation, hselects, (serve_eq hselects rows).2 x hacked⟩
  · change ((server.serve rows request x).2.any acknowledges) = true at hacked
    rw [hserve, Option.any_some, hrefused] at hacked
    cases hacked

/-- The table after a request is the one before, or what `persist` makes of it. -/
theorem serve_fst_cases (server : InboxServer) (rows : SQLiteInbox) (request : IncomingRequest)
    (x : Option Interruption) :
    (server.serve rows request x).1 = rows ∨
      ∃ invocation, server.Selects request invocation ∧
        (server.serve rows request x).1 = (rows.persistIn x invocation.row).1 := by
  rcases server.serve_cases rows request x with
    ⟨invocation, hselects⟩ | ⟨outcome, -, hserve⟩
  · exact .inr ⟨invocation, hselects, by rw [serve_of_selects hselects]⟩
  · exact .inl (by rw [hserve])

/-- The server keeps what it acknowledges. -/
theorem durable (server : InboxServer) :
    Durable server.deliveries acknowledges SQLiteInbox.Constrained server.Kept where
  invariant rows request x hrows := by
    change SQLiteInbox.Constrained (server.serve rows request x).1
    rcases server.serve_fst_cases rows request x with hsame | ⟨invocation, -, hserve⟩
    · rwa [hsame]
    · rw [hserve]
      exact hrows.persistIn x invocation.row
  acked rows request x _ hacked := by
    rcases selects_of_acknowledged hacked with ⟨invocation, hselects, hending⟩
    refine ⟨invocation, hselects, ?_⟩
    change (server.serve rows request x).1.Has invocation.row
    rw [serve_of_selects hselects]
    exact SQLiteInbox.has_of_returns ((SQLiteInbox.persistIn_eq_returns_iff _ _ _).mpr hending)
  lasts rows request x other _ hkept := by
    rcases hkept with ⟨held, hselects, hhas⟩
    refine ⟨held, hselects, ?_⟩
    change (server.serve rows request x).1.Has held.row
    rcases server.serve_fst_cases rows request x with hsame | ⟨invocation, -, hserve⟩
    · rwa [hsame]
    · rw [hserve]
      exact hhas.persistIn x invocation.row

/-- An event that is answered with 204, in any run of requests and disturbances, has
one row for good, and no request is answered with 204 for other contents of that event.
A redelivery leaves the table alone, and is answered in the same words again exactly
unless its outbox ID stands for another event. -/
theorem acknowledged_rows_last (server : InboxServer)
    (before after : List (IncomingRequest × Option Interruption)) (request : IncomingRequest)
    (x : Option Interruption) :
    let rows := server.deliveries.run [] before
    let later := server.deliveries.run (server.serve rows request x).1 after
    server.deliveries.Acknowledges acknowledges rows request x →
    ∃ invocation, server.Selects request invocation ∧
      (server.serve rows request x).2 = some (.ok invocation.acknowledgement) ∧
      (∃ row ∈ later, row.identity = invocation.row.identity ∧
        ∀ other ∈ later, other.event = row.event → other = row) ∧
      (server.serve later request none).1 = later ∧
      ((server.serve later request none).2 = some (.ok invocation.acknowledgement) ↔
        ∀ row ∈ later, row.outboxID = invocation.row.outboxID →
          row.identity = invocation.row.identity) ∧
      ∀ other invocation' x', server.Selects other invocation' →
        server.deliveries.Acknowledges acknowledges later other x' →
        invocation'.row.event = invocation.row.event →
          invocation'.row.identity = invocation.row.identity := by
  intro rows later hacked
  have hrows : rows.Constrained :=
    server.durable.invariant_run SQLiteInbox.constrained_empty before
  have hafter : (server.serve rows request x).1.Constrained :=
    server.durable.invariant rows request x hrows
  have hlater : later.Constrained := server.durable.invariant_run hafter after
  have hkept : server.Kept later request :=
    server.durable.kept_run hafter (server.durable.acked rows request x hrows hacked) after
  rcases selects_of_acknowledged hacked with ⟨invocation, hselects, hsound, haccepts⟩
  obtain rfl : x = none := hsound
  have hbind := SQLiteInbox.bindDelivery_of_accepts haccepts
  have hhas : later.Has invocation.row := by
    rcases hkept with ⟨held, hheld, hhas⟩
    rwa [hselects.unique hheld]
  obtain ⟨hnext, hagain⟩ := hhas.persist_again hlater hbind
  refine ⟨invocation, hselects, ?_, ?_, ?_, ?_, ?_⟩
  · rw [(serve_eq hselects rows).1 haccepts]
  · rcases hhas with ⟨row, hrow, hidentity⟩
    exact ⟨row, hrow, hidentity, fun other hother hevent =>
      hlater.unique other hother row hrow hevent⟩
  · rw [serve_of_selects hselects]
    rcases SQLiteInbox.persistIn_fst_cases none later invocation.row with hsame | hstep
    · exact hsame
    · exact hstep.trans hnext
  · rw [← hagain]
    constructor
    · intro hanswer
      have hacked' : server.deliveries.Acknowledges acknowledges later request none := by
        change ((server.serve later request none).2.any acknowledges) = true
        rw [hanswer]
        cases invocation <;> rfl
      exact ((serve_eq hselects later).2 none hacked').2
    · intro haccepts'
      rw [(serve_eq hselects later).1 haccepts']
  · intro other invocation' x' hselects' hacked' hevent
    have hboth := server.durable.acked later other x' hlater hacked'
    have hstill := server.durable.lasts later other x' request hlater hkept
    have hconstrained := server.durable.invariant later other x' hlater
    rcases hboth with ⟨held', hheld', row', hrow', hidentity'⟩
    rcases hstill with ⟨held, hheld, row, hrow, hidentity⟩
    obtain rfl := hselects'.unique hheld'
    obtain rfl := hselects.unique hheld
    have hsame : row'.event = row.event := by
      calc row'.event = invocation'.row.event := congrArg Prod.fst hidentity'
        _ = invocation.row.event := hevent
        _ = row.event := (congrArg Prod.fst hidentity).symm
    rw [← hidentity', ← hidentity, hconstrained.unique row' hrow' row hrow hsame]

/-! ### Where the rows come from -/

/-- The server stores nothing of its own. -/
theorem introduces (server : InboxServer) :
    Introduces server.deliveries (fun rows row => row ∈ rows) fun request row =>
      ∃ invocation, server.Selects request invocation ∧ row = invocation.row := by
  intro rows request x row hrow
  change row ∈ (server.serve rows request x).1 at hrow
  rcases server.serve_fst_cases rows request x with hsame | ⟨invocation, hselects, hserve⟩
  · rw [hsame] at hrow
    exact .inl hrow
  · rw [hserve] at hrow
    rcases SQLiteInbox.persistIn_cases x rows invocation.row with hsame | ⟨-, happend⟩
    · rw [hsame] at hrow
      exact .inl hrow
    · rw [happend, List.mem_append, List.mem_singleton] at hrow
      exact hrow.imp_right fun h => ⟨invocation, hselects, h⟩

/-- Every row is the validated event of a request with the bearer token, and no other
row has its outbox ID or its event. -/
theorem rows_authorized (server : InboxServer)
    (requests : List (IncomingRequest × Option Interruption)) {row : InboxDelivery}
    (h : row ∈ server.deliveries.run [] requests) :
    (∃ request ∈ requests, ∃ invocation,
      authorization server.py request.1.headers = some (str "Bearer " ++ server.token) ∧
      Validated server.py invocation ∧ row = invocation.row ∧ row.payload = request.1.body ∧
      row.outboxID = outboxId server.py request.1.headers) ∧
    ∀ other ∈ server.deliveries.run [] requests,
      other.outboxID = row.outboxID ∨ other.event = row.event → other = row := by
  constructor
  · rcases server.introduces.run h with hempty | ⟨request, hmem, invocation, hselects, rfl⟩
    · cases hempty
    · obtain ⟨hvalidated, hpayload, houtbox⟩ := hselects.validated
      exact ⟨request, hmem, invocation, hselects.authorization, hvalidated, rfl, hpayload, houtbox⟩
  · intro other hother hshares
    have hrows := server.durable.invariant_run SQLiteInbox.constrained_empty requests
    rcases hshares with houtbox | hevent
    · exact hrows.primaryKey other hother row h houtbox
    · exact hrows.unique other hother row h hevent

/-! ### A ledger stream -/

/-- An event whose row can be written and that nothing stands in the way of. -/
def Ready (server : InboxServer) (rows : SQLiteInbox) (request : IncomingRequest) : Prop :=
  ∃ invocation, server.Selects request invocation ∧ bindDelivery invocation.row = .ok () ∧
    rows.Expects invocation.row

/-- Two deliveries of different events under different outbox IDs. -/
def Independent (server : InboxServer) (request other : IncomingRequest) : Prop :=
  ∀ invocation invocation', server.Selects request invocation →
    server.Selects other invocation' → invocation.row.outboxID ≠ invocation'.row.outboxID ∧
      invocation.row.event ≠ invocation'.row.event

/-- A call of `persist` that nothing stops. -/
def Undisturbed (x : Option Interruption) : Prop := x = none

instance : DecidablePred Undisturbed
  | none => isTrue rfl
  | some _ => isFalse nofun

/-- The server accepts what it is ready for however often it was disturbed. -/
theorem available (server : InboxServer) :
    Available server.deliveries acknowledges Undisturbed (fun _ => True) server.Ready
      server.Independent where
  invariant _ _ _ _ := trivial
  accepts rows request x _ hready hsound := by
    rcases hready with ⟨invocation, hselects, hbind, hexpects⟩
    obtain rfl : x = none := hsound
    change ((server.serve rows request none).2.any acknowledges) = true
    rw [(serve_eq hselects rows).1 (hexpects.accepts hbind)]
    cases invocation <;> rfl
  same rows request x _ hready := by
    rcases hready with ⟨invocation, hselects, hbind, hexpects⟩
    refine ⟨invocation, hselects, hbind, ?_⟩
    change (server.serve rows request x).1.Expects invocation.row
    rw [serve_of_selects hselects]
    exact hexpects.persistIn_same x
  others rows request x other _ hindependent hready := by
    rcases hready with ⟨held, hheld, hbind, hexpects⟩
    refine ⟨held, hheld, hbind, ?_⟩
    change (server.serve rows request x).1.Expects held.row
    rcases server.serve_fst_cases rows request x with hsame | ⟨invocation, hselects, hserve⟩
    · rwa [hsame]
    · rw [hserve]
      obtain ⟨houtbox, hevent⟩ := hindependent _ _ hselects hheld
      exact hexpects.persistIn_other houtbox hevent x

/-- The identity of the event of a request. -/
def Identifies (server : InboxServer) (request : IncomingRequest)
    (identity : (PyStr × PyStr) × (PyStr × Option ℤ × List UInt8)) : Prop :=
  ∃ invocation, server.Selects request invocation ∧ identity = invocation.row.identity

/-- The table is a log of the identities it accepted. -/
theorem logs (server : InboxServer) :
    Logs server.deliveries acknowledges (fun rows => rows.map InboxDelivery.identity)
      server.Identifies where
  step rows request x := by
    change (server.serve rows request x).1.map InboxDelivery.identity = _ ∨ ∃ k, _ ∧ _ ∧
      (server.serve rows request x).1.map InboxDelivery.identity = _
    rcases server.serve_fst_cases rows request x with hsame | ⟨invocation, hselects, hserve⟩
    · exact .inl (by rw [hsame])
    · rw [hserve]
      rcases SQLiteInbox.persistIn_cases x rows invocation.row with hsame | ⟨hnew, happend⟩
      · exact .inl (by rw [hsame])
      · refine .inr ⟨_, ⟨invocation, hselects, rfl⟩, ?_, by rw [happend, List.map_append]; rfl⟩
        rw [List.mem_map]
        rintro ⟨row, hrow, hidentity⟩
        exact (hnew row hrow).2 (congrArg Prod.fst hidentity)
  acked rows request x hacked := by
    rcases selects_of_acknowledged hacked with ⟨invocation, hselects, hending⟩
    refine ⟨_, ⟨invocation, hselects, rfl⟩, ?_⟩
    change invocation.row.identity ∈
      (server.serve rows request x).1.map InboxDelivery.identity
    rw [serve_of_selects hselects, List.mem_map]
    exact SQLiteInbox.has_of_returns ((SQLiteInbox.persistIn_eq_returns_iff _ _ _).mpr hending)

/-- The deliveries of one ledger stream: the events are numbered from the first one
on. -/
structure LedgerStream (server : InboxServer) (first : ℤ) (items : List IncomingRequest)
    (invocations : List Invocation) : Prop where
  selects : List.Forall₂ server.Selects items invocations
  numbered : ∀ (i : ℕ) invocation, invocations[i]? = some invocation →
    invocation.row.businessSequence = some (first + i)

section Streams

variable {first : ℤ} {items : List IncomingRequest} {invocations : List Invocation}

/-- The identities of the events of a stream. -/
def identities (invocations : List Invocation) :
    List ((PyStr × PyStr) × (PyStr × Option ℤ × List UInt8)) :=
  invocations.map fun invocation => invocation.row.identity

/-- The events of a stream have different identities. -/
theorem LedgerStream.nodup (h : LedgerStream server first items invocations) :
    (identities invocations).Nodup := by
  rw [List.nodup_iff_getElem?_ne_getElem?]
  intro i j hij hj hsame
  rw [identities, List.length_map] at hj
  rw [identities, List.getElem?_map, List.getElem?_map,
    List.getElem?_eq_getElem (hij.trans hj), List.getElem?_eq_getElem hj, Option.map_some,
    Option.map_some, Option.some.injEq] at hsame
  have hfirst := h.numbered i _ (List.getElem?_eq_getElem (hij.trans hj))
  have hsecond := h.numbered j _ (List.getElem?_eq_getElem hj)
  have hsequence : some (first + (i : ℤ)) = some (first + (j : ℤ)) := by
    rw [← hfirst, ← hsecond]
    exact congrArg (fun identity => identity.2.2.1) hsame
  rw [Option.some.injEq] at hsequence
  omega

/-- The identity of an item. -/
theorem LedgerStream.identifies (h : LedgerStream server first items invocations) {i : ℕ}
    {request : IncomingRequest} (hitem : items[i]? = some request)
    {identity : (PyStr × PyStr) × (PyStr × Option ℤ × List UInt8)}
    (hidentity : server.Identifies request identity) :
    (identities invocations)[i]? = some identity := by
  rcases hidentity with ⟨invocation, hselects, rfl⟩
  obtain ⟨hlength, hget⟩ := List.forall₂_iff_get.mp h.selects
  rw [List.getElem?_eq_some_iff] at hitem
  obtain ⟨hlt, rfl⟩ := hitem
  have hlt' : i < invocations.length := hlength ▸ hlt
  have hother : server.Selects items[i] invocations[i] := hget i hlt hlt'
  rw [identities, List.getElem?_map, List.getElem?_eq_getElem hlt', Option.map_some,
    hselects.unique hother]

/-- The sequences of the first events of a stream. -/
theorem LedgerStream.sequences (h : LedgerStream server first items invocations) {count : ℕ}
    (hcount : count ≤ invocations.length) :
    ((identities invocations).take count).map (fun identity => identity.2.2.1) =
      (List.range count).map fun (i : ℕ) => some (first + (i : ℤ)) := by
  apply List.ext_getElem
  · simpa [identities] using hcount
  · intro i hi hi'
    have hlt : i < count := by simpa using hi'
    have hget := h.numbered i _ (List.getElem?_eq_getElem (hlt.trans_le hcount))
    simp only [identities, List.getElem_map, List.getElem_take, List.getElem_range]
    exact hget

/-- A sender that is alone with its ledger stream and repeats each delivery until it
hears a 204: whatever the network and the database do, the table holds the first events
of the stream in their order, each once, all before the cursor and at most the one at
the cursor.  If the events can be written and are independent, each attempt that is
undisturbed and heard moves the cursor. -/
theorem table_replicates (server : InboxServer)
    (h : LedgerStream server first items invocations)
    {turns : List (Turn IncomingRequest (Option Interruption))} (halone : Alone turns) :
    let line := relay server.deliveries acknowledges items ⟨[], 0⟩ turns
    (∃ count, line.next ≤ count ∧ count ≤ line.next + 1 ∧ count ≤ items.length ∧
      line.receiver.map InboxDelivery.identity =
        (invocations.take count).map (fun invocation => invocation.row.identity) ∧
      line.receiver.map InboxDelivery.businessSequence =
        (List.range count).map fun (i : ℕ) => some (first + (i : ℤ))) ∧
    ((∀ invocation ∈ invocations, bindDelivery invocation.row = .ok ()) →
      items.Pairwise server.Independent →
      min items.length (turns.countP fun t => t.Healthy Undisturbed) ≤ line.next) := by
  intro line
  have hlength : items.length = invocations.length := h.selects.length_eq
  constructor
  · have hlogged : line.Logged (fun rows => rows.map InboxDelivery.identity)
        (identities invocations) := by
      apply server.logs.relay h.nodup (fun i item k hitem => h.identifies hitem) ?_ halone
      exact ⟨0, le_rfl, Nat.zero_le _, Nat.zero_le _, rfl⟩
    rcases hlogged with ⟨count, hle, hge, hcount, htable⟩
    rw [identities, List.length_map] at hcount
    refine ⟨count, hle, hge, hcount.trans hlength.ge, htable.trans List.map_take.symm, ?_⟩
    rw [← h.sequences hcount, ← htable, List.map_map]
    rfl
  · intro hbind hindependent
    have hready : (⟨[], 0⟩ : Line SQLiteInbox).Expects server.Ready items := by
      intro i request _ hitem
      obtain ⟨hlen, hget⟩ := List.forall₂_iff_get.mp h.selects
      rw [List.getElem?_eq_some_iff] at hitem
      obtain ⟨hlt, rfl⟩ := hitem
      have hlt' : i < invocations.length := hlen ▸ hlt
      refine ⟨invocations[i], hget i hlt hlt', hbind _ (List.getElem_mem hlt'), ?_⟩
      intro row hrow
      cases hrow
    simpa using server.available.progress hindependent trivial hready halone

end Streams

/-! ### One delivery -/

/-- A server that decodes one body. -/
def usageServer : InboxServer := ⟨oneBody usageBody usageMembers, str "secret", by decide⟩

/-- The delivery with that body. -/
def usageDelivery : IncomingRequest :=
  ⟨(str "Authorization", str "Bearer secret") :: outboxHeaders, usageBody⟩

/-- The event of the delivery. -/
def usageInvocation : Invocation :=
  .ledger (PyValue.ofMembers usageMembers)
    (deliveryContext usageServer.py usageDelivery.headers usageBody)

/-- The process dies after the commit. -/
def lostAnswer : Option Interruption := some ⟨true, true⟩

theorem usage_selects : usageServer.Selects usageDelivery usageInvocation := by
  have hgiven : authorization usageServer.py usageDelivery.headers =
      some (str "Bearer secret") := by
    decide
  have hbearer : str "Bearer " ++ usageServer.token = str "Bearer secret" := by decide
  have houtbox : outboxId usageServer.py usageDelivery.headers ≠ [] := by decide
  have hvalid : validateLedger usageServer.py (PyValue.ofMembers usageMembers) = .ok () := by rfl
  refine ((usageServer.receiver none []).dispatch_ledger_iff _ _ _ _ _).mpr
    ⟨rfl, ⟨?_, houtbox, ?_⟩, rfl, hvalid⟩
  · rcases encodeUtf8_eq_ok (str "Bearer secret") (Text.isScalar_ofString _) with ⟨bytes, hbytes⟩
    simp [hgiven, WebhookReceiver.authorized, receiver, hbearer, hbytes, bind, Except.bind, pure,
      Except.pure]
  · exact (delivers_oneBody keepEvent usageMembers usageBody_length).decodes

theorem usage_row : bindDelivery usageInvocation.row = .ok () ∧
    usageInvocation.row.businessSequence = some 7 := by
  constructor
  · rw [SQLiteInbox.bindDelivery_eq_ok_iff]
    refine ⟨by decide, by decide, by decide, by decide, ?_⟩
    intro n hn
    obtain rfl : 7 = n := Option.some.inj hn
    decide
  · rfl

/-- The delivery is acknowledged after its answer was lost. -/
theorem usage_acknowledged :
    usageServer.deliveries.Acknowledges acknowledges
      (usageServer.deliveries.run [] [(usageDelivery, lostAnswer)]) usageDelivery none := by
  have hready : usageServer.Ready [] usageDelivery :=
    ⟨usageInvocation, usage_selects, usage_row.1, by intro row hrow; cases hrow⟩
  have hlater := usageServer.available.same [] usageDelivery lostAnswer trivial hready
  exact usageServer.available.accepts _ usageDelivery none trivial hlater rfl

/-- Then it has one row for good. -/
theorem usage_row_lasts :
    ∃ invocation, usageServer.Selects usageDelivery invocation ∧
      (usageServer.serve (usageServer.deliveries.run [] [(usageDelivery, lostAnswer)])
        usageDelivery none).2 = some (.ok invocation.acknowledgement) := by
  obtain ⟨invocation, hselects, hanswer, -⟩ := usageServer.acknowledged_rows_last
    [(usageDelivery, lostAnswer)] [(usageDelivery, lostAnswer)] usageDelivery none
    usage_acknowledged
  exact ⟨invocation, hselects, hanswer⟩

/-- Its row is that of an authorized request. -/
theorem usage_row_authorized :
    ∃ row ∈ usageServer.deliveries.run []
        ([(usageDelivery, lostAnswer)] ++ [(usageDelivery, none)]),
      ∃ request ∈ [(usageDelivery, lostAnswer)] ++ [(usageDelivery, none)],
        authorization usageServer.py request.1.headers =
          some (str "Bearer " ++ usageServer.token) := by
  have hkept := usageServer.durable.acked _ usageDelivery none
    (usageServer.durable.invariant_run SQLiteInbox.constrained_empty
      [(usageDelivery, lostAnswer)]) usage_acknowledged
  rw [← Receiver.run_concat] at hkept
  obtain ⟨invocation, -, row, hrow, -⟩ := hkept
  obtain ⟨⟨request, hmem, -, hauthorized, -⟩, -⟩ := usageServer.rows_authorized _ hrow
  exact ⟨row, hrow, request, hmem, hauthorized⟩

/-- The delivery is attempted until its answer is heard. -/
def usageTurns : List (Turn IncomingRequest (Option Interruption)) :=
  [.attempt lostAnswer true, .attempt none false, .attempt none true]

theorem usage_stream : usageServer.LedgerStream 7 [usageDelivery] [usageInvocation] := by
  constructor
  · exact .cons usage_selects .nil
  · intro i invocation hinvocation
    obtain rfl : i = 0 := by simpa using (List.getElem?_eq_some_iff.mp hinvocation).1
    cases hinvocation
    exact usage_row.2

/-- The stream of that delivery alone is replicated. -/
theorem usage_table_replicates :
    (relay usageServer.deliveries acknowledges [usageDelivery] ⟨[], 0⟩ usageTurns).next = 1 ∧
      (relay usageServer.deliveries acknowledges [usageDelivery] ⟨[], 0⟩
        usageTurns).receiver.map InboxDelivery.businessSequence = [some 7] := by
  have halone : Alone usageTurns := by
    intro request x hmem
    simp [usageTurns] at hmem
  have hbind : ∀ invocation ∈ [usageInvocation], bindDelivery invocation.row = .ok () := by
    intro invocation hmem
    rw [List.mem_singleton.mp hmem]
    exact usage_row.1
  have hcount : min [usageDelivery].length
      (usageTurns.countP fun t => t.Healthy Undisturbed) = 1 := by decide
  obtain ⟨⟨count, hle, -, hlength, -, hsequences⟩, hprogress⟩ :=
    usageServer.table_replicates usage_stream halone
  have hone := hprogress hbind (List.pairwise_singleton _ _)
  rw [hcount] at hone
  obtain rfl : count = 1 := Nat.le_antisymm hlength (hone.trans hle)
  exact ⟨Nat.le_antisymm hle hone, hsequences⟩

end InboxServer

end MizanSDK.Python
