import MizanSDK.Go.ExactReading
import MizanSDK.Go.FileInbox
import MizanSDK.Go.ServeHTTP
import MizanSDK.Library.Deliveries

/-!
# The Go webhook receiver with its file inbox

`examples/webhook_receiver/main.go` as a whole: `ServeHTTP` in front of the callbacks
that persist an event, over any run of requests, with the I/O errors and crashes of
the inbox.  The mutex of the inbox makes the calls of `persist` one sequence.

Main results:

- Theorem `InboxServer.acknowledged_for_good`: a delivery that is answered with 204 is
  in the inbox for good, and answered with 204 again without a change.
- Theorem `InboxServer.events_authorized`: nothing else is in the inbox than validated
  events of authorized requests.
- Theorem `InboxServer.stream_replicated`: the inbox holds a gap-free beginning of a
  ledger stream, which grows with every healthy attempt.

Current gaps: the routes of `http.ServeMux` and the shutdown of the server.
-/

namespace MizanSDK.Go

open Bytes JsonText Deliveries

/-! ## Callbacks -/

/-- `WebhookHandlerFuncs`; a nil function is `none`. -/
structure WebhookHandlerFuncs where
  ledger : Option (LedgerWebhook → WebhookContext → Option GoError)
  notification : Option (NotificationWebhook → WebhookContext → Option GoError)

/-- The methods of `WebhookHandlerFuncs`. -/
def WebhookHandlerFuncs.handler (h : WebhookHandlerFuncs) : WebhookHandler where
  handleLedger event delivery :=
    match h.ledger with
    | none => some ⟨"mizan: ledger webhook handler is not configured"⟩
    | some ledger => ledger event delivery
  handleNotification event delivery :=
    match h.notification with
    | none => some ⟨"mizan: notification webhook handler is not configured"⟩
    | some notification => notification event delivery

/-- The bytes of a string. -/
def goString (s : String) : GoString := s.toUTF8.toList

theorem goString_inj {s t : String} : goString s = goString t ↔ s = t := toUTF8_inj

theorem goString_eq_nil_iff {s : String} : goString s = [] ↔ s = "" := by
  have hempty : goString "" = [] := by simp [goString]
  rw [← hempty, goString_inj]

/-- The record a callback of `main` persists. -/
def Invocation.record (now : GoTime) : Invocation → InboxRecord
  | .ledger event delivery =>
      { outboxID := goString delivery.outboxID
        stream := asciiBytes "ledger"
        eventID := goString event.eventID
        businessID := goString event.businessID
        businessSequence := event.businessSequence
        payload := delivery.rawBody
        receivedAt := now }
  | .notification event delivery =>
      { outboxID := goString delivery.outboxID
        stream := asciiBytes "notification"
        eventID := goString delivery.outboxID
        businessID := goString event.businessID
        businessSequence := 0
        payload := delivery.rawBody
        receivedAt := now }

/-- The records of the callbacks are text. -/
theorem Invocation.record_hasText (invocation : Invocation) (now : GoTime) :
    FileInbox.HasText (invocation.record now) := by
  have hledger : repair (asciiBytes "ledger") = asciiBytes "ledger" :=
    repair_of_ascii (by decide +kernel)
  have hnotification : repair (asciiBytes "notification") = asciiBytes "notification" :=
    repair_of_ascii (by decide +kernel)
  cases invocation with
  | ledger event delivery => exact ⟨hledger, repair_toUTF8 _, repair_toUTF8 _⟩
  | notification event delivery => exact ⟨hnotification, repair_toUTF8 _, repair_toUTF8 _⟩

/-- What a call of `persist` returns; nobody sees the error of a crash. -/
def Ending.err : Ending → Option GoError
  | .nil => none
  | .error message => some ⟨message⟩
  | .crashed => some ⟨""⟩

theorem Ending.err_eq_none_iff (ending : Ending) : ending.err = none ↔ ending = .nil := by
  cases ending <;> simp [Ending.err]

/-! ## What the inbox keeps -/

namespace FileInbox

variable {rt : InboxRuntime}

/-- A stored record says what a record does: its payload is that of the record, or
what `encoding/json` made of it. -/
structure Records (rt : InboxRuntime) (original record : InboxRecord) : Prop where
  stream : original.stream = record.stream
  eventID : original.eventID = record.eventID
  businessID : original.businessID = record.businessID
  businessSequence : original.businessSequence = record.businessSequence
  payload : ∃ stored, marshalRawMessage rt record.payload = .ok stored ∧
    (original.payload = record.payload ∨ original.payload = stored)

/-- A record is stored under its event and under its outbox ID. -/
structure Holds (rt : InboxRuntime) (inbox : FileInbox) (record : InboxRecord) : Prop where
  known : inbox.outbox.lookup (aliasPath rt record.outboxID) = some (marshalAlias rt record)
  event : ∃ original, inbox.events.lookup (eventPath rt record.stream record.eventID) =
    some original ∧ Records rt original record

/-- Every alias is that of a text record whose event file says what it does. -/
def Backed (rt : InboxRuntime) (inbox : FileInbox) : Prop :=
  ∀ path known, inbox.outbox.lookup path = some known →
    ∃ record original, HasText record ∧ marshalAlias rt record = known ∧
      inbox.events.lookup (eventPath rt record.stream record.eventID) = some original ∧
      Records rt original record

theorem backed_empty (rt : InboxRuntime) : Backed rt empty := by
  intro path known hknown
  cases hknown

/-- A record is encoded as one that says the same. -/
theorem records_encoded {record encoded : InboxRecord} (htext : HasText record)
    (h : marshalRecord rt record = .ok encoded) : Records rt encoded record := by
  unfold marshalRecord at h
  cases hraw : marshalRawMessage rt record.payload with
  | error err => simp [hraw, Except.map] at h
  | ok stored =>
      rw [hraw, Except.map, Except.ok.injEq] at h
      subst h
      exact ⟨htext.stream, htext.eventID, htext.businessID, rfl, stored, hraw, .inr rfl⟩

/-- So does a record that `persist` finds to be the same, if its payload is
encodable. -/
theorem records_of_sameEvent {original record : InboxRecord} {stored : List UInt8}
    (hsame : sameEvent original record = true)
    (hraw : marshalRawMessage rt record.payload = .ok stored) : Records rt original record := by
  simp only [sameEvent, Bool.and_eq_true, beq_iff_eq] at hsame
  rcases hsame with ⟨⟨⟨⟨hstream, hevent⟩, hbusiness⟩, hsequence⟩, hpayload⟩
  exact ⟨hstream, hevent, hbusiness, hsequence, stored, hraw, .inl hpayload⟩

/-- A record that does not encode is not stored. -/
theorem persist_of_unencodable (faults : Faults) (inbox : FileInbox) {record : InboxRecord}
    {err : String} (h : marshalRecord rt record = .error err) :
    (persist rt faults inbox record).1 = inbox ∧ (persist rt faults inbox record).2 ≠ .nil := by
  unfold persist
  split
  · exact ⟨rfl, by simp⟩
  · rw [h]
    exact ⟨rfl, by simp⟩

/-- The payload of a record that encodes. -/
theorem marshalRawMessage_of_record {record encoded : InboxRecord}
    (h : marshalRecord rt record = .ok encoded) :
    ∃ stored, marshalRawMessage rt record.payload = .ok stored := by
  unfold marshalRecord at h
  cases hraw : marshalRawMessage rt record.payload with
  | error err => simp [hraw, Except.map] at h
  | ok stored => exact ⟨stored, rfl⟩

section Steps

variable {inbox : FileInbox} {record : InboxRecord}

/-- What an alias is backed by stays. -/
theorem Backed.publish (h : Backed rt inbox) {path : String} {content : InboxRecord}
    (hnew : inbox.events.lookup path = none) :
    Backed rt { inbox with events := inbox.events.insert path content } := by
  intro other known hknown
  rcases h other known hknown with ⟨record, original, htext, hmarshal, hstored, hrecords⟩
  exact ⟨record, original, htext, hmarshal, lookup_insert_of_absent hnew hstored, hrecords⟩

/-- A new alias of a stored record is backed. -/
theorem Backed.insert (h : Backed rt inbox) {original : InboxRecord} {path : String}
    (htext : HasText record)
    (hstored : inbox.events.lookup (eventPath rt record.stream record.eventID) = some original)
    (hrecords : Records rt original record) :
    Backed rt { inbox with outbox := inbox.outbox.insert path (marshalAlias rt record) } := by
  intro other known hknown
  by_cases hother : other = path
  · subst hother
    rw [AList.lookup_insert, Option.some.injEq] at hknown
    exact ⟨record, original, htext, hknown, hstored, hrecords⟩
  · rw [AList.lookup_insert_ne hother] at hknown
    exact h other known hknown

/-- Every alias stays backed, and an accepted record is held. -/
theorem persist_keeps (h : Backed rt inbox) (htext : HasText record) (faults : Faults) :
    Backed rt (persist rt faults inbox record).1 ∧
      ((persist rt faults inbox record).2 = .nil →
        Holds rt (persist rt faults inbox record).1 record) := by
  cases hencoded : marshalRecord rt record with
  | error err =>
      rcases persist_of_unencodable faults inbox hencoded with ⟨hsame, hfails⟩
      rw [hsame]
      exact ⟨h, fun hnil => absurd hnil hfails⟩
  | ok encoded =>
      rcases marshalRawMessage_of_record hencoded with ⟨stored, hraw⟩
      have heffect := persist_effect rt faults inbox record
      generalize persist rt faults inbox record = out at heffect ⊢
      cases heffect with
      | untouched ending known =>
          refine ⟨h, fun hnil => ⟨known hnil, ?_⟩⟩
          -- The record behind the alias has the identity of this one.
          rcases h _ _ (known hnil) with ⟨other, original, hother, hmarshal, hevent, hrecords⟩
          have hidentity := identity_eq_of_marshalAlias_eq hother htext hmarshal
          simp only [identity, Identity.mk.injEq] at hidentity
          obtain ⟨hstream, heventID, hbusiness, hsequence, hpayload⟩ := hidentity
          rw [hstream, heventID] at hevent
          refine ⟨original, hevent, hrecords.stream.trans hstream,
            hrecords.eventID.trans heventID, hrecords.businessID.trans hbusiness,
            hrecords.businessSequence.trans hsequence, ?_⟩
          rw [← hpayload]
          exact hrecords.payload
      | publishes encoded' ending hencodes hnew stopped =>
          exact ⟨h.publish hnew, fun hnil => absurd hnil stopped⟩
      | aliases original ending hnew hstored hsame =>
          have hrecords := records_of_sameEvent hsame hraw
          exact ⟨h.insert htext hstored hrecords,
            fun _ => ⟨AList.lookup_insert _, original, hstored, hrecords⟩⟩
      | completes encoded' ending hencodes hnew =>
          have hrecords := records_encoded htext hencodes
          exact ⟨(h.publish hnew).insert htext (AList.lookup_insert _) hrecords,
            fun _ => ⟨AList.lookup_insert _, encoded', AList.lookup_insert _, hrecords⟩⟩

/-- What is held stays. -/
theorem Holds.persist {held : InboxRecord} (h : Holds rt inbox held) (faults : Faults)
    (record : InboxRecord) : Holds rt (FileInbox.persist rt faults inbox record).1 held := by
  have heffect := persist_effect rt faults inbox record
  rcases h.event with ⟨original, hstored, hrecords⟩
  exact ⟨heffect.alias_lasts h.known, original, heffect.event_lasts hstored, hrecords⟩

/-- A held record is accepted again without a change. -/
theorem Holds.persist_again (h : Holds rt inbox record) (hcomplete : ¬ Incomplete record) :
    FileInbox.persist rt {} inbox record = (inbox, .nil) := by
  rcases h.event with ⟨original, -, hrecords⟩
  rcases hrecords.payload with ⟨stored, hraw, -⟩
  have hencoded : ∃ encoded, marshalRecord rt record = .ok encoded := by
    rw [marshalRecord, hraw]
    exact ⟨_, rfl⟩
  rcases hencoded with ⟨encoded, hencoded⟩
  rw [FileInbox.persist, if_neg hcomplete, hencoded]
  dsimp only
  rw [h.known]
  exact if_pos rfl

/-- Nothing stands in the way of a record: its outbox ID and its event are free or
stand for it. -/
structure Expects (rt : InboxRuntime) (inbox : FileInbox) (record : InboxRecord) : Prop where
  known : ∀ known, inbox.outbox.lookup (aliasPath rt record.outboxID) = some known →
    known = marshalAlias rt record
  event : ∀ original, inbox.events.lookup (eventPath rt record.stream record.eventID) =
    some original → sameEvent original record = true

/-- An undisturbed call accepts a record that is expected and stored as it came. -/
theorem Expects.persist_eq_nil (h : Expects rt inbox record) (hstored : StoredAsIs rt record)
    {encoded : InboxRecord} (hencoded : marshalRecord rt record = .ok encoded)
    (hcomplete : ¬ Incomplete record) : (persist rt {} inbox record).2 = .nil := by
  cases hevent : inbox.events.lookup (eventPath rt record.stream record.eventID) with
  | some original =>
      rw [persist_of_stored hcomplete hencoded hevent]
      cases hknown : inbox.outbox.lookup (aliasPath rt record.outboxID) with
      | some known =>
          rw [h.known known hknown]
          exact .inl rfl
      | none =>
          right
          have hsame := h.event original hevent
          have hpayload : original.payload = record.payload := by
            simp only [sameEvent, Bool.and_eq_true, beq_iff_eq] at hsame
            exact hsame.2
          exact ⟨rfl, hpayload ▸ hstored.nested, hsame⟩
  | none =>
      cases hknown : inbox.outbox.lookup (aliasPath rt record.outboxID) with
      | none => rw [persist_new inbox hcomplete hencoded hevent hknown]
      | some known =>
          rw [persist, if_neg hcomplete, hencoded]
          dsimp only
          rw [hknown]
          dsimp only
          rw [if_pos (h.known known hknown)]

/-- However its own calls end, a record stored as it came stays expected. -/
theorem Expects.persist_same (h : Expects rt inbox record) (hstored : StoredAsIs rt record)
    (faults : Faults) : Expects rt (FileInbox.persist rt faults inbox record).1 record := by
  have heffect := persist_effect rt faults inbox record
  generalize FileInbox.persist rt faults inbox record = out at heffect ⊢
  have hevent : ∀ {encoded}, marshalRecord rt record = .ok encoded → ∀ original,
      (inbox.events.insert (eventPath rt record.stream record.eventID) encoded).lookup
        (eventPath rt record.stream record.eventID) = some original →
      sameEvent original record = true := by
    intro encoded hencoded original horiginal
    rw [AList.lookup_insert, Option.some.injEq] at horiginal
    rw [← horiginal]
    exact ((sameEvent_stored_iff hencoded).mpr hstored).2
  have hknown : ∀ known,
      (inbox.outbox.insert (aliasPath rt record.outboxID) (marshalAlias rt record)).lookup
        (aliasPath rt record.outboxID) = some known → known = marshalAlias rt record := by
    intro known hknown
    rw [AList.lookup_insert, Option.some.injEq] at hknown
    exact hknown.symm
  cases heffect with
  | untouched => exact h
  | publishes encoded ending hencodes => exact ⟨h.known, hevent hencodes⟩
  | aliases => exact ⟨hknown, h.event⟩
  | completes encoded ending hencodes => exact ⟨hknown, hevent hencodes⟩

/-- Calls for other events under other outbox IDs change nothing about it. -/
theorem Expects.persist_other (h : Expects rt inbox record) {other : InboxRecord}
    (houtbox : aliasPath rt record.outboxID ≠ aliasPath rt other.outboxID)
    (hother : eventPath rt record.stream record.eventID ≠
      eventPath rt other.stream other.eventID)
    (faults : Faults) : Expects rt (FileInbox.persist rt faults inbox other).1 record := by
  have heffect := persist_effect rt faults inbox other
  generalize FileInbox.persist rt faults inbox other = out at heffect ⊢
  cases heffect with
  | untouched => exact h
  | publishes => exact ⟨h.known, by rw [AList.lookup_insert_ne hother]; exact h.event⟩
  | aliases => exact ⟨by rw [AList.lookup_insert_ne houtbox]; exact h.known, h.event⟩
  | completes =>
      constructor
      · rw [AList.lookup_insert_ne houtbox]
        exact h.known
      · rw [AList.lookup_insert_ne hother]
        exact h.event

end Steps

end FileInbox

/-! ## The server -/

/-- The process of `main`: the libraries it is linked with, and the bearer token,
without which it does not start. -/
structure InboxServer where
  rt : InboxRuntime
  parse : JsonParser
  token : String
  token_ne : token ≠ ""

/-- What a request meets: the clock, and where `persist` is stopped. -/
structure Moment where
  now : GoTime
  faults : Faults

/-- A meeting without a fault. -/
def Moment.Sound (x : Moment) : Prop := x.faults = {}

instance : DecidablePred Moment.Sound := fun x => inferInstanceAs (Decidable (x.faults = {}))

namespace InboxServer

variable (server : InboxServer)

/-- The callbacks of `main`, on the inbox as it stands. -/
def callbacks (x : Moment) (inbox : FileInbox) : WebhookHandlerFuncs where
  ledger := some fun event delivery =>
    (inbox.persist server.rt x.faults ((Invocation.ledger event delivery).record x.now)).2.err
  notification := some fun event delivery =>
    (inbox.persist server.rt x.faults
      ((Invocation.notification event delivery).record x.now)).2.err

/-- The receiver of `main`. -/
def receiver (x : Moment) (inbox : FileInbox) : WebhookReceiver :=
  ⟨some (server.callbacks x inbox).handler, server.token, 0⟩

/-- Serve one request: the inbox after it, and the answer unless the process died. -/
def serve (inbox : FileInbox) (request : IncomingRequest) (x : Moment) :
    FileInbox × Option ResponseWriter :=
  let service := (server.receiver x inbox).serveHTTP server.parse .new request
  match service.invoked with
  | [] => (inbox, some service.writer)
  | invocation :: _ =>
      let out := inbox.persist server.rt x.faults (invocation.record x.now)
      (out.1, if out.2 = .crashed then none else some service.writer)

/-- The server as a receiver of deliveries. -/
def deliveries : Receiver FileInbox IncomingRequest Moment ResponseWriter where
  receive := server.serve

/-- Whether an answer has status 204. -/
def acknowledges (w : ResponseWriter) : Bool := w.head.any fun head => head.1 == 204

/-! ### What a request selects -/

/-- The part of the receiver that decides before a callback. -/
def gate : WebhookReceiver := ⟨none, server.token, 0⟩

/-- A request whose body arrives whole, and that is admitted and selects a
callback. -/
structure Selects (request : IncomingRequest) (invocation : Invocation) : Prop where
  complete : request.body.failure = none
  admits : server.gate.Admits request.header request.body.bytes
  selects : ∃ members, server.parse request.body.bytes = some (.object members) ∧
    Go.Selects members (deliveryContext request.header request.body.bytes) invocation

variable {server} {request : IncomingRequest} {invocation : Invocation}

/-- A request that selects an event carries the token. -/
theorem Selects.authorization (h : server.Selects request invocation) :
    request.header.get "Authorization" = "Bearer " ++ server.token := by
  have hauthorized := h.admits.authorized
  have htoken : server.gate.bearerToken ≠ "" := server.token_ne
  rw [WebhookReceiver.authorized, if_neg htoken] at hauthorized
  simp only [Bool.and_eq_true, beq_iff_eq] at hauthorized
  exact hauthorized.2

/-- A selected event is validated. -/
theorem Selects.validated (h : server.Selects request invocation) : invocation.Validated := by
  rcases h.selects with ⟨members, -, hselects⟩
  exact hselects.validated

/-- Its delivery context is that of the request. -/
theorem Selects.payload (h : server.Selects request invocation) (now : GoTime) :
    (invocation.record now).payload = request.body.bytes ∧
      (invocation.record now).outboxID = goString (outboxID request.header) := by
  rcases h.selects with ⟨members, -, hselects⟩
  cases hselects <;> exact ⟨rfl, rfl⟩

/-- Its record is complete. -/
theorem Selects.complete_record (h : server.Selects request invocation) (now : GoTime) :
    ¬ FileInbox.Incomplete (invocation.record now) := by
  have houtbox : goString (outboxID request.header) ≠ [] :=
    mt goString_eq_nil_iff.mp h.admits.outboxID
  rcases h.selects with ⟨members, -, hselects⟩
  cases hselects with
  | ledger stream decodes valid =>
      have hvalid := (validateLedgerWebhook_eq_none_iff _).mp valid
      rintro (hempty | hempty | hempty | hempty)
      · exact houtbox hempty
      · cases hempty
      · exact hvalid.eventID (goString_eq_nil_iff.mp hempty)
      · exact hvalid.businessID (goString_eq_nil_iff.mp hempty)
  | notification noLedger stream decodes valid =>
      have hvalid := (validateNotificationWebhook_eq_none_iff _).mp valid
      rintro (hempty | hempty | hempty | hempty)
      · exact houtbox hempty
      · cases hempty
      · exact houtbox hempty
      · exact hvalid.businessID (goString_eq_nil_iff.mp hempty)

/-! ### What the server does -/

/-- What `ServeHTTP` hands to `Receive`. -/
theorem serveHTTP_cases (r : WebhookReceiver) (hlimit : r.bodyLimit = 2 ^ 20) (parse : JsonParser)
    (request : IncomingRequest) :
    (r.serveHTTP parse .new request = ⟨(errorResponse 413
        "request body exceeds the configured limit").writeHTTP .new, []⟩ ∧
      ¬ (request.body.failure = none ∧ request.body.bytes.length ≤ r.bodyLimit)) ∨
      (r.serveHTTP parse .new request =
        ⟨(r.receive parse request.header request.body.bytes).response.writeHTTP .new,
          (r.receive parse request.header request.body.bytes).invoked⟩ ∧
        request.body.failure = none) := by
  have hlt : r.bodyLimit < 2 ^ 63 - 1 := by
    rw [hlimit]
    decide
  rcases readBoundedBody_of_lt r.bodyLimit_pos hlt request.body with
    ⟨err, hread, hcause⟩ | ⟨hread, hcomplete, hshort⟩
  · left
    rw [WebhookReceiver.serveHTTP, hread]
    refine ⟨rfl, ?_⟩
    rintro ⟨hcomplete, hshort⟩
    rcases hcause with hfailed | hlong
    · exact hfailed hcomplete
    · omega
  · right
    rw [WebhookReceiver.serveHTTP, hread]
    exact ⟨rfl, hcomplete⟩

variable (server) in
/-- The callbacks return what `persist` does. -/
theorem run_callbacks (x : Moment) (inbox : FileInbox) (invocation : Invocation) :
    invocation.run (server.callbacks x inbox).handler =
      (inbox.persist server.rt x.faults (invocation.record x.now)).2.err := by
  cases invocation <;> rfl

/-- The receiver decides like its gate. -/
theorem receiver_dispatch_iff (x : Moment) (inbox : FileInbox) (handler : WebhookHandler) :
    (server.receiver x inbox).dispatch server.parse request.header request.body.bytes =
        .invoke handler invocation ↔
      handler = (server.callbacks x inbox).handler ∧
        server.gate.Admits request.header request.body.bytes ∧
        ∃ members, server.parse request.body.bytes = some (.object members) ∧
          Go.Selects members (deliveryContext request.header request.body.bytes) invocation := by
  rw [WebhookReceiver.dispatch_eq_invoke_iff]
  have hadmits : (server.receiver x inbox).Admits request.header request.body.bytes ↔
      server.gate.Admits request.header request.body.bytes :=
    ⟨fun h => ⟨h.nonempty, h.withinLimit, h.authorized, h.outboxID⟩,
      fun h => ⟨h.nonempty, h.withinLimit, h.authorized, h.outboxID⟩⟩
  have hhandler : (server.receiver x inbox).handler = some handler ↔
      handler = (server.callbacks x inbox).handler := by
    simp [receiver, eq_comm]
  rw [hadmits, hhandler]
  tauto

/-- A selected event is persisted, and the answer says how that ended. -/
theorem serve_of_selects (h : server.Selects request invocation) (inbox : FileInbox)
    (x : Moment) :
    ∃ w, w.Sent (invocation.respond
        (inbox.persist server.rt x.faults (invocation.record x.now)).2.err) ∧
      server.serve inbox request x =
        ((inbox.persist server.rt x.faults (invocation.record x.now)).1,
          if (inbox.persist server.rt x.faults (invocation.record x.now)).2 = .crashed then none
          else some w) := by
  have hdispatch := (receiver_dispatch_iff x inbox _).mpr ⟨rfl, h.admits, h.selects⟩
  have hreceive := WebhookReceiver.receive_of_invoke hdispatch
  have hplain := (server.receiver x inbox).receive_plain server.parse request.header
    request.body.bytes
  rw [hreceive, run_callbacks] at hplain
  rcases serveHTTP_cases (server.receiver x inbox) rfl server.parse request with
    ⟨-, hnot⟩ | ⟨hserve, -⟩
  · exact absurd ⟨h.complete, h.admits.withinLimit⟩ hnot
  · rw [hreceive, run_callbacks] at hserve
    refine ⟨_, WebhookResponse.sent_writeHTTP hplain, ?_⟩
    rw [serve, hserve]

/-- Every other request is refused and leaves the inbox alone. -/
theorem serve_of_unselected (h : ∀ invocation, ¬ server.Selects request invocation)
    (inbox : FileInbox) (x : Moment) :
    ∃ w response, w.Sent response ∧ response.Refuses ∧
      server.serve inbox request x = (inbox, some w) := by
  rcases serveHTTP_cases (server.receiver x inbox) rfl server.parse request with
    ⟨hserve, -⟩ | ⟨hserve, hcomplete⟩
  · refine ⟨_, errorResponse 413 "request body exceeds the configured limit",
      WebhookResponse.sent_writeHTTP (errorResponse_plain _ _),
      errorResponse_refuses (by decide) _, ?_⟩
    rw [serve, hserve]
  · cases hdispatch : (server.receiver x inbox).dispatch server.parse request.header
      request.body.bytes with
    | respond response =>
        have hreceive := WebhookReceiver.receive_of_respond hdispatch
        have hplain := (server.receiver x inbox).receive_plain server.parse request.header
          request.body.bytes
        rw [hreceive] at hplain hserve
        refine ⟨_, _, WebhookResponse.sent_writeHTTP hplain,
          WebhookReceiver.dispatch_refuses hdispatch, ?_⟩
        rw [serve, hserve]
    | invoke handler invocation =>
        obtain ⟨-, hadmits, hselects⟩ := (receiver_dispatch_iff x inbox _).mp hdispatch
        exact absurd ⟨hcomplete, hadmits, hselects⟩ (h invocation)

/-- Everything the server can do with a request. -/
theorem serve_cases (server : InboxServer) (inbox : FileInbox) (request : IncomingRequest)
    (x : Moment) :
    (∃ invocation w, server.Selects request invocation ∧
      w.Sent (invocation.respond
        (inbox.persist server.rt x.faults (invocation.record x.now)).2.err) ∧
      server.serve inbox request x =
        ((inbox.persist server.rt x.faults (invocation.record x.now)).1,
          if (inbox.persist server.rt x.faults (invocation.record x.now)).2 = .crashed then none
          else some w)) ∨
      ∃ w response, w.Sent response ∧ response.Refuses ∧
        server.serve inbox request x = (inbox, some w) := by
  by_cases hselected : ∃ invocation, server.Selects request invocation
  · rcases hselected with ⟨invocation, hselects⟩
    rcases serve_of_selects hselects inbox x with ⟨w, hsent, hserve⟩
    exact .inl ⟨invocation, w, hselects, hsent, hserve⟩
  · exact .inr (serve_of_unselected (not_exists.mp hselected) inbox x)

/-- An answer acknowledges when its response has status 204. -/
theorem acknowledges_iff {w : ResponseWriter} {response : WebhookResponse}
    (h : w.Sent response) : acknowledges w = true ↔ response.statusCode = 204 := by
  simp [acknowledges, h.head]

/-! ### Durability -/

variable (server) in
/-- The event of a request is held, whenever it came. -/
def Kept (inbox : FileInbox) (request : IncomingRequest) : Prop :=
  ∃ invocation, server.Selects request invocation ∧
    ∀ now, inbox.Holds server.rt (invocation.record now)

/-- What is held of an event does not depend on when it came. -/
theorem holds_record_iff {rt : InboxRuntime} {inbox : FileInbox} (invocation : Invocation)
    (now now' : GoTime) :
    inbox.Holds rt (invocation.record now) ↔ inbox.Holds rt (invocation.record now') := by
  cases invocation <;>
    exact ⟨fun h => ⟨h.known, h.event.imp fun _ hevent =>
        ⟨hevent.1, ⟨hevent.2.1, hevent.2.2, hevent.2.3, hevent.2.4, hevent.2.5⟩⟩⟩,
      fun h => ⟨h.known, h.event.imp fun _ hevent =>
        ⟨hevent.1, ⟨hevent.2.1, hevent.2.2, hevent.2.3, hevent.2.4, hevent.2.5⟩⟩⟩⟩

/-- A request selects one event. -/
theorem Selects.unique (h : server.Selects request invocation) {other : Invocation}
    (hother : server.Selects request other) : invocation = other := by
  have hone := (receiver_dispatch_iff ⟨⟨false, ""⟩, {}⟩ .empty _).mpr ⟨rfl, h.admits, h.selects⟩
  have htwo := (receiver_dispatch_iff ⟨⟨false, ""⟩, {}⟩ .empty _).mpr
    ⟨rfl, hother.admits, hother.selects⟩
  rw [hone] at htwo
  exact (Dispatch.invoke.inj htwo).2

/-- An acknowledged event was persisted. -/
theorem persisted_of_acknowledged {inbox : FileInbox} {x : Moment} {w : ResponseWriter}
    (hsent : w.Sent (invocation.respond
      (inbox.persist server.rt x.faults (invocation.record x.now)).2.err))
    (hacked : acknowledges w = true) :
    (inbox.persist server.rt x.faults (invocation.record x.now)).2 = .nil := by
  rw [acknowledges_iff hsent] at hacked
  cases herr : (inbox.persist server.rt x.faults (invocation.record x.now)).2.err with
  | none => exact (Ending.err_eq_none_iff _).mp herr
  | some error =>
      rw [herr] at hacked
      exact absurd hacked (invocation.respond_error_refuses error).statusCode_ne

/-- A kept event is acknowledged again without a change, in the same words. -/
theorem serve_kept {inbox : FileInbox} (hselects : server.Selects request invocation)
    (hheld : ∀ now, inbox.Holds server.rt (invocation.record now)) {x : Moment}
    (hsound : x.Sound) :
    ∃ w, w.Sent (invocation.respond none) ∧ server.serve inbox request x = (inbox, some w) := by
  rcases serve_of_selects hselects inbox x with ⟨w, hsent, hserve⟩
  rw [show x.faults = {} from hsound,
    (hheld x.now).persist_again (hselects.complete_record x.now)] at hsent hserve
  exact ⟨w, hsent, hserve⟩

/-- The server keeps what it acknowledges. -/
theorem durable (server : InboxServer) :
    Durable server.deliveries acknowledges (FileInbox.Backed server.rt) server.Kept where
  invariant inbox request x hbacked := by
    change FileInbox.Backed server.rt (server.serve inbox request x).1
    rcases server.serve_cases inbox request x with
      ⟨invocation, w, -, -, hserve⟩ | ⟨w, response, -, -, hserve⟩
    · rw [hserve]
      exact (FileInbox.persist_keeps hbacked (invocation.record_hasText x.now) x.faults).1
    · rwa [hserve]
  acked inbox request x hbacked hacked := by
    change ((server.serve inbox request x).2.any acknowledges) = true at hacked
    change server.Kept (server.serve inbox request x).1 request
    rcases server.serve_cases inbox request x with
      ⟨invocation, w, hselects, hsent, hserve⟩ | ⟨w, response, hsent, hrefuses, hserve⟩
    · rw [hserve] at hacked ⊢
      dsimp only at hacked
      split at hacked
      · cases hacked
      · have hnil := persisted_of_acknowledged hsent hacked
        have hheld := (FileInbox.persist_keeps hbacked (invocation.record_hasText x.now)
          x.faults).2 hnil
        exact ⟨invocation, hselects, fun now => (holds_record_iff invocation x.now now).mp hheld⟩
    · rw [hserve, Option.any_some, acknowledges_iff hsent] at hacked
      exact absurd hacked hrefuses.statusCode_ne
  lasts inbox request x other hbacked hkept := by
    rcases hkept with ⟨held, hheldSelects, hheld⟩
    change server.Kept (server.serve inbox request x).1 other
    rcases server.serve_cases inbox request x with
      ⟨invocation, w, -, -, hserve⟩ | ⟨w, response, -, -, hserve⟩
    · rw [hserve]
      exact ⟨held, hheldSelects, fun now => (hheld now).persist x.faults _⟩
    · rw [hserve]
      exact ⟨held, hheldSelects, hheld⟩

/-- Requests under one outbox ID that are both kept have one body. -/
theorem body_eq_of_kept {inbox : FileInbox} {other : IncomingRequest}
    (h : server.Kept inbox request) (h' : server.Kept inbox other)
    (hsame : outboxID other.header = outboxID request.header) :
    other.body.bytes = request.body.bytes := by
  rcases h with ⟨invocation, hselects, hheld⟩
  rcases h' with ⟨invocation', hselects', hheld'⟩
  have hknown := (hheld ⟨false, ""⟩).known
  have hknown' := (hheld' ⟨false, ""⟩).known
  obtain ⟨hpayload, houtbox⟩ := hselects.payload ⟨false, ""⟩
  obtain ⟨hpayload', houtbox'⟩ := hselects'.payload ⟨false, ""⟩
  rw [houtbox', hsame, ← houtbox, hknown, Option.some.injEq] at hknown'
  have hidentity := FileInbox.identity_eq_of_marshalAlias_eq (invocation.record_hasText _)
    (invocation'.record_hasText _) hknown'
  have hbytes := congrArg FileInbox.Identity.payload hidentity
  rw [← hpayload, ← hpayload']
  exact hbytes.symm

/-- A delivery that is answered with 204, in any run of requests and faults, gets the
answer of its stream, is in the inbox for good, and is answered in the same words
again without a change.  No other body is ever acknowledged under its outbox ID. -/
theorem acknowledged_for_good (server : InboxServer)
    (before after : List (IncomingRequest × Moment)) (request : IncomingRequest) (x : Moment) :
    let inbox := server.deliveries.run .empty before
    let later := server.deliveries.run (server.serve inbox request x).1 after
    server.deliveries.Acknowledges acknowledges inbox request x →
    ∃ invocation, server.Selects request invocation ∧
      (∃ w, (server.serve inbox request x).2 = some w ∧ w.Sent (invocation.respond none)) ∧
      (∀ now, later.Holds server.rt (invocation.record now)) ∧
      (∀ x' : Moment, x'.Sound → ∃ w, w.Sent (invocation.respond none) ∧
        server.serve later request x' = (later, some w)) ∧
      ∀ other x', server.deliveries.Acknowledges acknowledges later other x' →
        outboxID other.header = outboxID request.header →
          other.body.bytes = request.body.bytes := by
  intro inbox later hacked
  have hinbox : inbox.Backed server.rt :=
    server.durable.invariant_run (FileInbox.backed_empty server.rt) before
  have hfirst := server.durable.acked inbox request x hinbox hacked
  have hafter : (server.serve inbox request x).1.Backed server.rt :=
    server.durable.invariant inbox request x hinbox
  have hlater : later.Backed server.rt := server.durable.invariant_run hafter after
  have hkept : server.Kept later request := server.durable.kept_run hafter hfirst after
  rcases hkept with ⟨invocation, hselects, hheld⟩
  refine ⟨invocation, hselects, ?_, hheld, fun x' hsound => serve_kept hselects hheld hsound, ?_⟩
  · rcases serve_of_selects hselects inbox x with ⟨w, hsent, hserve⟩
    change ((server.serve inbox request x).2.any acknowledges) = true at hacked
    rw [hserve] at hacked ⊢
    dsimp only at hacked ⊢
    split at hacked
    · cases hacked
    · rename_i halive
      rw [persisted_of_acknowledged hsent hacked] at hsent
      exact ⟨w, if_neg halive, hsent⟩
  · intro other x' hother hsame
    have hboth := server.durable.acked later other x' hlater hother
    have hstill := server.durable.lasts later other x' request hlater
      ⟨invocation, hselects, hheld⟩
    exact body_eq_of_kept hstill hboth hsame

/-! ### Where the events come from -/

/-- The event files of an inbox. -/
def Stores (inbox : FileInbox) (file : String × InboxRecord) : Prop :=
  inbox.events.lookup file.1 = some file.2

variable (server) in
/-- The event file a request may leave behind. -/
def Makes (request : IncomingRequest) (file : String × InboxRecord) : Prop :=
  ∃ invocation now, server.Selects request invocation ∧
    file.1 = FileInbox.eventPath server.rt (invocation.record now).stream
      (invocation.record now).eventID ∧
    marshalRecord server.rt (invocation.record now) = .ok file.2

/-- A file that is there after an insertion is the new one, or was there. -/
theorem stores_insert {inbox : FileInbox} {path : String} {encoded : InboxRecord}
    {outbox : Directory OutboxAlias} {file : String × InboxRecord}
    (h : Stores ⟨inbox.events.insert path encoded, outbox⟩ file) :
    Stores inbox file ∨ file = (path, encoded) := by
  rcases file with ⟨other, record⟩
  by_cases hother : other = path
  · subst hother
    right
    have hrecord : encoded = record := by simpa [Stores] using h
    rw [hrecord]
  · left
    rw [Stores] at h ⊢
    rwa [AList.lookup_insert_ne hother] at h

/-- The server stores nothing of its own. -/
theorem introduces (server : InboxServer) :
    Introduces server.deliveries Stores server.Makes := by
  intro inbox request x file hfile
  change Stores (server.serve inbox request x).1 file at hfile
  rcases server.serve_cases inbox request x with
    ⟨invocation, w, hselects, -, hserve⟩ | ⟨w, response, -, -, hserve⟩
  · rw [hserve] at hfile
    dsimp only at hfile
    have heffect := FileInbox.persist_effect server.rt x.faults inbox (invocation.record x.now)
    generalize inbox.persist server.rt x.faults (invocation.record x.now) = out at heffect hfile
    cases heffect with
    | untouched => exact .inl hfile
    | aliases => exact .inl hfile
    | publishes encoded ending hencodes =>
        rcases stores_insert hfile with hold | rfl
        · exact .inl hold
        · exact .inr ⟨invocation, x.now, hselects, rfl, hencodes⟩
    | completes encoded ending hencodes =>
        rcases stores_insert hfile with hold | rfl
        · exact .inl hold
        · exact .inr ⟨invocation, x.now, hselects, rfl, hencodes⟩
  · rw [hserve] at hfile
    exact .inl hfile

/-- Every event file is the validated event of a request with the bearer token. -/
theorem events_authorized (server : InboxServer) (requests : List (IncomingRequest × Moment))
    {path : String} {record : InboxRecord}
    (h : (server.deliveries.run .empty requests).events.lookup path = some record) :
    ∃ request ∈ requests, ∃ (invocation : Invocation) (now : GoTime),
      request.1.header.get "Authorization" = "Bearer " ++ server.token ∧
      invocation.Validated ∧ (invocation.record now).payload = request.1.body.bytes ∧
      path = FileInbox.eventPath server.rt (invocation.record now).stream
        (invocation.record now).eventID ∧
      marshalRecord server.rt (invocation.record now) = .ok record := by
  rcases server.introduces.run (k := (path, record)) h with hempty | ⟨request, hmem, hmakes⟩
  · cases hempty
  · rcases hmakes with ⟨invocation, now, hselects, hpath, hencodes⟩
    exact ⟨request, hmem, invocation, now, hselects.authorization, hselects.validated,
      (hselects.payload now).1, hpath, hencodes⟩

/-! ### A ledger stream -/

variable (server) in
/-- A body that `encoding/json` stores as it came. -/
structure Compact (request : IncomingRequest) : Prop where
  settled : CompactJson.settled .between request.body.bytes = true
  whole : server.rt.syntaxError 0 request.body.bytes = none
  nested : server.rt.syntaxError 1 request.body.bytes = none

/-- The record of a compact body is stored as it came. -/
theorem Selects.storedAsIs (h : server.Selects request invocation)
    (hcompact : server.Compact request) (now : GoTime) :
    FileInbox.StoredAsIs server.rt (invocation.record now) ∧
      ∃ encoded, marshalRecord server.rt (invocation.record now) = .ok encoded := by
  have htext := invocation.record_hasText now
  have hpayload := (h.payload now).1
  have hnonempty : request.body.bytes ≠ [] := List.length_pos_iff.mp h.admits.nonempty
  constructor
  · constructor
    · exact htext.stream
    · exact htext.eventID
    · exact htext.businessID
    · rwa [hpayload]
    · rw [hpayload]
      exact hcompact.settled
    · rw [hpayload]
      exact hcompact.nested
  · rw [marshalRecord, hpayload, marshalRawMessage, if_neg hnonempty, hcompact.whole]
    exact ⟨_, rfl⟩

/-- What is expected of an event does not depend on when it came. -/
theorem expects_record {rt : InboxRuntime} {inbox : FileInbox} {now : GoTime}
    (h : inbox.Expects rt (invocation.record now)) (now' : GoTime) :
    inbox.Expects rt (invocation.record now') := by
  cases invocation <;> exact ⟨h.known, h.event⟩

variable (server) in
/-- A compact delivery that nothing stands in the way of. -/
def Ready (inbox : FileInbox) (request : IncomingRequest) : Prop :=
  server.Compact request ∧ ∃ invocation, server.Selects request invocation ∧
    ∀ now, inbox.Expects server.rt (invocation.record now)

variable (server) in
/-- Two deliveries of different events under different outbox IDs. -/
def Independent (request other : IncomingRequest) : Prop :=
  ∀ invocation invocation', server.Selects request invocation →
    server.Selects other invocation' → ∀ now now',
      FileInbox.aliasPath server.rt (invocation'.record now').outboxID ≠
        FileInbox.aliasPath server.rt (invocation.record now).outboxID ∧
      FileInbox.eventPath server.rt (invocation'.record now').stream
          (invocation'.record now').eventID ≠
        FileInbox.eventPath server.rt (invocation.record now).stream
          (invocation.record now).eventID

/-- The server accepts compact deliveries however often it was disturbed. -/
theorem available (server : InboxServer) :
    Available server.deliveries acknowledges Moment.Sound (fun _ => True) server.Ready
      server.Independent where
  invariant _ _ _ _ := trivial
  accepts inbox request x _ hready hsound := by
    rcases hready with ⟨hcompact, invocation, hselects, hexpects⟩
    rcases hselects.storedAsIs hcompact x.now with ⟨hstored, encoded, hencoded⟩
    have hnil := (hexpects x.now).persist_eq_nil hstored hencoded
      (hselects.complete_record x.now)
    rcases serve_of_selects hselects inbox x with ⟨w, hsent, hserve⟩
    rw [show x.faults = {} from hsound, hnil] at hsent hserve
    change ((server.serve inbox request x).2.any acknowledges) = true
    rw [hserve, if_neg (by decide), Option.any_some, acknowledges_iff hsent]
    exact invocation.respond_none_statusCode
  same inbox request x _ hready := by
    rcases hready with ⟨hcompact, invocation, hselects, hexpects⟩
    have hstored := (hselects.storedAsIs hcompact x.now).1
    rcases serve_of_selects hselects inbox x with ⟨w, -, hserve⟩
    change server.Ready (server.serve inbox request x).1 request
    rw [hserve]
    exact ⟨hcompact, invocation, hselects, fun now =>
      expects_record ((hexpects x.now).persist_same hstored x.faults) now⟩
  others inbox request x other _ hindependent hready := by
    rcases hready with ⟨hcompact, held, hheld, hexpects⟩
    change server.Ready (server.serve inbox request x).1 other
    rcases server.serve_cases inbox request x with
      ⟨invocation, w, hselects, -, hserve⟩ | ⟨w, response, -, -, hserve⟩
    · rw [hserve]
      refine ⟨hcompact, held, hheld, fun now => ?_⟩
      rcases hindependent _ _ hselects hheld x.now now with ⟨houtbox, hevent⟩
      exact (hexpects now).persist_other houtbox hevent x.faults
    · rw [hserve]
      exact ⟨hcompact, held, hheld, hexpects⟩

/-- The deliveries of one ledger stream: the events are numbered from the first one
on, and each has its own event ID and its own outbox ID. -/
structure LedgerStream (server : InboxServer) (first : ℤ) (items : List IncomingRequest)
    (events : List LedgerWebhook) : Prop where
  length : items.length = events.length
  selects : ∀ (i : ℕ) request event, items[i]? = some request → events[i]? = some event →
    ∃ delivery, server.Selects request (.ledger event delivery)
  numbered : ∀ (i : ℕ) event, events[i]? = some event → event.businessSequence = first + i
  outboxIDs : items.Pairwise fun request other => outboxID request.header ≠ outboxID other.header
  eventIDs : events.Pairwise fun event other => event.eventID ≠ other.eventID

section Streams

variable {first : ℤ} {items : List IncomingRequest} {events : List LedgerWebhook}

/-- The event of an item. -/
theorem LedgerStream.event (h : LedgerStream server first items events) {i : ℕ}
    {request : IncomingRequest} (hitem : items[i]? = some request) :
    ∃ event delivery, events[i]? = some event ∧
      server.Selects request (.ledger event delivery) := by
  have hlt : i < events.length := h.length ▸ (List.getElem?_eq_some_iff.mp hitem).1
  have hevent : events[i]? = some events[i] := List.getElem?_eq_getElem hlt
  rcases h.selects i request _ hitem hevent with ⟨delivery, hselects⟩
  exact ⟨events[i], delivery, hevent, hselects⟩

/-- The ledger events of a stream have event files of their own. -/
theorem eventPath_ledger_inj {rt : InboxRuntime} {s t : String}
    (h : FileInbox.eventPath rt (asciiBytes "ledger") (goString s) =
      FileInbox.eventPath rt (asciiBytes "ledger") (goString t)) : s = t := by
  rw [FileInbox.eventPath, FileInbox.eventPath] at h
  have hdigest := rt.digest_injective ((String.append_left_inj ".json").mp h)
  exact goString_inj.mp (List.append_cancel_left hdigest)

/-- Its deliveries are independent. -/
theorem LedgerStream.independent (h : LedgerStream server first items events) :
    items.Pairwise server.Independent := by
  rw [List.pairwise_iff_getElem]
  intro i j hi hj hij invocation invocation' hselects hselects' now now'
  rcases h.event (List.getElem?_eq_getElem hi) with ⟨event, delivery, hevent, hledger⟩
  rcases h.event (List.getElem?_eq_getElem hj) with ⟨event', delivery', hevent', hledger'⟩
  obtain rfl := hselects.unique hledger
  obtain rfl := hselects'.unique hledger'
  have houtbox := List.pairwise_iff_getElem.mp h.outboxIDs i j hi hj hij
  rw [List.getElem?_eq_some_iff] at hevent hevent'
  obtain ⟨hlt, rfl⟩ := hevent
  obtain ⟨hlt', rfl⟩ := hevent'
  have heventID := List.pairwise_iff_getElem.mp h.eventIDs i j hlt hlt' hij
  constructor
  · intro hsame
    have hbytes := FileInbox.aliasPath_injective server.rt hsame
    rw [(hselects.payload now).2, (hselects'.payload now').2, goString_inj] at hbytes
    exact houtbox hbytes.symm
  · intro hsame
    exact heventID (eventPath_ledger_inj hsame).symm

/-- The event file of an item. -/
theorem LedgerStream.makes (h : LedgerStream server first items events) {i : ℕ}
    {request : IncomingRequest} (hitem : items[i]? = some request)
    {file : String × InboxRecord} (hmakes : server.Makes request file) :
    ∃ event, events[i]? = some event ∧
      file.1 = FileInbox.eventPath server.rt (asciiBytes "ledger") (goString event.eventID) ∧
      file.2.businessSequence = first + i := by
  rcases h.event hitem with ⟨event, delivery, hevent, hledger⟩
  rcases hmakes with ⟨invocation, now, hselects, hpath, hencodes⟩
  obtain rfl := hselects.unique hledger
  have hrecords := FileInbox.records_encoded (Invocation.record_hasText _ now) hencodes
  exact ⟨event, hevent, hpath, hrecords.businessSequence.trans (h.numbered i event hevent)⟩

/-- The event of a kept item. -/
theorem LedgerStream.kept (h : LedgerStream server first items events) {i : ℕ}
    {request : IncomingRequest} (hitem : items[i]? = some request) {inbox : FileInbox}
    (hkept : server.Kept inbox request) :
    ∃ path record, inbox.events.lookup path = some record ∧
      record.businessSequence = first + i := by
  rcases h.event hitem with ⟨event, delivery, hevent, hledger⟩
  rcases hkept with ⟨invocation, hselects, hheld⟩
  obtain rfl := hselects.unique hledger
  rcases (hheld ⟨false, ""⟩).event with ⟨original, hstored, hrecords⟩
  exact ⟨_, original, hstored, hrecords.businessSequence.trans (h.numbered i event hevent)⟩

/-- A sender that is alone with its ledger stream and repeats each delivery until it
hears a 204: whatever the network and the disk do, the inbox holds each of the first
events exactly once, all before the cursor and at most the one at the cursor.  If the
bodies are compact, each attempt that meets no fault and is heard moves the cursor. -/
theorem stream_replicated (server : InboxServer) {first : ℤ} {items : List IncomingRequest}
    {events : List LedgerWebhook} (h : LedgerStream server first items events)
    {turns : List (Turn IncomingRequest Moment)} (halone : Alone turns) :
    let line := relay server.deliveries acknowledges items ⟨.empty, 0⟩ turns
    line.next ≤ items.length ∧
    (∀ i < line.next, ∃ path record,
      line.receiver.events.lookup path = some record ∧ record.businessSequence = first + i) ∧
    (∀ path record, line.receiver.events.lookup path = some record →
      first ≤ record.businessSequence ∧ record.businessSequence ≤ first + line.next ∧
      ∀ path' record', line.receiver.events.lookup path' = some record' →
        record'.businessSequence = record.businessSequence → path' = path) ∧
    ((∀ request ∈ items, server.Compact request) →
      min items.length (turns.countP fun t => t.Healthy Moment.Sound) ≤ line.next) := by
  intro line
  have hsettled : line.Settled (FileInbox.Backed server.rt) server.Kept items := by
    apply server.durable.kept_relay
    exact ⟨FileInbox.backed_empty server.rt, Nat.zero_le _, fun i item hi => absurd hi (by simp)⟩
  have hfile : ∀ path record, line.receiver.events.lookup path = some record →
      ∃ i event, i ≤ line.next ∧ events[i]? = some event ∧ path = FileInbox.eventPath server.rt
        (asciiBytes "ledger") (goString event.eventID) ∧
        record.businessSequence = first + i := by
    intro path record hlookup
    rcases server.introduces.relay halone (k := (path, record)) hlookup with
      hempty | ⟨i, item, hi, hitem, hmakes⟩
    · cases hempty
    · rcases h.makes hitem hmakes with ⟨event, hevent, hpath, hsequence⟩
      exact ⟨i, event, hi, hevent, hpath, hsequence⟩
  refine ⟨hsettled.within, ?_, ?_, ?_⟩
  · intro i hi
    have hlt : i < items.length := Nat.lt_of_lt_of_le hi hsettled.within
    have hitem : items[i]? = some items[i] := List.getElem?_eq_getElem hlt
    exact h.kept hitem (hsettled.kept i _ hi hitem)
  · intro path record hlookup
    rcases hfile path record hlookup with ⟨i, event, hi, hevent, hpath, hsequence⟩
    refine ⟨by omega, by omega, ?_⟩
    intro path' record' hlookup' hsame
    rcases hfile path' record' hlookup' with ⟨j, event', -, hevent', hpath', hsequence'⟩
    obtain rfl : j = i := by omega
    obtain rfl : event' = event := Option.some.inj (hevent'.symm.trans hevent)
    exact hpath'.trans hpath.symm
  · intro hcompact
    have hready : (⟨.empty, 0⟩ : Line FileInbox).Expects server.Ready items := by
      intro i item _ hitem
      rcases h.event hitem with ⟨event, delivery, -, hselects⟩
      refine ⟨hcompact item (List.mem_of_getElem? hitem), _, hselects, fun now => ?_⟩
      constructor
      · intro known hknown
        cases hknown
      · intro original horiginal
        cases horiginal
    simpa using server.available.progress h.independent trivial hready halone

end Streams

/-! ### One delivery -/

/-- A server that knows one body. -/
def usageServer : InboxServer :=
  ⟨FileInbox.acceptingRuntime, parseOne (rejectedUsageBody "") (rejectedUsage []), "secret",
    by decide⟩

/-- The delivery with that body. -/
def usageDelivery : IncomingRequest :=
  ⟨deliveryHeaders.insert "Authorization" ["Bearer secret"], ⟨rejectedUsageBody "", none⟩⟩

/-- A moment without a fault. -/
def quiet : Moment := ⟨⟨false, "2026-01-01T00:00:00Z"⟩, {}⟩

/-- A crash between the two files. -/
def crashing : Moment := ⟨⟨false, "2026-01-01T00:00:00Z"⟩, FileInbox.crashBetween⟩

theorem usage_selects :
    ∃ event delivery, usageServer.Selects usageDelivery (.ledger event delivery) ∧
      event.businessSequence = 1 := by
  have hlength : 0 < (rejectedUsageBody "").length ∧
      (rejectedUsageBody "").length ≤ 1048576 := by
    simp only [rejectedUsageBody, List.length_append]
    decide
  have hadmits : usageServer.gate.Admits usageDelivery.header usageDelivery.body.bytes := by
    refine ⟨hlength.1, ?_, by decide, by decide⟩
    have hlimit : usageServer.gate.bodyLimit = 1048576 := by decide
    rw [hlimit]
    exact_mod_cast hlength.2
  have hparse : usageServer.parse usageDelivery.body.bytes =
      some (.object (rejectedUsage [])) := by
    simp only [usageServer, usageDelivery, parseOne, if_pos]
  exact ⟨_, _, ⟨rfl, hadmits, rejectedUsage [], hparse, .ledger rfl rfl rfl⟩, rfl⟩

theorem usage_ready : usageServer.Ready .empty usageDelivery := by
  obtain ⟨event, delivery, hselects, -⟩ := usage_selects
  refine ⟨⟨?_, rfl, rfl⟩, _, hselects, fun now => ⟨?_, ?_⟩⟩
  · set_option maxRecDepth 4096 in
      exact (by decide : CompactJson.settled .between (rejectedUsageBody "") = true)
  · intro known hknown
    cases hknown
  · intro original horiginal
    cases horiginal

/-- After a crash between the two files the delivery is acknowledged. -/
theorem usage_acknowledged :
    usageServer.deliveries.Acknowledges acknowledges
      (usageServer.deliveries.run .empty [(usageDelivery, crashing)]) usageDelivery quiet := by
  have hready := usageServer.available.same .empty usageDelivery crashing trivial usage_ready
  exact usageServer.available.accepts _ usageDelivery quiet trivial hready rfl

/-- Then it is in the inbox for good. -/
theorem usage_acknowledged_for_good :
    ∃ invocation, usageServer.Selects usageDelivery invocation ∧
      ∀ now, (usageServer.deliveries.run (usageServer.serve (usageServer.deliveries.run .empty
        [(usageDelivery, crashing)]) usageDelivery quiet).1 [(usageDelivery, crashing)]).Holds
          usageServer.rt (invocation.record now) := by
  obtain ⟨invocation, hselects, -, hheld, -⟩ := usageServer.acknowledged_for_good
    [(usageDelivery, crashing)] [(usageDelivery, crashing)] usageDelivery quiet usage_acknowledged
  exact ⟨invocation, hselects, hheld⟩

/-- Its event file is that of an authorized request. -/
theorem usage_authorized :
    ∃ path record,
      (usageServer.deliveries.run .empty ([(usageDelivery, crashing)] ++
        [(usageDelivery, quiet)])).events.lookup path = some record ∧
      ∃ request ∈ [(usageDelivery, crashing)] ++ [(usageDelivery, quiet)],
        request.1.header.get "Authorization" = "Bearer " ++ usageServer.token := by
  have hacked := usageServer.durable.acked _ usageDelivery quiet
    (usageServer.durable.invariant_run (FileInbox.backed_empty usageServer.rt)
      [(usageDelivery, crashing)]) usage_acknowledged
  rw [← Receiver.run_concat] at hacked
  obtain ⟨invocation, -, hheld⟩ := hacked
  obtain ⟨record, hrecord, -⟩ := (hheld quiet.now).event
  obtain ⟨request, hmem, -, -, hauthorized, -⟩ := usageServer.events_authorized _ hrecord
  exact ⟨_, record, hrecord, request, hmem, hauthorized⟩

/-- The delivery is attempted into a crash, unheard, and heard. -/
def usageTurns : List (Turn IncomingRequest Moment) :=
  [.attempt crashing true, .attempt quiet false, .attempt quiet true]

theorem usage_stream : ∃ events, usageServer.LedgerStream 1 [usageDelivery] events := by
  obtain ⟨event, delivery, hselects, hsequence⟩ := usage_selects
  refine ⟨[event], rfl, ?_, ?_, List.pairwise_singleton _ _, List.pairwise_singleton _ _⟩
  · intro i request other hrequest hother
    obtain rfl : i = 0 := by simpa using (List.getElem?_eq_some_iff.mp hrequest).1
    cases hrequest
    cases hother
    exact ⟨delivery, hselects⟩
  · intro i other hother
    obtain rfl : i = 0 := by simpa using (List.getElem?_eq_some_iff.mp hother).1
    cases hother
    simpa using hsequence

/-- The stream of that delivery alone is replicated. -/
theorem usage_replicated :
    (relay usageServer.deliveries acknowledges [usageDelivery] ⟨.empty, 0⟩ usageTurns).next = 1 ∧
      ∃ path record, (relay usageServer.deliveries acknowledges [usageDelivery] ⟨.empty, 0⟩
        usageTurns).receiver.events.lookup path = some record ∧ record.businessSequence = 1 := by
  obtain ⟨events, hstream⟩ := usage_stream
  have halone : Alone usageTurns := by
    intro request x hmem
    simp [usageTurns] at hmem
  have hcompact : ∀ request ∈ [usageDelivery], usageServer.Compact request := by
    intro request hmem
    rw [List.mem_singleton.mp hmem]
    exact usage_ready.1
  have hcount : min [usageDelivery].length
      (usageTurns.countP fun t => t.Healthy Moment.Sound) = 1 := by decide
  obtain ⟨hwithin, hheld, -, hprogress⟩ := usageServer.stream_replicated hstream halone
  have hone := hprogress hcompact
  rw [hcount] at hone
  obtain ⟨path, record, hlookup, hnumber⟩ := hheld 0 hone
  exact ⟨Nat.le_antisymm hwithin hone, path, record, hlookup, hnumber⟩

end InboxServer

end MizanSDK.Go
