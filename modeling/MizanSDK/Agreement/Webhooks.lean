import MizanSDK.Library.Trim
import MizanSDK.Go.Acknowledgement
import MizanSDK.Python.Acknowledgement
import MizanSDK.Agreement.Ledger
import MizanSDK.Agreement.Notifications

/-!
# The two webhook receivers side by side

One delivery, as both receivers see it: the same body, the same outbox
identifier, valid credentials and callbacks that succeed.

Main results:

- Theorem `goAccepts_iff_pyAccepts`: where the demands of one side alone make the
  verdicts differ.
- Theorem `receivers_agree_iff`: on which deliveries both return the same status
  and acknowledgement and invoke the same kind of callback.
-/

namespace MizanSDK.Agreement

open JsonText Go Python

/-! ## Outbox identifiers -/

/-- What Go trims away entirely. -/
theorem trimSpace_eq_empty_iff (s : String) :
    trimSpace s = "" ↔ ∀ c ∈ s.toList, Go.isSpace c = true := by
  rw [trimSpace, ← Trim.trim_eq_nil_iff, Trim.trim]
  constructor
  · intro h
    have hlist := congrArg String.toList h
    rwa [String.toList_ofList] at hlist
  · intro h
    rw [h]

/-- The separators that are white space in Python only. -/
def isSeparator (c : Char) : Bool := decide (0x1C ≤ c.toNat) && decide (c.toNat ≤ 0x1F)

theorem isSpace_scalar (c : Char) :
    Python.isSpace (.scalar c) = (Go.isSpace c || isSeparator c) := by
  rw [Bool.eq_iff_iff]
  simp only [Python.isSpace, Go.isSpace, isSeparator, Bool.or_eq_true, Bool.and_eq_true,
    decide_eq_true_eq, beq_iff_eq]
  omega

/-- What Python strips away entirely. -/
theorem strip_eq_nil_iff (s : String) :
    strip (Text.ofString s) = [] ↔
      ∀ c ∈ s.toList, Go.isSpace c = true ∨ isSeparator c = true := by
  have hstrip : strip (Text.ofString s) = Trim.trim Python.isSpace (s.toList.map .scalar) := rfl
  rw [hstrip, Trim.trim_eq_nil_iff, List.forall_mem_map]
  simp only [isSpace_scalar, Bool.or_eq_true]

/-- An identifier that is blank for Python and not for Go: white space with a
separator in it. -/
def OddlyBlank (s : String) : Prop :=
  (∀ c ∈ s.toList, Go.isSpace c = true ∨ isSeparator c = true) ∧
    ∃ c ∈ s.toList, isSeparator c = true

theorem not_isSpace_of_isSeparator {c : Char} (h : isSeparator c = true) :
    Go.isSpace c = false := by
  rw [isSeparator, Bool.and_eq_true, decide_eq_true_eq, decide_eq_true_eq] at h
  rw [Bool.eq_false_iff]
  simp only [Go.isSpace, Ne, Bool.or_eq_true, Bool.and_eq_true, decide_eq_true_eq, beq_iff_eq]
  omega

/-- Where the two notions of blank differ. -/
theorem oddlyBlank_iff (s : String) :
    OddlyBlank s ↔ trimSpace s ≠ "" ∧ strip (Text.ofString s) = [] := by
  rw [Ne, trimSpace_eq_empty_iff, strip_eq_nil_iff]
  constructor
  · rintro ⟨hblank, c, hc, hseparator⟩
    refine ⟨fun hall => ?_, hblank⟩
    have hspace := hall c hc
    rw [not_isSpace_of_isSeparator hseparator] at hspace
    exact absurd hspace (by decide)
  · rintro ⟨hsome, hblank⟩
    simp only [not_forall] at hsome
    obtain ⟨c, hc, hspace⟩ := hsome
    exact ⟨hblank, c, hc, (hblank c hc).resolve_left hspace⟩

/-- What is blank for Go is blank for Python. -/
theorem strip_of_trimSpace {s : String} (h : trimSpace s = "") :
    strip (Text.ofString s) = [] := by
  rw [strip_eq_nil_iff]
  exact fun c hc => .inl ((trimSpace_eq_empty_iff s).mp h c hc)

/-! ## Streams -/

/-- The object is a ledger event. -/
def LedgerStream (members : Members) : Prop :=
  (spelled members "business_sequence").isSome = true

/-- The object is a notification. -/
def NotificationStream (members : Members) : Prop :=
  (spelled members "business_sequence").isSome = false ∧
    (spelled members "type").isSome = true

/-- Go selects the stream by the names Python finds. -/
theorem names_eq {name : String} (h : '\uFFFD' ∉ name.toList) (members : Members) :
    names members name = (spelled members name).isSome := by
  unfold names spelled
  induction members with
  | nil => rfl
  | cons m rest ih =>
      rw [List.any_cons, ih, lookupLast_cons, Option.isSome_or]
      by_cases hname : m.1 = Text.ofString name
      · simp [hname]
      · have hother : ¬ m.1.toScalars = name := mt (Text.toScalars_eq_iff h).mp hname
        simp [hname, hother]

/-- The objects Go accepts. -/
def GoAccepts (py : Interpreter) (members : Members) : Prop :=
  LedgerStream members ∧ LedgerCommon py members ∧ LedgerGo members ∨
    NotificationStream members ∧
      ∃ type, NotificationCommon py members type ∧ NotificationGo members type

/-- The objects Python accepts. -/
def PyAccepts (py : Interpreter) (members : Members) : Prop :=
  LedgerStream members ∧ LedgerCommon py members ∧ LedgerPy members ∨
    NotificationStream members ∧
      ∃ type, NotificationCommon py members type ∧ NotificationPy members type

/-- What one side alone demands makes no difference. -/
structure NoDrift (py : Interpreter) (members : Members) : Prop where
  ledger : LedgerStream members → LedgerCommon py members →
    (LedgerGo members ↔ LedgerPy members)
  notification : NotificationStream members → ∀ type, NotificationCommon py members type →
    (NotificationGo members type ↔ NotificationPy members type)

/-- No object is of both streams. -/
theorem LedgerStream.not_notification {members : Members} (h : LedgerStream members) :
    ¬ NotificationStream members := by
  rintro ⟨hnone, -⟩
  rw [LedgerStream, hnone] at h
  exact absurd h (by decide)

/-- The verdicts differ only where what one side alone demands makes the
difference. -/
theorem goAccepts_iff_pyAccepts (py : Interpreter) (members : Members) :
    (GoAccepts py members ↔ PyAccepts py members) ↔ NoDrift py members := by
  unfold GoAccepts PyAccepts
  constructor
  · intro h
    constructor
    · intro hstream hcommon
      have hnot := hstream.not_notification
      simp only [hstream, hcommon, hnot, true_and, false_and, or_false] at h
      exact h
    · intro hstream type hcommon
      have hnot : ¬ LedgerStream members := fun hledger => hledger.not_notification hstream
      simp only [hstream, hnot, true_and, false_and, false_or] at h
      constructor
      · intro hgo
        obtain ⟨other, hother, hpy⟩ := h.mp ⟨type, hcommon, hgo⟩
        exact hcommon.type_unique hother ▸ hpy
      · intro hpy
        obtain ⟨other, hother, hgo⟩ := h.mpr ⟨type, hcommon, hpy⟩
        exact hcommon.type_unique hother ▸ hgo
  · rintro ⟨hledger, hnotification⟩
    constructor
    · rintro (⟨hstream, hcommon, hgo⟩ | ⟨hstream, type, hcommon, hgo⟩)
      · exact .inl ⟨hstream, hcommon, (hledger hstream hcommon).mp hgo⟩
      · exact .inr ⟨hstream, type, hcommon, (hnotification hstream type hcommon).mp hgo⟩
    · rintro (⟨hstream, hcommon, hpy⟩ | ⟨hstream, type, hcommon, hpy⟩)
      · exact .inl ⟨hstream, hcommon, (hledger hstream hcommon).mpr hpy⟩
      · exact .inr ⟨hstream, type, hcommon, (hnotification hstream type hcommon).mpr hpy⟩

/-! ## Stream selection -/

section Selection

variable (py : Interpreter) {members : Members}
  (h : (Json.object members).Everywhere Plain)
include h

/-- Go selects a callback for the objects it accepts. -/
theorem goSelects_iff (delivery : Go.WebhookContext) :
    (∃ invocation, Go.Selects members delivery invocation) ↔ GoAccepts py members := by
  have hledger : names members "business_sequence" =
      (spelled members "business_sequence").isSome := names_eq (by decide) members
  have htype : names members "type" = (spelled members "type").isSome :=
    names_eq (by decide) members
  constructor
  · rintro ⟨invocation, hselects⟩
    cases hselects with
    | ledger stream decodes valid =>
        exact .inl ⟨hledger.symm.trans stream, (goLedger_iff py h).mp ⟨_, decodes, valid⟩⟩
    | notification noLedger stream decodes valid =>
        exact .inr ⟨⟨hledger.symm.trans noLedger, htype.symm.trans stream⟩,
          (goNotification_iff py (distinctNames_of_plain h)).mp ⟨_, decodes, valid⟩⟩
  · rintro (⟨hstream, hmeets⟩ | ⟨⟨hnone, hstream⟩, hmeets⟩)
    · obtain ⟨event, hdecodes, hvalid⟩ := (goLedger_iff py h).mpr hmeets
      exact ⟨_, .ledger (hledger.trans hstream) hdecodes hvalid⟩
    · obtain ⟨event, hdecodes, hvalid⟩ :=
        (goNotification_iff py (distinctNames_of_plain h)).mpr hmeets
      exact ⟨_, .notification (hledger.trans hnone) (htype.trans hstream) hdecodes hvalid⟩

/-- Python selects a callback for the objects it accepts. -/
theorem pySelects_iff (delivery : Python.WebhookContext) :
    (∃ invocation, Python.Selects py (PyValue.ofMembers members) delivery invocation) ↔
      PyAccepts py members := by
  have hledger := has_ofMembers members "business_sequence"
  have htype := has_ofMembers members "type"
  constructor
  · rintro ⟨invocation, hselects⟩
    cases hselects with
    | ledger stream valid =>
        rw [hledger] at stream
        exact .inl ⟨stream, (pyLedger_iff py h stream).mp valid⟩
    | notification noLedger stream valid =>
        rw [hledger] at noLedger
        rw [htype] at stream
        exact .inr ⟨⟨noLedger, stream⟩,
          (pyNotification_iff py (distinctNames_of_plain h) stream).mp valid⟩
  · rintro (⟨hstream, hmeets⟩ | ⟨⟨hnone, hstream⟩, hmeets⟩)
    · exact ⟨_, .ledger (hledger.trans hstream) ((pyLedger_iff py h hstream).mpr hmeets)⟩
    · exact ⟨_, .notification (hledger.trans hnone) (htype.trans hstream)
        ((pyNotification_iff py (distinctNames_of_plain h) hstream).mpr hmeets)⟩

end Selection

/-! ## One delivery -/

/-- The kinds of callbacks. -/
inductive Kind where
  | ledger
  | notification
deriving DecidableEq

/-- The kind of callback Go invokes. -/
def goKind : Go.Invocation → Kind
  | .ledger _ _ => .ledger
  | .notification _ _ => .notification

/-- The kind of callback Python invokes. -/
def pyKind : Python.Invocation → Kind
  | .ledger _ _ => .ledger
  | .notification _ _ => .notification

/-- The acknowledgement in a Go response. -/
def goAck (response : Go.WebhookResponse) : Option String :=
  (response.headers.lookup "X-Mizan-Ack-Sequence").bind List.head?

/-- Both receivers return the same status and acknowledgement and invoked the same
kinds of callbacks. -/
def ReceiveAlike (go : Go.Reception) (python : Python.Reception) : Prop :=
  ∃ response, python.outcome = .ok response ∧
    response.statusCode = go.response.statusCode ∧
    lookupLast response.headers ackSequenceHeader =
      (goAck go.response).map Text.ofString ∧
    python.invoked.map pyKind = go.invoked.map goKind

/-- One delivery as both receivers see it: an object whose names are distinct, the
same outbox identifier, valid credentials and callbacks that succeed.
`json.loads` decodes the object or raises. -/
structure SameDelivery (g : Go.WebhookReceiver) (parse : JsonParser) (gh : Go.Header)
    (r : Python.WebhookReceiver) (py : Interpreter) (ph : List (PyStr × PyStr))
    (body : List UInt8) (outbox : String) (members : Members) : Prop where
  nonempty : 0 < body.length
  goLimit : (body.length : ℤ) ≤ g.bodyLimit
  pyLimit : body.length ≤ r.maxBodyBytes
  goDecodes : parse body = some (.object members)
  pyDecodes : py.loads body = .ok (some (.dict (PyValue.ofMembers members))) ∨
    ∃ e, py.loads body = .error e
  plain : (Json.object members).Everywhere Plain
  goAuthorized : g.authorized (gh.get "Authorization") = true
  pyAuthorized : r.authorized (authorization py ph) = .ok true
  goOutbox : gh.get "X-Mizan-Outbox-Id" = outbox
  pyOutbox : (lookupLast (normalizedHeaders py ph) (str "x-mizan-outbox-id")).getD [] =
    Text.ofString outbox
  goCallbacks : ∃ handler, g.handler = some handler ∧
    (∀ event delivery, handler.handleLedger event delivery = none) ∧
    ∀ event delivery, handler.handleNotification event delivery = none
  pyLedger : ∀ event delivery, ∃ left, r.onLedger event delivery = .returns left
  pyNotification : ∀ event delivery, ∃ left, r.onNotification event delivery = .returns left

section Delivery

variable {g : Go.WebhookReceiver} {parse : JsonParser} {gh : Go.Header}
  {r : Python.WebhookReceiver} {py : Interpreter} {ph : List (PyStr × PyStr)}
  {body : List UInt8} {outbox : String} {members : Members}
  (h : SameDelivery g parse gh r py ph body outbox members)
include h

/-- What Go does with an identifier it takes for blank. -/
theorem goReceive_blank (hblank : trimSpace outbox = "") :
    ∃ message, g.receive parse gh body = ⟨Go.errorResponse 400 message, []⟩ := by
  have hauthorized : ¬ (!g.authorized (gh.get "Authorization")) = true := by
    simp [h.goAuthorized]
  have hdispatch : ∃ message, g.dispatch parse gh body =
      .respond (Go.errorResponse 400 message) := by
    refine ⟨"X-Mizan-Outbox-Id is required", ?_⟩
    rw [Go.WebhookReceiver.dispatch, if_neg h.nonempty.ne', if_neg (Int.not_lt.mpr h.goLimit),
      if_neg hauthorized]
    simp only [h.goOutbox, hblank, if_true]
  obtain ⟨message, hmessage⟩ := hdispatch
  exact ⟨message, Go.WebhookReceiver.receive_of_respond hmessage⟩

/-- What Python does with an identifier it takes for blank. -/
theorem pyReceive_blank (hblank : strip (Text.ofString outbox) = []) :
    ∃ message, r.receive py ph (.bytes body) = ⟨.ok (Python.errorResponse 400 message), []⟩ := by
  have hauthorized := h.pyAuthorized
  have hempty : Python.outboxId py ph = [] := by
    rw [Python.outboxId, h.pyOutbox, hblank]
  rw [authorization] at hauthorized
  refine ⟨[.text "X-Mizan-Outbox-Id is required"], ?_⟩
  simp [Python.WebhookReceiver.receive, Python.WebhookReceiver.dispatch, hauthorized, hempty,
    bind, Except.bind, pure, Except.pure]

/-- What Go does with an identifier it does not take for blank. -/
theorem goReceive_cases (hblank : trimSpace outbox ≠ "") :
    (GoAccepts py members ∧ ∃ invocation, g.receive parse gh body =
        ⟨invocation.respond none, [invocation]⟩ ∧
        Go.Selects members (Go.deliveryContext gh body) invocation) ∨
      (¬ GoAccepts py members ∧ ∃ message, g.receive parse gh body =
        ⟨Go.errorResponse 422 message, []⟩) := by
  obtain ⟨handler, hhandler, hledger, hnotification⟩ := h.goCallbacks
  have hadmits : g.Admits gh body :=
    { nonempty := h.nonempty
      withinLimit := h.goLimit
      authorized := h.goAuthorized
      outboxID := by rw [Go.outboxID, h.goOutbox]; exact hblank }
  have hdispatch : g.dispatch parse gh body =
      Go.dispatchEvent handler (Go.deliveryContext gh body) members := by
    rw [hadmits.dispatch_eq, hhandler]
    simp only [h.goDecodes]
  have haccepts := goSelects_iff py h.plain (Go.deliveryContext gh body)
  cases hevent : Go.dispatchEvent handler (Go.deliveryContext gh body) members with
  | respond response =>
      right
      refine ⟨?_, ?_⟩
      · rw [← haccepts]
        rintro ⟨invocation, hselects⟩
        have hinvoke := (Go.dispatchEvent_eq_invoke_iff handler handler _ members
          invocation).mpr ⟨rfl, hselects⟩
        rw [hevent] at hinvoke
        simp at hinvoke
      · obtain ⟨message, rfl⟩ := Go.dispatchEvent_respond hevent
        exact ⟨message, Go.WebhookReceiver.receive_of_respond (hdispatch.trans hevent)⟩
  | invoke handler' invocation =>
      left
      obtain ⟨rfl, hselects⟩ :=
        (Go.dispatchEvent_eq_invoke_iff handler handler' _ members invocation).mp hevent
      refine ⟨haccepts.mp ⟨invocation, hselects⟩, invocation, ?_, hselects⟩
      rw [Go.WebhookReceiver.receive_of_invoke (hdispatch.trans hevent)]
      have hrun : invocation.run handler = none := by
        cases invocation with
        | ledger event delivery => exact hledger event delivery
        | notification event delivery => exact hnotification event delivery
      rw [hrun]

/-- What Python does with a body that `json.loads` does not decode. -/
theorem pyReceive_undecoded (hblank : strip (Text.ofString outbox) ≠ []) {e : PyError}
    (hloads : py.loads body = .error e) :
    r.receive py ph (.bytes body) = ⟨.error e, []⟩ := by
  have hnonempty : body.isEmpty = false := by
    simpa [List.isEmpty_eq_false_iff] using List.ne_nil_of_length_pos h.nonempty
  have houtbox : (Python.outboxId py ph).isEmpty = false := by
    rw [Python.outboxId, h.pyOutbox]
    simpa [List.isEmpty_eq_false_iff] using hblank
  have hauthorized := h.pyAuthorized
  rw [authorization] at hauthorized
  simp [Python.WebhookReceiver.receive, Python.WebhookReceiver.dispatch, hauthorized, houtbox,
    decodePayload, decodeBytes, hnonempty, hloads, bind, Except.bind]

/-- What Python does with a body that `json.loads` decodes. -/
theorem pyDelivers (hblank : strip (Text.ofString outbox) ≠ []) {value : Option PyValue}
    (hloads : py.loads body = .ok value) :
    r.Delivers py ph (.bytes body) body (PyValue.ofMembers members) := by
  have hvalue : value = some (.dict (PyValue.ofMembers members)) := by
    rcases h.pyDecodes with hdict | ⟨e, he⟩
    · rw [hloads] at hdict
      exact Except.ok.inj hdict
    · rw [hloads] at he
      simp at he
  have hnonempty : body.isEmpty = false := by
    simpa [List.isEmpty_eq_false_iff] using List.ne_nil_of_length_pos h.nonempty
  have hfits : ¬ r.maxBodyBytes < body.length := Nat.not_lt.mpr h.pyLimit
  refine ⟨h.pyAuthorized, ?_, ?_⟩
  · rw [Python.outboxId, h.pyOutbox]
    exact hblank
  · simp [decodePayload, decodeBytes, hnonempty, hloads, hvalue, decodeSized, hfits, bind,
      Except.bind, pure, Except.pure]

/-- What Python does with an identifier it does not take for blank. -/
theorem pyReceive_cases (hblank : strip (Text.ofString outbox) ≠ []) {value : Option PyValue}
    (hloads : py.loads body = .ok value) :
    (EventRaises py (PyValue.ofMembers members) ∧
        r.receive py ph (.bytes body) = ⟨.error .typeError, []⟩) ∨
      (¬ EventRaises py (PyValue.ofMembers members) ∧ PyAccepts py members ∧
        ∃ invocation, r.receive py ph (.bytes body) =
            ⟨invocation.respond py (invocation.run r), [invocation]⟩ ∧
          Python.Selects py (PyValue.ofMembers members) (Python.deliveryContext py ph body)
            invocation) ∨
      (¬ EventRaises py (PyValue.ofMembers members) ∧ ¬ PyAccepts py members ∧
        ∃ message, r.receive py ph (.bytes body) =
          ⟨.ok (Python.errorResponse 422 message), []⟩) := by
  have hdispatch := (pyDelivers h hblank hloads).dispatch_eq
  have haccepts := pySelects_iff py h.plain (Python.deliveryContext py ph body)
  have hraises := Python.dispatchEvent_eq_error_iff py (PyValue.ofMembers members)
    (Python.deliveryContext py ph body)
  have hinvokes := Python.dispatchEvent_eq_invoke_iff py (PyValue.ofMembers members)
    (Python.deliveryContext py ph body)
  have hquiet : ∀ result, Python.dispatchEvent py (PyValue.ofMembers members)
      (Python.deliveryContext py ph body) = .ok result →
        ¬ EventRaises py (PyValue.ofMembers members) := by
    intro result hevent hevents
    have herror := (hraises _).mpr ⟨hevents, rfl⟩
    rw [hevent] at herror
    simp at herror
  rcases hevent : Python.dispatchEvent py (PyValue.ofMembers members)
    (Python.deliveryContext py ph body) with e | (response | invocation)
  · obtain ⟨hevents, rfl⟩ := (hraises e).mp hevent
    refine .inl ⟨hevents, ?_⟩
    rw [Python.WebhookReceiver.receive, hdispatch, hevent]
  · refine .inr (.inr ⟨hquiet _ hevent, ?_, ?_⟩)
    · rw [← haccepts]
      rintro ⟨invocation, hselects⟩
      have hinvoke := (hinvokes invocation).mpr hselects
      rw [hevent] at hinvoke
      simp at hinvoke
    · obtain ⟨message, rfl⟩ := Python.dispatchEvent_respond hevent
      refine ⟨message, ?_⟩
      rw [Python.WebhookReceiver.receive, hdispatch, hevent]
  · have hselects := (hinvokes invocation).mp hevent
    refine .inr (.inl ⟨hquiet _ hevent, haccepts.mp ⟨invocation, hselects⟩, invocation, ?_,
      hselects⟩)
    rw [Python.WebhookReceiver.receive, hdispatch, hevent]

/-- The sequence Go acknowledges is the one Python finds. -/
theorem get_businessSequence {event : LedgerWebhook} (hstream : LedgerStream members)
    (hdecodes : decodeLedgerWebhook members = some event)
    (hvalid : validateLedgerWebhook event = none) :
    PyDict.get (PyValue.ofMembers members) "business_sequence" =
      some (.int event.businessSequence) := by
  have hfields := (decodeLedgerWebhook_eq_some_iff h.plain event).mp hdecodes
  have hpositive := ((validateLedgerWebhook_eq_none_iff event).mp hvalid).businessSequence
  rw [get_eq_int_iff, spelled_eq_member (distinctNames_of_plain h.plain) hstream]
  rcases (decoded_int64_eq_some_iff _ _).mp hfields.businessSequence with
    ⟨-, hzero⟩ | ⟨negative, digits, hinteger, hvalue, -⟩
  · omega
  · exact ⟨negative, digits, hinteger, hvalue⟩

/-- Two accepted deliveries are answered alike when the Python callback leaves the
sequence in place. -/
theorem accepted_alike_iff {go : Go.Invocation} {python : Python.Invocation}
    {goDelivery : Go.WebhookContext} {pyDelivery : Python.WebhookContext}
    (hgo : Go.Selects members goDelivery go)
    (hpy : Python.Selects py (PyValue.ofMembers members) pyDelivery python) :
    ReceiveAlike ⟨go.respond none, [go]⟩ ⟨python.respond py (python.run r), [python]⟩ ↔
      (LedgerStream members → ∀ left,
        r.onLedger (PyValue.ofMembers members) pyDelivery = .returns left →
          LeavesSequence py (PyValue.ofMembers members) left) := by
  have hnames : names members "business_sequence" =
      (spelled members "business_sequence").isSome := names_eq (by decide) members
  have hhas := has_ofMembers members "business_sequence"
  cases hgo with
  | @ledger event stream decodes valid =>
      have hstream : LedgerStream members := hnames.symm.trans stream
      have hsequence := get_businessSequence h hstream decodes valid
      cases hpy with
      | notification noLedger _ _ =>
          rw [hhas, hstream] at noLedger
          exact absurd noLedger (by decide)
      | ledger _ _ =>
          obtain ⟨left, hleft⟩ := h.pyLedger (PyValue.ofMembers members) pyDelivery
          have hfaithful := faithfulAnswer_returns_iff py (PyValue.ofMembers members) left
            pyDelivery
          simp only [hstream, hleft, Python.Invocation.run, forall_const,
            CallbackResult.returns.injEq, forall_eq']
          rw [← hfaithful]
          have hack : goAck ((Go.Invocation.ledger event goDelivery).respond none) =
              some (toString event.businessSequence) := by
            rw [goAck, Go.Invocation.respond_none_ledger_ack]
            rfl
          unfold ReceiveAlike FaithfulAnswer
          simp only [hack, Option.map_some]
          constructor
          · rintro ⟨response, houtcome, hstatus, hacks, -⟩
            exact ⟨response, event.businessSequence, houtcome, hstatus, hsequence, hacks⟩
          · rintro ⟨response, n, houtcome, hstatus, hn, hacks⟩
            obtain rfl : event.businessSequence = n := by
              rw [hsequence] at hn
              simpa using hn
            exact ⟨response, houtcome, hstatus, hacks, rfl⟩
  | notification noLedger stream decodes valid =>
      have hnone : ¬ LedgerStream members := by
        rw [LedgerStream, ← hnames, noLedger]
        decide
      cases hpy with
      | ledger stream' _ =>
          rw [hhas] at stream'
          exact absurd stream' hnone
      | notification _ _ _ =>
          obtain ⟨left, hleft⟩ := h.pyNotification (PyValue.ofMembers members) pyDelivery
          simp only [hnone, false_implies, iff_true, Python.Invocation.run, hleft]
          exact ⟨_, rfl, rfl, rfl, rfl⟩

end Delivery

/-- The condition under which a delivery that neither receiver takes for blank is
handled alike: `json.loads` decodes it, no validation raises, the demands of one
side alone make no difference, and the Python callback leaves the sequence of an
accepted ledger event in place. -/
structure HandledAlike (r : Python.WebhookReceiver) (py : Interpreter)
    (ph : List (PyStr × PyStr)) (body : List UInt8) (members : Members) : Prop where
  loads : ∃ value, py.loads body = .ok value
  quiet : ¬ EventRaises py (PyValue.ofMembers members)
  noDrift : NoDrift py members
  acknowledged : LedgerStream members → LedgerCommon py members → LedgerPy members →
    ∀ left, r.onLedger (PyValue.ofMembers members) (Python.deliveryContext py ph body) =
      .returns left → LeavesSequence py (PyValue.ofMembers members) left

/-- An exception is no response. -/
theorem ReceiveAlike.ne_error {go : Go.Reception} {python : Python.Reception} {e : PyError}
    (h : ReceiveAlike go python) : python.outcome ≠ .error e := by
  obtain ⟨response, houtcome, -⟩ := h
  rw [houtcome]
  simp

/-- Where one side invokes a callback the other does. -/
theorem ReceiveAlike.length_eq {go : Go.Reception} {python : Python.Reception}
    (h : ReceiveAlike go python) : python.invoked.length = go.invoked.length := by
  obtain ⟨response, -, -, -, hinvoked⟩ := h
  simpa using congrArg List.length hinvoked

section Agreement

variable {g : Go.WebhookReceiver} {parse : JsonParser} {gh : Go.Header}
  {r : Python.WebhookReceiver} {py : Interpreter} {ph : List (PyStr × PyStr)}
  {body : List UInt8} {outbox : String} {members : Members}
  (h : SameDelivery g parse gh r py ph body outbox members)
include h

/-- Where only Python takes the identifier for blank, it returns a status that Go
does not return. -/
theorem not_alike_of_pyBlank (hgoBlank : trimSpace outbox ≠ "")
    (hpyBlank : strip (Text.ofString outbox) = []) :
    ¬ ReceiveAlike (g.receive parse gh body) (r.receive py ph (.bytes body)) := by
  obtain ⟨message, hpy⟩ := pyReceive_blank h hpyBlank
  rintro ⟨response, houtcome, hstatus, -⟩
  rw [hpy] at houtcome
  obtain rfl := Except.ok.inj houtcome
  rcases goReceive_cases h hgoBlank with ⟨-, invocation, hgo, -⟩ | ⟨-, message', hgo⟩
  · rw [hgo, Go.Invocation.respond_none_statusCode] at hstatus
    exact absurd hstatus (by simp [Python.errorResponse])
  · rw [hgo] at hstatus
    exact absurd hstatus (by simp [Python.errorResponse, Go.errorResponse])

/-- A body that `json.loads` decodes, under an identifier that neither side takes
for blank. -/
theorem decoded_agree_iff (hgoBlank : trimSpace outbox ≠ "")
    (hpyBlank : strip (Text.ofString outbox) ≠ []) {value : Option PyValue}
    (hloads : py.loads body = .ok value) :
    ReceiveAlike (g.receive parse gh body) (r.receive py ph (.bytes body)) ↔
      HandledAlike r py ph body members := by
  have hdrift := goAccepts_iff_pyAccepts py members
  rcases pyReceive_cases h hpyBlank hloads with ⟨hraises, hpy⟩ |
    ⟨hquiet, hpyAccepts, python, hpy, hpySelects⟩ | ⟨hquiet, hpyRefuses, message, hpy⟩
  · constructor
    · intro halike
      exact absurd (by rw [hpy]) halike.ne_error
    · intro hhandled
      exact absurd hraises hhandled.quiet
  · rcases goReceive_cases h hgoBlank with
      ⟨hgoAccepts, go, hgo, hgoSelects⟩ | ⟨hgoRefuses, message, hgo⟩
    · rw [hgo, hpy, accepted_alike_iff h hgoSelects hpySelects]
      constructor
      · intro hleaves
        exact ⟨⟨value, hloads⟩, hquiet, hdrift.mp (iff_of_true hgoAccepts hpyAccepts),
          fun hstream _ _ => hleaves hstream⟩
      · intro hhandled hstream
        obtain ⟨-, hcommon, hdemands⟩ :=
          hpyAccepts.resolve_right fun hother => hstream.not_notification hother.1
        exact hhandled.acknowledged hstream hcommon hdemands
    · constructor
      · intro halike
        exact absurd halike.length_eq (by simp [hgo, hpy])
      · intro hhandled
        exact absurd ((hdrift.mpr hhandled.noDrift).mpr hpyAccepts) hgoRefuses
  · rcases goReceive_cases h hgoBlank with
      ⟨hgoAccepts, go, hgo, -⟩ | ⟨hgoRefuses, message', hgo⟩
    · constructor
      · intro halike
        exact absurd halike.length_eq (by simp [hgo, hpy])
      · intro hhandled
        exact absurd ((hdrift.mpr hhandled.noDrift).mp hgoAccepts) hpyRefuses
    · rw [hgo, hpy]
      constructor
      · intro _
        exact ⟨⟨value, hloads⟩, hquiet, hdrift.mp (iff_of_false hgoRefuses hpyRefuses),
          fun hstream hcommon hdemands =>
            absurd (.inl ⟨hstream, hcommon, hdemands⟩) hpyRefuses⟩
      · intro _
        exact ⟨_, rfl, rfl, rfl, rfl⟩

end Agreement

/-- On which deliveries both receivers return the same status and acknowledgement
and invoke the same kind of callback. -/
theorem receivers_agree_iff {g : Go.WebhookReceiver} {parse : JsonParser} {gh : Go.Header}
    {r : Python.WebhookReceiver} {py : Interpreter} {ph : List (PyStr × PyStr)}
    {body : List UInt8} {outbox : String} {members : Members}
    (h : SameDelivery g parse gh r py ph body outbox members) :
    ReceiveAlike (g.receive parse gh body) (r.receive py ph (.bytes body)) ↔
      ¬ OddlyBlank outbox ∧
        (trimSpace outbox ≠ "" → HandledAlike r py ph body members) := by
  rw [oddlyBlank_iff]
  by_cases hgoBlank : trimSpace outbox = ""
  · -- Both refuse the identifier.
    obtain ⟨message, hgo⟩ := goReceive_blank h hgoBlank
    obtain ⟨message', hpy⟩ := pyReceive_blank h (strip_of_trimSpace hgoBlank)
    simp only [hgoBlank, ne_eq, not_true_eq_false, false_and, not_false_eq_true,
      false_implies, and_true, iff_true, hgo, hpy]
    exact ⟨_, rfl, rfl, rfl, rfl⟩
  · simp only [hgoBlank, ne_eq, not_false_eq_true, true_and, forall_const]
    by_cases hpyBlank : strip (Text.ofString outbox) = []
    · simp only [hpyBlank, not_true_eq_false, false_and, iff_false]
      exact not_alike_of_pyBlank h hgoBlank hpyBlank
    · simp only [hpyBlank, not_false_eq_true, true_and]
      cases hloads : py.loads body with
      | error e =>
          have hpy := pyReceive_undecoded h hpyBlank hloads
          constructor
          · intro halike
            exact absurd (by rw [hpy]) halike.ne_error
          · intro hhandled
            obtain ⟨value, hvalue⟩ := hhandled.loads
            rw [hloads] at hvalue
            simp at hvalue
      | ok value => exact decoded_agree_iff h hgoBlank hpyBlank hloads

/-! ## Two deliveries -/

/-- A Go receiver whose callbacks succeed. -/
def goReceiver : Go.WebhookReceiver :=
  { handler := some ⟨fun _ _ => none, fun _ _ => none⟩
    bearerToken := ""
    maxBodyBytes := 0 }

/-- The headers of a delivery in Go. -/
def goHeaders : Go.Header := (∅ : Go.Header).insert "X-Mizan-Outbox-Id" ["outbox-1"]

/-- A parser that knows one body. -/
def parseBody (body : List UInt8) (members : Members) : JsonParser :=
  fun raw => if raw = body then some (.object members) else none

/-- A body that spells a plain object is one delivery for both. -/
theorem sameDelivery_of_body {body : List UInt8} {members : Members}
    (hlength : 0 < body.length ∧ body.length ≤ 1048576)
    (hplain : (Json.object members).Everywhere Plain) :
    SameDelivery goReceiver (parseBody body members) goHeaders (openReceiver keepEvent)
      (oneBody body members) outboxHeaders body "outbox-1" members := by
  exact
    { nonempty := hlength.1
      goLimit := by
        have hlimit : goReceiver.bodyLimit = 1048576 := by decide
        rw [hlimit]
        exact_mod_cast hlength.2
      pyLimit := hlength.2
      goDecodes := if_pos rfl
      pyDecodes := .inl (by simp [oneBody])
      plain := hplain
      goAuthorized := by rfl
      pyAuthorized := rfl
      goOutbox := by rfl
      pyOutbox := by rfl
      goCallbacks := ⟨_, rfl, fun _ _ => rfl, fun _ _ => rfl⟩
      pyLedger := fun event _ => ⟨event, rfl⟩
      pyNotification := fun event _ => ⟨event, rfl⟩ }

/-- Its names are distinct and its texts free of surrogates. -/
theorem usageMembers_plain : (Json.object usageMembers).Everywhere Plain := by
  simp only [usageMembers, textMember, Json.Everywhere, Json.everyMember, Json.everyItem,
    Plain, DistinctNames]
  decide

/-- The rejected usage is handled alike when the callback leaves the event as it
is. -/
theorem usage_handled_alike :
    ¬ OddlyBlank "outbox-1" ∧ (trimSpace "outbox-1" ≠ "" →
      HandledAlike (openReceiver keepEvent) (oneBody usageBody usageMembers) outboxHeaders
        usageBody usageMembers) := by
  have hdelivery := sameDelivery_of_body usageBody_length usageMembers_plain
  have hblank : trimSpace "outbox-1" ≠ "" := by decide
  have hpySelects : Python.Selects (oneBody usageBody usageMembers)
      (PyValue.ofMembers usageMembers)
      (Python.deliveryContext (oneBody usageBody usageMembers) outboxHeaders usageBody)
      (.ledger (PyValue.ofMembers usageMembers) _) := .ledger rfl rfl
  have hgoSelects : ∃ invocation, Go.Selects usageMembers
      (Go.deliveryContext goHeaders usageBody) invocation := ⟨_, .ledger rfl rfl rfl⟩
  have hgoAccepts := (goSelects_iff (oneBody usageBody usageMembers) usageMembers_plain
    _).mp hgoSelects
  refine (receivers_agree_iff hdelivery).mp ?_
  rcases goReceive_cases hdelivery hblank with ⟨-, go, hgo, hselects⟩ | ⟨hrefuses, -⟩
  · rw [hgo, (openReceiver keepEvent).receive_of_invoke _ _ _ (dispatch_usage keepEvent),
      accepted_alike_iff hdelivery hselects hpySelects]
    intro _ left hleft
    obtain rfl := CallbackResult.returns.inj hleft
    exact ⟨7, .int 7, rfl, rfl, rfl⟩
  · exact absurd hgoAccepts hrefuses

/-- The body of a rejected usage without postings. -/
def unpostedBody : List UInt8 :=
  asciiBytes "\x7b\"event_id\":\"e\",\"business_id\":\"b\",\"business_sequence\":7," ++
    asciiBytes "\"entry\":\x7b\"id\":\"e\",\"entry_type\":\"usage_rejected\"," ++
    asciiBytes "\"source_command\":\"c\",\"source_event_id\":\"s\",\"effective_at\":\"t\"," ++
    asciiBytes "\"catalog_version\":\"v\",\"policy_version\":\"p\",\"metadata\":\x7b\x7d\x7d\x7d"

/-- Its members. -/
def unpostedMembers : Members := usageMembers.dropLast

/-- Go accepts an event without postings, Python refuses it. -/
theorem unposted_handled_differently :
    SameDelivery goReceiver (parseBody unpostedBody unpostedMembers) goHeaders
        (openReceiver keepEvent) (oneBody unpostedBody unpostedMembers) outboxHeaders
        unpostedBody "outbox-1" unpostedMembers ∧
      ¬ ReceiveAlike
        (goReceiver.receive (parseBody unpostedBody unpostedMembers) goHeaders unpostedBody)
        ((openReceiver keepEvent).receive (oneBody unpostedBody unpostedMembers) outboxHeaders
          (.bytes unpostedBody)) := by
  have hlength : 0 < unpostedBody.length ∧ unpostedBody.length ≤ 1048576 := by
    simp only [unpostedBody, List.length_append]
    decide
  have hplain : (Json.object unpostedMembers).Everywhere Plain := by
    simp only [unpostedMembers, usageMembers, List.dropLast, textMember, Json.Everywhere,
      Json.everyMember, Plain, DistinctNames]
    decide
  have hdelivery := sameDelivery_of_body hlength hplain
  have hblank : trimSpace "outbox-1" ≠ "" := by decide
  have hpyBlank : strip (Text.ofString "outbox-1") ≠ [] := by decide
  have hgoSelects : ∃ invocation, Go.Selects unpostedMembers
      (Go.deliveryContext goHeaders unpostedBody) invocation := ⟨_, .ledger rfl rfl rfl⟩
  have hgoAccepts := (goSelects_iff (oneBody unpostedBody unpostedMembers) hplain
    _).mp hgoSelects
  have hpyDelivers := pyDelivers hdelivery hpyBlank rfl
  have hpyRefuses : Python.dispatchEvent (oneBody unpostedBody unpostedMembers)
      (PyValue.ofMembers unpostedMembers)
      (Python.deliveryContext (oneBody unpostedBody unpostedMembers) outboxHeaders
        unpostedBody) =
      .ok (.respond (Python.errorResponse 422 [.text "ledger postings must be an array"])) := by
    rfl
  refine ⟨hdelivery, ?_⟩
  rintro ⟨response, -, -, -, hinvoked⟩
  rw [Python.WebhookReceiver.receive, hpyDelivers.dispatch_eq, hpyRefuses] at hinvoked
  rcases goReceive_cases hdelivery hblank with ⟨-, go, hgo, -⟩ | ⟨hrefuses, -⟩
  · rw [hgo] at hinvoked
    simp at hinvoked
  · exact hrefuses hgoAccepts

end MizanSDK.Agreement
