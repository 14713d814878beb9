import MizanSDK.Go.RequestBodies
import MizanSDK.Go.Sessions
import MizanSDK.Go.Usage
import MizanSDK.Library.Workflow

/-!
# The billing lifecycle of the Go example

`run` of the end-to-end example up to the export of the ledger, which only reads.  Like the
Python example it makes the keys of its mutations of the business and the run, but it dates
its message by the clock.

Main results:

- Theorem `Settings.keeps_lifecycle`: a run that gets to the export has its consumption, with
  its own date, in the log.
- Theorem `Settings.rerun_stops`: once the consumption of one time was carried out, no run
  at another time gets to the export, under the same key.

Current gaps: what is printed, the deadline of a run, and an environment without the required
variables.
-/

namespace MizanSDK.Go

open JsonText Idempotency

/-! ## Result types -/

/-- `InvoiceLine`. -/
def invoiceLine : GoType :=
  .struct <|
    .field "code" .string <|
    .field "quantity" .string <|
    .field "net_minor" .string <|
    .field "discount_minor" .string <|
    .field "after_discount_minor" .string <|
    .field "vat_minor" .string <|
    .field "total_minor" .string .nil

/-- `Invoice`. -/
def invoice : GoType :=
  .struct <|
    .field "id" .string <|
    .field "currency" .string <|
    .field "eligible_gross_minor" .string <|
    .field "discount_minor" .string <|
    .field "subtotal_minor" .string <|
    .field "vat_minor" .string <|
    .field "total_minor" .string <|
    .field "lines" (.slice invoiceLine) .nil

/-- `ActivationResult`. -/
def activationResult : GoType :=
  .struct <|
    .field "subscription_id" .string <|
    .field "cycle_id" .string <|
    .field "status" .string <|
    .field "current_period_start" .time <|
    .field "current_period_end" .time <|
    .field "included_unit_millis_granted" .string <|
    .field "invoice" invoice <|
    .field "ledger_entry_id" .string <|
    .field "balances" balance .nil

/-- `EntitlementResult`. -/
def entitlementResult : GoType :=
  .struct <|
    .field "capability" .string <|
    .field "enabled" .bool <|
    .field "plan_id" .string <|
    .field "fair_use" (.map .any) .nil

/-- `eligibilityResult` of the example. -/
def eligibilityResult : GoType :=
  .struct <|
    .field "eligible" .bool <|
    .field "reason" .string <|
    .field "details" (.map .any) .nil

/-- `eligibility.Eligible`. -/
def eligible (eligibility : eligibilityResult.Value) : Bool := eligibility.1

/-- `eligibility.Reason`. -/
def eligibilityReason (eligibility : eligibilityResult.Value) : String := eligibility.2.1

/-- `decision.LedgerEntryID`. -/
def ledgerEntryID (decision : consumptionResult.Value) : String := decision.2.2.2.1

/-- `decision.BusinessSequence`. -/
def businessSequence (decision : consumptionResult.Value) : ℤ := decision.2.2.2.2.1

/-- `NewConfirmedTopUp`. -/
def newConfirmedTopUp (amount : ExactAmount) (paymentEventID : String) (paidTotal : ExactAmount) :
    ConfirmedTopUp :=
  ⟨amount, paymentEventID, "confirmed", "SAR", paidTotal⟩

/-! ## The example -/

/-- The environment variables of the example but for those of the client; one that is not
set is empty. -/
structure Settings where
  businessID : String
  paidTotal : String
  runID : String
  timezone : String
  topUpMinor : String
  topUpPaidTotal : String

/-- How a run ends, or where it starts to export the ledger.  The error of a call comes with
what is said of it. -/
inductive Ended where
  | failed (context : String) (err : CallError)
  | error (err : GoError)
  | ineligible (reason : String)
  | panic
  | exports

/-- A part of the example.  A mutation comes with its key. -/
abbrev Flow := Program MethodCall (MutatingCall × String) Outcome Ended

/-- Go on with what a call returns, unless that is an error. -/
def returned (context : String) (outcome : Outcome) (next : GoMap → Flow) : Flow :=
  match outcome with
  | .panic => .done .panic
  | .error err => .done (.failed context err)
  | .response response => next response

section Decoding

variable (parseTime : String → Option GoTime) (errors : JsonErrors)

/-- Go on with the data of what a call returns, decoded into a type. -/
def decoded (t : GoType) (context : String) (outcome : Outcome) (next : t.Value → Flow) : Flow :=
  returned context outcome fun response =>
    match decodeData parseTime errors t response with
    | .error err => .done (.error err)
    | .ok value => next value

end Decoding

namespace Settings

variable (s : Settings)

/-- `activationKey`. -/
def activationKey : String := "activate:" ++ s.businessID ++ ":" ++ s.runID

/-- The key of the top-up. -/
def topUpKey : String := "provider-topup:" ++ s.businessID ++ ":" ++ s.runID

/-- `consumeKey`. -/
def consumeKey : String := "consume:" ++ s.businessID ++ ":" ++ s.runID

/-- `activationRequest`. -/
def activationRequest (catalogVersion : String) : ActivationRequest where
  catalogVersion := catalogVersion
  planID := "start"
  planConfigurationID := ""
  term := "monthly"
  seats := 1
  timezone := s.timezone
  paymentStatus := "confirmed"
  paymentEventID := "example-activation:" ++ s.runID
  currency := "SAR"
  paidTotalMinor := s.paidTotal
  addons := []

/-- `usageMetadata`. -/
def usageMetadata : UsageMetadata :=
  { UsageMetadata.zero with
    channel := "whatsapp"
    conversationID := "example-conversation:" ++ s.runID }

/-- `usage`, at the time the clock shows. -/
def usage (now : GoTime) : OutboundDeliveredMessageUsage :=
  ⟨"example-message:" ++ s.runID, now, "1", some s.usageMetadata⟩

/-- The key of the activation is not empty. -/
theorem activationKey_ne : s.activationKey ≠ "" := by
  simp [activationKey]

/-- Neither is that of the top-up. -/
theorem topUpKey_ne : s.topUpKey ≠ "" := by
  simp [topUpKey]

/-- Nor that of the message. -/
theorem consumeKey_ne : s.consumeKey ≠ "" := by
  simp [consumeKey]

variable (parseTime : String → Option GoTime) (errors : JsonErrors)

/-- `maybeFundProvider`. -/
def maybeFundProvider (next : Flow) : Flow :=
  if s.topUpMinor = "" ∧ s.topUpPaidTotal = "" then next
  else if s.topUpMinor = "" ∨ s.topUpPaidTotal = "" then
    .done (.error ⟨"MIZAN_PROVIDER_TOP_UP_MINOR and MIZAN_PROVIDER_TOP_UP_PAID_TOTAL_MINOR " ++
      "must be set together"⟩)
  else
    .command (.topUpProviderBalance s.businessID (newConfirmedTopUp s.topUpMinor
        ("example-provider-topup:" ++ s.runID) s.topUpPaidTotal), s.topUpKey) fun outcome =>
      returned "fund provider balance: " outcome fun response =>
        match lookupLast response "data" with
        | some (.map _) => next
        | _ => .done (.error ⟨"provider top-up response has no data object"⟩)

/-- `ConsumeOutboundDeliveredMessage`, which builds a request and hands it to `Consume`. -/
def consumeMessage (now : GoTime) (context : String) (next : consumptionResult.Value → Flow) :
    Flow :=
  match (s.usage now).request with
  | .error message => .done (.failed context (.plain ⟨message⟩))
  | .ok request =>
      .command (.consume s.businessID request, s.consumeKey) fun outcome =>
        decoded parseTime errors consumptionResult context outcome next

/-- The reads between the mutations: the entitlement, which is only printed, and the
eligibility. -/
def checkUsage (next : Flow) : Flow :=
  .look (.business (.reading (.getEntitlement s.businessID "basic_analytics"))) fun outcome =>
    decoded parseTime errors entitlementResult "check entitlement: " outcome fun _ =>
    .look (.business (.reading (.checkEligibility s.businessID "outbound_delivered_message"
        ⟨"1", "", "", some s.usageMetadata, []⟩))) fun outcome =>
      decoded parseTime errors eligibilityResult "check eligibility: " outcome fun eligibility =>
        if eligible eligibility then next
          else .done (.ineligible (eligibilityReason eligibility))

/-- `run` up to the export. -/
def lifecycle (now : GoTime) : Flow :=
  .look (.overall .getCatalog) fun outcome =>
    returned "load catalog: " outcome fun catalog =>
    match lookupLast catalog "catalog_version" with
    | some (.string catalogVersion) =>
        if catalogVersion = "" then
          .done (.error ⟨"catalog response has no catalog_version"⟩)
        else
          .command (.activateSubscription s.businessID (s.activationRequest catalogVersion),
              s.activationKey) fun outcome =>
            decoded parseTime errors activationResult "activate subscription: " outcome fun _ =>
            s.maybeFundProvider <|
            s.checkUsage parseTime errors <|
            s.consumeMessage parseTime errors now "consume usage: " fun decision =>
            s.consumeMessage parseTime errors now "replay consumption: " fun replayed =>
            if ledgerEntryID replayed ≠ ledgerEntryID decision ∨
                businessSequence replayed ≠ businessSequence decision then
              .done (.error ⟨"idempotent replay returned a different ledger identity"⟩)
            else
              .look (.business (.reading (.getBillingSummary s.businessID))) fun outcome =>
                decoded parseTime errors billingSummaryResult "read billing summary: " outcome
                  fun _ => .done .exports
    | _ => .done (.error ⟨"catalog response has no catalog_version"⟩)

end Settings

/-! ## What is in the log -/

/-- A client that performs the mutations of a program; it repeats none of its own accord. -/
def performer (a : AdminClient) (codec : Codec) :
    Caller Circumstances (MutatingCall × String) String Command
      { outcome : SendOutcome // outcome.Silent } Answer Outcome where
  request x call := call.1.asks a codec x call.2
  legs x := x.legs
  call x call sights :=
    ((call.1.perform a (x.env codec sights) call.2).attempts.length,
      (call.1.perform a (x.env codec sights) call.2).result)
  again _ := none
  keeps _ _ _ _ h := absurd h (Option.some_ne_none _).symm

/-- A mutation returns what a successful answer yields. -/
def lifecycleReading (codec : Codec) : Reading MethodCall Outcome Answer GoMap where
  Shows _ _ := True
  Settles response outcome := outcome = .response response
  Backs response answer := answer.Yields codec.parse response

/-- What the example reads off an outcome is what the server answered. -/
theorem lifecycleReading_sound {σ : Type*} (a : AdminClient) (codec : Codec) (server : Server σ) :
    (lifecycleReading codec).Sound (performer a codec) server.toService where
  call _ _ _ _ h := MutatingCall.perform_response h
  way response x i answer h := (x.refusals i answer h).not_yields codec.parse response
  conflict response := server.conflict_fails.not_yields codec.parse response

namespace Settings

variable (s : Settings) (parseTime : String → Option GoTime) (errors : JsonErrors)
  (a : AdminClient) (codec : Codec) (now : GoTime)

/-- The message of one time is in the log, under the key of the run. -/
def Consumed (log : List (Entry String Command Answer)) : Prop :=
  ∃ entry ∈ log, entry.key = some s.consumeKey ∧ ∃ request, (s.usage now).request = .ok request ∧
    entry.command = (MutatingCall.consume s.businessID request).command a codec

/-- A run that gets to the export has its message in the log. -/
def Ends : Ended → List (Entry String Command Answer) → Prop
  | .exports, log => s.Consumed a codec now log
  | _, _ => True

/-- A part of the example gives keyed mutations and ends that way. -/
def Keeps (flow : Flow) (log : List (Entry String Command Answer)) : Prop :=
  flow.Intended (performer a codec) .unrestricted (lifecycleReading codec) (s.Ends a codec now) log

variable {s parseTime errors a codec now} {log : List (Entry String Command Answer)}

/-- A message that was carried out stays so. -/
theorem Consumed.mono {log' : List (Entry String Command Answer)} (hlog : log <+: log')
    (h : s.Consumed a codec now log) : s.Consumed a codec now log' := by
  obtain ⟨entry, hentry, hrest⟩ := h
  exact ⟨entry, hlog.subset hentry, hrest⟩

section Parts

/-- An error ends the run; a response lets it go on. -/
theorem keeps_returned {context : String} {outcome : Outcome} {next : GoMap → Flow}
    (h : ∀ response, outcome = .response response →
      s.Keeps a codec now (next response) log) :
    s.Keeps a codec now (returned context outcome next) log := by
  cases outcome with
  | response response => exact h response rfl
  | error err => trivial
  | panic => trivial

/-- So it does if it can be decoded. -/
theorem keeps_decoded {t : GoType} {context : String} {outcome : Outcome}
    {next : t.Value → Flow}
    (h : ∀ response value, outcome = .response response → s.Keeps a codec now (next value) log) :
    s.Keeps a codec now (decoded parseTime errors t context outcome next) log := by
  refine keeps_returned fun response hresponse => ?_
  split
  · trivial
  · rename_i value _
    exact h response value hresponse

/-- A mutation under a key, and then the rest with a log that may have grown. -/
theorem keeps_command {m : MutatingCall} {key : String} {next : Outcome → Flow} (hne : key ≠ "")
    (hnext : ∀ log', log <+: log' → ∀ outcome,
      (∀ response, outcome = .response response → ∃ entry ∈ log', entry.key = some key ∧
        entry.command = m.command a codec) → s.Keeps a codec now (next outcome) log') :
    s.Keeps a codec now (.command (m, key) next) log := by
  intro x
  have hkey : m.sentKey x.keySeed key = key := if_neg fun h => hne h.1
  have hrequest : (performer a codec).request x (m, key) = ⟨some key, m.command a codec⟩ := by
    change m.asks a codec x key = _
    rw [MutatingCall.asks, hkey, if_neg hne]
  rw [hrequest]
  refine ⟨⟨key, trivial, rfl, trivial⟩, ?_⟩
  intro log' hlog _ outcome hbacked
  refine hnext log' hlog outcome ?_
  intro response hresponse
  obtain ⟨entry, hentry, hentryKey, hcommand, -⟩ := hbacked response hresponse
  exact ⟨entry, hentry, hentryKey, hcommand⟩

/-- The top-up leads to what follows it. -/
theorem keeps_maybeFundProvider {next : Flow}
    (hnext : ∀ log', log <+: log' → s.Keeps a codec now next log') :
    s.Keeps a codec now (s.maybeFundProvider next) log := by
  unfold maybeFundProvider
  split
  · exact hnext log (List.prefix_refl _)
  · split
    · trivial
    · refine keeps_command s.topUpKey_ne ?_
      intro log' hlog outcome _
      refine keeps_returned fun response _ => ?_
      split
      · exact hnext log' hlog
      · trivial

/-- The check of the usage leads to what follows it. -/
theorem keeps_checkUsage {next : Flow} (hnext : s.Keeps a codec now next log) :
    s.Keeps a codec now (s.checkUsage parseTime errors next) log := by
  intro outcome _
  refine keeps_decoded fun _ _ _ => ?_
  intro outcome' _
  refine keeps_decoded fun _ eligibility _ => ?_
  split
  · exact hnext
  · trivial

/-- A consumption that is decoded is in the log. -/
theorem keeps_consumeMessage {context : String} {next : consumptionResult.Value → Flow}
    (hnext : ∀ log', log <+: log' → s.Consumed a codec now log' →
      ∀ decision, s.Keeps a codec now (next decision) log') :
    s.Keeps a codec now (s.consumeMessage parseTime errors now context next) log := by
  unfold consumeMessage
  split
  · trivial
  · rename_i request hrequest
    refine keeps_command s.consumeKey_ne ?_
    intro log' hlog outcome hbacked
    refine keeps_decoded fun response decision hresponse => ?_
    obtain ⟨entry, hentry, hkey, hcommand⟩ := hbacked response hresponse
    exact hnext log' hlog ⟨entry, hentry, hkey, request, hrequest, hcommand⟩ decision

/-- A run that gets to the export has its consumption in the log. -/
theorem keeps_lifecycle (log : List (Entry String Command Answer)) :
    s.Keeps a codec now (s.lifecycle parseTime errors now) log := by
  intro outcome _
  refine keeps_returned fun catalog _ => ?_
  split
  · split
    · trivial
    · refine keeps_command s.activationKey_ne ?_
      intro log₁ _ outcome _
      refine keeps_decoded fun _ _ _ => keeps_maybeFundProvider ?_
      intro log₂ _
      refine keeps_checkUsage (keeps_consumeMessage ?_)
      intro log₃ _ hconsumed decision
      refine keeps_consumeMessage ?_
      intro log₄ hlog₄ _ replayed
      split
      · trivial
      · intro outcome _
        exact keeps_decoded fun _ _ _ => hconsumed.mono hlog₄
  · trivial

end Parts

end Settings

/-! ## Two times, one key -/

/-- `json.Marshal` writes the document of a request, and the parser reads it back. -/
def Codec.Encodes (codec : Codec) (body : RequestBody) : Prop :=
  ∃ payload json, codec.marshal body = .ok payload ∧ body.document = some json ∧
    codec.parse payload = some json

/-- Two times that are written differently, each of which can be read again. -/
def parseEither (time other : GoTime) (text : String) : Option GoTime :=
  if text = time.rfc3339Nano then some time
  else if text = other.rfc3339Nano then some other
  else none

/-- Consumptions of two times have two documents. -/
theorem ConsumptionRequest.document_ne {request other : ConsumptionRequest}
    (htime : request.occurredAt.rfc3339Nano ≠ other.occurredAt.rfc3339Nano)
    (hscalar : ∀ r, r = request ∨ r = other → r.components = [] ∧
      ∀ m, r.metadata = some m → m.ScalarAttributes) :
    (RequestBody.consumption request).document ≠ (RequestBody.consumption other).document := by
  have hcarries : ∀ r, r = request ∨ r = other →
      ∃ json, (RequestBody.consumption r).document = some json ∧
        consumptionRequest.Reads (parseEither request.occurredAt other.occurredAt) json
          r.values := by
    intro r hr
    have hparse : parseEither request.occurredAt other.occurredAt r.occurredAt.rfc3339Nano =
        some r.occurredAt := by
      rcases hr with rfl | rfl
      · exact if_pos rfl
      · rw [parseEither, if_neg htime.symm, if_pos rfl]
    have hexpressible : (RequestBody.consumption r).Expressible
        (parseEither request.occurredAt other.occurredAt) := by
      refine ⟨hparse, (hscalar r hr).2, ?_⟩
      intro c hc
      rw [(hscalar r hr).1] at hc
      cases hc
    exact RequestBody.document_carries hexpressible
  obtain ⟨json, hdocument, hreads⟩ := hcarries request (.inl rfl)
  obtain ⟨json', hdocument', hreads'⟩ := hcarries other (.inr rfl)
  intro hsame
  rw [hdocument, hdocument', Option.some.injEq] at hsame
  subst hsame
  have hvalues := Option.some.inj (hreads.symm.trans hreads')
  have hoccurred : request.occurredAt = other.occurredAt :=
    congrArg (fun values => values.2.1) hvalues
  exact htime (congrArg GoTime.rfc3339Nano hoccurred)

/-- Consumptions with two documents are two commands. -/
theorem consume_command_ne {codec : Codec} {request other : ConsumptionRequest}
    (a : AdminClient) (businessID : String) (h : codec.Encodes (.consumption request))
    (h' : codec.Encodes (.consumption other))
    (hdocument : (RequestBody.consumption request).document ≠
      (RequestBody.consumption other).document) :
    (MutatingCall.consume businessID request).command a codec ≠
      (MutatingCall.consume businessID other).command a codec := by
  obtain ⟨payload, json, hmarshal, hjson, hparse⟩ := h
  obtain ⟨payload', json', hmarshal', hjson', hparse'⟩ := h'
  intro hsame
  have hpayload : payload = payload' := by
    have hbody := congrArg Command.body hsame
    simpa only [MutatingCall.command, MutatingCall.body, hmarshal, hmarshal'] using hbody
  rw [← hpayload, hparse] at hparse'
  exact hdocument (by rw [hjson, hjson', hparse'])

namespace Settings

section Reruns

variable {s : Settings} {a : AdminClient} {codec : Codec}

/-- The log has the message of one time only. -/
theorem Consumed.unique {log : List (Entry String Command Answer)}
    (hlog : (log.filterMap Entry.key).Nodup) {now other : GoTime}
    (hencodes : ∀ time request, time = now ∨ time = other → (s.usage time).request = .ok request →
      codec.Encodes (.consumption request))
    (h : s.Consumed a codec now log) (h' : s.Consumed a codec other log) :
    now.rfc3339Nano = other.rfc3339Nano := by
  obtain ⟨entry, hentry, hkey, request, hrequest, hcommand⟩ := h
  obtain ⟨entry', hentry', hkey', request', hrequest', hcommand'⟩ := h'
  obtain rfl := Entry.eq_of_key hlog hentry hentry' hkey hkey'
  have henc := hencodes now request (.inl rfl) hrequest
  have henc' := hencodes other request' (.inr rfl) hrequest'
  have hfields : ∀ {time request}, (s.usage time).request = .ok request →
      request.occurredAt = time ∧ request.components = [] ∧
        request.metadata = some s.usageMetadata := by
    intro time request hrequest
    obtain rfl := ((quantityRequest_eq_ok_iff _ _ _ _ _ _ _).mp hrequest).2.2.2
    exact ⟨rfl, rfl, rfl⟩
  have hscalar : ∀ m, some s.usageMetadata = some m → m.ScalarAttributes := by
    rintro m ⟨⟩ e he
    cases he
  by_contra htime
  refine consume_command_ne a s.businessID henc henc' (ConsumptionRequest.document_ne ?_ ?_)
    (hcommand.symm.trans hcommand')
  · rw [(hfields hrequest).1, (hfields hrequest').1]
    exact htime
  · rintro r (rfl | rfl)
    · rw [(hfields hrequest).2.1, (hfields hrequest).2.2]
      exact ⟨rfl, hscalar⟩
    · rw [(hfields hrequest').2.1, (hfields hrequest').2.2]
      exact ⟨rfl, hscalar⟩

variable {σ : Type*} (s a codec) (server : Server σ) (parseTime : String → Option GoTime)
  (errors : JsonErrors)

/-- A run of the example. -/
def run (now : GoTime) (trial : Trial Circumstances MethodCall Outcome)
    (desk : Desk σ String Command Answer) :
    Ran σ String Command Answer Circumstances (MutatingCall × String) Ended :=
  (s.lifecycle parseTime errors now).run (performer a codec) server.toService trial 0 desk

/-- A run only adds to the log, and gets to the export with its own message in it. -/
theorem run_ends (now : GoTime) (trial : Trial Circumstances MethodCall Outcome)
    (desk : Desk σ String Command Answer) :
    desk.log <+: (s.run a codec server parseTime errors now trial desk).desk.log ∧
      ((s.run a codec server parseTime errors now trial desk).result = some .exports →
        s.Consumed a codec now
          (s.run a codec server parseTime errors now trial desk).desk.log) := by
  have hproper : trial.Proper (performer a codec) .unrestricted (lifecycleReading codec) :=
    ⟨fun _ _ => trivial, fun _ _ request _ => Intention.harmless_unrestricted request⟩
  have hkeeps : s.Keeps a codec now (s.lifecycle parseTime errors now) desk.log :=
    keeps_lifecycle desk.log
  obtain ⟨hgrown, -, hran⟩ := Program.run_honoured (lifecycleReading_sound a codec server)
    hproper (Intention.consistent_unrestricted desk) hkeeps 0
  exact ⟨hgrown, hran.result .exports⟩

/-- A run that gets to the export carries out its message, and once the message of one time
was carried out, by a run that got to the export or not, no run at another time gets there:
the two have one key and different bodies. -/
theorem rerun_stops {now other : GoTime} (htime : now.rfc3339Nano ≠ other.rfc3339Nano)
    (hencodes : ∀ time request, time = now ∨ time = other → (s.usage time).request = .ok request →
      codec.Encodes (.consumption request)) :
    (∀ trial (desk : Desk σ String Command Answer),
      (s.run a codec server parseTime errors now trial desk).result = some .exports →
        s.Consumed a codec now (s.run a codec server parseTime errors now trial desk).desk.log) ∧
    ∀ trial (desk : Desk σ String Command Answer), s.Consumed a codec now desk.log →
      (s.run a codec server parseTime errors other trial desk).result ≠ some .exports := by
  refine ⟨fun trial desk => (s.run_ends a codec server parseTime errors now trial desk).2, ?_⟩
  intro trial desk hconsumed hresult
  obtain ⟨hgrown, hends⟩ := s.run_ends a codec server parseTime errors other trial desk
  exact htime (Consumed.unique
    (s.run a codec server parseTime errors other trial desk).desk.unique hencodes
    (hconsumed.mono hgrown) (hends hresult))

end Reruns

end Settings

/-! ## A run that is started again -/

/-- The settings of a checkout without a top-up. -/
def checkout : Settings := ⟨"shop", "9900", "checkout-001", "Asia/Riyadh", "", ""⟩

/-- The time of the first run. -/
def firstTime : GoTime := ⟨false, "2026-08-04T00:00:00Z"⟩

/-- The time of the second run. -/
def secondTime : GoTime := ⟨false, "2026-08-04T00:01:00Z"⟩

/-- The document of the message of a time. -/
def checkoutDocument (now : GoTime) : Option Json :=
  match (checkout.usage now).request with
  | .error _ => none
  | .ok request => (RequestBody.consumption request).document

/-- A codec for two messages; every other body shows a result that serves for all calls. -/
def checkoutCodec : Codec where
  parse body :=
    if body = [1] then checkoutDocument firstTime
    else if body = [2] then checkoutDocument secondTime
    else some (.object [(Text.ofString "data", .object [(Text.ofString "eligible", .bool true)])])
  isPrint := Char.isAlphanum
  marshal body :=
    match body with
    | .consumption request => .ok (if request.occurredAt = firstTime then [1] else [2])
    | _ => .ok [3]
  newRequest _ _ := none

/-- A server that counts what it carries out. -/
def checkoutServer : Server ℕ where
  serve n _ := (n + 1, ⟨200, ∅, [3]⟩)
  conflict := ⟨409, ∅, [3]⟩
  conflict_fails := by
    rintro ⟨-, h⟩
    exact absurd h (by decide)

/-- The first answer to every mutation is lost. -/
def checkoutTrial : Trial Circumstances MethodCall Outcome where
  killed _ := false
  seen _ call :=
    match call with
    | .overall .getCatalog => .response [("catalog_version", .string "v1")]
    | _ => .response [("data", .map [("eligible", .bool true)])]
  circumstances _ := answerLost

/-- A run that is over at the export. -/
def Ended.isExports : Ended → Bool
  | .exports => true
  | _ => false

/-- A run that gets to the export ends there. -/
theorem Ended.eq_exports {ended : Ended} (h : ended.isExports = true) : ended = .exports := by
  cases ended with
  | exports => rfl
  | _ => cases h

/-- The codec of the example encodes both messages. -/
theorem checkout_encodes {time : GoTime} {request : ConsumptionRequest}
    (htime : time = firstTime ∨ time = secondTime)
    (hrequest : (checkout.usage time).request = .ok request) :
    checkoutCodec.Encodes (.consumption request) := by
  have hdocument : checkoutDocument time = (RequestBody.consumption request).document := by
    rw [checkoutDocument, hrequest]
  have hoccurred : request.occurredAt = time := by
    rw [((quantityRequest_eq_ok_iff _ _ _ _ _ _ _).mp hrequest).2.2.2]
    rfl
  have hwritten : (checkoutDocument time).isSome = true := by
    rcases htime with rfl | rfl <;> decide +kernel
  obtain ⟨json, hjson⟩ := Option.isSome_iff_exists.mp hwritten
  refine ⟨if request.occurredAt = firstTime then [1] else [2], json, rfl, ?_, ?_⟩
  · rw [← hdocument, hjson]
  · rcases htime with rfl | rfl
    · rw [if_pos hoccurred]
      exact hjson
    · rw [if_neg (by rw [hoccurred]; decide)]
      exact hjson

/-- What the first run leaves. -/
def checkoutRun : Ran ℕ String Command Answer Circumstances (MutatingCall × String) Ended :=
  checkout.run opsAdmin checkoutCodec checkoutServer noTimes noTexts firstTime checkoutTrial
    ⟨0, [], List.nodup_nil⟩

/-- The first run gets to the export; the second one, a minute later, does not. -/
theorem checkout_rerun_stops : checkoutRun.result = some .exports ∧
    (checkout.run opsAdmin checkoutCodec checkoutServer noTimes noTexts secondTime checkoutTrial
      checkoutRun.desk).result ≠ some .exports := by
  obtain ⟨hconsumed, hstops⟩ := checkout.rerun_stops opsAdmin checkoutCodec checkoutServer
    noTimes noTexts (show firstTime.rfc3339Nano ≠ secondTime.rfc3339Nano by decide)
    fun _ _ htime hrequest => checkout_encodes htime hrequest
  have hended : (checkoutRun.result.map Ended.isExports) = some true := by decide +kernel
  obtain ⟨ended, hresult, hexports⟩ := Option.map_eq_some_iff.mp hended
  have hfirst : checkoutRun.result = some .exports := by
    rw [hresult, Ended.eq_exports hexports]
  exact ⟨hfirst, hstops checkoutTrial checkoutRun.desk
    (hconsumed checkoutTrial ⟨0, [], List.nodup_nil⟩ hfirst)⟩

end MizanSDK.Go
