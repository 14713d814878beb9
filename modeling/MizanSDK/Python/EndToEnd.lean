import MizanSDK.Library.Workflow
import MizanSDK.Python.LedgerExport
import MizanSDK.Python.Payments
import MizanSDK.Python.Sessions

/-!
# The billing lifecycle of the Python example

`main` of the end-to-end example up to its last mutation: it reads the catalog, activates a
subscription, tops up the provider balance if it is told to, asks whether a message may be
sent, reports one, and reports it again.  The keys of its mutations are made of the business
and the run, and the message is dated by the answer to the activation, so a run that was
killed may be started again.

Main results:

- Theorem `Settings.keeps_lifecycle`: every mutation of a run is the one its key stands for.
- Theorem `Settings.lifecycle_replayed`: however often the example is run and killed, no
  mutation is refused as another one under its key, and the runs that get to their replay
  all got one and the same decision, twice.

Current gaps: the texts that are printed, and an environment without the required variables.
-/

namespace MizanSDK.Python

open JsonText Idempotency

/-! ## The example -/

/-- The environment variables of the example but for those of the client. -/
structure Settings where
  businessId : PyStr
  paidTotal : PyStr
  runId : PyStr
  timezone : PyStr
  topUpMinor : Option PyStr
  topUpPaidTotal : Option PyStr

/-- What the example raises itself. -/
inductive LifecycleError where
  | incompleteTopUp
  | ineligible
deriving DecidableEq

/-- How a run ends, as far as its mutations go; after the replay it compares both decisions
and only reads. -/
inductive Ended where
  | raised (exc : Raised)
  | attributeError
  | runtimeError (err : LifecycleError)
  | replayed (decision replay : PyValue)

/-- A part of the example.  A mutation comes with its key. -/
abbrev Flow := Program ReadingCall (MutatingCall × Option PyStr) Outcome Ended

/-- Go on with the value of an expression, unless it raises. -/
def orRaise {α : Type} (value : Except PyError α) (next : α → Flow) : Flow :=
  match value with
  | .error exc => .done (.raised (.other exc))
  | .ok value => next value

/-- Go on with what a call returns, unless it raises. -/
def returned (outcome : Outcome) (next : PyDict → Flow) : Flow :=
  match outcome with
  | .raised exc => .done (.raised exc)
  | .response response => next response

/-- Go on with the member `["data"]` of what a call returns. -/
def dataOf (outcome : Outcome) (next : PyValue → Flow) : Flow :=
  returned outcome fun response => orRaise (PyValue.subscript (.dict response) "data") next

/-- Go on with `value.get(name, default)`, which only a dictionary has. -/
def getOr (value : PyValue) (name : String) (default : PyValue) (next : PyValue → Flow) : Flow :=
  match value with
  | .dict entries => next ((PyDict.get entries name).getD default)
  | _ => .done .attributeError

namespace Settings

variable (s : Settings)

/-- `activation_key`. -/
def activationKey : PyStr := str "activate:" ++ s.businessId ++ str ":" ++ s.runId

/-- The key of the top-up. -/
def topUpKey : PyStr := str "provider-topup:" ++ s.businessId ++ str ":" ++ s.runId

/-- `consume_key`. -/
def consumeKey : PyStr := str "consume:" ++ s.businessId ++ str ":" ++ s.runId

/-- `activation_request`. -/
def activationRequest (catalogVersion : PyValue) : PyDict :=
  [(str "catalog_version", catalogVersion), (str "plan_id", .str (str "start")),
    (str "term", .str (str "monthly")), (str "seats", .int 1),
    (str "timezone", .str s.timezone), (str "payment_status", .str (str "confirmed")),
    (str "payment_event_id", .str (str "example-activation:" ++ s.runId)),
    (str "currency", .str (str "SAR")), (str "paid_total_minor", .str s.paidTotal)]

/-- `metadata`. -/
def metadata : PyDict :=
  [(str "channel", .str (str "whatsapp")),
    (str "conversation_id", .str (str "example-conversation:" ++ s.runId))]

variable (py : BuilderInterpreter)

/-- `top_up`. -/
def topUp (amount paidTotal : PyStr) : Except PyError PyDict :=
  confirmedTopUp py (.str amount) (.str (str "example-provider-topup:" ++ s.runId))
    (.str paidTotal)

/-- The request of both consumptions. -/
def consumption (occurredAt : PyValue) : Except PyError PyDict :=
  outboundDeliveredMessage py (.str (str "example-message:" ++ s.runId)) occurredAt
    (.str (str "1")) (some s.metadata)

/-- The activation of a subscription; it prints four members of the result, of which the
start of the period is used again. -/
def activate (catalogVersion : PyValue) (next : PyValue → Flow) : Flow :=
  .command (.activateSubscription s.businessId (s.activationRequest catalogVersion),
      some s.activationKey) fun outcome =>
    dataOf outcome fun activation =>
    orRaise (activation.subscript "subscription_id") fun _ =>
    orRaise (activation.subscript "current_period_start") fun start =>
    orRaise (activation.subscript "current_period_end") fun _ =>
    orRaise (activation.subscript "included_unit_millis_granted") fun _ => next start

/-- `maybe_fund_provider`. -/
def maybeFundProvider (next : Flow) : Flow :=
  match s.topUpMinor, s.topUpPaidTotal with
  | none, none => next
  | some amount, some paidTotal =>
      if amount = [] ∨ paidTotal = [] then .done (.runtimeError .incompleteTopUp)
      else
        orRaise (s.topUp py amount paidTotal) fun topUp =>
        .command (.topUpProviderBalance s.businessId topUp, some s.topUpKey) fun outcome =>
          dataOf outcome fun _ => next
  | _, _ => .done (.runtimeError .incompleteTopUp)

/-- The entitlement, which is only printed, and the eligibility. -/
def checkUsage (next : Flow) : Flow :=
  .look (.getEntitlement s.businessId (str "basic_analytics")) fun outcome =>
    dataOf outcome fun entitlement =>
    getOr entitlement "capability" .none fun _ =>
    .look (.checkEligibility s.businessId (str "outbound_delivered_message")
        [(str "quantity", .str (str "1")), (str "metadata", .dict s.metadata)]) fun outcome =>
      dataOf outcome fun eligibility =>
      getOr eligibility "eligible" (.bool false) fun eligible =>
        if eligible.truthy then next else .done (.runtimeError .ineligible)

/-- `consume_outbound_delivered_message`, which builds a request and hands it to `consume`. -/
def consumeMessage (occurredAt : PyValue) (next : PyValue → Flow) : Flow :=
  orRaise (s.consumption py occurredAt) fun request =>
  .command (.consume s.businessId request, some s.consumeKey) fun outcome =>
    dataOf outcome next

/-- `main` up to the replay. -/
def lifecycle : Flow :=
  .look .getCatalog fun outcome =>
    returned outcome fun catalog =>
    orRaise (PyValue.subscript (.dict catalog) "catalog_version") fun catalogVersion =>
    s.activate catalogVersion fun start =>
    s.maybeFundProvider py <|
    s.checkUsage <|
    s.consumeMessage py start fun decision =>
    -- What is printed of the decision.
    getOr decision "balances" (.dict []) fun balances =>
    getOr balances "azeer_unit_millis" .none fun _ =>
    s.consumeMessage py start fun replay => .done (.replayed decision replay)

end Settings

/-! ## What the keys stand for -/

/-- An answer shows a value as its data. -/
def Answer.Shows (answer : Answer) (codec : Codec) (value : PyValue) : Prop :=
  ∃ response, answer.Yields codec response ∧
    PyValue.subscript (.dict response) "data" = .ok value

/-- An answer yields one object. -/
theorem Answer.Yields.unique {answer : Answer} {codec : Codec} {result other : PyDict}
    (h : answer.Yields codec result) (h' : answer.Yields codec other) : result = other :=
  PyValue.dict.inj (Option.some.inj (h.2.symm.trans h'.2))

/-- It shows one value as its data. -/
theorem Answer.Shows.unique {answer : Answer} {codec : Codec} {value other : PyValue}
    (h : answer.Shows codec value) (h' : answer.Shows codec other) : value = other := by
  obtain ⟨response, hyields, hvalue⟩ := h
  obtain ⟨response', hyields', hother⟩ := h'
  obtain rfl := hyields.unique hyields'
  exact Except.ok.inj (hvalue.symm.trans hother)

namespace Settings

variable (s : Settings) (py : BuilderInterpreter) (a : MizanAdminClient) (codec : Codec)
  (catalogVersion : PyValue)

/-- The commands the keys of a run stand for.  The consumption is dated by what the answer
to the activation shows. -/
inductive Intends (log : List (Entry PyStr Command Answer)) : PyStr → Command → Prop
  | activation : Intends log s.activationKey
      ((MutatingCall.activateSubscription s.businessId
        (s.activationRequest catalogVersion)).command a codec)
  | topUp {amount paidTotal request} (hamount : s.topUpMinor = some amount)
      (hpaid : s.topUpPaidTotal = some paidTotal)
      (hrequest : s.topUp py amount paidTotal = .ok request) :
      Intends log s.topUpKey
        ((MutatingCall.topUpProviderBalance s.businessId request).command a codec)
  | consumption {entry activation start request} (hentry : entry ∈ log)
      (hkey : entry.key = some s.activationKey) (hshows : entry.answer.Shows codec activation)
      (hstart : activation.subscript "current_period_start" = .ok start)
      (hrequest : s.consumption py start = .ok request) :
      Intends log s.consumeKey ((MutatingCall.consume s.businessId request).command a codec)

variable {s py a codec catalogVersion}

/-- What a key stands for, it stands for in a longer log. -/
theorem Intends.mono {log log' : List (Entry PyStr Command Answer)} {k : PyStr} {b : Command}
    (hlog : log <+: log') (h : s.Intends py a codec catalogVersion log k b) :
    s.Intends py a codec catalogVersion log' k b := by
  cases h with
  | activation => exact .activation
  | topUp hamount hpaid hrequest => exact .topUp hamount hpaid hrequest
  | consumption hentry hkey hshows hstart hrequest =>
      exact .consumption (hlog.subset hentry) hkey hshows hstart hrequest

variable (s) in
/-- The keys of a run differ. -/
theorem keys_ne : s.activationKey ≠ s.topUpKey ∧ s.activationKey ≠ s.consumeKey ∧
    s.topUpKey ≠ s.consumeKey := by
  have hactivation : s.activationKey.head? = (str "activate:").head? := rfl
  have htopUp : s.topUpKey.head? = (str "provider-topup:").head? := rfl
  have hconsume : s.consumeKey.head? = (str "consume:").head? := rfl
  refine ⟨?_, ?_, ?_⟩
  · intro h
    rw [h, htopUp] at hactivation
    exact absurd hactivation (by decide)
  · intro h
    rw [h, hconsume] at hactivation
    exact absurd hactivation (by decide)
  · intro h
    rw [h, hconsume] at htopUp
    exact absurd htopUp (by decide)

/-- The log gives a key one meaning: it has one answer to the activation. -/
theorem Intends.unique {log : List (Entry PyStr Command Answer)}
    (hlog : (log.filterMap Entry.key).Nodup) {k : PyStr} {b b' : Command}
    (h : s.Intends py a codec catalogVersion log k b)
    (h' : s.Intends py a codec catalogVersion log k b') : b = b' := by
  obtain ⟨hactivation, hconsumption, htopUp⟩ := s.keys_ne
  cases h with
  | activation =>
      generalize hk : s.activationKey = k at h'
      cases h' with
      | activation => rfl
      | topUp => exact absurd hk hactivation
      | consumption => exact absurd hk hconsumption
  | topUp hamount hpaid hrequest =>
      generalize hk : s.topUpKey = k at h'
      cases h' with
      | activation => exact absurd hk.symm hactivation
      | topUp hamount' hpaid' hrequest' =>
          obtain rfl := Option.some.inj (hamount.symm.trans hamount')
          obtain rfl := Option.some.inj (hpaid.symm.trans hpaid')
          obtain rfl := Except.ok.inj (hrequest.symm.trans hrequest')
          rfl
      | consumption => exact absurd hk htopUp
  | consumption hentry hkey hshows hstart hrequest =>
      generalize hk : s.consumeKey = k at h'
      cases h' with
      | activation => exact absurd hk.symm hconsumption
      | topUp => exact absurd hk.symm htopUp
      | consumption hentry' hkey' hshows' hstart' hrequest' =>
          obtain rfl := Entry.eq_of_key hlog hentry hentry' hkey hkey'
          obtain rfl := hshows.unique hshows'
          obtain rfl := Except.ok.inj (hstart.symm.trans hstart')
          obtain rfl := Except.ok.inj (hrequest.symm.trans hrequest')
          rfl

variable (s py a codec catalogVersion)

/-- The keys of a run and what they stand for. -/
def intention : Intention PyStr Command Answer where
  keys := {s.activationKey, s.topUpKey, s.consumeKey}
  Intends := s.Intends py a codec catalogVersion
  mono := Intends.mono

/-- A key stands for one command. -/
theorem intention_unambiguous : (s.intention py a codec catalogVersion).Unambiguous := by
  intro log k b b' hlog h h'
  exact Intends.unique hlog h h'

end Settings

/-- A client that performs the mutations of a program; it repeats none of its own accord. -/
def performer (a : MizanAdminClient) (codec : Codec) :
    Caller Circumstances (MutatingCall × Option PyStr) PyStr Command NetworkError Answer
      Outcome where
  request x call := call.1.asks a codec x call.2
  legs x := x.legs
  call x call sights :=
    ((call.1.perform a (x.env codec sights) call.2).attempts.length,
      (call.1.perform a (x.env codec sights) call.2).result)
  again _ := none
  keeps _ _ _ _ h := absurd h (Option.some_ne_none _).symm

/-- The catalog has one version, and a mutation returns what a successful answer yields. -/
def lifecycleReading (codec : Codec) (catalogVersion : PyValue) :
    Reading ReadingCall Outcome Answer PyDict where
  Shows call seen := call = .getCatalog → ∀ catalog version, seen = .response catalog →
    PyValue.subscript (.dict catalog) "catalog_version" = .ok version →
      version = catalogVersion
  Settles response outcome := outcome = .response response
  Backs response answer := answer.Yields codec response

/-- What the example reads off an outcome is what the server answered. -/
theorem lifecycleReading_sound {σ : Type*} (a : MizanAdminClient) (codec : Codec)
    (catalogVersion : PyValue) (server : Server σ) :
    (lifecycleReading codec catalogVersion).Sound (performer a codec) server.toService where
  call _ _ _ _ h := MutatingCall.perform_response h
  way response x i answer h := (x.refusals i answer h).not_yields codec response
  conflict response := server.conflict_fails.not_yields codec response

namespace Settings

variable (s : Settings) (py : BuilderInterpreter) (a : MizanAdminClient) (codec : Codec)
  (catalogVersion : PyValue)

/-- A replay returns the decision that is in the log. -/
def Ends : Ended → List (Entry PyStr Command Answer) → Prop
  | .replayed decision replay, log => ∃ entry ∈ log, entry.key = some s.consumeKey ∧
      entry.answer.Shows codec decision ∧ replay = decision
  | _, _ => True

/-- How a run ended is told by a longer log too. -/
theorem ends_mono {ended : Ended} {log log' : List (Entry PyStr Command Answer)}
    (hlog : log <+: log') (h : s.Ends codec ended log) : s.Ends codec ended log' := by
  cases ended with
  | replayed decision replay =>
      obtain ⟨entry, hentry, hrest⟩ := h
      exact ⟨entry, hlog.subset hentry, hrest⟩
  | _ => trivial

/-- A part of the example does what its keys stand for. -/
def Keeps (flow : Flow) (log : List (Entry PyStr Command Answer)) : Prop :=
  flow.Intended (performer a codec) (s.intention py a codec catalogVersion)
    (lifecycleReading codec catalogVersion) (s.Ends codec) log

/-- The log has an answer under a key that shows a value as its data. -/
def Answered (log : List (Entry PyStr Command Answer)) (key : PyStr) (value : PyValue) : Prop :=
  ∃ entry ∈ log, entry.key = some key ∧ entry.answer.Shows codec value

variable {s py a codec catalogVersion} {log : List (Entry PyStr Command Answer)}

/-- An answer in the log stays there. -/
theorem Answered.mono {log' : List (Entry PyStr Command Answer)} {key : PyStr} {value : PyValue}
    (hlog : log <+: log') (h : Answered codec log key value) : Answered codec log' key value := by
  obtain ⟨entry, hentry, hrest⟩ := h
  exact ⟨entry, hlog.subset hentry, hrest⟩

/-- Under a key there is one answer. -/
theorem Answered.unique {key : PyStr} {value other : PyValue}
    (hlog : (log.filterMap Entry.key).Nodup) (h : Answered codec log key value)
    (h' : Answered codec log key other) : value = other := by
  obtain ⟨entry, hentry, hkey, hshows⟩ := h
  obtain ⟨entry', hentry', hkey', hshows'⟩ := h'
  obtain rfl := Entry.eq_of_key hlog hentry hentry' hkey hkey'
  exact hshows.unique hshows'

/-! ## One part after the other -/

section Parts

/-- An exception ends the run; a value lets it go on. -/
theorem keeps_orRaise {α : Type} {value : Except PyError α} {next : α → Flow}
    (h : ∀ v, value = .ok v → s.Keeps py a codec catalogVersion (next v) log) :
    s.Keeps py a codec catalogVersion (orRaise value next) log := by
  cases value with
  | error exc => trivial
  | ok v => exact h v rfl

/-- So does a response. -/
theorem keeps_returned {outcome : Outcome} {next : PyDict → Flow}
    (h : ∀ response, outcome = .response response →
      s.Keeps py a codec catalogVersion (next response) log) :
    s.Keeps py a codec catalogVersion (returned outcome next) log := by
  cases outcome with
  | raised exc => trivial
  | response response => exact h response rfl

/-- So do its data. -/
theorem keeps_dataOf {outcome : Outcome} {next : PyValue → Flow}
    (h : ∀ response value, outcome = .response response →
      PyValue.subscript (.dict response) "data" = .ok value →
        s.Keeps py a codec catalogVersion (next value) log) :
    s.Keeps py a codec catalogVersion (dataOf outcome next) log :=
  keeps_returned fun response hresponse => keeps_orRaise fun value hvalue =>
    h response value hresponse hvalue

/-- A member or its default lets the run go on. -/
theorem keeps_getOr {value default : PyValue} {name : String} {next : PyValue → Flow}
    (h : ∀ v, s.Keeps py a codec catalogVersion (next v) log) :
    s.Keeps py a codec catalogVersion (getOr value name default next) log := by
  cases value with
  | dict entries => exact h _
  | _ => trivial

/-- A key of its own is sent as it is. -/
theorem sentKey_of_ne {key : PyStr} (h : key ≠ []) (x : Circumstances) :
    MutatingCall.sentKey x (some key) = some key := by
  cases key with
  | nil => exact absurd rfl h
  | cons c rest => rfl

/-- A mutation whose data is used: what its key stands for, and then the rest with a log
that answers it. -/
theorem keeps_command {m : MutatingCall} {key : PyStr} {next : PyValue → Flow}
    (hkey : key ∈ (s.intention py a codec catalogVersion).keys) (hne : key ≠ [])
    (hintends : s.Intends py a codec catalogVersion log key (m.command a codec))
    (hnext : ∀ log', log <+: log' → (log'.filterMap Entry.key).Nodup →
      ∀ value, Answered codec log' key value →
        s.Keeps py a codec catalogVersion (next value) log') :
    s.Keeps py a codec catalogVersion
      (.command (m, some key) fun outcome => dataOf outcome next) log := by
  intro x
  have hrequest : (performer a codec).request x (m, some key) =
      ⟨some key, m.command a codec⟩ := by
    change m.asks a codec x (some key) = _
    rw [MutatingCall.asks, sentKey_of_ne hne]
  rw [hrequest]
  refine ⟨⟨key, hkey, rfl, hintends⟩, ?_⟩
  intro log' hlog hnodup outcome hbacked
  refine keeps_dataOf ?_
  intro response value hresponse hvalue
  obtain ⟨entry, hentry, hentryKey, -, hyields⟩ := hbacked response hresponse
  exact hnext log' hlog hnodup value ⟨entry, hentry, hentryKey, response, hyields, hvalue⟩

/-- The activation leads to what follows it, with the period it was answered. -/
theorem keeps_activate {next : PyValue → Flow}
    (hnext : ∀ log', log <+: log' → (log'.filterMap Entry.key).Nodup →
      ∀ activation start, Answered codec log' s.activationKey activation →
        activation.subscript "current_period_start" = .ok start →
          s.Keeps py a codec catalogVersion (next start) log') :
    s.Keeps py a codec catalogVersion (s.activate catalogVersion next) log := by
  refine keeps_command (.inl rfl) (List.cons_ne_nil _ _) .activation ?_
  intro log' hlog hnodup activation hactivation
  refine keeps_orRaise fun _ _ => ?_
  refine keeps_orRaise fun start hstart => ?_
  refine keeps_orRaise fun _ _ => ?_
  refine keeps_orRaise fun _ _ => ?_
  exact hnext log' hlog hnodup activation start hactivation hstart

/-- The top-up leads to what follows it. -/
theorem keeps_maybeFundProvider {next : Flow} (hlog : (log.filterMap Entry.key).Nodup)
    (hnext : ∀ log', log <+: log' → (log'.filterMap Entry.key).Nodup →
      s.Keeps py a codec catalogVersion next log') :
    s.Keeps py a codec catalogVersion (s.maybeFundProvider py next) log := by
  unfold maybeFundProvider
  split
  · exact hnext log (List.prefix_refl _) hlog
  · rename_i amount paidTotal hamount hpaid
    split
    · trivial
    · refine keeps_orRaise fun request hrequest => ?_
      refine keeps_command (.inr (.inl rfl)) (List.cons_ne_nil _ _)
        (.topUp hamount hpaid hrequest) ?_
      intro log' hgrown hnodup _ _
      exact hnext log' hgrown hnodup
  · trivial

/-- The check of the usage leads to what follows it. -/
theorem keeps_checkUsage {next : Flow} (hnext : s.Keeps py a codec catalogVersion next log) :
    s.Keeps py a codec catalogVersion (s.checkUsage next) log := by
  intro outcome _
  refine keeps_dataOf fun _ _ _ _ => keeps_getOr fun _ => ?_
  intro outcome' _
  refine keeps_dataOf fun _ _ _ _ => keeps_getOr fun eligible => ?_
  split
  · exact hnext
  · trivial

/-- A consumption dated by the answer to the activation. -/
theorem keeps_consumeMessage {activation start : PyValue} {next : PyValue → Flow}
    (hactivation : Answered codec log s.activationKey activation)
    (hstart : activation.subscript "current_period_start" = .ok start)
    (hnext : ∀ log', log <+: log' → (log'.filterMap Entry.key).Nodup →
      ∀ decision, Answered codec log' s.consumeKey decision →
        s.Keeps py a codec catalogVersion (next decision) log') :
    s.Keeps py a codec catalogVersion (s.consumeMessage py start next) log := by
  obtain ⟨entry, hentry, hkey, hshows⟩ := hactivation
  refine keeps_orRaise fun request hrequest => ?_
  exact keeps_command (.inr (.inr rfl)) (List.cons_ne_nil _ _)
    (.consumption hentry hkey hshows hstart hrequest) hnext

/-- Every mutation of a run is the one its key stands for. -/
theorem keeps_lifecycle (log : List (Entry PyStr Command Answer)) :
    s.Keeps py a codec catalogVersion (s.lifecycle py) log := by
  intro outcome hshows
  refine keeps_returned fun catalog hcatalog => keeps_orRaise fun version hversion => ?_
  obtain rfl := hshows rfl catalog version hcatalog hversion
  refine keeps_activate ?_
  intro log₁ _ hnodup₁ activation start hactivation hstart
  refine keeps_maybeFundProvider hnodup₁ ?_
  intro log₂ hlog₂ _
  refine keeps_checkUsage (keeps_consumeMessage (hactivation.mono hlog₂) hstart ?_)
  intro log₃ hlog₃ _ decision hdecision
  refine keeps_getOr fun _ => keeps_getOr fun _ => ?_
  refine keeps_consumeMessage ((hactivation.mono hlog₂).mono hlog₃) hstart ?_
  intro log₄ hlog₄ hnodup₄ replay hreplay
  obtain ⟨entry, hentry, hkey, hdecided⟩ := hdecision.mono hlog₄
  exact ⟨entry, hentry, hkey, hdecided, hreplay.unique hnodup₄ (hdecision.mono hlog₄)⟩

end Parts

/-! ## Runs -/

section Runs

variable {σ : Type*} (s py a codec catalogVersion) (server : Server σ)
  (trials : List (Trial Circumstances ReadingCall Outcome)) (desk : Desk σ PyStr Command Answer)

/-- All runs of the example, one after the other, each of which may be killed. -/
def runs : List (Ran σ PyStr Command Answer Circumstances (MutatingCall × Option PyStr) Ended) :=
  (s.lifecycle py).runAll (performer a codec) server.toService trials desk

/-- The server behind them. -/
def deskAfter : Desk σ PyStr Command Answer :=
  (s.lifecycle py).deskAfter (performer a codec) server.toService trials desk

/-- However often the example is run and killed, as long as the catalog keeps its version and
nobody else uses the keys: what was carried out under its keys, once for each, is what they
stand for; a mutation sends its request and no other, and every answer that reaches it is
the one to this request; and all replays and decisions are one and the same. -/
theorem lifecycle_replayed
    (hnew : ∀ k ∈ (s.intention py a codec catalogVersion).keys, desk.record (some k) = none)
    (htrials : ∀ trial ∈ trials, trial.Proper (performer a codec)
      (s.intention py a codec catalogVersion) (lifecycleReading codec catalogVersion)) :
    (∀ entry ∈ (s.deskAfter py a codec server trials desk).log,
      ∀ k ∈ (s.intention py a codec catalogVersion).keys, entry.key = some k →
        s.Intends py a codec catalogVersion (s.deskAfter py a codec server trials desk).log k
          entry.command) ∧
    (∀ ran ∈ s.runs py a codec server trials desk, ∀ given ∈ ran.given,
      (∀ sights, ∀ req ∈ (given.call.1.perform a (given.circumstances.env codec sights)
        given.call.2).attempts,
          req.asked = (performer a codec).request given.circumstances given.call) ∧
      given.Honoured (performer a codec) server.toService
        (s.intention py a codec catalogVersion)
        (s.deskAfter py a codec server trials desk).log) ∧
    ∀ ran ∈ s.runs py a codec server trials desk, ∀ ran' ∈ s.runs py a codec server trials desk,
      ∀ decision replay decision' replay',
        ran.result = some (.replayed decision replay) →
          ran'.result = some (.replayed decision' replay') →
            replay = decision ∧ decision' = decision ∧ replay' = decision := by
  have hends : ∀ result log log', log <+: log' → s.Ends codec result log →
      s.Ends codec result log' := fun _ _ _ => s.ends_mono codec
  have hkeeps : ∀ log, s.Keeps py a codec catalogVersion (s.lifecycle py) log :=
    fun log => keeps_lifecycle log
  obtain ⟨-, hconsistent, hruns⟩ := Program.runAll_honoured
    (lifecycleReading_sound a codec catalogVersion server) htrials hends
    (Intention.consistent_of_new hnew) (fun log _ _ => hkeeps log)
  refine ⟨hconsistent, ?_, ?_⟩
  · intro ran hran given hgiven
    refine ⟨?_, (hruns ran hran).given (s.intention_unambiguous py a codec catalogVersion)
      given hgiven⟩
    intro sights req hreq
    exact MutatingCall.perform_asked hreq
  · intro ran hran ran' hran' decision replay decision' replay' hresult hresult'
    obtain ⟨entry, hentry, hkey, hdecided, hreplay⟩ := (hruns ran hran).result _ hresult
    obtain ⟨entry', hentry', hkey', hdecided', hreplay'⟩ :=
      (hruns ran' hran').result _ hresult'
    have hsame : decision' = decision :=
      Answered.unique (s.deskAfter py a codec server trials desk).unique
        ⟨entry', hentry', hkey', hdecided'⟩ ⟨entry, hentry, hkey, hdecided⟩
    exact ⟨hreplay, hsame, hreplay'.trans hsame⟩

end Runs

end Settings

/-! ## A run that is killed and started again -/

/-- The settings of a checkout without a top-up. -/
def checkout : Settings :=
  ⟨str "shop", str "9900", str "checkout-001", str "Asia/Riyadh", none, none⟩

/-- Data that serves as an activation, an eligibility and a decision. -/
def checkoutData : PyDict :=
  [(str "subscription_id", .str (str "sub-1")),
    (str "current_period_start", .str (str "2026-08-04T00:00:00Z")),
    (str "current_period_end", .str (str "2026-09-04T00:00:00Z")),
    (str "included_unit_millis_granted", .str (str "0")), (str "eligible", .bool true),
    (str "balances", .dict [(str "azeer_unit_millis", .str (str "0"))])]

/-- A codec that reads this data in every body. -/
def checkoutCodec : Codec where
  dumps _ := .ok [0x7B]
  decode _ := some []
  loads _ := some (.dict [(str "data", .dict checkoutData)])

/-- A server that counts what it carries out. -/
def checkoutServer : Server ℕ where
  serve n _ := (n + 1, ⟨200, [], [0x7B]⟩)
  conflict := ⟨409, [], [0x7B]⟩
  conflict_fails := by
    rintro ⟨-, h⟩
    exact absurd h (by decide)

/-- The first answer to every mutation is lost. -/
def checkoutCircumstances : Circumstances where
  keyUuid := ⟨str "key", by decide⟩
  correlationUuid := str "request"
  timestamp _ := str "2026-08-04T00:00:00Z"
  legs k := ⟨[], if k = 1 then .unanswered (.urlError "reset") else .answered⟩
  refusals k answer h := by
    simp only at h
    split at h <;> cases h

/-- A run that is killed before a call, if at all. -/
def checkoutTrial (killed : ℕ → Bool) : Trial Circumstances ReadingCall Outcome where
  killed := killed
  seen _ call :=
    match call with
    | .getCatalog => .response [(str "catalog_version", .str (str "v1"))]
    | _ => .response [(str "data", .dict checkoutData)]
  circumstances _ := checkoutCircumstances

/-- The first run is killed before its replay, the second one is not. -/
def checkoutTrials : List (Trial Circumstances ReadingCall Outcome) :=
  [checkoutTrial (· = 5), checkoutTrial fun _ => false]

/-- The runs of the example keep to their keys. -/
theorem checkoutTrials_proper : ∀ trial ∈ checkoutTrials, trial.Proper
    (performer opsAdmin checkoutCodec)
    (checkout.intention asciiInterpreter opsAdmin checkoutCodec (.str (str "v1")))
    (lifecycleReading checkoutCodec (.str (str "v1"))) := by
  have hproper : ∀ killed, (checkoutTrial killed).Proper (performer opsAdmin checkoutCodec)
      (checkout.intention asciiInterpreter opsAdmin checkoutCodec (.str (str "v1")))
      (lifecycleReading checkoutCodec (.str (str "v1"))) := by
    intro killed
    constructor
    · rintro n call rfl catalog version hcatalog hversion
      rw [← Outcome.response.inj hcatalog] at hversion
      exact (Except.ok.inj hversion).symm
    · intro n i request hrequest
      cases hrequest
  intro trial htrial
  rcases List.mem_cons.mp htrial with rfl | htrial
  · exact hproper _
  · rw [List.mem_singleton.mp htrial]
    exact hproper _

/-- What is left of these runs. -/
def checkoutRuns :
    List (Ran ℕ PyStr Command Answer Circumstances (MutatingCall × Option PyStr) Ended) :=
  checkout.runs asciiInterpreter opsAdmin checkoutCodec checkoutServer checkoutTrials
    ⟨0, [], List.nodup_nil⟩

/-- The server behind them. -/
def checkoutDesk : Desk ℕ PyStr Command Answer :=
  checkout.deskAfter asciiInterpreter opsAdmin checkoutCodec checkoutServer checkoutTrials
    ⟨0, [], List.nodup_nil⟩

/-- Five mutations are given, two of them by the run that is killed, and two are carried
out: the subscription is activated once and the message counted once. -/
theorem checkout_replayed :
    checkoutRuns.map (fun ran => (ran.given.length, ran.result.isSome)) =
        [(2, false), (3, true)] ∧
      checkoutDesk.state = 2 ∧
      ∀ ran ∈ checkoutRuns, ∀ given ∈ ran.given, given.Honoured
        (performer opsAdmin checkoutCodec) checkoutServer.toService
        (checkout.intention asciiInterpreter opsAdmin checkoutCodec (.str (str "v1")))
        checkoutDesk.log := by
  obtain ⟨-, hgiven, -⟩ := checkout.lifecycle_replayed asciiInterpreter opsAdmin checkoutCodec
    (.str (str "v1")) checkoutServer checkoutTrials ⟨0, [], List.nodup_nil⟩ (fun _ _ => rfl)
    checkoutTrials_proper
  refine ⟨by decide +kernel, by decide +kernel, ?_⟩
  intro ran hran given hmem
  exact (hgiven ran hran given hmem).2

end MizanSDK.Python
