import MizanSDK.Agreement.Postings

/-!
# The bearer credential and the callbacks

Both receivers check the `Authorization` header and then drop it from the headers
a callback receives, so that applications cannot log it by accident.  Python
compares names in lower case.  Go deletes the canonical spelling, and a header
map may hold others.

Main results:

- Theorem `goInvocations_alike_iff`: two requests that differ in credentials only
  are the same to a Go callback exactly when they agree on the other spellings of
  the name.
- Theorem `pyInvocations_eq`: to a Python callback they always are.
- Theorem `credentials_withheld_iff`: both together.
-/

namespace MizanSDK.Agreement

open JsonText Checks

/-! ## Go -/

section Go

open Go

/-- A name equal to `authorization` up to letter case. -/
def namesAuthorization (name : String) : Bool :=
  name.toList.map Char.toLower == "authorization".toList

/-- Header maps that differ only under names equal to `authorization` up to letter
case. -/
def SameButCredentials (headers headers' : Header) : Prop :=
  ∀ name, namesAuthorization name = false → headers.lookup name = headers'.lookup name

/-- Header maps that agree on every spelling of the name but the canonical one. -/
def SameOtherSpellings (headers headers' : Header) : Prop :=
  ∀ name, namesAuthorization name = true → name ≠ "Authorization" →
    headers.lookup name = headers'.lookup name

/-- Contexts a callback cannot tell apart. -/
structure ContextsAlike (delivery delivery' : Go.WebhookContext) : Prop where
  outboxID : delivery.outboxID = delivery'.outboxID
  headers : ∀ name, delivery.headers.lookup name = delivery'.headers.lookup name
  rawBody : delivery.rawBody = delivery'.rawBody

/-- Invocations with the same arguments. -/
inductive InvocationsAlike : Go.Invocation → Go.Invocation → Prop where
  | ledger (event : LedgerWebhook) {delivery delivery' : Go.WebhookContext}
      (contexts : ContextsAlike delivery delivery') :
      InvocationsAlike (.ledger event delivery) (.ledger event delivery')
  | notification (event : NotificationWebhook) {delivery delivery' : Go.WebhookContext}
      (contexts : ContextsAlike delivery delivery') :
      InvocationsAlike (.notification event delivery) (.notification event delivery')

/-- Invocations of the same object differ in their contexts at most. -/
theorem invocationsAlike_iff {members : List (Text × Json)}
    {delivery delivery' : Go.WebhookContext} {invocation invocation' : Go.Invocation}
    (h : Go.Selects members delivery invocation)
    (h' : Go.Selects members delivery' invocation') :
    InvocationsAlike invocation invocation' ↔ ContextsAlike delivery delivery' := by
  cases h with
  | ledger stream decodes valid =>
      cases h' with
      | ledger stream' decodes' valid' =>
          rw [decodes, Option.some.injEq] at decodes'
          subst decodes'
          constructor
          · intro halike
            cases halike with
            | ledger _ contexts => exact contexts
          · exact InvocationsAlike.ledger _
      | notification noLedger stream' decodes' valid' =>
          rw [stream] at noLedger
          exact absurd noLedger (by decide)
  | notification noLedger stream decodes valid =>
      cases h' with
      | ledger stream' decodes' valid' =>
          rw [stream'] at noLedger
          exact absurd noLedger (by decide)
      | notification noLedger' stream' decodes' valid' =>
          rw [decodes, Option.some.injEq] at decodes'
          subst decodes'
          constructor
          · intro halike
            cases halike with
            | notification _ contexts => exact contexts
          · exact InvocationsAlike.notification _

/-- Deleting the header removes its canonical spelling and nothing else. -/
theorem lookup_del_authorization (headers : Header) (name : String) :
    (headers.del "Authorization").lookup name =
      if name = "Authorization" then none else headers.lookup name := by
  have hcanonical : canonicalMIMEHeaderKey "Authorization" = "Authorization" := by decide
  unfold Header.del
  rw [hcanonical]
  split
  · rename_i hname
    rw [hname, AList.lookup_erase]
  · rename_i hname
    exact AList.lookup_erase_ne hname

/-- The outbox identifier is not a credential. -/
theorem outboxID_of_sameButCredentials {headers headers' : Header}
    (h : SameButCredentials headers headers') : Go.outboxID headers = Go.outboxID headers' := by
  have hlookup := h (canonicalMIMEHeaderKey "X-Mizan-Outbox-Id") (by decide)
  unfold Go.outboxID Header.get Header.get?
  rw [hlookup]

theorem contextsAlike_iff {headers headers' : Header}
    (h : SameButCredentials headers headers') (body : List UInt8) :
    ContextsAlike (Go.deliveryContext headers body) (Go.deliveryContext headers' body) ↔
      SameOtherSpellings headers headers' := by
  constructor
  · intro hcontexts name _ hname
    have hlookup := hcontexts.headers name
    simp only [Go.deliveryContext, lookup_del_authorization, if_neg hname] at hlookup
    exact hlookup
  · intro hspellings
    refine ⟨outboxID_of_sameButCredentials h, fun name => ?_, rfl⟩
    simp only [Go.deliveryContext, lookup_del_authorization]
    by_cases hname : name = "Authorization"
    · rw [if_pos hname, if_pos hname]
    · rw [if_neg hname, if_neg hname]
      cases hauth : namesAuthorization name with
      | false => exact h name hauth
      | true => exact hspellings name hauth hname

/-- What `Receive` invokes is what `dispatch` selects. -/
theorem mem_goInvoked_iff (r : Go.WebhookReceiver) (parse : JsonParser) (headers : Header)
    (body : List UInt8) (invocation : Go.Invocation) :
    invocation ∈ (r.receive parse headers body).invoked ↔
      ∃ handler, r.dispatch parse headers body = .invoke handler invocation := by
  unfold Go.WebhookReceiver.receive
  cases r.dispatch parse headers body with
  | respond response => simp
  | invoke handler selected => simp [eq_comm]

/-- Two requests that differ in credentials only are the same to a callback
exactly when they agree on the spellings that are not deleted. -/
theorem goInvocations_alike_iff {r : Go.WebhookReceiver} {parse : Go.JsonParser}
    {headers headers' : Header} {body : List UInt8} {invocation invocation' : Go.Invocation}
    (hsame : SameButCredentials headers headers')
    (h : invocation ∈ (r.receive parse headers body).invoked)
    (h' : invocation' ∈ (r.receive parse headers' body).invoked) :
    InvocationsAlike invocation invocation' ↔ SameOtherSpellings headers headers' := by
  rcases (mem_goInvoked_iff r parse headers body invocation).mp h with ⟨handler, hdispatch⟩
  rcases (mem_goInvoked_iff r parse headers' body invocation').mp h' with ⟨handler', hdispatch'⟩
  rw [r.dispatch_eq_invoke_iff] at hdispatch hdispatch'
  rcases hdispatch with ⟨-, -, members, hparse, hselects⟩
  rcases hdispatch' with ⟨-, -, members', hparse', hselects'⟩
  have hmembers : members = members' := by
    rw [hparse, Option.some.injEq, Json.object.injEq] at hparse'
    exact hparse'
  subst hmembers
  rw [invocationsAlike_iff hselects hselects', contextsAlike_iff hsame]

end Go

/-! ## Python -/

section Python

open Python

variable (py : Interpreter)

/-- Headers that differ only in the values of names equal to `authorization` in
lower case. -/
def SameButCredentialValues (headers headers' : List (PyStr × PyStr)) : Prop :=
  List.Forall₂ (fun h h' => h.1 = h'.1 ∧ (py.lower h.1 = str "authorization" ∨ h.2 = h'.2))
    headers headers'

variable {py} {headers headers' : List (PyStr × PyStr)}

/-- The other headers are the same. -/
theorem filter_normalizedHeaders_eq (h : SameButCredentialValues py headers headers') :
    (normalizedHeaders py headers).filter (fun h => h.1 != str "authorization") =
      (normalizedHeaders py headers').filter (fun h => h.1 != str "authorization") := by
  induction h with
  | nil => rfl
  | cons hfirst _ ih =>
      rcases hfirst with ⟨hname, hvalue⟩
      simp only [normalizedHeaders, List.map_cons] at ih ⊢
      rw [List.filter_cons, List.filter_cons, ih, ← hname]
      rcases hvalue with hauth | hvalue
      · simp [hauth]
      · rw [hvalue]

/-- Every header but the credential reads the same. -/
theorem lookupLast_normalizedHeaders_eq (h : SameButCredentialValues py headers headers')
    {name : PyStr} (hname : name ≠ str "authorization") :
    lookupLast (normalizedHeaders py headers) name =
      lookupLast (normalizedHeaders py headers') name := by
  induction h with
  | nil => rfl
  | cons hfirst _ ih =>
      rcases hfirst with ⟨hsame, hvalue⟩
      simp only [normalizedHeaders, List.map_cons] at ih ⊢
      rw [lookupLast_cons, lookupLast_cons, ih, ← hsame]
      rcases hvalue with hauth | hvalue
      · rw [hauth, if_neg hname.symm, if_neg hname.symm]
      · rw [hvalue]

/-- The context of a delivery does not depend on the credential. -/
theorem pyDeliveryContext_eq (h : SameButCredentialValues py headers headers')
    (raw : List UInt8) :
    Python.deliveryContext py headers raw = Python.deliveryContext py headers' raw := by
  unfold Python.deliveryContext Python.outboxId
  rw [filter_normalizedHeaders_eq h, lookupLast_normalizedHeaders_eq h (by decide)]

/-- Invocations of the same event with the same context are the same. -/
theorem pySelects_unique {event : PyDict} {delivery : Python.WebhookContext}
    {invocation invocation' : Python.Invocation}
    (h : Python.Selects py event delivery invocation)
    (h' : Python.Selects py event delivery invocation') : invocation = invocation' := by
  have hdispatch := (Python.dispatchEvent_eq_invoke_iff py event delivery invocation).mpr h
  have hdispatch' := (Python.dispatchEvent_eq_invoke_iff py event delivery invocation').mpr h'
  rw [hdispatch] at hdispatch'
  exact Python.Dispatch.invoke.inj (Except.ok.inj hdispatch')

/-- Two requests that differ in credentials only are the same to a callback. -/
theorem pyInvocations_eq {r : Python.WebhookReceiver} {payload : WebhookPayload}
    {invocation invocation' : Python.Invocation}
    (hsame : SameButCredentialValues py headers headers')
    (h : invocation ∈ (r.receive py headers payload).invoked)
    (h' : invocation' ∈ (r.receive py headers' payload).invoked) :
    invocation = invocation' := by
  rw [r.mem_invoked_iff, r.dispatch_eq_invoke_iff] at h h'
  rcases h with ⟨raw, event, hdelivers, hselects⟩
  rcases h' with ⟨raw', event', hdelivers', hselects'⟩
  have hdecoded := hdelivers.decodes.symm.trans hdelivers'.decodes
  rw [Except.ok.injEq, Decoded.object.injEq] at hdecoded
  rcases hdecoded with ⟨rfl, rfl⟩
  rw [← pyDeliveryContext_eq hsame] at hselects'
  exact pySelects_unique hselects hselects'

end Python

/-! ## Both receivers -/

/-- A callback gets the same arguments whatever the credential: in Python always,
in Go exactly when the requests agree on the spellings of the name that are not
deleted. -/
theorem credentials_withheld_iff
    {r : Go.WebhookReceiver} {parse : Go.JsonParser} {goHeaders goHeaders' : Go.Header}
    {body : List UInt8} {goInvocation goInvocation' : Go.Invocation}
    (hgo : SameButCredentials goHeaders goHeaders')
    (hinvoked : goInvocation ∈ (r.receive parse goHeaders body).invoked)
    (hinvoked' : goInvocation' ∈ (r.receive parse goHeaders' body).invoked)
    {s : Python.WebhookReceiver} {py : Python.Interpreter}
    {headers headers' : List (Python.PyStr × Python.PyStr)} {payload : Python.WebhookPayload}
    {invocation invocation' : Python.Invocation}
    (hpy : SameButCredentialValues py headers headers')
    (hcalled : invocation ∈ (s.receive py headers payload).invoked)
    (hcalled' : invocation' ∈ (s.receive py headers' payload).invoked) :
    (InvocationsAlike goInvocation goInvocation' ↔ SameOtherSpellings goHeaders goHeaders') ∧
      invocation = invocation' :=
  ⟨goInvocations_alike_iff hgo hinvoked hinvoked', pyInvocations_eq hpy hcalled hcalled'⟩

/-! ## A credential that gets through -/

section Examples

open Go

/-- The headers of a delivery with a credential under a name of this spelling. -/
def credentialHeaders (spelling credential : String) : Header :=
  goHeaders.insert spelling [credential]

theorem sameButCredentials_credentialHeaders {spelling : String}
    (h : namesAuthorization spelling = true) (credential credential' : String) :
    SameButCredentials (credentialHeaders spelling credential)
      (credentialHeaders spelling credential') := by
  intro name hname
  have hne : name ≠ spelling := by
    rintro rfl
    rw [h] at hname
    exact absurd hname (by decide)
  unfold credentialHeaders
  rw [AList.lookup_insert_ne hne, AList.lookup_insert_ne hne]

theorem goReceiver_invoked {headers : Header} (h : Go.outboxID headers ≠ "") :
    Go.Invocation.ledger usageEvent (Go.deliveryContext headers Python.usageBody) ∈
      (goReceiver.receive (parseBody Python.usageBody Python.usageMembers) headers
        Python.usageBody).invoked := by
  have hlength := Python.usageBody_length
  have hadmits : goReceiver.Admits headers Python.usageBody :=
    { nonempty := hlength.1
      withinLimit := by
        have hlimit : goReceiver.bodyLimit = 1048576 := by decide
        rw [hlimit]
        exact_mod_cast hlength.2
      authorized := rfl
      outboxID := h }
  rw [mem_goInvoked_iff]
  refine ⟨⟨fun _ _ => none, fun _ _ => none⟩, ?_⟩
  rw [goReceiver.dispatch_eq_invoke_iff]
  exact ⟨hadmits, rfl, Python.usageMembers, if_pos rfl, .ledger rfl rfl rfl⟩

theorem outboxID_credentialHeaders {spelling : String}
    (h : namesAuthorization spelling = true) (credential : String) :
    Go.outboxID (credentialHeaders spelling credential) ≠ "" := by
  have hne : canonicalMIMEHeaderKey "X-Mizan-Outbox-Id" ≠ spelling := by
    rintro rfl
    exact absurd h (by decide)
  unfold Go.outboxID Header.get Header.get? credentialHeaders
  rw [AList.lookup_insert_ne hne]
  decide

/-- A credential whose name is spelled in lower case reaches the callback. -/
theorem lowercase_authorization_leaks :
    SameButCredentials (credentialHeaders "authorization" "Bearer one")
        (credentialHeaders "authorization" "Bearer two") ∧
      ∃ invocation invocation',
        invocation ∈ (goReceiver.receive (parseBody Python.usageBody Python.usageMembers)
          (credentialHeaders "authorization" "Bearer one") Python.usageBody).invoked ∧
        invocation' ∈ (goReceiver.receive (parseBody Python.usageBody Python.usageMembers)
          (credentialHeaders "authorization" "Bearer two") Python.usageBody).invoked ∧
        ¬ InvocationsAlike invocation invocation' := by
  refine ⟨sameButCredentials_credentialHeaders (by decide) _ _, _, _,
    goReceiver_invoked (outboxID_credentialHeaders (by decide) _),
    goReceiver_invoked (outboxID_credentialHeaders (by decide) _), ?_⟩
  intro halike
  cases halike with
  | ledger _ contexts =>
      have hlookup := contexts.headers "authorization"
      simp only [Go.deliveryContext, lookup_del_authorization] at hlookup
      exact absurd hlookup (by decide)

/-- The headers of a delivery to Python with a credential. -/
def pyCredentialHeaders (credential : String) : List (Python.PyStr × Python.PyStr) :=
  Python.outboxHeaders ++ [(Python.str "AUTHORIZATION", Python.str credential)]

theorem pyReceiver_invoked (credential : String) :
    Python.Invocation.ledger (Python.PyValue.ofMembers Python.usageMembers)
        (Python.deliveryContext (Python.oneBody Python.usageBody Python.usageMembers)
          (pyCredentialHeaders credential) Python.usageBody) ∈
      ((Python.openReceiver Python.keepEvent).receive
        (Python.oneBody Python.usageBody Python.usageMembers) (pyCredentialHeaders credential)
        (.bytes Python.usageBody)).invoked := by
  have hdelivers := Python.delivers_oneBody Python.keepEvent Python.usageMembers
    Python.usageBody_length
  have houtbox : Python.outboxId (Python.oneBody Python.usageBody Python.usageMembers)
      (pyCredentialHeaders credential) ≠ [] := by
    have hsame : Python.outboxId (Python.oneBody Python.usageBody Python.usageMembers)
        (pyCredentialHeaders credential) = Python.str "outbox-1" := by rfl
    rw [hsame]
    decide
  rw [(Python.openReceiver Python.keepEvent).mem_invoked_iff,
    (Python.openReceiver Python.keepEvent).dispatch_eq_invoke_iff]
  exact ⟨_, _, ⟨rfl, houtbox, hdelivers.decodes⟩, .ledger rfl rfl⟩

theorem sameButCredentialValues_pyCredentialHeaders (credential credential' : String) :
    SameButCredentialValues (Python.oneBody Python.usageBody Python.usageMembers)
      (pyCredentialHeaders credential) (pyCredentialHeaders credential') :=
  .cons ⟨rfl, .inr rfl⟩ (.cons ⟨rfl, .inl (by rfl)⟩ .nil)

/-- Under the canonical spelling, and in Python under any, it does not. -/
theorem canonical_credentials_withheld :
    (InvocationsAlike
        (.ledger usageEvent (Go.deliveryContext (credentialHeaders "Authorization" "Bearer one")
          Python.usageBody))
        (.ledger usageEvent (Go.deliveryContext (credentialHeaders "Authorization" "Bearer two")
          Python.usageBody)) ↔
      SameOtherSpellings (credentialHeaders "Authorization" "Bearer one")
        (credentialHeaders "Authorization" "Bearer two")) ∧
      Python.Invocation.ledger (Python.PyValue.ofMembers Python.usageMembers)
          (Python.deliveryContext (Python.oneBody Python.usageBody Python.usageMembers)
            (pyCredentialHeaders "Bearer one") Python.usageBody) =
        Python.Invocation.ledger (Python.PyValue.ofMembers Python.usageMembers)
          (Python.deliveryContext (Python.oneBody Python.usageBody Python.usageMembers)
            (pyCredentialHeaders "Bearer two") Python.usageBody) :=
  credentials_withheld_iff
    (sameButCredentials_credentialHeaders (by decide) "Bearer one" "Bearer two")
    (goReceiver_invoked (outboxID_credentialHeaders (by decide) "Bearer one"))
    (goReceiver_invoked (outboxID_credentialHeaders (by decide) "Bearer two"))
    (sameButCredentialValues_pyCredentialHeaders "Bearer one" "Bearer two")
    (pyReceiver_invoked "Bearer one") (pyReceiver_invoked "Bearer two")

end Examples

end MizanSDK.Agreement
