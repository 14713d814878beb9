import MizanSDK.Go.RetryDecision
import MizanSDK.Python.Replay

/-!
# The answers of a server

The attempt loops of `requestWithHeaders` and `_request` against one server.
`Answer` is what a server does with one attempt, read off the document both
clients decode; a script gives the answer to every attempt.  Its bodies lie within
the limits of both decoders.

Main results:

- Theorem `goReply_eq` and `pyReply_eq`: each client's reply is a function of the
  answer.
- Theorem `tameEnvelope_iff`: the error envelopes both clients read alike.
-/

namespace MizanSDK.Agreement

open JsonText BoundedRetry

/-! ## Scripts -/

/-- What happens to one attempt, as each of the two clients sees it. -/
inductive Step where
  | networkFailure (err : Go.GoError) (exc : Python.NetworkError)
  | response (status : ℤ) (header : Go.Header) (headers : List (Python.PyStr × Python.PyStr))
      (body : List UInt8)

/-- A step as the Go client sees it. -/
def Step.toGo : Step → Go.SendOutcome
  | .networkFailure err _ => .failure err
  | .response status header _ body => .response status header ⟨body, none⟩

/-- A step as the Python client sees it. -/
def Step.toPython : Step → Python.TransportOutcome
  | .networkFailure _ exc => .raises exc
  | .response status _ headers body => .returns status headers body

/-- A body within the size limit that is empty or a JSON text both decoders read, as one
document.  A text that is nested too deeply for one of them, or has an integer of more digits
than `int` takes, is none: there `encoding/json` reports an error, and `RecursionError` or
`ValueError` leaves `_request`, which no clause of it catches. -/
structure Readable (parse : Go.JsonParser) (q : Python.Env) (body : List UInt8) : Prop where
  size : body.length ≤ 2097152
  text : body ≠ [] → ∃ document, parse body = some document ∧
    (q.decode body).bind q.loads = some (Python.PyValue.ofJson document)

/-- Both clients talk to one server: the script answers their attempts, they make
up to equally many, and the context of the Go client is never cancelled. -/
structure SameServer (c : Go.Client) (g : Go.Env) (p : Python.MizanClient) (q : Python.Env)
    (script : ℕ → Step) : Prop where
  goSend : ∀ k, g.send k = (script k).toGo
  pySend : ∀ k, q.transport k = (script k).toPython
  attempts : c.attempts = p.maxAttempts
  neverCancelled : ∀ k, g.wait k = Go.backoffWait (fun _ => none) k
  readable : ∀ k status header headers body,
    script k = .response status header headers body → Readable g.parse q body

/-! ## Answers -/

/-- What a server does with one attempt. -/
inductive Answer where
  | failure
  | notObject
  | success (members : List (Text × Json))
  | rejection (status : ℤ) (members : List (Text × Json))

/-- The document of a body; no bytes stand for the empty object. -/
def documentOf (parse : Go.JsonParser) (body : List UInt8) : Option Json :=
  if body = [] then some (.object []) else parse body

/-- The answer a step amounts to. -/
def Step.answer (parse : Go.JsonParser) : Step → Answer
  | .networkFailure _ _ => .failure
  | .response status _ _ body =>
      match documentOf parse body with
      | some (.object members) =>
          if 200 ≤ status ∧ status < 300 then .success members
          else .rejection status members
      | _ => .notObject

/-- The member of a rejection that should hold the error envelope. -/
def errorMember (members : List (Text × Json)) : Option Json :=
  lookupLast members (Text.ofString "error")

/-- The numbers of an object are within the float64 range, so that the Go client
can decode it. -/
def Decodable (members : List (Text × Json)) : Prop :=
  ∃ result, Go.decodeMembers members = some result

/-- The error member of a rejection is present and no object. -/
def ForeignError (members : List (Text × Json)) : Prop :=
  ∃ value, errorMember members = some value ∧ ∀ envelope, value ≠ .object envelope

/-- A rejection the Go client decodes whose error member is no object. -/
def Answer.Foreign : Answer → Prop
  | .rejection _ members => Decodable members ∧ ForeignError members
  | _ => False

theorem ForeignError.not_object {members envelope : List (Text × Json)}
    (h : ForeignError members) : errorMember members ≠ some (.object envelope) := by
  obtain ⟨value, hvalue, hother⟩ := h
  rw [hvalue, ne_eq, Option.some.injEq]
  exact hother envelope

theorem ForeignError.ne_none {members : List (Text × Json)} (h : ForeignError members) :
    errorMember members ≠ none := by
  obtain ⟨value, hvalue, -⟩ := h
  rw [hvalue]
  exact Option.some_ne_none value

/-- A JSON value that is false in Python. -/
def Falsy (value : Json) : Prop := (Python.PyValue.ofJson value).truthy = false

/-- An error envelope whose members have the types the API gives them.  The code
is carried to the caller only when the attempt is `final`. -/
structure TameEnvelope (envelope : List (Text × Json)) (final : Prop) : Prop where
  codeHashable : ∀ value, lookupLast envelope (Text.ofString "code") = some value →
    (Python.PyValue.ofJson value).hashable = true
  codeText : final → ∀ value, lookupLast envelope (Text.ofString "code") = some value →
    ∃ code, value = .string (Text.ofString code)
  retryable : ∀ value, lookupLast envelope (Text.ofString "retryable") = some value →
    value = .bool true ∨ Falsy value
  details : ∀ value, lookupLast envelope (Text.ofString "details") = some value →
    (Python.PyValue.ofJson value).AcceptedByDict

/-- An answer after which both clients do the same: an object the Go client can
decode, with a tame error envelope if it is a rejection that has one.  An object
it cannot decode is a protocol error for it, and for the Python client only where
the error member is no object. -/
def Answer.Tame (final : Prop) : Answer → Prop
  | .success members => Decodable members
  | .rejection _ members =>
      (Decodable members ∧ ∀ envelope, errorMember members = some (.object envelope) →
        TameEnvelope envelope final) ∨
      (¬ Decodable members ∧ ForeignError members)
  | _ => True

/-- A tame answer is tame where less is carried to the caller. -/
theorem Answer.Tame.mono {answer : Answer} {final final' : Prop} (h : answer.Tame final)
    (hfinal : final' → final) : answer.Tame final' := by
  cases answer with
  | failure => trivial
  | notObject => trivial
  | success members => exact h
  | rejection status members =>
      rcases h with ⟨hdecodable, henvelope⟩ | hforeign
      · refine Or.inl ⟨hdecodable, fun envelope herror => ?_⟩
        have htame := henvelope envelope herror
        exact ⟨htame.codeHashable, fun h => htame.codeText (hfinal h), htame.retryable,
          htame.details⟩
      · exact Or.inr hforeign

/-! ## The reply of the Go client -/

/-- The Go client's view of an answer. -/
inductive GoReplies : Answer → Go.Reply → Prop where
  | failure (err : Go.GoError) : GoReplies .failure (.sendError err)
  | notObject (status : ℤ) : GoReplies .notObject (.notAnObject status)
  | success {members : List (Text × Json)} {result : Go.GoMap}
      (h : Go.decodeMembers members = some result) :
      GoReplies (.success members) (.success result)
  | unreadSuccess (status : ℤ) {members : List (Text × Json)} (h : ¬ Decodable members) :
      GoReplies (.success members) (.notAnObject status)
  | rejection (status : ℤ) (header : Go.Header) {members : List (Text × Json)}
      {result : Go.GoMap} (h : Go.decodeMembers members = some result) :
      GoReplies (.rejection status members) (.rejection status header result)
  | unreadRejection (status : ℤ) {members : List (Text × Json)} (h : ¬ Decodable members) :
      GoReplies (.rejection status members) (.notAnObject status)

/-- The Go client's reply is its view of the answer. -/
theorem goReply_eq {parse : Go.JsonParser} {q : Python.Env} {step : Step}
    (hreadable : ∀ status header headers body,
      step = .response status header headers body → Readable parse q body) :
    GoReplies (step.answer parse) (step.toGo.reply parse) := by
  cases step with
  | networkFailure err exc => exact .failure err
  | response status header headers body =>
      have hsize := (hreadable status header headers body rfl).size
      simp only [Step.answer, Step.toGo]
      rw [Go.SendOutcome.reply_response, if_neg (Nat.not_lt.mpr hsize)]
      dsimp only
      have hdecode : (if body = [] then some [] else Go.unmarshalMap parse body) =
          match documentOf parse body with
          | some (.object members) => Go.decodeMembers members
          | _ => none := by
        unfold documentOf Go.unmarshalMap
        cases body with
        | nil => rfl
        | cons byte rest => rfl
      rw [hdecode]
      split
      · rename_i members hdocument
        cases hresult : Go.decodeMembers members with
        | none =>
            have hunread : ¬ Decodable members := by simp [Decodable, hresult]
            by_cases hstatus : 200 ≤ status ∧ status < 300
            · rw [if_pos hstatus]
              exact .unreadSuccess status hunread
            · rw [if_neg hstatus]
              exact .unreadRejection status hunread
        | some result =>
            by_cases hstatus : 200 ≤ status ∧ status < 300
            · simp only [if_pos hstatus]
              exact .success hresult
            · simp only [if_neg hstatus]
              exact .rejection status header hresult
      · exact .notObject status

/-! ## The reply of the Python client -/

/-- The Python client's view of an answer. -/
inductive PyReplies : Answer → Python.Reply → Prop where
  | failure (exc : Python.NetworkError) : PyReplies .failure (.networkError exc)
  | notObject : PyReplies .notObject .nonObject
  | success (members : List (Text × Json)) :
      PyReplies (.success members) (.success (Python.PyValue.ofMembers members))
  | bare (status : ℤ) (headers : List (Python.PyStr × Python.PyStr))
      {members : List (Text × Json)} (h : errorMember members = none) :
      PyReplies (.rejection status members) (.rejection status headers [])
  | envelope (status : ℤ) (headers : List (Python.PyStr × Python.PyStr))
      {members envelope : List (Text × Json)}
      (h : errorMember members = some (.object envelope)) :
      PyReplies (.rejection status members)
        (.rejection status headers (Python.PyValue.ofMembers envelope))
  | foreign (status : ℤ) {members : List (Text × Json)}
      (h : ForeignError members) : PyReplies (.rejection status members) .badEnvelope

/-- The payload of a readable body is its document. -/
theorem payload_of_readable {parse : Go.JsonParser} {q : Python.Env} {body : List UInt8}
    (h : Readable parse q body) :
    ∃ document, documentOf parse body = some document ∧
      q.payload body = some (Python.PyValue.ofJson document) := by
  unfold documentOf Python.Env.payload
  by_cases hempty : body = []
  · exact ⟨.object [], by simp [hempty], by simp [hempty, Python.PyValue.ofJson,
      Python.PyValue.ofMembers]⟩
  · obtain ⟨document, hparse, hloads⟩ := h.text hempty
    exact ⟨document, by simp [hempty, hparse], by simp [hempty, hloads]⟩

/-- The reply to a rejection, read off its error member. -/
theorem pyReply_rejection {status : ℤ} (hstatus : ¬ (200 ≤ status ∧ status < 300))
    (headers : List (Python.PyStr × Python.PyStr)) (members : List (Text × Json)) :
    PyReplies (.rejection status members)
      ((Python.PyValue.dict (Python.PyValue.ofMembers members)).reply status headers) := by
  have hmember : Python.PyDict.get (Python.PyValue.ofMembers members) "error" =
      (errorMember members).map Python.PyValue.ofJson := Python.PyValue.get_ofJson members "error"
  simp only [Python.PyValue.reply, if_neg hstatus, hmember]
  cases herror : errorMember members with
  | none => exact .bare status headers herror
  | some value =>
      cases value with
      | object envelope => exact .envelope status headers herror
      | number literal =>
          have hforeign : ForeignError members := ⟨.number literal, herror, by simp⟩
          cases literal <;> exact .foreign status hforeign
      | null => exact .foreign status ⟨_, herror, by simp⟩
      | bool b => exact .foreign status ⟨_, herror, by simp⟩
      | string t => exact .foreign status ⟨_, herror, by simp⟩
      | array items => exact .foreign status ⟨_, herror, by simp⟩

/-- The Python client's reply is its view of the answer. -/
theorem pyReply_eq {parse : Go.JsonParser} {q : Python.Env} {step : Step}
    (hreadable : ∀ status header headers body,
      step = .response status header headers body → Readable parse q body) :
    PyReplies (step.answer parse) (step.toPython.reply q) := by
  cases step with
  | networkFailure err exc => exact .failure exc
  | response status header headers body =>
      have hbody := hreadable status header headers body rfl
      have hfits : ¬ Python.responseLimit < body.length := Nat.not_lt.mpr hbody.size
      obtain ⟨document, hdocument, hpayload⟩ := payload_of_readable hbody
      simp only [Step.answer, Step.toPython, Python.TransportOutcome.reply, if_neg hfits,
        hdocument, hpayload, Option.elim_some]
      cases document with
      | object members =>
          by_cases hstatus : 200 ≤ status ∧ status < 300
          · simp only [if_pos hstatus, Python.PyValue.ofJson, Python.PyValue.reply]
            exact .success members
          · simp only [if_neg hstatus]
            exact pyReply_rejection hstatus headers members
      | number literal => cases literal <;> exact .notObject
      | null => exact .notObject
      | bool b => exact .notObject
      | string t => exact .notObject
      | array items => exact .notObject

/-! ## What both clients read in an envelope -/

/-- A member of an envelope as the Go client decodes it. -/
theorem envelopeMember_object {members envelope : List (Text × Json)} {result : Go.GoMap}
    (hdecode : Go.decodeMembers members = some result)
    (herror : errorMember members = some (.object envelope)) {name : String}
    (hname : '\uFFFD' ∉ name.toList) :
    Go.envelopeMember result name =
      (lookupLast envelope (Text.ofString name)).bind Go.decodeAny := by
  have hlookup : lookupLast result "error" = (errorMember members).bind Go.decodeAny :=
    Go.lookupLast_decodeMembers hdecode (by decide)
  have hsome : (Go.decodeAny (.object envelope)).isSome = true :=
    Go.decodeAny_of_mem hdecode (mem_of_lookupLast herror)
  obtain ⟨raw, hraw⟩ : ∃ raw, Go.decodeMembers envelope = some raw := by
    rw [Go.decodeAny, Option.isSome_map] at hsome
    exact Option.isSome_iff_exists.mp hsome
  rw [herror, Option.bind_some, Go.decodeAny, hraw, Option.map_some] at hlookup
  rw [Go.envelopeMember, hlookup]
  exact Go.lookupLast_decodeMembers hraw hname

/-- Without an envelope the Go client finds no members in it. -/
theorem envelopeMember_none {members : List (Text × Json)} {result : Go.GoMap}
    (hdecode : Go.decodeMembers members = some result)
    (herror : ∀ envelope, errorMember members ≠ some (.object envelope)) (name : String) :
    Go.envelopeMember result name = none := by
  have hlookup : lookupLast result "error" = (errorMember members).bind Go.decodeAny :=
    Go.lookupLast_decodeMembers hdecode (by decide)
  rw [Go.envelopeMember, hlookup]
  cases hmember : errorMember members with
  | none => rfl
  | some value =>
      cases value with
      | object envelope => exact absurd hmember (herror envelope)
      | number literal =>
          rw [Option.bind_some, Go.decodeAny]
          split <;> simp_all
      | array items =>
          rw [Option.bind_some, Go.decodeAny]
          cases Go.decodeItems items <;> rfl
      | null => rfl
      | bool b => rfl
      | string t => rfl

/-- The decoder makes the value `true` of nothing else. -/
theorem decodeAny_eq_true_iff (value : Json) :
    Go.decodeAny value = some (.bool true) ↔ value = .bool true := by
  cases value with
  | number literal =>
      rw [Go.decodeAny]
      split <;> simp
  | array items => simp [Go.decodeAny]
  | object members => simp [Go.decodeAny]
  | null => simp [Go.decodeAny]
  | bool b => simp [Go.decodeAny]
  | string t => simp [Go.decodeAny]

/-! ## Envelopes both clients read alike -/

section Envelope

variable {members envelope : List (Text × Json)} {result : Go.GoMap}

/-- The Python client makes an API error of an envelope exactly when its code has
a hash and `dict` accepts its details. -/
theorem makesError_ofMembers_iff (envelope : List (Text × Json)) :
    Python.makesError (Python.PyValue.ofMembers envelope) = true ↔
      (∀ value, lookupLast envelope (Text.ofString "code") = some value →
        (Python.PyValue.ofJson value).hashable = true) ∧
      ∀ value, lookupLast envelope (Text.ofString "details") = some value →
        (Python.PyValue.ofJson value).AcceptedByDict := by
  have hcode : (Python.errorCode (Python.PyValue.ofMembers envelope)).hashable = true ↔
      ∀ value, lookupLast envelope (Text.ofString "code") = some value →
        (Python.PyValue.ofJson value).hashable = true := by
    rw [Python.errorCode, Python.PyValue.get_ofJson]
    cases lookupLast envelope (Text.ofString "code") with
    | none => simp [Python.PyValue.hashable]
    | some value => simp
  have hdetails : (Python.errorDetails (Python.PyValue.ofMembers envelope)).AcceptedByDict ↔
      ∀ value, lookupLast envelope (Text.ofString "details") = some value →
        (Python.PyValue.ofJson value).AcceptedByDict := by
    rw [Python.errorDetails, Python.PyValue.get_ofJson]
    cases lookupLast envelope (Text.ofString "details") with
    | none => simp [Python.PyValue.AcceptedByDict]
    | some value => simp
  rw [← hcode, ← hdetails, ← Bool.not_eq_false, Python.makesError_eq_false_iff, not_or,
    Bool.not_eq_false, not_not]

/-- Both clients read the same retry flag exactly when it is missing, `true` or a
value that is false in Python. -/
theorem errorRetryable_eq_iff (hdecode : Go.decodeMembers members = some result)
    (herror : errorMember members = some (.object envelope)) (status : ℤ) :
    Python.errorRetryable (Python.PyValue.ofMembers envelope) =
        (Go.decodeAPIError status result).retryable ↔
      ∀ value, lookupLast envelope (Text.ofString "retryable") = some value →
        value = .bool true ∨ Falsy value := by
  have hflag := (Go.decodeAPIError_eq status result).2.2
  rw [Go.ReportsRetryable, envelopeMember_object hdecode herror (by decide)] at hflag
  rw [Bool.eq_iff_iff, hflag, Python.errorRetryable, Python.PyValue.get_ofJson]
  cases lookupLast envelope (Text.ofString "retryable") with
  | none => simp [Python.PyValue.truthy]
  | some value =>
      rw [Option.bind_some, decodeAny_eq_true_iff]
      simp only [Option.map_some, Option.getD_some, Option.some.injEq, forall_eq', Falsy]
      constructor
      · intro hsame
        by_cases htrue : (Python.PyValue.ofJson value).truthy = true
        · exact Or.inl (hsame.mp htrue)
        · exact Or.inr (by simpa using htrue)
      · rintro (rfl | hfalsy)
        · simp [Python.PyValue.ofJson, Python.PyValue.truthy]
        · rw [hfalsy]
          constructor
          · simp
          · rintro rfl
            simp [Python.PyValue.ofJson, Python.PyValue.truthy] at hfalsy

/-- Both clients report the same code exactly when it is missing or text without
lone surrogates. -/
theorem errorCode_eq_iff (hdecode : Go.decodeMembers members = some result)
    (herror : errorMember members = some (.object envelope)) (status : ℤ) :
    Python.errorCode (Python.PyValue.ofMembers envelope) =
        .str (Text.ofString (Go.decodeAPIError status result).code) ↔
      ∀ value, lookupLast envelope (Text.ofString "code") = some value →
        ∃ code, value = .string (Text.ofString code) := by
  rw [(Go.decodeAPIError_eq status result).2.1, Python.errorCode, Python.PyValue.get_ofJson,
    Go.reportedCode, envelopeMember_object hdecode herror (by decide)]
  cases lookupLast envelope (Text.ofString "code") with
  | none => simp [Python.str]
  | some value =>
      simp only [Option.map_some, Option.getD_some, Option.some.injEq, forall_eq']
      rw [Python.PyValue.ofJson_eq_str_iff]
      constructor
      · exact fun hcode => ⟨_, hcode⟩
      · rintro ⟨code, rfl⟩
        simp [Go.decodeAny]

/-- An envelope is tame exactly when the Python client makes an API error of it
with the flag of the Go client and, where it is carried to the caller, its code. -/
theorem tameEnvelope_iff (hdecode : Go.decodeMembers members = some result)
    (herror : errorMember members = some (.object envelope)) (status : ℤ) (final : Prop) :
    TameEnvelope envelope final ↔
      Python.makesError (Python.PyValue.ofMembers envelope) = true ∧
      Python.errorRetryable (Python.PyValue.ofMembers envelope) =
        (Go.decodeAPIError status result).retryable ∧
      (final → Python.errorCode (Python.PyValue.ofMembers envelope) =
        .str (Text.ofString (Go.decodeAPIError status result).code)) := by
  rw [makesError_ofMembers_iff, errorRetryable_eq_iff hdecode herror,
    errorCode_eq_iff hdecode herror]
  constructor
  · rintro ⟨hhash, htext, hretryable, hdetails⟩
    exact ⟨⟨hhash, hdetails⟩, hretryable, htext⟩
  · rintro ⟨⟨hhash, hdetails⟩, hretryable, htext⟩
    exact ⟨hhash, htext, hretryable, hdetails⟩

end Envelope

end MizanSDK.Agreement
