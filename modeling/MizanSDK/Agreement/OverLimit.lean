import MizanSDK.Go.Acknowledgement
import MizanSDK.Python.Acknowledgement

/-!
# Bodies beyond the limit

Two deliveries to the same receiver, with bodies that are both longer than its
limit.  The Go receiver measures a body before it looks at anything else; the
Python receiver hands it to `json.loads` first and measures it afterwards.

Main results:

- Theorem `WebhookReceiver.receive_overLimit`: the Go receiver never looks into
  such a body.
- Theorem `WebhookReceiver.receive_overLimit_iff`: the Python receiver calls it too
  large only if it decodes it.
- Theorem `overLimit_alike_iff`: when two such bodies are answered alike.
-/

namespace MizanSDK.Go

/-- The answer to a body that is too large. -/
def tooLarge : Reception :=
  ⟨errorResponse 413 "request body exceeds the configured limit", []⟩

/-- Whatever the headers are and whatever the parser makes of the body, a body
beyond the limit is refused as such. -/
theorem WebhookReceiver.receive_overLimit {r : WebhookReceiver} {body : List UInt8}
    (hlong : r.bodyLimit < body.length) (parse : JsonParser) (headers : Header) :
    r.receive parse headers body = tooLarge := by
  have hpos : 0 < r.bodyLimit := by
    unfold bodyLimit
    split <;> omega
  have hempty : body.length ≠ 0 := by omega
  rw [receive, dispatch, if_neg hempty, if_pos hlong]
  rfl

end MizanSDK.Go

namespace MizanSDK.Python

open Checks

/-- The answer to a body that is too large. -/
def tooLarge : Reception :=
  ⟨.ok (errorResponse 413 [.text "request body exceeds the configured limit"]), []⟩

/-- `json.loads` returns a value for these bytes. -/
def Interpreter.Decodes (py : Interpreter) (body : List UInt8) : Prop :=
  ∃ value, py.loads body = .ok (some value)

/-- Beyond the limit everything hangs on the decoder. -/
theorem decodePayload_overLimit {py : Interpreter} {limit : ℕ} {body : List UInt8}
    (hlong : limit < body.length) :
    decodePayload py (.bytes body) limit =
      match py.loads body with
      | .error e => .error e
      | .ok none => .ok (.refused 400 "request body must be a JSON object")
      | .ok (some _) => .ok (.refused 413 "request body exceeds the configured limit") := by
  have hnonempty : body.isEmpty = false := by
    simpa [List.isEmpty_eq_false_iff] using List.ne_nil_of_length_pos (Nat.zero_lt_of_lt hlong)
  simp only [decodePayload, decodeBytes, hnonempty, Bool.false_eq_true, if_false]
  cases py.loads body with
  | error e => rfl
  | ok decoded =>
      cases decoded with
      | none => rfl
      | some value => simp [bind, Except.bind, pure, Except.pure, decodeSized, hlong]

variable {r : WebhookReceiver} {py : Interpreter} {headers : List (PyStr × PyStr)}

/-- An authorised body beyond the limit is refused as such exactly if it decodes. -/
theorem WebhookReceiver.receive_overLimit_iff {body : List UInt8}
    (hauthorized : r.authorized (authorization py headers) = .ok true)
    (houtbox : outboxId py headers ≠ []) (hlong : r.maxBodyBytes < body.length) :
    r.receive py headers (.bytes body) = tooLarge ↔ py.Decodes body := by
  have hblank : (outboxId py headers).isEmpty = false := by
    simpa [List.isEmpty_eq_false_iff] using houtbox
  rw [receive, dispatch, ← authorization, hauthorized, hblank, decodePayload_overLimit hlong,
    Interpreter.Decodes]
  cases hloads : py.loads body with
  | error e => simp [bind, Except.bind, tooLarge]
  | ok decoded =>
      cases decoded with
      | none => simp [bind, Except.bind, pure, Except.pure, tooLarge, errorResponse]
      | some value => simp [bind, Except.bind, pure, Except.pure, tooLarge]

end MizanSDK.Python

namespace MizanSDK.Agreement

open Go Python

/-- Two deliveries to the same two receivers: the requests differ in their bodies
only. -/
structure TwoDeliveries where
  go : Go.WebhookReceiver
  parse : JsonParser
  goHeaders : Header
  python : Python.WebhookReceiver
  py : Interpreter
  headers : List (PyStr × PyStr)
  first : List UInt8
  second : List UInt8

/-- The deliveries are authorised and name an outbox item, and their bodies are
beyond the limits of the receivers. -/
structure TwoDeliveries.OverLimit (d : TwoDeliveries) : Prop where
  goAuthorized : d.go.authorized (d.goHeaders.get "Authorization") = true
  goOutboxID : Go.outboxID d.goHeaders ≠ ""
  goLong : d.go.bodyLimit < d.first.length ∧ d.go.bodyLimit < d.second.length
  authorized : d.python.authorized (authorization d.py d.headers) = .ok true
  outboxId : Python.outboxId d.py d.headers ≠ []
  long : d.python.maxBodyBytes < d.first.length ∧ d.python.maxBodyBytes < d.second.length

/-- Each receiver answers both bodies as too large, and hands neither to a
callback. -/
structure TwoDeliveries.Alike (d : TwoDeliveries) : Prop where
  go : d.go.receive d.parse d.goHeaders d.first = Go.tooLarge ∧
    d.go.receive d.parse d.goHeaders d.second = Go.tooLarge
  python : d.python.receive d.py d.headers (.bytes d.first) = Python.tooLarge ∧
    d.python.receive d.py d.headers (.bytes d.second) = Python.tooLarge

/-- The two bodies are answered alike exactly when the Python decoder accepts
both: it looks into them before they are measured. -/
theorem overLimit_alike_iff (d : TwoDeliveries) (h : d.OverLimit) :
    d.Alike ↔ d.py.Decodes d.first ∧ d.py.Decodes d.second := by
  have hfirst := Python.WebhookReceiver.receive_overLimit_iff h.authorized h.outboxId h.long.1
  have hsecond := Python.WebhookReceiver.receive_overLimit_iff h.authorized h.outboxId h.long.2
  constructor
  · intro halike
    exact ⟨hfirst.mp halike.python.1, hsecond.mp halike.python.2⟩
  · rintro ⟨hdecodes, hdecodes'⟩
    constructor
    · exact ⟨Go.WebhookReceiver.receive_overLimit h.goLong.1 _ _,
        Go.WebhookReceiver.receive_overLimit h.goLong.2 _ _⟩
    · exact ⟨hfirst.mpr hdecodes, hsecond.mpr hdecodes'⟩

/-- A Python receiver with a limit of one byte. -/
def oneByteReceiver : Python.WebhookReceiver :=
  { openReceiver keepEvent with
    maxBodyBytes := 1
    maxBodyBytes_pos := Nat.le_refl 1 }

/-- A pair of bodies, the first of them an empty object, before receivers with a
limit of one byte. -/
def beforeOneByte (second : List UInt8) : TwoDeliveries where
  go := ⟨none, "", 1⟩
  parse body := if body = [0x7B, 0x7D] then some (.object []) else none
  goHeaders := (∅ : Header).set "X-Mizan-Outbox-Id" "outbox-1"
  python := oneByteReceiver
  py := oneBody [0x7B, 0x7D] []
  headers := outboxHeaders
  first := [0x7B, 0x7D]
  second := second

theorem beforeOneByte_overLimit {second : List UInt8} (h : 1 < second.length) :
    (beforeOneByte second).OverLimit where
  goAuthorized := rfl
  goOutboxID := by
    dsimp only [beforeOneByte]
    decide
  goLong := by
    have hlimit : (beforeOneByte second).go.bodyLimit = 1 := rfl
    rw [hlimit]
    exact ⟨one_lt_two, by exact_mod_cast h⟩
  authorized := rfl
  outboxId := by
    dsimp only [beforeOneByte]
    decide
  long := ⟨Nat.one_lt_two, h⟩

theorem overLimit_alike_iff_objects :
    (beforeOneByte [0x7B, 0x7D]).OverLimit ∧ (beforeOneByte [0x7B, 0x7D]).Alike :=
  have h : (beforeOneByte [0x7B, 0x7D]).OverLimit := beforeOneByte_overLimit (by decide)
  ⟨h, (overLimit_alike_iff _ h).mpr ⟨⟨_, rfl⟩, ⟨_, rfl⟩⟩⟩

/-- A body beyond the limit that is no JSON is answered as such. -/
theorem overLimit_malformed :
    (beforeOneByte [0x7B, 0x5B]).OverLimit ∧ ¬ (beforeOneByte [0x7B, 0x5B]).Alike := by
  have h : (beforeOneByte [0x7B, 0x5B]).OverLimit := beforeOneByte_overLimit (by decide)
  constructor
  · exact h
  · intro halike
    have hdecodes := (Python.WebhookReceiver.receive_overLimit_iff h.authorized h.outboxId
      h.long.2).mp halike.python.2
    obtain ⟨value, hvalue⟩ := hdecodes
    simp [beforeOneByte, oneBody] at hvalue

end MizanSDK.Agreement
