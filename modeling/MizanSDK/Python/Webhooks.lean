import MizanSDK.Library.Checks
import MizanSDK.Library.Decimal
import MizanSDK.Library.Tally
import MizanSDK.Python.Runtime

/-!
# The Python webhook receiver

`webhooks.py`: the normalisation of headers and payload, the validation of the
two event types, and `receive`.  A callback is handed the decoded dictionary
itself and leaves it changed or unchanged, or raises; a run keeps the callbacks
it invoked next to the response it returns or the exception that escapes it.

Main results:

- Theorem `bookPosting_eq_ok_iff`: which postings match the contract.
- Theorem `validateLedger_eq_ok_iff`: which ledger events pass.
- Theorem `validateLedger_eq_typeError_iff`: which ones make validation itself
  raise a `TypeError`.
- Theorems `validateNotification_eq_ok_iff` and
  `validateNotification_eq_typeError_iff`: the same for notifications.
-/

namespace MizanSDK.Python

open JsonText Checks Decimal Tally

/-! ## The interpreter -/

/-- What the receiver takes from the interpreter and its library.  `loads` has
no value for the two exceptions that the receiver catches.  `isDigit` and
`decimal` are the Unicode tables behind `str.isdigit` and `int`: they know more
digits than the ASCII ones.  `maxStrDigits` bounds the conversions between `int`
and `str`, unless it is 0. -/
structure Interpreter where
  loads : List UInt8 → Except PyError (Option PyValue)
  dumps : PyDict → Except PyError PyStr
  lower : PyStr → PyStr
  repr : PyValue → Except PyError PyStr
  isDigit : Char → Bool
  decimal : Char → Option ℕ
  maxStrDigits : ℕ
  isDigit_ascii : ∀ c, c.toNat < 128 → isDigit c = isAsciiDigit c
  decimal_ascii : ∀ c, isAsciiDigit c = true → decimal c = some (c.toNat - '0'.toNat)
  maxStrDigits_threshold : maxStrDigits = 0 ∨ 640 ≤ maxStrDigits

/-! The interpreters of examples know the ASCII digits and have the default limit. -/

/-- ASCII digits are digits. -/
theorem asciiDigit_isDigit (c : Char) (_ : c.toNat < 128) : isAsciiDigit c = isAsciiDigit c := rfl

/-- Their value is that of the digit. -/
theorem asciiDigit_decimal (c : Char) (h : isAsciiDigit c = true) :
    (if isAsciiDigit c then some (c.toNat - '0'.toNat) else none) = some (c.toNat - '0'.toNat) :=
  if_pos h

/-- The default limit is one `int` accepts. -/
theorem defaultMaxStrDigits_threshold : 4300 = 0 ∨ 640 ≤ 4300 := by decide

section Conversions

variable (py : Interpreter)

/-- Whether a numeral of `count` digits may be converted. -/
def Interpreter.withinDigits (count : ℕ) : Bool :=
  py.maxStrDigits == 0 || decide (count ≤ py.maxStrDigits)

/-- The message of a refused conversion up to where it depends on the direction. -/
def Interpreter.digitLimit : String :=
  "Exceeds the limit (" ++ toString py.maxStrDigits ++
    " digits) for integer string conversion"

/-- `str(v)`. -/
def Interpreter.str : PyValue → Except PyError PyStr
  | .none => .ok (Text.ofString "None")
  | .bool b => .ok (Text.ofString (if b then "True" else "False"))
  | .int n =>
      if py.withinDigits (Nat.toDigits 10 n.natAbs).length then .ok (strInt n)
      else .error (.valueError [.text py.digitLimit])
  | .str s => .ok s
  | v => py.repr v

/-- `s.isdigit()`. -/
def Interpreter.isdigit (s : PyStr) : Bool :=
  !s.isEmpty && s.all fun
    | .scalar c => py.isDigit c
    | .surrogate _ => false

/-- The decimal digit a code point stands for. -/
def Interpreter.digit : CodePoint → Option ℕ
  | .scalar c => py.decimal c
  | .surrogate _ => none

/-- `s.startswith("-")`. -/
def startsWithMinus (s : PyStr) : Bool := s.head? == some (.scalar '-')

/-- A numeral without its minus sign. -/
def withoutMinus (s : PyStr) : PyStr := if startsWithMinus s then s.drop 1 else s

/-- `int(s)` for text that has no spaces, underscores and plus signs.  The
interpreter cuts the `repr` in its message after 200 characters. -/
def Interpreter.int (s : PyStr) : Except PyError ℤ :=
  match (withoutMinus s).mapM py.digit with
  | none | some [] =>
      .error (.valueError [.text "invalid literal for int() with base 10: ", .repr s])
  | some digits =>
      if py.withinDigits digits.length then
        .ok (signed (startsWithMinus s) (digits.foldl (fun n d => 10 * n + d) 0))
      else
        .error (.valueError [.text (py.digitLimit ++ ": value has " ++
          toString digits.length ++
          " digits; use sys.set_int_max_str_digits() to increase the limit")])

end Conversions

/-! ## Reading a dictionary -/

/-- `isinstance(d.get(name), str) and d[name]`. -/
def PyDict.filled (d : PyDict) (name : String) : Bool :=
  match d.get name with
  | some (.str s) => !s.isEmpty
  | _ => false

/-- `d[name]` where it is known to be a `str`. -/
def PyDict.text (d : PyDict) (name : String) : PyStr :=
  match d.get name with
  | some (.str s) => s
  | _ => []

/-- `d.get(name) == s`. -/
def PyDict.isText (d : PyDict) (name : String) (s : PyStr) : Bool :=
  match d.get name with
  | some (.str t) => t == s
  | _ => false

/-- `isinstance(d.get(name), dict)`. -/
def PyDict.isDict (d : PyDict) (name : String) : Bool :=
  match d.get name with
  | some (.dict _) => true
  | _ => false

/-- A value that has to be a `dict`. -/
def asDict (v : Option PyValue) (error : PyError) : Except PyError PyDict :=
  match v with
  | some (.dict d) => .ok d
  | _ => .error error

/-- A value that has to be a `list`. -/
def asList (v : Option PyValue) (error : PyError) : Except PyError (List PyValue) :=
  match v with
  | some (.list items) => .ok items
  | _ => .error error

/-- A positive `int`, which a `bool` is not. -/
def isPositiveInt : Option PyValue → Bool
  | some (.int n) => decide (1 ≤ n)
  | _ => false

/-- `v in {...}` for a set of strings, which hashes `v`. -/
def isIn (v : Option PyValue) (names : List String) : Except PyError Bool :=
  match v with
  | some (.str s) => .ok (names.any fun name => Text.ofString name == s)
  | some (.list _) | some (.dict _) => .error .typeError
  | _ => .ok false

/-- A `ValueError` with a fixed message. -/
def refuse (message : String) : PyError := .valueError [.text message]

/-! ## Exact amounts -/

section Amounts

variable (py : Interpreter)

/-- `_unsigned_canonical_digits`. -/
def unsignedCanonicalDigits (value : PyStr) : Bool :=
  value == str "0" ||
    ((value.take 1).all fun c => (str "123456789").contains c) && py.isdigit value

/-- `_canonical_integer`. -/
def canonicalInteger (value : Option PyValue) : Except PyError Bool :=
  match value with
  | some (.str value) =>
      if value.isEmpty then .ok false
      else if unsignedCanonicalDigits py (withoutMinus value) then do
        let n ← py.int value
        return decide (-(2 ^ 63) ≤ n) && decide (n ≤ 2 ^ 63 - 1)
      else .ok false
  | _ => .ok false

/-- `_unsigned_canonical_integer`. -/
def unsignedCanonicalInteger (value : Option PyValue) : Except PyError Bool :=
  match value with
  | some (.str value) =>
      if unsignedCanonicalDigits py value then do
        let n ← py.int value
        return decide (n ≤ 2 ^ 63 - 1)
      else .ok false
  | _ => .ok false

end Amounts

/-! ## Validation -/

/-- `_LEDGER_TYPES`. -/
def ledgerTypes : List String :=
  ["subscription_activated", "subscription_change_scheduled",
    "subscription_cancellation_scheduled", "subscription_cancelled",
    "subscription_cancellation_revoked", "renewal_failed", "subscription_renewed",
    "azeer_units_topped_up", "provider_balance_topped_up", "provider_balance_refunded",
    "feature_budget_updated", "billing_account_depleted", "feature_paused_budget",
    "feature_paused_manual", "feature_resumed_manual", "usage_rejected", "usage_consumed",
    "included_units_expired", "purchased_units_expired", "promotional_units_expired",
    "promotional_units_granted", "monthly_included_units_granted", "outbox_retry_requested"]

/-- `required_entry_strings`. -/
def requiredEntryStrings : List String :=
  ["id", "entry_type", "source_command", "source_event_id", "effective_at",
    "catalog_version", "policy_version"]

/-- The rails of a posting. -/
def rails : List String := ["azeer_units", "provider_balance", "invoice"]

/-- The units of a posting. -/
def units : List String := ["milliunit", "halala"]

/-- What a posting books: an amount under its rail and unit. -/
abbrev Move := (PyStr × PyStr) × ℤ

/-- The body of the loop over the postings, up to the booking. -/
def bookPosting (py : Interpreter) (posting : PyValue) : Except PyError Move := do
  let posting ← asDict (some posting)
    (refuse "ledger posting fields do not match the contract")
  let rail ← isIn (posting.get "rail") rails
  require rail (refuse "ledger posting fields do not match the contract")
  let unit ← isIn (posting.get "unit") units
  require unit (refuse "ledger posting fields do not match the contract")
  require (posting.filled "account_code")
    (refuse "ledger posting amounts must be exact integer strings")
  let canonical ← canonicalInteger py (posting.get "amount")
  require canonical (refuse "ledger posting amounts must be exact integer strings")
  let amount ← py.int (posting.text "amount")
  return ((posting.text "rail", posting.text "unit"), amount)

/-- `_validate_ledger` up to the loop; it returns the postings. -/
def validateLedgerFields (payload : PyDict) : Except PyError (List PyValue) := do
  require (payload.filled "event_id" && payload.filled "business_id")
    (refuse "ledger event_id and business_id are required")
  require (isPositiveInt (payload.get "business_sequence"))
    (refuse "business_sequence must be a positive integer")
  let entry ← asDict (payload.get "entry") (refuse "event_id must be equal to entry.id")
  require (entry.isText "id" (payload.text "event_id"))
    (refuse "event_id must be equal to entry.id")
  require (requiredEntryStrings.all entry.filled)
    (refuse "ledger entry fields do not match the contract")
  require ((ledgerTypes.any fun type => str type == entry.text "entry_type") &&
      entry.isDict "metadata")
    (refuse "ledger entry fields do not match the contract")
  asList (payload.get "postings") (refuse "ledger postings must be an array")

/-- `_validate_ledger`. -/
def validateLedger (py : Interpreter) (payload : PyDict) : Except PyError Unit := do
  let postings ← validateLedgerFields payload
  let balances ← accumulate (bookPosting py) (fun b m => b.add m.1 m.2) ∅ postings
  require (Balances.settled balances)
    (refuse "ledger postings must balance to zero per rail and unit")

/-- `_validate_notification`. -/
def validateNotification (py : Interpreter) (payload : PyDict) : Except PyError Unit := do
  require (payload.filled "business_id")
    (refuse "notification business_id and feature_code are required")
  require (payload.filled "feature_code")
    (refuse "notification business_id and feature_code are required")
  if ← isIn (payload.get "type") ["budget_warning", "budget_breached"] then
    require (payload.filled "period")
      (refuse "budget threshold notifications require period, projected, and limit")
    let projected ← unsignedCanonicalInteger py (payload.get "projected")
    require projected
      (refuse "budget threshold notifications require period, projected, and limit")
    let limit ← unsignedCanonicalInteger py (payload.get "limit")
    require limit
      (refuse "budget threshold notifications require period, projected, and limit")
  else if payload.isText "type" (str "budget_paused") then
    require (payload.filled "period")
      (refuse "budget_paused notifications require period")
  else
    let manual ← isIn (payload.get "type") ["feature_paused_manual", "feature_resumed_manual"]
    require manual (refuse "notification type is not supported")

/-! ## The receiver -/

/-- `WebhookContext`. -/
structure WebhookContext where
  outboxId : PyStr
  headers : List (PyStr × PyStr)
  rawBody : List UInt8

/-- What a callback does, awaited if it is asynchronous: it leaves the dictionary
it was handed as `event`, or it raises an `Exception`. -/
inductive CallbackResult where
  | returns (event : PyDict)
  | raises

/-- A callback. -/
abbrev Callback := PyDict → WebhookContext → CallbackResult

/-- `WebhookReceiver`, with what its constructor checks. -/
structure WebhookReceiver where
  onLedger : Callback
  onNotification : Callback
  bearerToken : Option PyStr
  maxBodyBytes : ℕ
  bearerToken_ne_empty : bearerToken ≠ some []
  maxBodyBytes_pos : 1 ≤ maxBodyBytes

/-- `WebhookPayload`: raw bytes, text, or a decoded mapping. -/
inductive WebhookPayload where
  | bytes (raw : List UInt8)
  | text (s : PyStr)
  | mapping (entries : PyDict)

/-- `WebhookResponse`; the body is an error document with this message, or
empty. -/
structure WebhookResponse where
  statusCode : ℕ
  headers : List (String × PyStr)
  body : Option (List Fragment)

/-- A callback invocation. -/
inductive Invocation where
  | ledger (event : PyDict) (delivery : WebhookContext)
  | notification (event : PyDict) (delivery : WebhookContext)

/-- What one `receive` call does: the response it returns or the exception it
raises, and the callbacks it invoked. -/
structure Reception where
  outcome : Except PyError WebhookResponse
  invoked : List Invocation

/-- `ACK_SEQUENCE_HEADER`. -/
def ackSequenceHeader : String := "x-mizan-ack-sequence"

/-- `_error_response`. -/
def errorResponse (status : ℕ) (message : List Fragment) : WebhookResponse :=
  { statusCode := status
    headers := [("content-type", str "application/json")]
    body := some message }

/-- What `_decode_payload` returns, or the `_PayloadError` it raises. -/
inductive Decoded where
  | refused (status : ℕ) (message : String)
  | object (raw : List UInt8) (event : PyDict)

/-- The last two checks of `_decode_payload`. -/
def decodeSized (raw : List UInt8) (limit : ℕ) (decoded : PyValue) : Decoded :=
  if limit < raw.length then .refused 413 "request body exceeds the configured limit"
  else
    match decoded with
    | .dict event => .object raw event
    | _ => .refused 400 "request body must be a JSON object"

/-- `_decode_payload` for bytes. -/
def decodeBytes (py : Interpreter) (raw : List UInt8) (limit : ℕ) : Except PyError Decoded :=
  if raw.isEmpty then .ok (.refused 400 "request body is required")
  else do
    match ← py.loads raw with
    | none => return .refused 400 "request body must be a JSON object"
    | some decoded => return decodeSized raw limit decoded

/-- `_decode_payload`. -/
def decodePayload (py : Interpreter) (payload : WebhookPayload) (limit : ℕ) :
    Except PyError Decoded :=
  match payload with
  | .bytes raw => decodeBytes py raw limit
  | .text s => do
      let raw ← encodeUtf8 s
      decodeBytes py raw limit
  | .mapping entries => do
      let text ← py.dumps entries
      let raw ← encodeUtf8 text
      return decodeSized raw limit (.dict entries)

/-- `_authorized`. -/
def WebhookReceiver.authorized (r : WebhookReceiver) (authorization : Option PyStr) :
    Except PyError Bool :=
  match r.bearerToken, authorization with
  | none, _ => .ok true
  | some _, none => .ok false
  | some token, some authorization => do
      let given ← encodeUtf8 authorization
      let expected ← encodeUtf8 (str "Bearer " ++ token)
      return given == expected

/-- `normalized_headers`: a later name hides an earlier one. -/
def normalizedHeaders (py : Interpreter) (headers : List (PyStr × PyStr)) :
    List (PyStr × PyStr) :=
  headers.map fun h => (py.lower h.1, h.2)

/-- The outbox identifier of a delivery. -/
def outboxId (py : Interpreter) (headers : List (PyStr × PyStr)) : PyStr :=
  strip ((lookupLast (normalizedHeaders py headers) (str "x-mizan-outbox-id")).getD [])

/-- What is to be done with a delivery. -/
inductive Dispatch where
  | respond (response : WebhookResponse)
  | invoke (invocation : Invocation)

/-- Validation with its `except ValueError`. -/
def dispatchValidated (validation : Except PyError Unit) (invocation : Invocation) :
    Except PyError Dispatch :=
  match validation with
  | .ok _ => .ok (.invoke invocation)
  | .error (.valueError message) => .ok (.respond (errorResponse 422 message))
  | .error err => .error err

/-- The stream selection and the validation of the event. -/
def dispatchEvent (py : Interpreter) (event : PyDict) (delivery : WebhookContext) :
    Except PyError Dispatch :=
  if event.has "business_sequence" then
    dispatchValidated (validateLedger py event) (.ledger event delivery)
  else if event.has "type" then
    dispatchValidated (validateNotification py event) (.notification event delivery)
  else .ok (.respond (errorResponse 422 [.text "unknown Mizan webhook payload"]))

/-- The context a callback receives. -/
def deliveryContext (py : Interpreter) (headers : List (PyStr × PyStr))
    (raw : List UInt8) : WebhookContext :=
  { outboxId := outboxId py headers
    headers := (normalizedHeaders py headers).filter fun h => h.1 != str "authorization"
    rawBody := raw }

/-- `receive` up to the invocation of a callback. -/
def WebhookReceiver.dispatch (r : WebhookReceiver) (py : Interpreter)
    (headers : List (PyStr × PyStr)) (payload : WebhookPayload) :
    Except PyError Dispatch := do
  if !(← r.authorized (lookupLast (normalizedHeaders py headers) (str "authorization"))) then
    return .respond (errorResponse 401 [.text "webhook authorization failed"])
  if (outboxId py headers).isEmpty then
    return .respond (errorResponse 400 [.text "X-Mizan-Outbox-Id is required"])
  match ← decodePayload py payload r.maxBodyBytes with
  | .refused status message => return .respond (errorResponse status [.text message])
  | .object raw event => dispatchEvent py event (deliveryContext py headers raw)

/-- What a callback invocation does. -/
def Invocation.run (r : WebhookReceiver) : Invocation → CallbackResult
  | .ledger event delivery => r.onLedger event delivery
  | .notification event delivery => r.onNotification event delivery

/-- `receive` after a callback: the acknowledgement is read from the dictionary
the callback was handed. -/
def Invocation.respond (py : Interpreter) :
    Invocation → CallbackResult → Except PyError WebhookResponse
  | .ledger _ _, .raises => .ok (errorResponse 500 [.text "ledger webhook processing failed"])
  | .ledger _ _, .returns event =>
      match event.get "business_sequence" with
      | none => .error (.keyError "business_sequence")
      | some sequence => do
          let ack ← py.str sequence
          return { statusCode := 204, headers := [(ackSequenceHeader, ack)], body := none }
  | .notification _ _, .raises =>
      .ok (errorResponse 500 [.text "notification webhook processing failed"])
  | .notification _ _, .returns _ => .ok { statusCode := 204, headers := [], body := none }

/-- `receive`. -/
def WebhookReceiver.receive (r : WebhookReceiver) (py : Interpreter)
    (headers : List (PyStr × PyStr)) (payload : WebhookPayload) : Reception :=
  match r.dispatch py headers payload with
  | .error err => ⟨.error err, []⟩
  | .ok (.respond response) => ⟨.ok response, []⟩
  | .ok (.invoke invocation) => ⟨invocation.respond py (invocation.run r), [invocation]⟩

/-! ## What the checks accept -/

section Fields

variable {d : PyDict} {name : String}

/-- A member is filled with a text that is not empty. -/
theorem PyDict.filled_iff :
    d.filled name = true ↔ ∃ s, d.get name = some (.str s) ∧ s ≠ [] := by
  unfold PyDict.filled
  split
  · rename_i s hget
    simp [hget]
  · rename_i hget
    simp only [Bool.false_eq_true, false_iff]
    rintro ⟨s, hs, -⟩
    exact hget s hs

/-- The text of a member that has one. -/
theorem PyDict.text_eq {s : PyStr} (h : d.get name = some (.str s)) : d.text name = s := by
  rw [PyDict.text, h]

/-- A member is compared with a text. -/
theorem PyDict.isText_iff {s : PyStr} :
    d.isText name s = true ↔ d.get name = some (.str s) := by
  unfold PyDict.isText
  split
  · rename_i t hget
    simp [hget]
  · rename_i hget
    simp only [Bool.false_eq_true, false_iff]
    exact hget s

/-- A member is a dictionary. -/
theorem PyDict.isDict_iff :
    d.isDict name = true ↔ ∃ entries, d.get name = some (.dict entries) := by
  unfold PyDict.isDict
  split
  · rename_i entries hget
    simp [hget]
  · rename_i hget
    simp only [Bool.false_eq_true, false_iff]
    rintro ⟨entries, hentries⟩
    exact hget entries hentries

end Fields

/-- A positive `int` is an `int` and no `bool`. -/
theorem isPositiveInt_iff (v : Option PyValue) :
    isPositiveInt v = true ↔ ∃ n, v = some (.int n) ∧ 1 ≤ n := by
  unfold isPositiveInt
  split
  · simp
  · rename_i hint
    simp only [Bool.false_eq_true, false_iff]
    rintro ⟨n, hn, -⟩
    exact hint n hn

section Conversion

variable (v : Option PyValue) (error other : PyError)

/-- What passes as a dictionary is one. -/
theorem asDict_eq_ok_iff (d : PyDict) : asDict v error = .ok d ↔ v = some (.dict d) := by
  unfold asDict
  split
  · simp
  · rename_i hdict
    simp only [reduceCtorEq, false_iff]
    exact hdict d

/-- What does not raises the given exception. -/
theorem asDict_eq_error (h : asDict v error = .error other) : other = error := by
  unfold asDict at h
  split at h
  · simp at h
  · exact (Except.error.inj h).symm

/-- What passes as a list is one. -/
theorem asList_eq_ok_iff (items : List PyValue) :
    asList v error = .ok items ↔ v = some (.list items) := by
  unfold asList
  split
  · simp
  · rename_i hlist
    simp only [reduceCtorEq, false_iff]
    exact hlist items

/-- What does not raises the given exception. -/
theorem asList_eq_error (h : asList v error = .error other) : other = error := by
  unfold asList at h
  split at h
  · simp at h
  · exact (Except.error.inj h).symm

end Conversion

/-- A value that cannot be looked up in a set. -/
def Unhashable (v : Option PyValue) : Prop := ∃ x, v = some x ∧ x.hashable = false

/-- Membership in a set of strings holds of its strings, and fails for values
without a hash. -/
theorem isIn_cases (v : Option PyValue) (names : List String) :
    (∃ name ∈ names, v = some (.str (str name)) ∧ isIn v names = .ok true) ∨
      (Unhashable v ∧ isIn v names = .error .typeError) ∨
      ((∀ name ∈ names, v ≠ some (.str (str name))) ∧ ¬ Unhashable v ∧
        isIn v names = .ok false) := by
  unfold isIn Unhashable
  split
  · rename_i s
    by_cases hmem : ∃ name ∈ names, str name = s
    · obtain ⟨name, hname, rfl⟩ := hmem
      refine .inl ⟨name, hname, rfl, ?_⟩
      rw [Except.ok.injEq, List.any_eq_true]
      exact ⟨name, hname, by simp⟩
    · refine .inr (.inr ⟨?_, by simp [PyValue.hashable], ?_⟩)
      · intro name hname hsame
        obtain rfl : s = str name := by simpa using hsame
        exact hmem ⟨name, hname, rfl⟩
      · rw [Except.ok.injEq, List.any_eq_false]
        intro name hname hsame
        exact hmem ⟨name, hname, by simpa using hsame⟩
  · exact .inr (.inl ⟨⟨_, rfl, rfl⟩, rfl⟩)
  · exact .inr (.inl ⟨⟨_, rfl, rfl⟩, rfl⟩)
  · rename_i hstr hlist hdict
    refine .inr (.inr ⟨fun name _ => hstr _, ?_, rfl⟩)
    rintro ⟨x, rfl, hx⟩
    cases x with
    | list items => exact hlist items rfl
    | dict entries => exact hdict entries rfl
    | _ => simp [PyValue.hashable] at hx

/-- A value is in a set of names if it is one of them. -/
theorem isIn_eq_true_iff (v : Option PyValue) (names : List String) :
    isIn v names = .ok true ↔ ∃ name ∈ names, v = some (.str (str name)) := by
  rcases isIn_cases v names with ⟨name, hname, hv, hin⟩ | ⟨⟨x, rfl, hx⟩, hin⟩ | ⟨hnot, -, hin⟩
  · simp only [hin, true_iff]
    exact ⟨name, hname, hv⟩
  · simp only [hin, reduceCtorEq, false_iff]
    rintro ⟨name, -, hv⟩
    obtain rfl := Option.some.inj hv
    simp [PyValue.hashable] at hx
  · simp only [hin, Except.ok.injEq, Bool.false_eq_true, false_iff]
    rintro ⟨name, hname, hv⟩
    exact hnot name hname hv

/-- Looking up an unhashable value raises `TypeError`. -/
theorem isIn_eq_error_iff (v : Option PyValue) (names : List String) (e : PyError) :
    isIn v names = .error e ↔ Unhashable v ∧ e = .typeError := by
  rcases isIn_cases v names with ⟨name, hname, rfl, hin⟩ | ⟨hv, hin⟩ | ⟨-, hv, hin⟩
  · simp [hin, Unhashable, PyValue.hashable]
  · rw [hin, Except.error.injEq, eq_comm]
    simp [hv]
  · simp [hin, hv]

/-! ## Value errors -/

/-- The exceptions `receive` turns into a refusal of the event. -/
def PyError.IsValueError (e : PyError) : Prop := ∃ message, e = .valueError message

/-- A refusal is a `ValueError`. -/
theorem refuse_isValueError (message : String) : (refuse message).IsValueError :=
  ⟨_, rfl⟩

/-- A `ValueError` is no `TypeError`. -/
theorem PyError.IsValueError.ne_typeError {e : PyError} (h : e.IsValueError) :
    e ≠ .typeError := by
  obtain ⟨message, rfl⟩ := h
  simp

/-- A failing `int` raises a `ValueError`. -/
theorem Interpreter.int_error {py : Interpreter} {s : PyStr} {e : PyError}
    (h : py.int s = .error e) : e.IsValueError := by
  unfold Interpreter.int at h
  split at h
  · exact ⟨_, (Except.error.inj h).symm⟩
  · exact ⟨_, (Except.error.inj h).symm⟩
  · split at h
    · simp at h
    · exact ⟨_, (Except.error.inj h).symm⟩

/-- A canonical integer is refused with a `ValueError`. -/
theorem canonicalInteger_error {py : Interpreter} {v : Option PyValue} {e : PyError}
    (h : canonicalInteger py v = .error e) : e.IsValueError := by
  unfold canonicalInteger at h
  split at h
  · split at h
    · simp at h
    · split at h
      · rw [bind_eq_error_iff] at h
        rcases h with h | ⟨n, -, h⟩
        · exact Interpreter.int_error h
        · simp [pure, Except.pure] at h
      · simp at h
  · simp at h

/-- So is an unsigned one. -/
theorem unsignedCanonicalInteger_error {py : Interpreter} {v : Option PyValue} {e : PyError}
    (h : unsignedCanonicalInteger py v = .error e) : e.IsValueError := by
  unfold unsignedCanonicalInteger at h
  split at h
  · split at h
    · rw [bind_eq_error_iff] at h
      rcases h with h | ⟨n, -, h⟩
      · exact Interpreter.int_error h
      · simp [pure, Except.pure] at h
    · simp at h
  · simp at h

/-! ## Ledger events -/

/-- A posting that matches the contract, and what it books. -/
structure Books (py : Interpreter) (posting : PyDict) (move : Move) : Prop where
  rail : ∃ name ∈ rails, posting.get "rail" = some (.str (str name))
  unit : ∃ name ∈ units, posting.get "unit" = some (.str (str name))
  accountCode : posting.filled "account_code" = true
  canonical : canonicalInteger py (posting.get "amount") = .ok true
  amount : py.int (posting.text "amount") = .ok move.2
  key : move.1 = (posting.text "rail", posting.text "unit")

/-- Which postings match the contract. -/
theorem bookPosting_eq_ok_iff (py : Interpreter) (posting : PyValue) (move : Move) :
    bookPosting py posting = .ok move ↔
      ∃ members, posting = .dict members ∧ Books py members move := by
  simp only [bookPosting, bind_eq_ok_iff, asDict_eq_ok_iff, require_eq_ok_iff,
    Option.some.injEq]
  constructor
  · rintro ⟨members, rfl, rail, hrail, -, hin, unit, hunit, -, hin', -, haccount, canonical,
      hcanonical, -, hexact, amount, hamount, hmove⟩
    obtain rfl : rail = true := hin
    obtain rfl : unit = true := hin'
    obtain rfl : canonical = true := hexact
    obtain rfl := Except.ok.inj hmove
    exact ⟨members, rfl, (isIn_eq_true_iff _ _).mp hrail, (isIn_eq_true_iff _ _).mp hunit,
      haccount, hcanonical, hamount, rfl⟩
  · rintro ⟨members, rfl, h⟩
    refine ⟨members, rfl, true, (isIn_eq_true_iff _ _).mpr h.rail, (), rfl, true,
      (isIn_eq_true_iff _ _).mpr h.unit, (), rfl, (), h.accountCode, true, h.canonical, (),
      rfl, move.2, h.amount, ?_⟩
    rw [← h.key]
    rfl

/-- A posting whose rail or, after a valid rail, whose unit is a list or a
dictionary. -/
def PostingRaises (posting : PyValue) : Prop :=
  ∃ members, posting = .dict members ∧
    (Unhashable (PyDict.get members "rail") ∨
      (∃ name ∈ rails, PyDict.get members "rail" = some (.str (str name))) ∧
        Unhashable (PyDict.get members "unit"))

/-- How a posting fails. -/
theorem bookPosting_eq_error {py : Interpreter} {posting : PyValue} {e : PyError}
    (h : bookPosting py posting = .error e) :
    e.IsValueError ∨ e = .typeError ∧ PostingRaises posting := by
  simp only [bookPosting, bind_eq_error_iff, asDict_eq_ok_iff, require_eq_error_iff,
    isIn_eq_error_iff, Option.some.injEq, require_eq_ok_iff] at h
  rcases h with h | ⟨members, rfl, ⟨hrail, rfl⟩ | ⟨rail, hrail, ⟨-, rfl⟩ | ⟨-, hin, h⟩⟩⟩
  · exact .inl (asDict_eq_error _ _ _ h ▸ refuse_isValueError _)
  · exact .inr ⟨rfl, members, rfl, .inl hrail⟩
  · exact .inl (refuse_isValueError _)
  · obtain rfl : rail = true := hin
    have hrail := (isIn_eq_true_iff _ _).mp hrail
    rcases h with ⟨hunit, rfl⟩ | ⟨unit, -, ⟨-, rfl⟩ | ⟨-, -, ⟨-, rfl⟩ | ⟨-, -, h⟩⟩⟩
    · exact .inr ⟨rfl, members, rfl, .inr ⟨hrail, hunit⟩⟩
    · exact .inl (refuse_isValueError _)
    · exact .inl (refuse_isValueError _)
    · rcases h with h | ⟨canonical, -, ⟨-, rfl⟩ | ⟨-, -, h | ⟨amount, -, h⟩⟩⟩
      · exact .inl (canonicalInteger_error h)
      · exact .inl (refuse_isValueError _)
      · exact .inl (Interpreter.int_error h)
      · simp [pure, Except.pure] at h

/-- Such a posting does raise a `TypeError`. -/
theorem PostingRaises.bookPosting_eq {posting : PyValue} (h : PostingRaises posting)
    (py : Interpreter) : bookPosting py posting = .error .typeError := by
  obtain ⟨members, rfl, hraises⟩ := h
  simp only [bookPosting, bind_eq_error_iff, asDict_eq_ok_iff, require_eq_error_iff,
    isIn_eq_error_iff, Option.some.injEq, require_eq_ok_iff]
  refine .inr ⟨members, rfl, ?_⟩
  rcases hraises with hrail | ⟨hrail, hunit⟩
  · exact .inl ⟨hrail, trivial⟩
  · refine .inr ⟨true, (isIn_eq_true_iff _ _).mpr hrail, .inr ⟨(), rfl, ?_⟩⟩
    exact .inl ⟨hunit, trivial⟩

/-- The fields of a ledger event outside the postings match the contract. -/
structure LedgerFields (payload entry : PyDict) (postings : List PyValue) : Prop where
  eventId : payload.filled "event_id" = true
  businessId : payload.filled "business_id" = true
  businessSequence : ∃ n, payload.get "business_sequence" = some (.int n) ∧ 1 ≤ n
  isEntry : payload.get "entry" = some (.dict entry)
  entryId : entry.get "id" = some (.str (payload.text "event_id"))
  entryStrings : ∀ field ∈ requiredEntryStrings, entry.filled field = true
  entryType : ∃ type ∈ ledgerTypes, entry.get "entry_type" = some (.str (str type))
  metadata : ∃ metadata, entry.get "metadata" = some (.dict metadata)
  isPostings : payload.get "postings" = some (.list postings)

/-- The type of an entry is one of the ledger's. -/
theorem entryType_iff {entry : PyDict} (h : entry.filled "entry_type" = true) :
    (ledgerTypes.any fun type => str type == entry.text "entry_type") = true ↔
      ∃ type ∈ ledgerTypes, entry.get "entry_type" = some (.str (str type)) := by
  obtain ⟨s, hs, -⟩ := PyDict.filled_iff.mp h
  rw [PyDict.text_eq hs, hs, List.any_eq_true]
  constructor
  · rintro ⟨type, htype, hsame⟩
    exact ⟨type, htype, by rw [beq_iff_eq.mp hsame]⟩
  · rintro ⟨type, htype, hsame⟩
    obtain rfl : s = str type := by simpa using hsame
    exact ⟨type, htype, beq_self_eq_true _⟩

/-- The fields of a ledger event pass when each of them does. -/
theorem validateLedgerFields_eq_ok_iff (payload : PyDict) (postings : List PyValue) :
    validateLedgerFields payload = .ok postings ↔
      ∃ entry, LedgerFields payload entry postings := by
  simp only [validateLedgerFields, bind_eq_ok_iff, asDict_eq_ok_iff, asList_eq_ok_iff,
    require_eq_ok_iff, Bool.and_eq_true, isPositiveInt_iff, PyDict.isText_iff,
    PyDict.isDict_iff, List.all_eq_true]
  constructor
  · rintro ⟨-, ⟨hevent, hbusiness⟩, -, hsequence, entry, hentry, -, hid, -, hstrings, -,
      ⟨htype, hmetadata⟩, hpostings⟩
    exact ⟨entry, hevent, hbusiness, hsequence, hentry, hid, hstrings,
      (entryType_iff (hstrings _ (by simp [requiredEntryStrings]))).mp htype, hmetadata,
      hpostings⟩
  · rintro ⟨entry, h⟩
    have htype := h.entryStrings "entry_type" (by simp [requiredEntryStrings])
    exact ⟨(), ⟨h.eventId, h.businessId⟩, (), h.businessSequence, entry, h.isEntry, (),
      h.entryId, (), h.entryStrings, (), ⟨(entryType_iff htype).mpr h.entryType, h.metadata⟩,
      h.isPostings⟩

/-- They are refused with a `ValueError`. -/
theorem validateLedgerFields_error {payload : PyDict} {e : PyError}
    (h : validateLedgerFields payload = .error e) : e.IsValueError := by
  simp only [validateLedgerFields, bind_eq_error_iff, require_eq_error_iff] at h
  rcases h with ⟨-, rfl⟩ | ⟨-, -, ⟨-, rfl⟩ | ⟨-, -, h | ⟨entry, -, ⟨-, rfl⟩ | ⟨-, -, ⟨-, rfl⟩ |
    ⟨-, -, ⟨-, rfl⟩ | ⟨-, -, h⟩⟩⟩⟩⟩⟩
  · exact refuse_isValueError _
  · exact refuse_isValueError _
  · exact asDict_eq_error _ _ _ h ▸ refuse_isValueError _
  · exact refuse_isValueError _
  · exact refuse_isValueError _
  · exact refuse_isValueError _
  · exact asList_eq_error _ _ _ h ▸ refuse_isValueError _

/-- A ledger event that matches the contract. -/
def LedgerValid (py : Interpreter) (payload : PyDict) : Prop :=
  ∃ entry postings moves, LedgerFields payload entry postings ∧
    List.Forall₂ (fun posting move => bookPosting py posting = .ok move) postings moves ∧
    Balanced moves

/-- Which ledger events pass. -/
theorem validateLedger_eq_ok_iff (py : Interpreter) (payload : PyDict) :
    validateLedger py payload = .ok () ↔ LedgerValid py payload := by
  simp only [validateLedger, bind_eq_ok_iff, validateLedgerFields_eq_ok_iff,
    accumulate_eq_ok_iff, require_eq_ok_iff]
  constructor
  · rintro ⟨postings, ⟨entry, hfields⟩, -, ⟨moves, hbooked, rfl⟩, hsettled⟩
    exact ⟨entry, postings, moves, hfields, hbooked, (settled_tally_iff moves).mp hsettled⟩
  · rintro ⟨entry, postings, moves, hfields, hbooked, hbalanced⟩
    exact ⟨postings, ⟨entry, hfields⟩, _, ⟨moves, hbooked, rfl⟩,
      (settled_tally_iff moves).mpr hbalanced⟩

/-- An event whose fields match the contract up to a posting that raises. -/
def LedgerRaises (py : Interpreter) (payload : PyDict) : Prop :=
  ∃ entry front posting back, LedgerFields payload entry (front ++ posting :: back) ∧
    (∀ earlier ∈ front, ∃ move, bookPosting py earlier = .ok move) ∧ PostingRaises posting

/-- How a ledger event fails. -/
theorem validateLedger_error {py : Interpreter} {payload : PyDict} {e : PyError}
    (h : validateLedger py payload = .error e) :
    e.IsValueError ∨ e = .typeError ∧ LedgerRaises py payload := by
  simp only [validateLedger, bind_eq_error_iff, validateLedgerFields_eq_ok_iff,
    accumulate_eq_error_iff, require_eq_error_iff] at h
  rcases h with hfields | ⟨_, ⟨entry, hfields⟩, ⟨front, posting, back, rfl, hfront, hfails⟩ |
    ⟨-, -, -, rfl⟩⟩
  · exact .inl (validateLedgerFields_error hfields)
  · rcases bookPosting_eq_error hfails with hvalue | ⟨htype, hposting⟩
    · exact .inl hvalue
    · exact .inr ⟨htype, entry, front, posting, back, hfields, hfront, hposting⟩
  · exact .inl (refuse_isValueError _)

/-- Which events make the validation raise a `TypeError`. -/
theorem validateLedger_eq_typeError_iff (py : Interpreter) (payload : PyDict) :
    validateLedger py payload = .error .typeError ↔ LedgerRaises py payload := by
  constructor
  · intro h
    rcases validateLedger_error h with hvalue | ⟨-, hraises⟩
    · exact absurd rfl hvalue.ne_typeError
    · exact hraises
  · rintro ⟨entry, front, posting, back, hfields, hfront, hposting⟩
    simp only [validateLedger, bind_eq_error_iff, validateLedgerFields_eq_ok_iff,
      accumulate_eq_error_iff]
    exact .inr ⟨_, ⟨entry, hfields⟩, .inl ⟨front, posting, back, rfl, hfront,
      hposting.bookPosting_eq py⟩⟩

/-! ## Notifications -/

/-- A notification that matches the contract. -/
structure NotificationValid (py : Interpreter) (payload : PyDict) (type : String) : Prop where
  businessId : payload.filled "business_id" = true
  featureCode : payload.filled "feature_code" = true
  isType : payload.get "type" = some (.str (str type))
  known : type ∈ ["budget_warning", "budget_breached", "budget_paused",
    "feature_paused_manual", "feature_resumed_manual"]
  period : type ∈ ["budget_warning", "budget_breached", "budget_paused"] →
    payload.filled "period" = true
  amounts : type ∈ ["budget_warning", "budget_breached"] →
    unsignedCanonicalInteger py (payload.get "projected") = .ok true ∧
      unsignedCanonicalInteger py (payload.get "limit") = .ok true

/-- The manual types come with no further fields. -/
theorem manual_types : ∀ type ∈ ["feature_paused_manual", "feature_resumed_manual"],
    type ∈ ["budget_warning", "budget_breached", "budget_paused", "feature_paused_manual",
      "feature_resumed_manual"] ∧
      type ∉ ["budget_warning", "budget_breached", "budget_paused"] ∧
      type ∉ ["budget_warning", "budget_breached"] := by
  decide

/-- Which notifications pass. -/
theorem validateNotification_eq_ok_iff (py : Interpreter) (payload : PyDict) :
    validateNotification py payload = .ok () ↔ ∃ type, NotificationValid py payload type := by
  simp only [validateNotification, bind_eq_ok_iff, require_eq_ok_iff]
  constructor
  · rintro ⟨-, hbusiness, -, hfeature, threshold, hthreshold, h⟩
    cases threshold with
    | true =>
        simp only [if_true, bind_eq_ok_iff, require_eq_ok_iff] at h
        obtain ⟨-, hperiod, projected, hprojected, -, hp, limit, hlimit, hl⟩ := h
        obtain rfl : projected = true := hp
        obtain rfl : limit = true := hl
        obtain ⟨type, hmem, htype⟩ := (isIn_eq_true_iff _ _).mp hthreshold
        refine ⟨type, hbusiness, hfeature, htype, ?_, fun _ => hperiod,
          fun _ => ⟨hprojected, hlimit⟩⟩
        simp only [List.mem_cons, List.not_mem_nil, or_false] at hmem ⊢
        tauto
    | false =>
        simp only [Bool.false_eq_true, if_false] at h
        by_cases hpaused : payload.isText "type" (str "budget_paused") = true
        · rw [if_pos hpaused, require_eq_ok_iff] at h
          exact ⟨"budget_paused", hbusiness, hfeature, PyDict.isText_iff.mp hpaused,
            by decide, fun _ => h, fun hmem => absurd hmem (by decide)⟩
        · rw [if_neg hpaused] at h
          simp only [bind_eq_ok_iff, require_eq_ok_iff] at h
          obtain ⟨manual, hmanual, hm⟩ := h
          obtain rfl : manual = true := hm
          obtain ⟨type, hmem, htype⟩ := (isIn_eq_true_iff _ _).mp hmanual
          obtain ⟨hknown, hplain⟩ := manual_types type hmem
          exact ⟨type, hbusiness, hfeature, htype, hknown, fun h => absurd h hplain.1,
            fun h => absurd h hplain.2⟩
  · rintro ⟨type, h⟩
    refine ⟨(), h.businessId, (), h.featureCode, ?_⟩
    have hknown := h.known
    have hpaused := PyDict.isText_iff.mpr h.isType
    have hnotPaused (hother : (str type == str "budget_paused") = false) :
        payload.isText "type" (str "budget_paused") = false := by
      rw [PyDict.isText, h.isType]
      exact hother
    simp only [List.mem_cons, List.not_mem_nil, or_false] at hknown
    rw [h.isType]
    rcases hknown with rfl | rfl | rfl | rfl | rfl
    · obtain ⟨hprojected, hlimit⟩ := h.amounts (by decide)
      refine ⟨true, rfl, ?_⟩
      simp [h.period (by decide), hprojected, hlimit, require, bind, Except.bind]
    · obtain ⟨hprojected, hlimit⟩ := h.amounts (by decide)
      refine ⟨true, rfl, ?_⟩
      simp [h.period (by decide), hprojected, hlimit, require, bind, Except.bind]
    · refine ⟨false, rfl, ?_⟩
      simp [hpaused, h.period (by decide)]
    · refine ⟨false, rfl, ?_⟩
      rw [hnotPaused (by decide)]
      rfl
    · refine ⟨false, rfl, ?_⟩
      rw [hnotPaused (by decide)]
      rfl

/-- A notification whose type is a list or a dictionary. -/
structure NotificationRaises (payload : PyDict) : Prop where
  businessId : payload.filled "business_id" = true
  featureCode : payload.filled "feature_code" = true
  isType : Unhashable (payload.get "type")

/-- How a notification fails. -/
theorem validateNotification_error {py : Interpreter} {payload : PyDict} {e : PyError}
    (h : validateNotification py payload = .error e) :
    e.IsValueError ∨ e = .typeError ∧ NotificationRaises payload := by
  simp only [validateNotification, bind_eq_error_iff, require_eq_error_iff,
    require_eq_ok_iff, isIn_eq_error_iff] at h
  rcases h with ⟨-, rfl⟩ | ⟨-, hbusiness, ⟨-, rfl⟩ | ⟨-, hfeature, ⟨htype, rfl⟩ |
    ⟨threshold, -, h⟩⟩⟩
  · exact .inl (refuse_isValueError _)
  · exact .inl (refuse_isValueError _)
  · exact .inr ⟨rfl, hbusiness, hfeature, htype⟩
  · split at h
    · simp only [bind_eq_error_iff, require_eq_error_iff] at h
      rcases h with ⟨-, rfl⟩ | ⟨-, -, h | ⟨projected, -, ⟨-, rfl⟩ | ⟨-, -, h |
        ⟨limit, -, -, rfl⟩⟩⟩⟩
      · exact .inl (refuse_isValueError _)
      · exact .inl (unsignedCanonicalInteger_error h)
      · exact .inl (refuse_isValueError _)
      · exact .inl (unsignedCanonicalInteger_error h)
      · exact .inl (refuse_isValueError _)
    · split at h
      · rw [require_eq_error_iff] at h
        exact .inl (h.2 ▸ refuse_isValueError _)
      · simp only [bind_eq_error_iff, require_eq_error_iff, isIn_eq_error_iff] at h
        rcases h with ⟨htype, rfl⟩ | ⟨manual, -, -, rfl⟩
        · exact .inr ⟨rfl, hbusiness, hfeature, htype⟩
        · exact .inl (refuse_isValueError _)

/-- Which notifications make the validation raise a `TypeError`. -/
theorem validateNotification_eq_typeError_iff (py : Interpreter) (payload : PyDict) :
    validateNotification py payload = .error .typeError ↔ NotificationRaises payload := by
  constructor
  · intro h
    rcases validateNotification_error h with hvalue | ⟨-, hraises⟩
    · exact absurd rfl hvalue.ne_typeError
    · exact hraises
  · rintro ⟨hbusiness, hfeature, htype⟩
    have hin := (isIn_eq_error_iff _ ["budget_warning", "budget_breached"] _).mpr
      ⟨htype, rfl⟩
    simp [validateNotification, hbusiness, hfeature, hin, require, bind, Except.bind]

end MizanSDK.Python
