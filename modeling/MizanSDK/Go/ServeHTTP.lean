import MizanSDK.Go.Acknowledgement
import MizanSDK.Go.Client

/-!
# The bounded body reader of the Go webhook receiver

`ServeHTTP` reads one byte more than the limit, hands the body to `Receive` and
writes the response.  Every failure of the reader is answered as a body that is
too large, and the bound of the reader is computed in an `int64`.

Main results:

- Theorem `readBoundedBody_eq`: what the reader makes of a body.
- Theorem `WebhookReceiver.receive_statusCode_eq_413_iff`: which bodies `Receive`
  finds too large.
- Theorem `WebhookReceiver.serveHTTP_transparent_iff`: when the reader changes
  nothing about the answer.
-/

namespace MizanSDK.Go

open JsonText

/-! ## The response writer -/

/-- `Header.Add`: append a value to those of a name. -/
def Header.add (h : Header) (name value : String) : Header :=
  h.insert (canonicalMIMEHeaderKey name)
    ((h.lookup (canonicalMIMEHeaderKey name)).getD [] ++ [value])

/-- `http.ResponseWriter` as `WriteHTTP` uses it: the headers under
construction, the status line with the headers that were sent along, and the
documents written behind them. -/
structure ResponseWriter where
  header : Header
  head : Option (ℕ × Header)
  body : List String

/-- A writer on which nothing was written yet. -/
def ResponseWriter.new : ResponseWriter := ⟨∅, none, []⟩

/-- `WriteHeader`: only the first call counts. -/
def ResponseWriter.writeHeader (w : ResponseWriter) (status : ℕ) : ResponseWriter :=
  match w.head with
  | none => { w with head := some (status, w.header) }
  | some _ => w

/-- `Write`. -/
def ResponseWriter.write (w : ResponseWriter) (document : Option String) : ResponseWriter :=
  { w with body := w.body ++ document.toList }

/-- The loop of `WriteHTTP` over the headers of a response. -/
def ResponseWriter.addHeaders (w : ResponseWriter) (headers : Header) : ResponseWriter :=
  { w with
    header := headers.entries.foldl
      (fun sent entry => entry.2.foldl (fun sent value => sent.add entry.1 value) sent) w.header }

/-- `WriteHTTP`. -/
def WebhookResponse.writeHTTP (response : WebhookResponse) (w : ResponseWriter) :
    ResponseWriter :=
  ((w.addHeaders response.headers).writeHeader response.statusCode).write response.body

/-- The writer has sent exactly this response. -/
structure ResponseWriter.Sent (w : ResponseWriter) (response : WebhookResponse) : Prop where
  head : w.head = some (response.statusCode, response.headers)
  body : w.body = response.body.toList

/-- A writer has sent at most one response. -/
theorem ResponseWriter.Sent.unique {w : ResponseWriter} {response other : WebhookResponse}
    (h : w.Sent response) (h' : w.Sent other) : response = other := by
  obtain ⟨status, headers, body⟩ := response
  obtain ⟨status', headers', body'⟩ := other
  have hhead : (status, headers) = (status', headers') :=
    Option.some.inj (h.head.symm.trans h'.head)
  have hbody : body.toList = body'.toList := h.body.symm.trans h'.body
  obtain ⟨rfl, rfl⟩ := Prod.mk.inj hhead
  cases body <;> cases body' <;> simp_all

/-- The headers of the responses the receiver builds: none, or one with one
value, under its canonical name. -/
def Header.Plain (h : Header) : Prop :=
  h = ∅ ∨ ∃ name value, canonicalMIMEHeaderKey name = name ∧
    h = (∅ : Header).insert name [value]

/-- Such headers arrive as they were built. -/
theorem ResponseWriter.addHeaders_new {headers : Header} (h : headers.Plain) :
    (ResponseWriter.new.addHeaders headers).header = headers := by
  rcases h with rfl | ⟨name, value, hcanonical, rfl⟩
  · rfl
  · have hentries : ((∅ : Header).insert name [value]).entries = [⟨name, [value]⟩] := by
      rw [AList.insert_empty]
      rfl
    rw [addHeaders, hentries]
    simp [ResponseWriter.new, Header.add, hcanonical]

/-- Such a response arrives as it was built. -/
theorem WebhookResponse.sent_writeHTTP {response : WebhookResponse}
    (h : response.headers.Plain) : (response.writeHTTP .new).Sent response := by
  constructor
  · have hhead : (response.writeHTTP .new).head =
        some (response.statusCode, (ResponseWriter.new.addHeaders response.headers).header) :=
      rfl
    rw [hhead, ResponseWriter.addHeaders_new h]
  · simp [writeHTTP, ResponseWriter.write, ResponseWriter.writeHeader,
      ResponseWriter.addHeaders, ResponseWriter.new]

/-- What was sent has the status of the response. -/
theorem ResponseWriter.Sent.head_eq_iff {w : ResponseWriter} {response : WebhookResponse}
    (h : w.Sent response) (status : ℕ) :
    (∃ headers, w.head = some (status, headers)) ↔ response.statusCode = status := by
  simp [h.head]

/-! ## The responses of `Receive` -/

/-- The effective limit is positive. -/
theorem WebhookReceiver.bodyLimit_pos (r : WebhookReceiver) : 0 < r.bodyLimit := by
  unfold bodyLimit
  split <;> omega

/-- An error response has one header. -/
theorem errorResponse_plain (status : ℕ) (message : String) :
    (errorResponse status message).headers.Plain :=
  .inr ⟨"Content-Type", "application/json", by decide, rfl⟩

/-- So has a success, unless it has none. -/
theorem Invocation.respond_none_plain (invocation : Invocation) :
    (invocation.respond none).headers.Plain := by
  cases invocation with
  | ledger event delivery => exact .inr ⟨"X-Mizan-Ack-Sequence", _, by decide, rfl⟩
  | notification event delivery => exact .inl rfl

/-- Every response of `Receive` arrives as it was built. -/
theorem WebhookReceiver.receive_plain (r : WebhookReceiver) (parse : JsonParser)
    (headers : Header) (body : List UInt8) :
    (r.receive parse headers body).response.headers.Plain := by
  rw [receive]
  split
  · rename_i response hdispatch
    obtain ⟨status, message, -, rfl⟩ := dispatch_refuses hdispatch
    exact errorResponse_plain status message
  · rename_i handler invocation _
    cases invocation.run handler with
    | none => exact invocation.respond_none_plain
    | some error =>
        obtain ⟨status, message, -, hrefusal⟩ := invocation.respond_error_refuses error
        simp only [hrefusal]
        exact errorResponse_plain status message

/-- An empty body is refused first of all. -/
theorem WebhookReceiver.receive_nil (r : WebhookReceiver) (parse : JsonParser)
    (headers : Header) :
    (r.receive parse headers []).response = errorResponse 400 "request body is required" :=
  rfl

/-- A body of admissible length is not refused for its length: with 413, or as
missing. -/
theorem WebhookReceiver.receive_of_measured (r : WebhookReceiver) (parse : JsonParser)
    (headers : Header) {body : List UInt8} (hnonempty : body.length ≠ 0)
    (hlimit : ¬ r.bodyLimit < body.length) :
    (r.receive parse headers body).response.statusCode ≠ 413 ∧
      (r.receive parse headers body).response ≠ errorResponse 400 "request body is required" := by
  have hmessage : ∀ {message : String}, message ≠ "request body is required" →
      ∀ status, errorResponse status message ≠ errorResponse 400 "request body is required" := by
    intro message hne status h
    exact hne (Option.some.inj (congrArg WebhookResponse.body h))
  have hstatus : ∀ {response : WebhookResponse}, response.statusCode ≠ 400 →
      response ≠ errorResponse 400 "request body is required" := by
    intro response hne h
    exact hne (congrArg WebhookResponse.statusCode h)
  rw [receive, dispatch, if_neg hnonempty, if_neg hlimit]
  split
  · rename_i response hdispatch
    split at hdispatch
    · obtain rfl := Dispatch.respond.inj hdispatch
      exact ⟨by decide, hstatus (by decide)⟩
    · simp only at hdispatch
      split at hdispatch
      · obtain rfl := Dispatch.respond.inj hdispatch
        exact ⟨by decide, hmessage (by decide) 400⟩
      · split at hdispatch
        · obtain rfl := Dispatch.respond.inj hdispatch
          exact ⟨by decide, hstatus (by decide)⟩
        · split at hdispatch
          · obtain ⟨message, rfl⟩ := dispatchEvent_respond hdispatch
            exact ⟨by simp [errorResponse], hstatus (by simp [errorResponse])⟩
          · obtain rfl := Dispatch.respond.inj hdispatch
            exact ⟨by decide, hmessage (by decide) 400⟩
  · rename_i handler invocation _
    have hcode : (invocation.respond (invocation.run handler)).statusCode = 500 ∨
        (invocation.respond (invocation.run handler)).statusCode = 204 := by
      cases invocation.run handler with
      | none => exact .inr invocation.respond_none_statusCode
      | some error => cases invocation <;> exact .inl rfl
    have htooLarge : (invocation.respond (invocation.run handler)).statusCode ≠ 413 := by
      omega
    have hbad : (invocation.respond (invocation.run handler)).statusCode ≠ 400 := by
      omega
    exact ⟨htooLarge, hstatus hbad⟩

/-- Which bodies `Receive` finds too large. -/
theorem WebhookReceiver.receive_statusCode_eq_413_iff (r : WebhookReceiver) (parse : JsonParser)
    (headers : Header) (body : List UInt8) :
    (r.receive parse headers body).response.statusCode = 413 ↔
      r.bodyLimit < body.length := by
  by_cases hempty : body.length = 0
  · have hlimit : ¬ r.bodyLimit < body.length := by
      have hpos := r.bodyLimit_pos
      omega
    rw [List.length_eq_zero_iff] at hempty
    subst hempty
    rw [receive_nil]
    simpa [errorResponse] using hlimit
  · by_cases hlimit : r.bodyLimit < body.length
    · simp [receive, dispatch, hempty, hlimit, errorResponse]
    · simp [hlimit, (r.receive_of_measured parse headers hempty hlimit).1]

/-- Which bodies `Receive` finds missing. -/
theorem WebhookReceiver.receive_missing_iff (r : WebhookReceiver) (parse : JsonParser)
    (headers : Header) (body : List UInt8) :
    (r.receive parse headers body).response = errorResponse 400 "request body is required" ↔
      body = [] := by
  constructor
  · intro h
    by_contra hne
    have hempty : body.length ≠ 0 := mt List.length_eq_zero_iff.mp hne
    by_cases hlimit : r.bodyLimit < body.length
    · have hcode := (r.receive_statusCode_eq_413_iff parse headers body).mpr hlimit
      rw [h] at hcode
      simp [errorResponse] at hcode
    · exact (r.receive_of_measured parse headers hempty hlimit).2 h
  · rintro rfl
    exact r.receive_nil parse headers

/-! ## The bounded reader -/

/-- `readBoundedBody`: one byte more than the limit is asked for, in an `int64`;
`io.LimitReader` yields nothing when that is not positive. -/
def readBoundedBody (body : BodyStream) (limit : ℤ) : Except GoError (List UInt8) :=
  match readAll (wrapInt64 (limit + 1)).toNat body with
  | .error err => .error err
  | .ok raw => if limit < raw.length then .error ⟨"body too large"⟩ else .ok raw

/-- `http.Request` as `ServeHTTP` reads it. -/
structure IncomingRequest where
  header : Header
  body : BodyStream

/-- What one `ServeHTTP` call does: the writer it leaves and the callbacks it
invoked. -/
structure Service where
  writer : ResponseWriter
  invoked : List Invocation

/-- `ServeHTTP`. -/
def WebhookReceiver.serveHTTP (r : WebhookReceiver) (parse : JsonParser) (w : ResponseWriter)
    (request : IncomingRequest) : Service :=
  match readBoundedBody request.body r.bodyLimit with
  | .error _ =>
      ⟨(errorResponse 413 "request body exceeds the configured limit").writeHTTP w, []⟩
  | .ok body =>
      let reception := r.receive parse request.header body
      ⟨reception.response.writeHTTP w, reception.invoked⟩

/-- The bound of the reader, unless the limit is the largest `int64`. -/
theorem wrapInt64_succ {limit : ℤ} (hpos : 0 < limit) (hlt : limit < 2 ^ 63 - 1) :
    (wrapInt64 (limit + 1)).toNat = limit.toNat + 1 := by
  unfold wrapInt64
  omega

/-- Below the largest limit the reader hands on every body that ends properly
within the limit, and no other. -/
theorem readBoundedBody_of_lt {limit : ℤ} (hpos : 0 < limit) (hlt : limit < 2 ^ 63 - 1)
    (body : BodyStream) :
    (∃ err, readBoundedBody body limit = .error err ∧
        (body.failure ≠ none ∨ limit < body.bytes.length)) ∨
      readBoundedBody body limit = .ok body.bytes ∧ body.failure = none ∧
        ¬ limit < body.bytes.length := by
  rw [readBoundedBody, wrapInt64_succ hpos hlt, readAll]
  by_cases hlong : limit.toNat + 1 ≤ body.bytes.length
  · have hcut : limit < (body.bytes.take (limit.toNat + 1)).length := by
      rw [List.length_take]
      omega
    have hbody : limit < body.bytes.length := by omega
    simp [hlong, hbody]
  · have hbody : ¬ limit < body.bytes.length := by omega
    cases hfailure : body.failure with
    | none => simp [hlong, hbody]
    | some err => simp [hlong]

/-- At the largest limit the bound wraps around and nothing is read. -/
theorem readBoundedBody_of_max (body : BodyStream) :
    readBoundedBody body (2 ^ 63 - 1) = .ok [] := by
  have hbound : (wrapInt64 (2 ^ 63 - 1 + 1)).toNat = 0 := by decide
  rw [readBoundedBody, hbound, readAll]
  simp

/-! ## Transparency -/

/-- The reader changes nothing about the answer to a request. -/
structure WebhookReceiver.Transparent (r : WebhookReceiver) (parse : JsonParser)
    (request : IncomingRequest) : Prop where
  complete : request.body.failure = none →
    (r.serveHTTP parse .new request).writer.Sent
      (r.receive parse request.header request.body.bytes).response
  tooLarge : (∃ headers, (r.serveHTTP parse .new request).writer.head = some (413, headers)) ↔
    r.bodyLimit < request.body.bytes.length

/-- The body stream is measured by the reader as it is: it does not fail within
the limit, and at the largest limit, where nothing is read, nothing is
missed. -/
def WebhookReceiver.Measures (r : WebhookReceiver) (body : BodyStream) : Prop :=
  if r.bodyLimit = 2 ^ 63 - 1 then
    (body.failure = none → body.bytes = []) ∧ body.bytes.length ≤ r.bodyLimit
  else body.failure = none ∨ r.bodyLimit < body.bytes.length

/-- Below the largest limit the reader is in the way exactly when the stream
fails within the limit. -/
theorem WebhookReceiver.transparent_iff_of_lt {r : WebhookReceiver} (parse : JsonParser)
    (request : IncomingRequest) (hlt : r.bodyLimit < 2 ^ 63 - 1) :
    r.Transparent parse request ↔
      request.body.failure = none ∨ r.bodyLimit < request.body.bytes.length := by
  rcases readBoundedBody_of_lt r.bodyLimit_pos hlt request.body with
    ⟨err, hread, hcause⟩ | ⟨hread, hcomplete, hshort⟩
  · have hwriter : (r.serveHTTP parse .new request).writer.Sent
        (errorResponse 413 "request body exceeds the configured limit") := by
      rw [serveHTTP, hread]
      exact WebhookResponse.sent_writeHTTP (errorResponse_plain _ _)
    have hcode := hwriter.head_eq_iff 413
    constructor
    · intro h
      have hlong := h.tooLarge.mp (hcode.mpr rfl)
      exact .inr hlong
    · intro h
      have hlong : r.bodyLimit < request.body.bytes.length := by
        rcases h with hnone | hlong
        · exact hcause.resolve_left (not_not_intro hnone)
        · exact hlong
      constructor
      · intro _
        have hresponse : (r.receive parse request.header request.body.bytes).response =
            errorResponse 413 "request body exceeds the configured limit" := by
          have hempty : request.body.bytes.length ≠ 0 := by
            have hpos := r.bodyLimit_pos
            omega
          simp [receive, dispatch, hempty, hlong]
        rw [hresponse]
        exact hwriter
      · simp [hcode, hlong, errorResponse]
  · have hwriter : (r.serveHTTP parse .new request).writer.Sent
        (r.receive parse request.header request.body.bytes).response := by
      rw [serveHTTP, hread]
      exact WebhookResponse.sent_writeHTTP (r.receive_plain parse _ _)
    constructor
    · intro _
      exact .inl hcomplete
    · intro _
      constructor
      · intro _
        exact hwriter
      · rw [hwriter.head_eq_iff, receive_statusCode_eq_413_iff]

/-- At the largest limit every body is answered as an empty one. -/
theorem WebhookReceiver.transparent_iff_of_max {r : WebhookReceiver} (parse : JsonParser)
    (request : IncomingRequest) (hmax : r.bodyLimit = 2 ^ 63 - 1) :
    r.Transparent parse request ↔
      (request.body.failure = none → request.body.bytes = []) ∧
        request.body.bytes.length ≤ r.bodyLimit := by
  have hwriter : (r.serveHTTP parse .new request).writer.Sent
      (errorResponse 400 "request body is required") := by
    rw [serveHTTP, hmax, readBoundedBody_of_max]
    exact WebhookResponse.sent_writeHTTP (errorResponse_plain _ _)
  have hcode : ¬ ∃ headers,
      (r.serveHTTP parse .new request).writer.head = some (413, headers) := by
    rw [hwriter.head_eq_iff]
    decide
  constructor
  · intro h
    constructor
    · intro hcomplete
      have hresponse := (h.complete hcomplete).unique hwriter
      exact (r.receive_missing_iff parse request.header request.body.bytes).mp hresponse
    · have hshort := mt h.tooLarge.mpr hcode
      exact Int.not_lt.mp hshort
  · rintro ⟨hempty, hshort⟩
    constructor
    · intro hcomplete
      rw [hempty hcomplete, receive_nil]
      exact hwriter
    · exact iff_of_false hcode (Int.not_lt.mpr hshort)

/-- When `ServeHTTP` answers like `Receive` on the complete body, and finds too
large what is: the stream must not fail within the limit, and the limit must
leave room for the one byte more. -/
theorem WebhookReceiver.serveHTTP_transparent_iff (r : WebhookReceiver) (parse : JsonParser)
    (request : IncomingRequest) (hint : isInt64 r.maxBodyBytes = true) :
    r.Transparent parse request ↔ r.Measures request.body := by
  rw [Measures]
  split
  · rename_i hmax
    exact transparent_iff_of_max parse request hmax
  · rename_i hmax
    have hle : r.bodyLimit ≤ 2 ^ 63 - 1 := by
      simp only [isInt64, Bool.and_eq_true, decide_eq_true_eq] at hint
      unfold bodyLimit
      split <;> omega
    exact transparent_iff_of_lt parse request (by omega)

/-- A receiver with a limit and nothing else. -/
def limitedReceiver (maxBodyBytes : ℤ) : WebhookReceiver := ⟨none, "", maxBodyBytes⟩

theorem WebhookReceiver.serveHTTP_transparent_iff_default :
    isInt64 (limitedReceiver 0).maxBodyBytes = true ∧
      (limitedReceiver 0).Transparent (fun _ => none) ⟨∅, ⟨[0x7B], none⟩⟩ :=
  have hint : isInt64 (limitedReceiver 0).maxBodyBytes = true := by decide
  ⟨hint, (serveHTTP_transparent_iff _ _ ⟨∅, ⟨[0x7B], none⟩⟩ hint).mpr (.inl rfl)⟩

/-- A connection that is reset after one byte is answered as a body that is too
large; at the largest limit a complete body is answered as missing. -/
theorem WebhookReceiver.serveHTTP_opaque :
    ¬ (limitedReceiver 0).Transparent (fun _ => none)
        ⟨∅, ⟨[0x7B], some ⟨"connection reset by peer"⟩⟩⟩ ∧
      ¬ (limitedReceiver (2 ^ 63 - 1)).Transparent (fun _ => none) ⟨∅, ⟨[0x7B], none⟩⟩ := by
  constructor
  · rw [transparent_iff_of_lt _ _ (by decide)]
    simp [bodyLimit, limitedReceiver]
  · rw [transparent_iff_of_max _ _ (by decide)]
    simp

end MizanSDK.Go
