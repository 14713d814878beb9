import MizanSDK.Library.Bytes
import MizanSDK.Python.Acknowledgement

/-!
# The payload forms of the Python webhook receiver

`receive` takes the raw bytes of a body, its text, or the mapping it decodes to.
The mapping is written back to bytes before anything else happens to it, and JSON
can spell strings that UTF-8 cannot encode.

Main results:

- Theorem `isScalar_dump`: the text of a value holds a lone surrogate only if one
  of its strings does.
- Theorem `WebhookReceiver.receive_text`: text is received like its bytes.
- Theorem `payloads_alike_iff`: when a mapping is received like the bytes it was
  decoded from.
-/

namespace MizanSDK.Python

open JsonText Checks Bytes

/-! ## Items of a dictionary -/

section LastItems

variable {α β : Type*}

/-- The items of a dictionary that is given by its assignments: each key once, in
the order of the first assignments, with the value of the last one. -/
def lastItems (entries : List (PyStr × α)) : List (PyStr × α) :=
  ((entries.map Prod.fst).reverse.dedup.reverse).filterMap fun key =>
    (lookupLast entries key).map fun value => (key, value)

/-- An item is one of the assignments. -/
theorem mem_of_mem_lastItems {entries : List (PyStr × α)} {item : PyStr × α}
    (h : item ∈ lastItems entries) : item ∈ entries := by
  rw [lastItems, List.mem_filterMap] at h
  rcases h with ⟨key, -, hvalue⟩
  rw [Option.map_eq_some_iff] at hvalue
  rcases hvalue with ⟨value, hlookup, rfl⟩
  exact mem_of_lookupLast hlookup

/-- The items of translated assignments are the translated items. -/
theorem lastItems_map (f : α → β) (entries : List (PyStr × α)) :
    lastItems (entries.map fun e => (e.1, f e.2)) =
      (lastItems entries).map fun e => (e.1, f e.2) := by
  have hkeys : (entries.map fun e => (e.1, f e.2)).map Prod.fst = entries.map Prod.fst := by
    rw [List.map_map]
    rfl
  rw [lastItems, lastItems, hkeys, List.map_filterMap]
  apply List.filterMap_congr
  intro key _
  rw [lookupLast_map, Option.map_map, Option.map_map]
  rfl

end LastItems

/-! ## `json.dumps` -/

/-- One character of a string that `json.dumps` writes with `ensure_ascii=False`:
quotes, backslashes and control characters are escaped. -/
def escapePoint : CodePoint → PyStr
  | .scalar c =>
      if c = '"' then str "\\\""
      else if c = '\\' then str "\\\\"
      else if c = '\n' then str "\\n"
      else if c = '\r' then str "\\r"
      else if c = '\t' then str "\\t"
      else if c = '\u000C' then str "\\f"
      else if c = '\u0008' then str "\\b"
      else if c.toNat < 0x20 then
        str (String.ofList ("\\u00".toList ++ (Nat.toDigits 16 c.toNat).leftpad 2 '0'))
      else [.scalar c]
  | .surrogate i => [.surrogate i]

/-- A string with its quotes. -/
def quoted (s : PyStr) : PyStr := str "\"" ++ s.flatMap escapePoint ++ str "\""

/-- Texts with commas between them. -/
def joined : List PyStr → PyStr
  | [] => []
  | [text] => text
  | text :: rest => text ++ str "," ++ joined rest

section Dump

-- `float.__repr__` of the double nearest to a literal.
variable (reprFloat : Number → String)

/-- A float; the constants that are no JSON are written by name. -/
def PyFloat.dump : PyFloat → PyStr
  | .nearest literal => str (reprFloat literal)
  | .nan => str "NaN"
  | .infinity negative => str (if negative then "-Infinity" else "Infinity")

mutual

/-- `json.dumps(v, separators=(",", ":"), ensure_ascii=False)`. -/
def PyValue.dump : PyValue → PyStr
  | .none => Text.ofString "null"
  | .bool b => Text.ofString (if b then "true" else "false")
  | .int n => strInt n
  | .float f => f.dump reprFloat
  | .str s => quoted s
  | .list items => Text.ofString "[" ++ joined (PyValue.dumpItems items) ++ Text.ofString "]"
  | .dict entries =>
      Text.ofString "\x7b" ++
        joined ((lastItems (PyValue.dumpEntries entries)).map fun e =>
          quoted e.1 ++ Text.ofString ":" ++ e.2) ++
        Text.ofString "\x7d"

/-- The texts of the items of a list. -/
def PyValue.dumpItems : List PyValue → List PyStr
  | [] => []
  | item :: rest => PyValue.dump item :: PyValue.dumpItems rest

/-- The texts of the values of a dictionary. -/
def PyValue.dumpEntries : List (PyStr × PyValue) → List (PyStr × PyStr)
  | [] => []
  | (key, value) :: rest => (key, PyValue.dump value) :: PyValue.dumpEntries rest

end

mutual

/-- No string of a value, and no key, holds a lone surrogate. -/
def PyValue.isUnicode : PyValue → Bool
  | .str s => s.isScalar
  | .list items => PyValue.itemsUnicode items
  | .dict entries => (lastItems (PyValue.entriesUnicode entries)).all fun e => e.1.isScalar && e.2
  | .none | .bool _ | .int _ | .float _ => true

/-- No item of a list does. -/
def PyValue.itemsUnicode : List PyValue → Bool
  | [] => true
  | item :: rest => PyValue.isUnicode item && PyValue.itemsUnicode rest

/-- Which values of a dictionary do not. -/
def PyValue.entriesUnicode : List (PyStr × PyValue) → List (PyStr × Bool)
  | [] => []
  | (key, value) :: rest => (key, PyValue.isUnicode value) :: PyValue.entriesUnicode rest

end

/-! ## Surrogates in the text of a value -/

theorem isScalar_append (s t : PyStr) :
    (s ++ t : PyStr).isScalar = (s.isScalar && t.isScalar) :=
  List.all_append

/-- Escaping neither adds nor removes a lone surrogate. -/
theorem isScalar_escapePoint (c : CodePoint) : (escapePoint c).isScalar = Text.isScalar [c] := by
  cases c with
  | surrogate i => rfl
  | scalar c =>
      dsimp only [escapePoint]
      split_ifs
      all_goals first | exact Text.isScalar_ofString _ | rfl

theorem isScalar_quoted (s : PyStr) : (quoted s).isScalar = s.isScalar := by
  have hescaped : Text.isScalar (s.flatMap escapePoint) = s.isScalar := by
    induction s with
    | nil => rfl
    | cons c s ih =>
        rw [List.flatMap_cons, isScalar_append, ih, isScalar_escapePoint, ← isScalar_append]
        rfl
  rw [quoted, isScalar_append, isScalar_append, hescaped, Text.isScalar_ofString,
    Bool.true_and, Bool.and_true]

theorem isScalar_joined (texts : List PyStr) :
    (joined texts).isScalar = texts.all Text.isScalar := by
  fun_induction joined texts with
  | case1 => rfl
  | case2 text => simp
  | case3 text rest _ ih =>
      rw [isScalar_append, isScalar_append, ih, Text.isScalar_ofString, Bool.and_true,
        List.all_cons]

theorem dumpEntries_eq_map (entries : PyDict) :
    PyValue.dumpEntries reprFloat entries =
      entries.map fun e => (e.1, PyValue.dump reprFloat e.2) := by
  induction entries with
  | nil => rfl
  | cons e rest ih => rw [PyValue.dumpEntries, ih, List.map_cons]

theorem entriesUnicode_eq_map (entries : PyDict) :
    PyValue.entriesUnicode entries = entries.map fun e => (e.1, PyValue.isUnicode e.2) := by
  induction entries with
  | nil => rfl
  | cons e rest ih => rw [PyValue.entriesUnicode, ih, List.map_cons]

mutual

/-- The text of a value holds a lone surrogate only if one of its strings does. -/
theorem isScalar_dump : ∀ v : PyValue, (v.dump reprFloat).isScalar = v.isUnicode
  | .none => Text.isScalar_ofString _
  | .bool _ => Text.isScalar_ofString _
  | .int _ => Text.isScalar_ofString _
  | .float f => by
      rw [PyValue.dump, PyValue.isUnicode]
      cases f <;> exact Text.isScalar_ofString _
  | .str s => by
      rw [PyValue.dump, PyValue.isUnicode]
      exact isScalar_quoted s
  | .list items => by
      rw [PyValue.dump, PyValue.isUnicode, isScalar_append, isScalar_append,
        Text.isScalar_ofString, Text.isScalar_ofString, isScalar_joined, Bool.true_and,
        Bool.and_true]
      exact all_isScalar_dumpItems items
  | .dict entries => by
      have hentries := isScalar_dumpEntries entries
      rw [PyValue.dump, PyValue.isUnicode, isScalar_append, isScalar_append,
        Text.isScalar_ofString, Text.isScalar_ofString, isScalar_joined, Bool.true_and,
        Bool.and_true, dumpEntries_eq_map, entriesUnicode_eq_map, lastItems_map,
        lastItems_map, List.all_map, List.all_map, List.all_map]
      rw [Bool.eq_iff_iff, List.all_eq_true, List.all_eq_true]
      refine forall₂_congr fun e he => ?_
      simp only [Function.comp_apply]
      rw [isScalar_append, isScalar_append, isScalar_quoted, Text.isScalar_ofString,
        Bool.and_true, hentries e (mem_of_mem_lastItems he)]

theorem all_isScalar_dumpItems : ∀ items : List PyValue,
    (PyValue.dumpItems reprFloat items).all Text.isScalar = PyValue.itemsUnicode items
  | [] => rfl
  | item :: rest => by
      rw [PyValue.dumpItems, PyValue.itemsUnicode, List.all_cons, isScalar_dump item,
        all_isScalar_dumpItems rest]

theorem isScalar_dumpEntries : ∀ entries : List (PyStr × PyValue), ∀ e ∈ entries,
    (e.2.dump reprFloat).isScalar = e.2.isUnicode
  | [], _, he => absurd he List.not_mem_nil
  | (key, value) :: rest, e, he => by
      rcases List.mem_cons.mp he with hhead | htail
      · rw [hhead]
        exact isScalar_dump value
      · exact isScalar_dumpEntries rest e htail

end

end Dump

/-! ## Payload forms -/

/-- Two invocations of one callback with the same event; the contexts differ in
their raw bodies at most. -/
inductive SameInvocation : Invocation → Invocation → Prop where
  | ledger (event : PyDict) (delivery : WebhookContext) (raw : List UInt8) :
      SameInvocation (.ledger event delivery) (.ledger event { delivery with rawBody := raw })
  | notification (event : PyDict) (delivery : WebhookContext) (raw : List UInt8) :
      SameInvocation (.notification event delivery)
        (.notification event { delivery with rawBody := raw })

section Forms

variable (r : WebhookReceiver) (py : Interpreter) (headers : List (PyStr × PyStr))

/-- Two payloads are received alike: the same callback is invoked with the same
event and outbox identifier, and if it does the same, the same response is returned
or the same exception raised. -/
structure WebhookReceiver.Alike (first second : WebhookPayload) : Prop where
  invoked : List.Forall₂ SameInvocation (r.receive py headers first).invoked
    (r.receive py headers second).invoked
  outcome : (r.receive py headers first).invoked.map (Invocation.run r) =
      (r.receive py headers second).invoked.map (Invocation.run r) →
    (r.receive py headers first).outcome = (r.receive py headers second).outcome

/-- The payload of a delivery is looked at. -/
structure WebhookReceiver.Reads : Prop where
  authorized : r.authorized (authorization py headers) = .ok true
  outboxId : outboxId py headers ≠ []

/-- Text is received like its bytes. -/
theorem WebhookReceiver.receive_text {s : PyStr} {raw : List UInt8}
    (h : encodeUtf8 s = .ok raw) :
    r.receive py headers (.text s) = r.receive py headers (.bytes raw) := by
  have hdecode : decodePayload py (.text s) r.maxBodyBytes =
      decodePayload py (.bytes raw) r.maxBodyBytes := by
    simp [decodePayload, h, bind, Except.bind]
  unfold WebhookReceiver.receive WebhookReceiver.dispatch
  rw [hdecode]

/-- The same reception is a reception alike. -/
theorem WebhookReceiver.alike_of_eq {first second : WebhookPayload}
    (h : r.receive py headers first = r.receive py headers second) :
    r.Alike py headers first second := by
  have hself : ∀ invocation, SameInvocation invocation invocation := by
    intro invocation
    cases invocation with
    | ledger event delivery => exact .ledger event delivery delivery.rawBody
    | notification event delivery => exact .notification event delivery delivery.rawBody
  constructor
  · rw [h, List.forall₂_same]
    exact fun invocation _ => hself invocation
  · intro _
    rw [h]

/-- A payload that is not looked at does not matter. -/
theorem WebhookReceiver.receive_of_not_reads (h : ¬ r.Reads py headers)
    (first second : WebhookPayload) :
    r.receive py headers first = r.receive py headers second := by
  have hdispatch : r.dispatch py headers first = r.dispatch py headers second := by
    unfold WebhookReceiver.dispatch
    rw [← authorization]
    cases hauthorized : r.authorized (authorization py headers) with
    | error e => rfl
    | ok authorized =>
        cases authorized with
        | false => rfl
        | true =>
            by_cases houtbox : outboxId py headers = []
            · rw [houtbox]
              rfl
            · exact absurd ⟨hauthorized, houtbox⟩ h
  unfold WebhookReceiver.receive
  rw [hdispatch]

variable {r py headers} in
/-- Payloads that deliver the same event are received alike. -/
theorem WebhookReceiver.Delivers.alike {first second : WebhookPayload}
    {raw raw' : List UInt8} {event : PyDict} (h : r.Delivers py headers first raw event)
    (h' : r.Delivers py headers second raw' event) : r.Alike py headers first second := by
  have hlast : ∀ {i j : Invocation}, SameInvocation i j →
      r.dispatch py headers first = .ok (.invoke i) →
      r.dispatch py headers second = .ok (.invoke j) → r.Alike py headers first second := by
    intro i j hsame hi hj
    have hrespond : ∀ result, i.respond py result = j.respond py result := by
      intro result
      cases hsame <;> cases result <;> rfl
    constructor
    · rw [r.receive_of_invoke py headers first hi, r.receive_of_invoke py headers second hj]
      exact .cons hsame .nil
    · rw [r.receive_of_invoke py headers first hi, r.receive_of_invoke py headers second hj]
      intro hrun
      rw [List.map_singleton, List.map_singleton, List.singleton_inj] at hrun
      simp only [hrun, hrespond]
  have hother : r.dispatch py headers first = r.dispatch py headers second →
      r.Alike py headers first second := by
    intro hsame
    refine r.alike_of_eq py headers ?_
    unfold WebhookReceiver.receive
    rw [hsame]
  have hfirst := h.dispatch_eq
  have hsecond := h'.dispatch_eq
  unfold dispatchEvent at hfirst hsecond
  by_cases hledger : event.has "business_sequence" = true
  · rw [if_pos hledger] at hfirst hsecond
    cases hvalid : validateLedger py event with
    | ok _ =>
        rw [hvalid] at hfirst hsecond
        exact hlast (.ledger event _ raw') hfirst hsecond
    | error e =>
        apply hother
        rw [hfirst, hsecond, hvalid]
        cases e <;> rfl
  · rw [if_neg hledger] at hfirst hsecond
    by_cases htype : event.has "type" = true
    · rw [if_pos htype] at hfirst hsecond
      cases hvalid : validateNotification py event with
      | ok _ =>
          rw [hvalid] at hfirst hsecond
          exact hlast (.notification event _ raw') hfirst hsecond
      | error e =>
          apply hother
          rw [hfirst, hsecond, hvalid]
          cases e <;> rfl
    · rw [if_neg htype] at hfirst hsecond
      exact hother (hfirst.trans hsecond.symm)

/-- The three forms of a body are received alike. -/
structure WebhookReceiver.FormsAlike (raw : List UInt8) (event : PyDict) : Prop where
  mapping : r.Alike py headers (.mapping event) (.bytes raw)
  text : ∀ s, encodeUtf8 s = .ok raw → r.Alike py headers (.text s) (.bytes raw)

variable {r py headers}

/-- What the receiver relies on in the `json` module: an empty body is no JSON, and
every object that was read can be written. -/
structure Interpreter.WritesJson (py : Interpreter) (reprFloat : Number → String) : Prop where
  loads_nil : py.loads [] = .ok none
  dumps : ∀ raw event, py.loads raw = .ok (some (.dict event)) →
    py.dumps event = .ok (PyValue.dump reprFloat (.dict event))

variable {reprFloat : Number → String} {raw : List UInt8} {event : PyDict}

/-- A body within the limit delivers what it decodes to. -/
theorem delivers_bytes (hreads : r.Reads py headers) (hjson : py.WritesJson reprFloat)
    (hloads : py.loads raw = .ok (some (.dict event))) (hraw : raw.length ≤ r.maxBodyBytes) :
    r.Delivers py headers (.bytes raw) raw event := by
  refine ⟨hreads.authorized, hreads.outboxId, ?_⟩
  have hnonempty : raw.isEmpty = false := by
    rw [List.isEmpty_eq_false_iff]
    rintro rfl
    rw [hjson.loads_nil] at hloads
    cases hloads
  have hfits : ¬ r.maxBodyBytes < raw.length := Nat.not_lt.mpr hraw
  simp [decodePayload, decodeBytes, hnonempty, hloads, decodeSized, hfits, bind, Except.bind,
    pure, Except.pure]

/-- A mapping within the limit delivers itself, if its text can be encoded. -/
theorem delivers_mapping {text : PyStr} {bytes : List UInt8} (hreads : r.Reads py headers)
    (hdumps : py.dumps event = .ok text) (hencode : encodeUtf8 text = .ok bytes)
    (hbytes : bytes.length ≤ r.maxBodyBytes) :
    r.Delivers py headers (.mapping event) bytes event := by
  refine ⟨hreads.authorized, hreads.outboxId, ?_⟩
  have hfits : ¬ r.maxBodyBytes < bytes.length := Nat.not_lt.mpr hbytes
  simp [decodePayload, hdumps, hencode, decodeSized, hfits, bind, Except.bind, pure,
    Except.pure]

/-- A mapping whose text cannot be encoded makes `receive` raise. -/
theorem receive_mapping_of_not_isScalar {text : PyStr} (hreads : r.Reads py headers)
    (hdumps : py.dumps event = .ok text) (hscalar : text.isScalar = false) :
    r.receive py headers (.mapping event) = ⟨.error .unicodeEncodeError, []⟩ := by
  have hblank : (outboxId py headers).isEmpty = false := by
    simpa [List.isEmpty_eq_false_iff] using hreads.outboxId
  have hencode := (encodeUtf8_eq_error_iff text _).mpr ⟨hscalar, rfl⟩
  have hauthorized := hreads.authorized
  rw [authorization] at hauthorized
  simp [WebhookReceiver.receive, WebhookReceiver.dispatch, hauthorized, hblank, decodePayload,
    hdumps, hencode, bind, Except.bind]

/-- Bytes never make `receive` raise for their encoding without a callback. -/
theorem WebhookReceiver.Delivers.outcome_ne {payload : WebhookPayload}
    (h : r.Delivers py headers payload raw event)
    (hnone : (r.receive py headers payload).invoked = []) :
    (r.receive py headers payload).outcome ≠ .error .unicodeEncodeError := by
  rw [receive, h.dispatch_eq] at hnone ⊢
  cases hdispatch : dispatchEvent py event (deliveryContext py headers raw) with
  | error e =>
      have htype := ((dispatchEvent_eq_error_iff py event _ e).mp hdispatch).2
      simp [htype]
  | ok dispatch =>
      cases dispatch with
      | respond response => simp
      | invoke invocation => simp [hdispatch] at hnone

/-- The three forms of a body that decodes to an object are received alike exactly
when the delivery is turned away unread, or no string of the object holds a lone
surrogate: a mapping with one cannot be encoded. -/
theorem payloads_alike_iff (hjson : py.WritesJson reprFloat)
    (hloads : py.loads raw = .ok (some (.dict event))) (hraw : raw.length ≤ r.maxBodyBytes)
    (hmapping : ∀ bytes, encodeUtf8 (PyValue.dump reprFloat (.dict event)) = .ok bytes →
      bytes.length ≤ r.maxBodyBytes) :
    r.FormsAlike py headers raw event ↔
      ¬ r.Reads py headers ∨ (PyValue.dict event).isUnicode = true := by
  have hdumps := hjson.dumps raw event hloads
  have htext : ∀ s, encodeUtf8 s = .ok raw → r.Alike py headers (.text s) (.bytes raw) :=
    fun s hs => r.alike_of_eq py headers (r.receive_text py headers hs)
  rw [← isScalar_dump reprFloat]
  by_cases hreads : r.Reads py headers
  · have hbytes := delivers_bytes hreads hjson hloads hraw
    cases hscalar : (PyValue.dump reprFloat (.dict event)).isScalar with
    | true =>
        rcases encodeUtf8_eq_ok _ hscalar with ⟨bytes, hencode⟩
        have hdelivers := delivers_mapping hreads hdumps hencode (hmapping bytes hencode)
        exact iff_of_true ⟨hdelivers.alike hbytes, htext⟩ (.inr rfl)
    | false =>
        refine iff_of_false ?_ (by simp [hreads])
        intro h
        have hreceive := receive_mapping_of_not_isScalar hreads hdumps hscalar
        have hinvoked := h.mapping.invoked
        have houtcome := h.mapping.outcome
        rw [hreceive] at hinvoked houtcome
        have hnone := List.forall₂_nil_left_iff.mp hinvoked
        rw [hnone] at houtcome
        exact hbytes.outcome_ne hnone (houtcome rfl).symm
  · have hsame := r.receive_of_not_reads py headers hreads (.mapping event) (.bytes raw)
    exact iff_of_true ⟨r.alike_of_eq py headers hsame, htext⟩ (.inl hreads)

end Forms

section Example

/-- An interpreter that decodes one body and writes every dictionary. -/
def writingInterpreter (body : List UInt8) (members : List (Text × Json)) : Interpreter :=
  { oneBody body members with
    dumps := fun event => .ok (PyValue.dump (fun _ => "0.0") (.dict event)) }

theorem writingInterpreter_writesJson {body : List UInt8} (h : body ≠ [])
    (members : List (Text × Json)) :
    (writingInterpreter body members).WritesJson fun _ => "0.0" where
  loads_nil := by
    have hne : ([] : List UInt8) ≠ body := h.symm
    simp [writingInterpreter, oneBody, hne]
  dumps _ _ _ := rfl

/-- The body of a notification of a pause, around the spelling of its feature. -/
def pauseBody (feature : String) : List UInt8 :=
  asciiBytes "\x7b\"type\":\"feature_paused_manual\",\"business_id\":\"b\"," ++
    asciiBytes "\"feature_code\":\"" ++ asciiBytes feature ++ asciiBytes "\"\x7d"

/-- Its members. -/
def pauseMembers (feature : Text) : List (Text × Json) :=
  [textMember "type" "feature_paused_manual", textMember "business_id" "b",
    (Text.ofString "feature_code", .string feature)]

theorem payloads_alike_pause :
    (openReceiver keepEvent).FormsAlike
      (writingInterpreter (pauseBody "ai") (pauseMembers (Text.ofString "ai"))) outboxHeaders
      (pauseBody "ai") (PyValue.ofMembers (pauseMembers (Text.ofString "ai"))) := by
  have hnonempty : pauseBody "ai" ≠ [] := by decide
  refine (payloads_alike_iff (writingInterpreter_writesJson hnonempty _) rfl ?_ ?_).mpr ?_
  · decide
  · intro bytes hbytes
    have hsize : (PyValue.dump (fun _ => "0.0") (.dict (PyValue.ofMembers
        (pauseMembers (Text.ofString "ai"))))).toScalars.utf8ByteSize ≤ 1048576 := by
      decide +kernel
    rw [encodeUtf8] at hbytes
    split at hbytes
    · obtain rfl := Except.ok.inj hbytes
      rw [length_toUTF8]
      exact hsize
    · cases hbytes
  · exact .inr (by decide)

/-- The body spells a lone surrogate: its bytes are handed to the callback, the
mapping they decode to makes `receive` raise. -/
theorem payloads_unlike_surrogate :
    (writingInterpreter (pauseBody "\\ud800") (pauseMembers [.surrogate 0])).loads
        (pauseBody "\\ud800") =
      .ok (some (.dict (PyValue.ofMembers (pauseMembers [.surrogate 0])))) ∧
    ¬ (openReceiver keepEvent).FormsAlike
      (writingInterpreter (pauseBody "\\ud800") (pauseMembers [.surrogate 0])) outboxHeaders
      (pauseBody "\\ud800") (PyValue.ofMembers (pauseMembers [.surrogate 0])) := by
  have hnonempty : pauseBody "\\ud800" ≠ [] := by decide
  have hjson := writingInterpreter_writesJson hnonempty (pauseMembers [.surrogate 0])
  have hreads : (openReceiver keepEvent).Reads
      (writingInterpreter (pauseBody "\\ud800") (pauseMembers [.surrogate 0])) outboxHeaders :=
    ⟨rfl, by decide⟩
  have hraw : (pauseBody "\\ud800").length ≤ (openReceiver keepEvent).maxBodyBytes := by
    decide
  have hscalar : (PyValue.dump (fun _ => "0.0") (.dict (PyValue.ofMembers
      (pauseMembers [.surrogate 0])))).isScalar = false := by
    rw [isScalar_dump]
    decide
  have hbytes := delivers_bytes hreads hjson rfl hraw
  refine ⟨rfl, fun h => ?_⟩
  have hinvoked := h.mapping.invoked
  rw [receive_mapping_of_not_isScalar hreads rfl hscalar] at hinvoked
  have hnone := List.forall₂_nil_left_iff.mp hinvoked
  rw [WebhookReceiver.receive, hbytes.dispatch_eq] at hnone
  cases hnone

end Example

end MizanSDK.Python
