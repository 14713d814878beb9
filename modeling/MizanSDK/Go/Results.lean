import MizanSDK.Go.MapOrder

/-!
# Decoding the results of a call

`DecodeData` writes the data of a response, which is untyped by then, and reads what it
wrote into one of the SDK's result types.  A document whose integers are sequence numbers
takes this way through float64.

Main results:

- Theorem `decodeData_eq_ok_iff`: when `DecodeData` succeeds, and with what.
- Theorem `decodeData_exact_iff`: when the result holds the values of the body.
-/

namespace MizanSDK.Go

open JsonText Slices Assignments

/-! ## Result types -/

/-- `Balance`. -/
def balance : GoType :=
  .struct <|
    .field "azeer_unit_millis" .string <|
    .field "provider_balance_minor" .string .nil

/-- `AllowanceDecision`. -/
def allowanceDecision : GoType :=
  .struct <|
    .field "limit_quantity_millis" .string <|
    .field "consumed_before_millis" .string <|
    .field "consumed_after_millis" .string <|
    .field "billable_quantity_millis" .string .nil

/-- `ChargeResult`. -/
def chargeResult : GoType :=
  .struct <|
    .field "rail" .string <|
    .field "quantity_millis" .string <|
    .field "reported_quantity_millis" .string <|
    .field "unit_millis" .string <|
    .field "money_minor" .string <|
    .field "treatment" (.pointer .string) <|
    .field "allowance" (.pointer allowanceDecision) .nil

/-- `ConsumptionResult`. -/
def consumptionResult : GoType :=
  .struct <|
    .field "accepted" .bool <|
    .field "code" .string <|
    .field "source_event_id" .string <|
    .field "ledger_entry_id" .string <|
    .field "business_sequence" .int64 <|
    .field "charges" (.slice chargeResult) <|
    .field "allocations_by_feature" (.slice (.map .any)) <|
    .field "totals" (.map .string) <|
    .field "balances" balance <|
    .field "details" (.map .any) .nil

/-- `LedgerResult`. -/
def ledgerResult : GoType :=
  .struct <|
    .field "entries" (.slice (.map .any)) <|
    .field "next_after_sequence" (.pointer .int64) .nil

/-- `SubscriptionSummary`. -/
def subscriptionSummary : GoType :=
  .struct <|
    .field "id" .string <|
    .field "status" .string <|
    .field "effective_status" .string <|
    .field "snapshot" (.map .any) <|
    .field "current_period_start" .time <|
    .field "current_period_end" .time <|
    .field "cancel_at_period_end" .bool .nil

/-- `DeliveryEndpoint`. -/
def deliveryEndpoint : GoType :=
  .struct <|
    .field "kind" .string <|
    .field "scope" .string <|
    .field "source" .string <|
    .field "endpoint_url" .string <|
    .field "auth_type" .string <|
    .field "auth_secret_configured" .bool <|
    .field "enabled" .bool <|
    .field "revision" .int64 <|
    .field "updated_by" .string <|
    .field "reason" .string <|
    .field "updated_at" .string .nil

/-- `DeliveryConfigurationResult`. -/
def deliveryConfigurationResult : GoType :=
  .struct <|
    .field "scope" .string <|
    .field "ready" .bool <|
    .field "endpoints" (.slice (.pointer deliveryEndpoint)) .nil

/-- `BillingSummaryResult`. -/
def billingSummaryResult : GoType :=
  .struct <|
    .field "business_id" .string <|
    .field "as_of" .time <|
    .field "account" (.map .any) <|
    .field "subscription" (.pointer subscriptionSummary) <|
    .field "balances" balance <|
    .field "credit_lots" (.slice (.map .any)) <|
    .field "budgets" (.slice (.map .any)) <|
    .field "pauses" (.slice (.map .any)) <|
    .field "replication" (.map .any) <|
    .field "delivery" deliveryConfigurationResult .nil

/-- The results of a consumption, a ledger page and a billing summary. -/
inductive ResultKind where
  | consumption
  | ledger
  | billingSummary

/-- The type that documents a result. -/
def ResultKind.type : ResultKind → GoType
  | .consumption => consumptionResult
  | .ledger => ledgerResult
  | .billingSummary => billingSummaryResult

/-! ## `DecodeData` -/

/-- The texts of the errors of `encoding/json`. -/
structure JsonErrors where
  marshal : GoAny → String
  unmarshal : GoType → Json → String

/-- `DecodeData`. -/
def decodeData (parseTime : String → Option GoTime) (errors : JsonErrors) (t : GoType)
    (response : GoMap) : Except GoError t.Value :=
  match lookupLast response "data" with
  | none => .error ⟨"mizan: response has no data field"⟩
  | some data =>
      match encodeAny data with
      | none => .error ⟨"mizan: encode response data: " ++ errors.marshal data⟩
      | some raw =>
          match t.unmarshal parseTime raw t.zero with
          | none => .error ⟨"mizan: decode response data: " ++ errors.unmarshal t raw⟩
          | some result => .ok result

section DecodeData

variable {parseTime : String → Option GoTime} {errors : JsonErrors} {t : GoType}
  {members : List (Text × Json)} {response : GoMap} {json : Json} {merged written : t.Value}

/-- What is decoded was read and written once more before. -/
theorem decodeData_eq (hresponse : decodeMembers members = some response)
    (hdata : lookupLast members (Text.ofString "data") = some json) :
    decodeData parseTime errors t response =
      match t.unmarshal parseTime ((asWritten json).mapNumbers floatEncoder) t.zero with
      | none => .error ⟨"mizan: decode response data: " ++
          errors.unmarshal t ((asWritten json).mapNumbers floatEncoder)⟩
      | some result => .ok result := by
  rcases Option.isSome_iff_exists.mp (decodeAny_of_mem hresponse (mem_of_lookupLast hdata)) with
    ⟨data, hdecoded⟩
  have hfound : lookupLast response "data" = some data := by
    rw [lookupLast_decodeMembers hresponse (by decide), hdata, Option.bind_some, hdecoded]
  have hencoded := encodeAny_decodeAny hdecoded
  simp only [decodeData, hfound, hencoded]

/-- `DecodeData` succeeds if the integers of the body stay in the range of `int64`, and
returns what a map has of the body after its way through float64. -/
theorem decodeData_eq_ok_iff (hresponse : decodeMembers members = some response)
    (hdata : lookupLast members (Text.ofString "data") = some json)
    (hmerged : t.unmarshal parseTime (asWritten json) t.zero = some merged) (result : t.Value) :
    decodeData parseTime errors t response = .ok result ↔
      t.InRange (asWritten json) ∧ result = t.throughFloat64 merged := by
  have haccepts := GoType.accepts_of_unmarshal hmerged
  rw [decodeData_eq hresponse hdata]
  by_cases hrange : t.InRange (asWritten json)
  · have hdecoded := GoType.unmarshal_reformat hmerged hrange
    rw [t.throughFloat64_zero] at hdecoded
    rw [hdecoded, Except.ok.injEq]
    exact ⟨fun h => ⟨hrange, h.symm⟩, fun h => h.2.symm⟩
  · have hnone :
        t.unmarshal parseTime ((asWritten json).mapNumbers floatEncoder) t.zero = none := by
      rw [← Option.not_isSome_iff_eq_none, GoType.unmarshal_isSome_iff,
        GoType.accepts_floatEncoder_iff haccepts]
      exact hrange
    rw [hnone]
    refine ⟨fun h => ?_, fun h => absurd h.1 hrange⟩
    cases h

/-- The result is a value if and only if it is the one a map has of the body, apart from the
integers, and each integer in it is the shortest decimal of its float64. -/
theorem decodeData_same_iff (hresponse : decodeMembers members = some response)
    (hdata : lookupLast members (Text.ofString "data") = some json)
    (hmerged : t.unmarshal parseTime (asWritten json) t.zero = some merged) :
    (∃ result, decodeData parseTime errors t response = .ok result ∧ t.Same result written) ↔
      t.InRange (asWritten json) ∧ t.Same (t.mapLeaves throughInt id merged) written := by
  rw [← t.same_throughFloat64_iff]
  refine ⟨fun h => ?_, fun h => ?_⟩
  · rcases h with ⟨result, hok, hsame⟩
    rw [decodeData_eq_ok_iff hresponse hdata hmerged] at hok
    rw [hok.2] at hsame
    exact ⟨hok.1, hsame⟩
  · refine ⟨t.throughFloat64 merged, ?_, h.2⟩
    rw [decodeData_eq_ok_iff hresponse hdata hmerged]
    exact ⟨h.1, rfl⟩

end DecodeData

/-- `DecodeData` returns the values of every body if and only if no integer leaves the range of
`int64` on its way through float64, and what a map has of the data, with the integers that come
of it, is what the data says.  Data that speaks of each field once says what a map has of it:
there the integers alone matter, and each one has to be the shortest decimal of its
float64. -/
theorem decodeData_exact_iff (parse : JsonParser) (parseTime : String → Option GoTime)
    (errors : JsonErrors) (kind : ResultKind) {raw : List UInt8} {members : List (Text × Json)}
    {response : GoMap} {json : Json} {written : kind.type.Value}
    (hbody : parse raw = some (.object members))
    (hresponse : unmarshalMap parse raw = some response)
    (hdata : lookupLast members (Text.ofString "data") = some json)
    (hwritten : kind.type.unmarshal parseTime json kind.type.zero = some written) :
    ∃ merged, kind.type.unmarshal parseTime (asWritten json) kind.type.zero = some merged ∧
      ((∃ result, decodeData parseTime errors kind.type response = .ok result ∧
          kind.type.Same result written) ↔
        kind.type.InRange (asWritten json) ∧
          kind.type.Same (kind.type.mapLeaves throughInt id merged) written) ∧
      (kind.type.Unrepeated json →
        (kind.type.Same (kind.type.mapLeaves throughInt id merged) written ↔
          kind.type.EveryInteger (fun n => throughInt n = n) (kind.type.visible written))) := by
  have hmembers : decodeMembers members = some response := by
    rw [unmarshalMap, hbody] at hresponse
    exact hresponse
  have haccepts := GoType.accepts_asWritten (GoType.accepts_of_unmarshal hwritten)
  rcases GoType.exists_unmarshal haccepts kind.type.zero with ⟨merged, hmerged⟩
  refine ⟨merged, hmerged, decodeData_same_iff hmembers hdata hmerged, fun honce => ?_⟩
  exact GoType.same_mapLeaves_iff (honce.same hwritten hmerged) throughInt

/-! ## A ledger page -/

/-- The data of a ledger page without entries, with this cursor. -/
def pageData (cursor : ℕ) : Json :=
  .object [(Text.ofString "entries", .array []),
    (Text.ofString "next_after_sequence", .number (.integer false cursor))]

/-- The members of the body it comes in. -/
def pageMembers (cursor : ℕ) : List (Text × Json) := [(Text.ofString "data", pageData cursor)]

/-- The response of the body. -/
def pageResponse (cursor : ℕ) : GoMap :=
  [("data", .map [("entries", .slice []),
    ("next_after_sequence", .float64 (.integer false cursor))])]

/-- The page as a result. -/
def page (cursor : ℤ) : ledgerResult.Value :=
  ((some .empty, some cursor, ()) :
    Option (Slice (Option (List (String × GoAny)))) × Option ℤ × Unit)

/-- The response of a page, as a map has it. -/
theorem decodeMembers_pageMembers (cursor : ℕ)
    (h : (Number.integer false cursor).overflowsBinary64 = false) :
    decodeMembers (pageMembers cursor) = some (pageResponse cursor) := by
  simp [pageMembers, pageData, pageResponse, decodeMembers, decodeAny, decodeItems, h]

/-- The data of a page are written as a map has them. -/
theorem asWritten_pageData (cursor : ℕ) : asWritten (pageData cursor) = pageData cursor := by
  have horder : "entries" ≤ "next_after_sequence" := by decide
  have hsorted : sortedEntries [("entries", Json.array []),
      ("next_after_sequence", .number (.integer false cursor))] =
        [("entries", .array []), ("next_after_sequence", .number (.integer false cursor))] := by
    simp [sortedEntries, lastEntries, horder]
  simp only [pageData, asWritten, asWrittenMembers, asWrittenItems, Text.toScalars_ofString,
    hsorted]
  rfl

/-- They are in range if the cursor is after its way through float64. -/
theorem inRange_pageData (cursor : ℕ) :
    ledgerResult.InRange (pageData cursor) ↔ isInt64 (throughInt (signed false cursor)) = true := by
  refine ⟨fun h => ?_, fun h => ?_⟩
  · exact h.2.1 _ (List.mem_singleton_self _)
  · refine ⟨?_, ?_, trivial⟩
    · intro json hjson
      have hentries : json = .array [] := List.mem_singleton.mp hjson
      rw [hentries]
      exact fun item hitem => nomatch hitem
    · intro json hjson
      have hnext : json = .number (.integer false cursor) := List.mem_singleton.mp hjson
      rw [hnext]
      exact h

/-- Of a page the cursor goes through float64. -/
theorem throughFloat64_page (cursor : ℤ) :
    ledgerResult.throughFloat64 (page cursor) = page (throughInt cursor) := rfl

/-- Pages differ in the cursor. -/
theorem same_page_iff (cursor cursor' : ℤ) :
    ledgerResult.Same (page cursor) (page cursor') ↔ cursor = cursor' := by
  refine ⟨fun h => ?_, fun h => ?_⟩
  · have hcursors : some cursor = some cursor' :=
      congrArg (fun v : Option (Slice (Option (List (String × GoAny)))) × Option ℤ × Unit => v.2.1)
        h
    exact Option.some.inj hcursors
  · rw [h]
    rfl

/-- No time is read. -/
def noTimes : String → Option GoTime := fun _ => none

/-- No text of an error matters. -/
def noTexts : JsonErrors := ⟨fun _ => "", fun _ _ => ""⟩

/-- The first integer between two float64s reaches the caller as the one before it, and the
last cursor there can be does not reach him at all. -/
theorem cursor_rounded :
    decodeMembers (pageMembers 9007199254740993) = some (pageResponse 9007199254740993) ∧
      ledgerResult.unmarshal noTimes (pageData 9007199254740993) ledgerResult.zero =
        some (page 9007199254740993) ∧
      decodeData noTimes noTexts ledgerResult (pageResponse 9007199254740993) =
        .ok (page 9007199254740992) ∧
      ¬ ledgerResult.Same (page 9007199254740992) (page 9007199254740993) ∧
      decodeMembers (pageMembers (2 ^ 63 - 1)) = some (pageResponse (2 ^ 63 - 1)) ∧
      ledgerResult.unmarshal noTimes (pageData (2 ^ 63 - 1)) ledgerResult.zero =
        some (page (2 ^ 63 - 1)) ∧
      ∀ result, decodeData noTimes noTexts ledgerResult (pageResponse (2 ^ 63 - 1)) ≠
        .ok result := by
  have hresponse := decodeMembers_pageMembers 9007199254740993 (by decide +kernel)
  have hlast := decodeMembers_pageMembers (2 ^ 63 - 1) (by decide +kernel)
  have hround : throughInt 9007199254740993 = 9007199254740992 := by decide +kernel
  have hwritten : ledgerResult.unmarshal noTimes (pageData 9007199254740993)
      ledgerResult.zero = some (page 9007199254740993) := rfl
  have hlastWritten : ledgerResult.unmarshal noTimes (pageData (2 ^ 63 - 1))
      ledgerResult.zero = some (page (2 ^ 63 - 1)) := rfl
  have hmerged := hwritten
  have hlastMerged := hlastWritten
  rw [← asWritten_pageData] at hmerged hlastMerged
  refine ⟨hresponse, hwritten, ?_, ?_, hlast, hlastWritten, ?_⟩
  · rw [decodeData_eq_ok_iff hresponse rfl hmerged, asWritten_pageData, inRange_pageData,
      throughFloat64_page, hround]
    exact ⟨by decide +kernel, rfl⟩
  · rw [same_page_iff]
    decide
  · intro result hok
    rw [decodeData_eq_ok_iff hlast rfl hlastMerged, asWritten_pageData, inRange_pageData] at hok
    exact absurd hok.1 (by decide +kernel)

/-- The body of the page with the cursor 5. -/
def pageBody : List UInt8 :=
  asciiBytes "\x7b\"data\":\x7b\"entries\":[],\"next_after_sequence\":5\x7d\x7d"

/-- A parser that knows this body. -/
def parsePage : JsonParser := fun raw =>
  if raw = pageBody then some (.object (pageMembers 5)) else none

/-- A small cursor is returned as it was written. -/
theorem small_cursor_exact :
    ∃ result, decodeData noTimes noTexts ledgerResult (pageResponse 5) = .ok result ∧
      ledgerResult.Same result (page 5) := by
  have hbody : parsePage pageBody = some (.object (pageMembers 5)) := if_pos rfl
  have hresponse : unmarshalMap parsePage pageBody = some (pageResponse 5) := by
    rw [unmarshalMap, hbody]
    exact decodeMembers_pageMembers 5 (by decide +kernel)
  rcases decodeData_exact_iff parsePage noTimes noTexts .ledger hbody hresponse rfl rfl with
    ⟨merged, hmerged, hiff, -⟩
  refine hiff.mpr ⟨?_, ?_⟩
  · change ledgerResult.InRange (asWritten (pageData 5))
    rw [asWritten_pageData, inRange_pageData]
    decide +kernel
  · change ledgerResult.unmarshal noTimes (asWritten (pageData 5)) ledgerResult.zero = _ at hmerged
    rw [asWritten_pageData] at hmerged
    obtain rfl := Option.some.inj hmerged
    change ledgerResult.Same (page (throughInt 5)) (page 5)
    rw [same_page_iff]
    exact throughInt_of_lt (by decide)

end MizanSDK.Go
