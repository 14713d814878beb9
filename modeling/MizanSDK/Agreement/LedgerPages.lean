import MizanSDK.Agreement.Queries
import MizanSDK.Go.LedgerExport
import MizanSDK.Python.LedgerExport
import MizanSDK.Library.CursorPaging

/-!
# Pages of a ledger on the wire

What a service of ledgers is asked and what it answers: it reads the business from the
path and the header of a request and the page from its query, and a page comes as the
`data` of a JSON object, in the form both SDKs document as `LedgerResult`.

Main results:

- Theorem `getLedger_asks_page`: what `GetLedger` sends is read as the page it is for.
- Theorem `get_ledger_asks_page`: so is what `get_ledger` sends.
-/

namespace MizanSDK.Agreement

open Bytes Checks CursorPaging FormQuery JsonText
open Python (str PyStr)

/-! ## Requests for a page -/

/-- A URL that asks for the page of a ledger. -/
def AsksPage (base url : List Char) (business : List UInt8) (after limit : ℤ) : Prop :=
  ∃ segment query, url = base ++ ("/v1/businesses/".toList ++ segment ++ "/ledger".toList ++
      '?' :: query) ∧
    Queryless segment ∧ '/' ∉ segment ∧ percentDecode segment = some business ∧ '#' ∉ query ∧
    fields query =
      some [utf8Field ("after_sequence", toString after), utf8Field ("limit", toString limit)]

/-- The query is that of the URL. -/
theorem AsksPage.fields_eq {base url : List Char} {business : List UInt8} {after limit : ℤ}
    (h : AsksPage base url business after limit) (hbase : Queryless base) :
    fields (queryOf url) =
      some [utf8Field ("after_sequence", toString after), utf8Field ("limit", toString limit)] := by
  rcases h with ⟨segment, query, rfl, hsegment, -, -, hquery, hfields⟩
  have hpath : Queryless ("/v1/businesses/".toList ++ segment ++ "/ledger".toList) :=
    (Queryless.append (by decide) hsegment).append (by decide)
  rw [queryOf_append hbase, queryOf_append hpath, queryOf_cons hquery]
  exact hfields

/-- The query of both SDKs. -/
def pageQuery (after limit : ℤ) : List Char :=
  formEncoder.encodeFields
    [utf8Field ("after_sequence", toString after), utf8Field ("limit", toString limit)]

theorem fields_pageQuery (after limit : ℤ) :
    fields (pageQuery after limit) =
      some [utf8Field ("after_sequence", toString after), utf8Field ("limit", toString limit)] :=
  fields_encodeFields formEncoder _

theorem pageQuery_eq (after limit : ℤ) :
    '?' :: pageQuery after limit =
      ("?after_sequence=" ++ toString after ++ "&limit=" ++ toString limit).toList := by
  rw [pageQuery, Encoder.encodeFields, List.map_cons, List.map_singleton,
    encodeField_number (by decide +kernel), encodeField_number (by decide +kernel)]
  simp [String.toList_append]

/-- A path of `GetLedger` with its query. -/
theorem toList_ledgerPath (business : String) (after limit : ℤ) :
    (Go.businessPath business "ledger" ++ "?after_sequence=" ++ toString after ++ "&limit=" ++
        toString limit).toList =
      "/v1/businesses/".toList ++ (Go.pathEscape business).toList ++ "/ledger".toList ++
        '?' :: pageQuery after limit := by
  rw [pageQuery_eq, Go.businessPath]
  simp [String.toList_append]

/-- What `GetLedger` sends is read as the page it is for. -/
theorem ledgerRequest_asks (c : Go.Client) (env : Go.Env) (business : String)
    (after limit : ℤ) :
    AsksPage c.baseURL.toList (c.ledgerRequest env business after limit).url.toList
        (utf8 business) after limit ∧
      (c.ledgerRequest env business after limit).header.get? "X-Business-Id" = some business := by
  refine ⟨⟨(Go.pathEscape business).toList, pageQuery after limit, ?_, pathEscape_plain business,
    fun h => Go.pathEscape_delimiters business '/' h (by simp),
    Go.percentDecode_pathEscape business, (queryless_encodeFields formEncoder _).2,
    fields_pageQuery after limit⟩, ?_⟩
  · change (c.baseURL ++ _).toList = _
    rw [String.toList_append]
    exact congrArg (c.baseURL.toList ++ ·) (toList_ledgerPath business after limit)
  · exact Go.Client.buildRequest_businessID (fun nv hnv => absurd hnv List.not_mem_nil) 1

/-- A path of `get_ledger` with its query. -/
theorem characters_ledgerPath {c : Python.MizanClient} {business path : PyStr} {after limit : ℤ}
    (h : c.ledgerPath business after limit = .ok path) :
    ∃ bytes, Python.encodeUtf8 business = .ok bytes ∧
      characters path = "/v1/businesses/".toList ++ bytes.flatMap Python.quoteByte ++
        "/ledger".toList ++ '?' :: pageQuery after limit := by
  rcases (bind_eq_ok_iff _ _ _).mp h with ⟨_, -, h⟩
  rcases (bind_eq_ok_iff _ _ _).mp h with ⟨front, hfront, h⟩
  rcases exists_quote_of_businessPath hfront with ⟨segment, hsegment, rfl⟩
  rcases (bind_eq_ok_iff _ _ _).mp hsegment with ⟨bytes, hbytes, hquoted⟩
  refine ⟨bytes, hbytes, ?_⟩
  rw [pageQuery_eq, ← Except.ok.inj h, ← Except.ok.inj hquoted]
  simp [characters_append, characters_str, Python.strInt, String.toList_append]

/-- What `get_ledger` sends is read as the page it is for. -/
theorem py_ledgerRequest_asks (c : Python.MizanClient) (env : Python.Env) {business path : PyStr}
    {after limit : ℤ} (h : c.ledgerPath business after limit = .ok path) :
    ∃ bytes, Python.encodeUtf8 business = .ok bytes ∧
      AsksPage (characters c.baseUrl) (characters (c.ledgerRequest env path business).url) bytes
        after limit ∧
      (c.ledgerRequest env path business).header "X-Business-Id" = some business := by
  rcases characters_ledgerPath h with ⟨bytes, hbytes, hpath⟩
  have hsegment : Queryless (bytes.flatMap Python.quoteByte) :=
    queryless_flatMap (forall_byte (by decide +kernel)) bytes
  have hslash : '/' ∉ bytes.flatMap Python.quoteByte := by
    intro hmem
    rcases List.mem_flatMap.mp hmem with ⟨b, -, hb⟩
    have hnone : ∀ b, '/' ∉ Python.quoteByte b := forall_byte (by decide +kernel)
    exact hnone b hb
  refine ⟨bytes, hbytes, ⟨bytes.flatMap Python.quoteByte, pageQuery after limit, ?_, hsegment,
    hslash, ?_, (queryless_encodeFields formEncoder _).2, fields_pageQuery after limit⟩, rfl⟩
  · change characters (c.baseUrl ++ path) = _
    rw [characters_append, hpath]
  · exact percentDecode_flatMap (Sdk.python.percentDecode_escapeByte) bytes

/-! ## Ledgers -/

/-- An entry of a ledger, with its sequence number. -/
structure LedgerEntry where
  sequence : ℤ
  members : List (Text × Json)

/-- The literal of an integer. -/
def numeral (n : ℤ) : Json := .number (integerLiteral n)

/-- A page as the data of a response. -/
def pageJson (page : Page LedgerEntry) : Json :=
  .object [(Text.ofString "entries", .array (page.entries.map fun e => .object e.members)),
    (Text.ofString "next_after_sequence", page.next.elim .null numeral)]

/-- A service of ledgers while an exporter makes its requests: the ledger of each business by
then, and the page it gives for request `i`. -/
structure LedgerService where
  ledger : ℕ → List UInt8 → List LedgerEntry
  page : ℕ → List UInt8 → (after limit : ℤ) → Page LedgerEntry
  grows : ∀ i business, ledger i business <+: ledger (i + 1) business
  ordered : ∀ i business, Ordered LedgerEntry.sequence (ledger i business)
  serves : ∀ i business after limit, 0 ≤ after → 1 ≤ limit → limit ≤ 100 →
    Serves LedgerEntry.sequence (ledger i business) after (page i business after limit)

/-- A document with this page as its data. -/
def Carries (members : List (Text × Json)) (page : Page LedgerEntry) : Prop :=
  lookupLast members (Text.ofString "data") = some (pageJson page)

/-- An integer that `DecodeData` reads as it was written. -/
def KeptByFloat64 (n : ℤ) : Prop := Go.isInt64 n = true ∧ Go.throughInt n = n

/-! ## Pages in the Go SDK -/

section Go

/-- The members of an entry as `DecodeData` finds them. -/
def rewritten (members : List (Text × Json)) : List (Text × Json) :=
  Json.mapMembers Go.floatEncoder (Go.writtenMembers members)

/-- A page as `DecodeData` finds it. -/
theorem mapNumbers_pageJson (page : Page LedgerEntry) :
    (Go.asWritten (pageJson page)).mapNumbers Go.floatEncoder =
      .object [(Text.ofString "entries",
          .array ((page.entries.map fun e => rewritten e.members).map .object)),
        (Text.ofString "next_after_sequence",
          (page.next.elim .null numeral).mapNumbers Go.floatEncoder)] := by
  have horder : "entries" ≤ "next_after_sequence" := by decide
  have hnext : Go.asWritten (page.next.elim .null numeral) = page.next.elim .null numeral := by
    cases page.next <;> rfl
  have hsorted : ∀ json json' : Json, Assignments.sortedEntries [("entries", json),
      ("next_after_sequence", json')] = [("entries", json), ("next_after_sequence", json')] := by
    intro json json'
    simp [Assignments.sortedEntries, Assignments.lastEntries, horder]
  simp only [pageJson, Go.asWritten, Go.asWrittenMembers, Go.asWrittenItems_eq_map,
    Text.toScalars_ofString, hsorted, hnext, List.map_map, Json.mapNumbers, Json.mapMembers,
    Json.mapItems_eq_map, List.map_cons, List.map_nil]
  rfl

/-- The cursor of a page is read as it was written. -/
theorem unmarshal_next {parseTime : String → Option Go.GoTime} {next : Option ℤ}
    (h : ∀ n, next = some n → KeptByFloat64 n) :
    (Go.GoType.pointer .int64).unmarshal parseTime
      ((next.elim .null numeral).mapNumbers Go.floatEncoder) (Go.GoType.pointer .int64).zero =
        some next := by
  cases next with
  | none => rfl
  | some n =>
      rcases h n rfl with ⟨hrange, hkept⟩
      have hdigits : n.natAbs ≤ 2 ^ 63 := by
        rw [Go.isInt64, Bool.and_eq_true, decide_eq_true_eq, decide_eq_true_eq] at hrange
        omega
      have hvalue : signed (decide (n < 0)) (Binary64.throughNat n.natAbs) = n := hkept
      change Option.map some (Go.decodeInt64 (.number (Go.floatEncoder _)) _) = _
      rw [integerLiteral, Go.floatEncoder_integer _ hdigits]
      change Option.map some
        (if Go.isInt64 (signed _ _) = true then some (signed _ _) else none) = _
      rw [hvalue, if_pos hrange]
      rfl

/-- The data of a response that carries a page is decoded, and shows the page. -/
theorem decodeData_page (parseTime : String → Option Go.GoTime) (errors : Go.JsonErrors)
    {members : List (Text × Json)} {response : Go.GoMap} {page : Page LedgerEntry}
    (hresponse : Go.decodeMembers members = some response) (hcarries : Carries members page)
    (hnext : ∀ n, page.next = some n → KeptByFloat64 n) :
    ∃ result, Go.decodeData parseTime errors Go.ledgerResult response = .ok result ∧
      Go.Shows result page := by
  have hdecodes := Go.decodeAny_of_mem hresponse (mem_of_lookupLast hcarries)
  have hentries : ∀ entry ∈ page.entries.map fun e => rewritten e.members,
      ∀ m ∈ entry, (Go.decodeAny m.2).isSome = true := by
    intro entry hentry
    rcases List.mem_map.mp hentry with ⟨e, he, rfl⟩
    rw [pageJson, Go.decodeAny, Option.isSome_map, Go.decodeMembers_isSome_iff] at hdecodes
    have hitems := hdecodes _ List.mem_cons_self
    rw [Go.decodeAny, Option.isSome_map, Go.decodeItems_isSome_iff] at hitems
    rcases Option.isSome_iff_exists.mp (hitems _ (List.mem_map.mpr ⟨e, he, rfl⟩)) with ⟨a, ha⟩
    have hobject := Option.isSome_of_eq_some (Go.decodeAny_asWritten ha)
    rw [← Option.isSome_map (f := Go.GoAny.mapNumbers Go.floatEncoder),
      ← Go.decodeAny_mapNumbers Go.overflowsBinary64_floatEncoder] at hobject
    have hwritten : ((Go.asWritten (.object e.members)).mapNumbers Go.floatEncoder) =
        .object (rewritten e.members) := rfl
    rw [hwritten, Go.decodeAny, Option.isSome_map, Go.decodeMembers_isSome_iff] at hobject
    exact hobject
  rcases Go.unmarshal_page parseTime hentries (unmarshal_next hnext) with
    ⟨result, hresult, hlength, hcursor⟩
  refine ⟨result, ?_, ⟨?_, hcursor⟩⟩
  · rw [Go.decodeData_eq hresponse hcarries, mapNumbers_pageJson, hresult]
  · rw [hlength, List.length_map]

end Go

end MizanSDK.Agreement
