import MizanSDK.Agreement.LedgerPages

/-!
# Exports of a ledger against a service

The exporters of both SDKs against a service that reads pages off requests and answers
with them, while others append to the ledger.  The service may fail any request.

Main results:

- Theorem `go_export_counts`: what `exportLedger` of the Go example returns is the number of
  all entries of the ledger, or, with an error, of those up to the cursor it returns.
- Theorem `py_export_counts`: `export_ledger` of the Python example returns the number of all
  entries, or raises what a request raised.
-/

namespace MizanSDK.Agreement

open Bytes CursorPaging FormQuery JsonText
open Python (str PyStr)

/-! ## A short ledger -/

/-- The only entry of a ledger. -/
def firstEntry : LedgerEntry := ⟨1, [(Text.ofString "id", .string (Text.ofString "led-1"))]⟩

/-- The page with it, and the empty page behind it. -/
def shortPage (first : Bool) : Page LedgerEntry :=
  if first then ⟨[firstEntry], some 1⟩ else ⟨[], none⟩

theorem shortPage_serves {after : ℤ} (h : 0 ≤ after) :
    Serves LedgerEntry.sequence [firstEntry] after (shortPage (decide (after = 0))) := by
  rcases eq_or_lt_of_le h with rfl | hpos
  · refine ⟨List.prefix_rfl, fun _ => List.cons_ne_nil _ _, ?_, fun hnone => nomatch hnone⟩
    intro next hnext
    exact (Option.some.inj hnext).symm
  · have hbehind : behind LedgerEntry.sequence [firstEntry] after = [] := by
      rw [behind, List.filter_eq_nil_iff]
      intro e he
      rw [List.mem_singleton.mp he, decide_eq_true_eq, not_lt]
      exact hpos
    have hpage : shortPage (decide (after = 0)) = ⟨[], none⟩ := by
      rw [decide_eq_false hpos.ne']
      rfl
    rw [hpage]
    refine ⟨List.nil_prefix, fun hsome => absurd hbehind hsome, fun next hnext => ?_, fun _ => ?_⟩
    · cases hnext
    · exact hbehind.symm

/-- Every business has this ledger. -/
def shortService : LedgerService where
  ledger _ _ := [firstEntry]
  page _ _ after _ := shortPage (decide (after = 0))
  grows _ _ := List.prefix_rfl
  ordered _ _ := List.pairwise_singleton _ _
  serves _ _ _ _ hafter _ _ := shortPage_serves hafter

/-- Only zero is printed as zero. -/
theorem eq_zero_of_toString {n : ℤ} (h : toString n = "0") : n = 0 := by
  have hlist := congrArg String.toList h
  rw [Decimal.toList_toString] at hlist
  by_cases hnegative : n < 0
  · rw [if_pos hnegative] at hlist
    exact absurd (List.cons.inj hlist).1 (by decide)
  · rw [if_neg hnegative, List.nil_append] at hlist
    have hvalue := Decimal.digitsValue_toDigits n.natAbs
    rw [hlist] at hvalue
    exact Int.natAbs_eq_zero.mp hvalue.symm

/-- A request from the start. -/
def asksFirst (url : List Char) : Bool :=
  match fields (queryOf url) with
  | some (after :: _) => after.2 == utf8 "0"
  | _ => false

theorem asksFirst_eq {base url : List Char} {business : List UInt8} {after limit : ℤ}
    (h : AsksPage base url business after limit) (hbase : Queryless base) :
    asksFirst url = decide (after = 0) := by
  unfold asksFirst
  rw [h.fields_eq hbase]
  have hsame : utf8 (toString after) = utf8 "0" ↔ after = 0 := by
    refine ⟨fun heq => ?_, fun heq => by rw [heq]; rfl⟩
    exact eq_zero_of_toString (toUTF8_inj.mp heq)
  simp only [utf8Field, beq_eq_decide, decide_eq_decide]
  exact hsame

/-- The document of a page. -/
def shortDocument (first : Bool) : List (Text × Json) :=
  [(Text.ofString "data", pageJson (shortPage first))]

theorem shortDocument_carries (first : Bool) : Carries (shortDocument first) (shortPage first) :=
  rfl

/-- A body of one byte stands for it. -/
def shortBody (first : Bool) : List UInt8 := if first then [1] else [0]

/-! ## The Go example -/

section Go

/-- An exchange in which a service answers: its successes carry the pages it is asked for. -/
def AnswersGo (c : Go.Client) (service : LedgerService) (i : ℕ) (x : Go.Exchange) : Prop :=
  ∀ request business after limit response, request.method = "GET" →
    AsksPage c.baseURL.toList request.url.toList (utf8 business) after limit →
    request.header.get? "X-Business-Id" = some business →
    (x.answer request).reply x.env.parse = .success response →
      ∃ members, Go.decodeMembers members = some response ∧
        Carries members (service.page i (utf8 business) after limit)

variable {c : Go.Client} {service : LedgerService} {exchanges : ℕ → Go.Exchange}
  (parseTime : String → Option Go.GoTime) (errors : Go.JsonErrors) {business : String}

/-- A page that can be read is the page of the service, and its cursor is one of the ledger. -/
theorem go_readPage (hanswers : ∀ i, AnswersGo c service i (exchanges i))
    (hkept : ∀ i, ∀ e ∈ service.ledger i (utf8 business), KeptByFloat64 e.sequence) (i : ℕ)
    {after : ℤ} (hafter : KeptByFloat64 after) :
    (∃ err, (c.getLedger ((exchanges i).around c business after 100) business after
          100).result = .error err ∧
        Go.readPage c exchanges parseTime errors business i after =
          .error (some (.read ("read ledger after sequence " ++ toString after ++ ": ") err))) ∨
      Serves LedgerEntry.sequence (service.ledger i (utf8 business)) after
        (service.page i (utf8 business) after 100) ∧
      (∀ next, (service.page i (utf8 business) after 100).next = some next →
        KeptByFloat64 next) ∧
      ∃ page, Go.readPage c exchanges parseTime errors business i after = .ok page ∧
        Go.Shows page (service.page i (utf8 business) after 100) := by
  rcases Go.readPage_cases c exchanges parseTime errors business i after with
    hfails | ⟨hnonneg, response, hreply, hpage⟩
  · exact .inl hfails
  · right
    have hserves := service.serves i (utf8 business) after 100 hnonneg (by decide) (by decide)
    have hcursor : ∀ next, (service.page i (utf8 business) after 100).next = some next →
        KeptByFloat64 next := by
      intro next hnext
      rw [hserves.next next hnext]
      cases hlast : (service.page i (utf8 business) after 100).entries.getLast? with
      | none => exact hafter
      | some e =>
          have hmem := hserves.entries.subset (List.mem_of_getLast? hlast)
          exact hkept i e (List.mem_of_mem_filter hmem)
    refine ⟨hserves, hcursor, ?_⟩
    rcases ledgerRequest_asks c (exchanges i).env business after 100 with ⟨hasks, hheader⟩
    rcases hanswers i _ business after 100 response rfl hasks hheader hreply with
      ⟨members, hresponse, hcarries⟩
    rcases decodeData_page parseTime errors hresponse hcarries
      hcursor with ⟨page, hdecoded, hshows⟩
    refine ⟨page, ?_, hshows⟩
    rw [hpage, hdecoded]
    rfl

/-- What a result of `exportLedger` says of a ledger: the number of its entries, or, with an
error of the request behind a cursor, of those up to this cursor. -/
def GoReport (c : Go.Client) (x : Go.Exchange) (business : String) (ledger : List LedgerEntry) :
    Go.ExportResult → Prop
  | .returned count after none => count = (behind LedgerEntry.sequence ledger 0).length ∧
      Exported LedgerEntry.sequence 0 ledger after (between LedgerEntry.sequence ledger 0 after)
  | .returned count after (some err) =>
      (∃ callErr, err = .read ("read ledger after sequence " ++ toString after ++ ": ") callErr ∧
        (c.getLedger (x.around c business after 100) business after 100).result =
          .error callErr) ∧
      ∃ counted, count = counted.length ∧
        Exported LedgerEntry.sequence 0 ledger after counted
  | .panic => False

/-- The pages of a service, as far as the SDK reads them. -/
def goFetch (c : Go.Client) (service : LedgerService) (exchanges : ℕ → Go.Exchange)
    (parseTime : String → Option Go.GoTime) (errors : Go.JsonErrors) (business : String) (i : ℕ)
    (after : ℤ) : Except (Option Go.ExportError) (Page LedgerEntry) :=
  (Go.readPage c exchanges parseTime errors business i after).map fun _ =>
    service.page i (utf8 business) after 100

/-- They are pages of a log that grows. -/
theorem goFetch_honest : Honest LedgerEntry.sequence (service.ledger · (utf8 business))
    (goFetch c service exchanges parseTime errors business) where
  grows i := service.grows i (utf8 business)
  ordered i := service.ordered i (utf8 business)
  serves i after page h := by
    unfold goFetch at h
    rcases Go.readPage_cases c exchanges parseTime errors business i after with
      ⟨err, -, hfails⟩ | ⟨hnonneg, -, -, -⟩
    · rw [hfails] at h
      cases h
    · cases hread : Go.readPage c exchanges parseTime errors business i after with
      | error err =>
          rw [hread] at h
          cases h
      | ok result =>
          rw [hread] at h
          rw [← Except.ok.inj h]
          exact service.serves i (utf8 business) after 100 hnonneg (by decide) (by decide)

/-- An integer is kept at the start and wherever an export is. -/
theorem kept_of_reached {ledger : List LedgerEntry} {after : ℤ}
    (hkept : ∀ e ∈ ledger, KeptByFloat64 e.sequence)
    (h : after = 0 ∨ ∃ e ∈ ledger, e.sequence = after) : KeptByFloat64 after := by
  rcases h with rfl | ⟨e, he, rfl⟩
  · exact ⟨by decide, Go.throughInt_of_lt (by decide)⟩
  · exact hkept e he

/-- `exportLedger` counts what the exporter of these pages reads. -/
theorem go_export_eq (hanswers : ∀ i, AnswersGo c service i (exchanges i))
    (hkept : ∀ i, ∀ e ∈ service.ledger i (utf8 business), KeptByFloat64 e.sequence) (fuel : ℕ) :
    Go.exportLedger c exchanges parseTime errors business fuel 0 0 0 =
      (exportFrom (goFetch c service exchanges parseTime errors business) fuel 0 0 []).map
        Go.ExportResult.ofPages := by
  refine Go.exportLedger_eq c exchanges parseTime errors business {n | KeptByFloat64 n} ?_ fuel 0
    (kept_of_reached (hkept 0) (.inl rfl)) []
  intro i after hafter page hpage
  rcases go_readPage parseTime errors hanswers hkept i hafter with
    ⟨err, -, hfails⟩ | ⟨-, hcursor, page', hread, hshows⟩
  · rw [hfails] at hpage
    cases hpage
  · rw [hread] at hpage
    exact ⟨Except.ok.inj hpage ▸ hshows, hcursor⟩

/-- What the exporter of these pages tells is what `exportLedger` reports. -/
theorem goReport_of_tells (hanswers : ∀ i, AnswersGo c service i (exchanges i))
    (hkept : ∀ i, ∀ e ∈ service.ledger i (utf8 business), KeptByFloat64 e.sequence) {j : ℕ}
    {result : Result LedgerEntry (Option Go.ExportError)}
    (h : result.Tells LedgerEntry.sequence 0 (service.ledger j (utf8 business))
      (goFetch c service exchanges parseTime errors business j)) :
    GoReport c (exchanges j) business (service.ledger j (utf8 business))
      (Go.ExportResult.ofPages result) := by
  rcases result with ⟨done, after, _ | failure⟩
  · exact ⟨congrArg List.length h.1, h.2⟩
  · rcases h with ⟨hfetch, hexported⟩
    have hafter := kept_of_reached (hkept j) hexported.reached
    change goFetch c service exchanges parseTime errors business j after = .error failure at hfetch
    unfold goFetch at hfetch
    rcases go_readPage parseTime errors hanswers hkept j hafter with
      ⟨err, hresult, hfails⟩ | ⟨-, -, page, hread, -⟩
    · rw [hfails] at hfetch
      rw [← Except.error.inj hfetch]
      exact ⟨⟨err, rfl, hresult⟩, done, rfl, hexported⟩
    · rw [hread] at hfetch
      cases hfetch

/-- The `exportLedger` that meets a service whose sequence numbers survive float64 returns
the number of all entries the ledger has at its last request, or, with the error of this
request, of all entries up to the cursor it returns.  If the ledger stays within bounds, it
returns. -/
theorem go_export_counts (hanswers : ∀ i, AnswersGo c service i (exchanges i))
    (hkept : ∀ i, ∀ e ∈ service.ledger i (utf8 business), KeptByFloat64 e.sequence) :
    (∀ fuel result,
      Go.exportLedger c exchanges parseTime errors business fuel 0 0 0 = some result →
        ∃ j < fuel, GoReport c (exchanges j) business (service.ledger j (utf8 business)) result) ∧
    ∀ bound, (∀ i, (service.ledger i (utf8 business)).length ≤ bound) →
      (Go.exportLedger c exchanges parseTime errors business (bound + 1) 0 0 0).isSome = true := by
  have hstart := exported_start LedgerEntry.sequence 0 (service.ledger 0 (utf8 business))
  refine ⟨?_, ?_⟩
  · intro fuel result hresult
    rw [go_export_eq parseTime errors hanswers hkept] at hresult
    rcases Option.map_eq_some_iff.mp hresult with ⟨pages, hpages, rfl⟩
    rcases exportFrom_exported (goFetch_honest parseTime errors) hstart hpages with
      ⟨j, -, hj, htells⟩
    exact ⟨j, by omega, goReport_of_tells parseTime errors hanswers hkept htells⟩
  · intro bound hbound
    rw [go_export_eq parseTime errors hanswers hkept, Option.isSome_map]
    exact exportFrom_isSome (goFetch_honest parseTime errors) hbound hstart
      (by rw [List.length_nil]; omega)

/-- The service of the short ledger. -/
def shortExchange : Go.Exchange where
  env := { Go.unansweredEnv with parse := fun raw => some (.object (shortDocument (raw == [1]))) }
  answer request := .response 200 ∅ ⟨shortBody (asksFirst request.url.toList), none⟩

theorem shortExchange_answers (i : ℕ) :
    AnswersGo Go.opsAdmin.client shortService i shortExchange := by
  intro request business after limit response _ hasks _ hreply
  have hfirst := asksFirst_eq hasks (by decide)
  refine ⟨shortDocument (decide (after = 0)), ?_, shortDocument_carries _⟩
  change (Go.SendOutcome.response 200 ∅ ⟨shortBody (asksFirst request.url.toList), none⟩).reply
    shortExchange.env.parse = .success response at hreply
  have hbody : ∀ first : Bool, ¬ 2097152 < (shortBody first).length ∧ shortBody first ≠ [] ∧
      (shortBody first == [1]) = first := by decide
  rcases hbody (decide (after = 0)) with ⟨hshort, hsome, hread⟩
  rw [hfirst, Go.SendOutcome.reply_response, if_neg hshort] at hreply
  dsimp only at hreply
  rw [if_neg hsome] at hreply
  have hparsed : Go.unmarshalMap shortExchange.env.parse (shortBody (decide (after = 0))) =
      Go.decodeMembers (shortDocument (decide (after = 0))) :=
    congrArg (fun first => Go.decodeMembers (shortDocument first)) hread
  rw [hparsed] at hreply
  cases hdecoded : Go.decodeMembers (shortDocument (decide (after = 0))) with
  | none =>
      rw [hdecoded] at hreply
      cases hreply
  | some result =>
      rw [hdecoded] at hreply
      exact congrArg some (Go.Reply.success.inj hreply)

/-- The export of the short ledger ends after two requests. -/
theorem short_ledger_counted :
    ∃ result, Go.exportLedger Go.opsAdmin.client (fun _ => shortExchange) Go.noTimes Go.noTexts
        "shop" 2 0 0 0 = some result ∧
      ∃ j < 2, GoReport Go.opsAdmin.client shortExchange "shop" [firstEntry] result := by
  have hkept : ∀ i, ∀ e ∈ shortService.ledger i (utf8 "shop"), KeptByFloat64 e.sequence := by
    intro i e he
    rw [List.mem_singleton.mp he]
    exact ⟨by decide, Go.throughInt_of_lt (by decide)⟩
  have hcounts := go_export_counts Go.noTimes Go.noTexts shortExchange_answers hkept
  rcases Option.isSome_iff_exists.mp (hcounts.2 1 fun _ => le_rfl) with ⟨result, hresult⟩
  exact ⟨result, hresult, hcounts.1 2 result hresult⟩

end Go

/-! ## The Python example -/

section Python

/-- An exchange in which a service answers the Python SDK. -/
def AnswersPython (c : Python.MizanClient) (service : LedgerService) (i : ℕ)
    (x : Python.Exchange) : Prop :=
  ∀ request business bytes after limit response, Python.encodeUtf8 business = .ok bytes →
    request.method = "GET" →
    AsksPage (characters c.baseUrl) (characters request.url) bytes after limit →
    request.header "X-Business-Id" = some business →
    (x.answer request).reply x.env = .success response →
      ∃ members, response = Python.PyValue.ofMembers members ∧
        Carries members (service.page i bytes after limit)

/-- What `export_ledger` reads off a response that carries a page. -/
theorem pageOf_page {members : List (Text × Json)} {page : Page LedgerEntry}
    (h : Carries members page) :
    Python.pageOf (Python.PyValue.ofMembers members) =
      .ok (page.entries.length, page.next.elim .none .int) := by
  have hdata : Python.PyDict.get (Python.PyValue.ofMembers members) "data" =
      some (Python.PyValue.ofJson (pageJson page)) := by
    rw [Python.PyValue.get_ofJson, h]
    rfl
  have hnext : Python.PyValue.ofJson (page.next.elim .null numeral) =
      page.next.elim .none .int := by
    cases page.next with
    | none => rfl
    | some n => exact congrArg Python.PyValue.int (signed_natAbs n)
  have hpage : Python.PyValue.ofJson (pageJson page) =
      .dict [(Text.ofString "entries", .list ((page.entries.map fun e =>
          Json.object e.members).map Python.PyValue.ofJson)),
        (Text.ofString "next_after_sequence", page.next.elim .none .int)] := by
    rw [← hnext, ← Python.PyValue.ofItems_eq_map]
    rfl
  have hentries : ∀ entries next : Python.PyValue, Python.PyDict.get
      [(Text.ofString "entries", entries), (Text.ofString "next_after_sequence", next)]
        "entries" = some entries := fun _ _ => rfl
  have hcursor : ∀ entries next : Python.PyValue, Python.PyDict.get
      [(Text.ofString "entries", entries), (Text.ofString "next_after_sequence", next)]
        "next_after_sequence" = some next := fun _ _ => rfl
  have hlength : ((page.entries.map fun e => Json.object e.members).map
      Python.PyValue.ofJson).length = page.entries.length := by
    rw [List.length_map, List.length_map]
  rw [← hlength]
  simp only [Python.pageOf, Python.PyValue.subscript, hdata, hpage, hentries, hcursor,
    Python.PyValue.len, bind, Except.bind]
  rfl

variable {c : Python.MizanClient} {service : LedgerService} {exchanges : ℕ → Python.Exchange}
  {business : PyStr} {bytes : List UInt8}

/-- A page that can be read is the page of the service. -/
theorem py_readPage (hbytes : Python.encodeUtf8 business = .ok bytes)
    (hanswers : ∀ i, AnswersPython c service i (exchanges i)) (i : ℕ) (after : ℤ) :
    (∃ exc, (c.getLedger ((exchanges i).around c business after 100) business after
          100).result = .raised exc ∧
        Python.readPage c exchanges business i after = .error exc) ∨
      Serves LedgerEntry.sequence (service.ledger i bytes) after (service.page i bytes after 100) ∧
        Python.readPage c exchanges business i after =
          .ok ((service.page i bytes after 100).entries.length,
            (service.page i bytes after 100).next.elim .none .int) := by
  rcases Python.readPage_cases c exchanges business i after with
    hraises | ⟨path, response, hpath, hreply, hpage⟩
  · exact .inl hraises
  · right
    rcases py_ledgerRequest_asks c (exchanges i).env hpath with
      ⟨bytes', hbytes', hasks, hheader⟩
    rw [hbytes] at hbytes'
    obtain rfl := Except.ok.inj hbytes'
    rcases hanswers i _ business bytes after 100 response hbytes rfl hasks hheader hreply with
      ⟨members, rfl, hcarries⟩
    refine ⟨service.serves i bytes after 100 (Python.MizanClient.ledgerPath_ok hpath).1
      (by decide) (by decide), ?_⟩
    rw [hpage, pageOf_page hcarries]
    rfl

/-- The pages of a service, as far as the SDK reads them. -/
def pyFetch (c : Python.MizanClient) (service : LedgerService) (exchanges : ℕ → Python.Exchange)
    (business : PyStr) (bytes : List UInt8) (i : ℕ) (after : ℤ) :
    Except Python.Raised (Page LedgerEntry) :=
  (Python.readPage c exchanges business i after).map fun _ => service.page i bytes after 100

/-- They are pages of a log that grows. -/
theorem pyFetch_honest (hbytes : Python.encodeUtf8 business = .ok bytes)
    (hanswers : ∀ i, AnswersPython c service i (exchanges i)) :
    Honest LedgerEntry.sequence (service.ledger · bytes)
      (pyFetch c service exchanges business bytes) where
  grows i := service.grows i bytes
  ordered i := service.ordered i bytes
  serves i after page h := by
    unfold pyFetch at h
    rcases py_readPage hbytes hanswers i after with ⟨exc, -, hraises⟩ | ⟨hserves, hread⟩
    · rw [hraises] at h
      cases h
    · rw [hread] at h
      rw [← Except.ok.inj h]
      exact hserves

/-- What a result of `export_ledger` says of a ledger: the number of its entries, or the
exception of the request behind a cursor. -/
def PyReport (c : Python.MizanClient) (x : Python.Exchange) (business : PyStr)
    (ledger : List LedgerEntry) : Python.ExportResult → Prop
  | .returned count after => count = (behind LedgerEntry.sequence ledger 0).length ∧
      Exported LedgerEntry.sequence 0 ledger after (between LedgerEntry.sequence ledger 0 after)
  | .raised exc => ∃ after, (after = 0 ∨ ∃ e ∈ ledger, e.sequence = after) ∧
      (c.getLedger (x.around c business after 100) business after 100).result = .raised exc
  | .otherCursor _ => False

/-- What the exporter of these pages tells is what `export_ledger` reports. -/
theorem pyReport_of_tells (hbytes : Python.encodeUtf8 business = .ok bytes)
    (hanswers : ∀ i, AnswersPython c service i (exchanges i)) {j : ℕ}
    {result : Result LedgerEntry Python.Raised}
    (h : result.Tells LedgerEntry.sequence 0 (service.ledger j bytes)
      (pyFetch c service exchanges business bytes j)) :
    PyReport c (exchanges j) business (service.ledger j bytes)
      (Python.ExportResult.ofPages result) := by
  rcases result with ⟨done, after, _ | exc⟩
  · exact ⟨congrArg List.length h.1, h.2⟩
  · rcases h with ⟨hfetch, hexported⟩
    refine ⟨after, hexported.reached, ?_⟩
    change pyFetch c service exchanges business bytes j after = .error exc at hfetch
    unfold pyFetch at hfetch
    rcases py_readPage hbytes hanswers j after with ⟨exc', hresult, hraises⟩ | ⟨-, hread⟩
    · rw [hraises] at hfetch
      rw [← Except.error.inj hfetch]
      exact hresult
    · rw [hread] at hfetch
      cases hfetch

/-- The `export_ledger` that meets a service returns the number of all entries the ledger has
at its last request, or raises the exception of this request and nothing of its own.  If the
ledger stays within bounds, it ends. -/
theorem py_export_counts (hbytes : Python.encodeUtf8 business = .ok bytes)
    (hanswers : ∀ i, AnswersPython c service i (exchanges i)) :
    (∀ fuel result, Python.exportLedger c exchanges business fuel 0 0 0 = some result →
      ∃ j < fuel, PyReport c (exchanges j) business (service.ledger j bytes) result) ∧
    ∀ bound, (∀ i, (service.ledger i bytes).length ≤ bound) →
      (Python.exportLedger c exchanges business (bound + 1) 0 0 0).isSome = true := by
  have hstart := exported_start LedgerEntry.sequence 0 (service.ledger 0 bytes)
  have hhonest := pyFetch_honest hbytes hanswers
  have heq : ∀ fuel, Python.exportLedger c exchanges business fuel 0 0 0 =
      (exportFrom (pyFetch c service exchanges business bytes) fuel 0 0 []).map
        Python.ExportResult.ofPages := by
    intro fuel
    refine Python.exportLedger_eq c exchanges business ?_ fuel 0 0 []
    intro i after page hpage
    rcases py_readPage hbytes hanswers i after with ⟨exc, -, hraises⟩ | ⟨-, hread⟩
    · rw [hraises] at hpage
      cases hpage
    · rw [hread] at hpage
      rw [← Except.ok.inj hpage]
      exact ⟨rfl, rfl⟩
  refine ⟨?_, ?_⟩
  · intro fuel result hresult
    rw [heq] at hresult
    rcases Option.map_eq_some_iff.mp hresult with ⟨pages, hpages, rfl⟩
    rcases exportFrom_exported hhonest hstart hpages with ⟨j, -, hj, htells⟩
    exact ⟨j, by omega, pyReport_of_tells hbytes hanswers htells⟩
  · intro bound hbound
    rw [heq, Option.isSome_map]
    exact exportFrom_isSome hhonest hbound hstart (by rw [List.length_nil]; omega)

/-- The service of the short ledger for the Python SDK. -/
def shortPythonExchange : Python.Exchange where
  env := { Python.unansweredEnv with
    decode := fun raw => some (if raw == [1] then str "first" else str "last")
    loads := fun text =>
      some (.dict (Python.PyValue.ofMembers (shortDocument (text == str "first")))) }
  answer request := .returns 200 [] (shortBody (asksFirst (characters request.url)))

theorem shortPythonExchange_answers (i : ℕ) :
    AnswersPython Python.opsAdmin.toMizanClient shortService i shortPythonExchange := by
  intro request business bytes after limit response _ _ hasks _ hreply
  have hbase : Queryless (characters Python.opsAdmin.baseUrl) := by decide
  have hfirst := asksFirst_eq hasks hbase
  refine ⟨shortDocument (decide (after = 0)), ?_, shortDocument_carries _⟩
  change (Python.TransportOutcome.returns 200 []
    (shortBody (asksFirst (characters request.url)))).reply shortPythonExchange.env =
      .success response at hreply
  rw [hfirst] at hreply
  have hread : ∀ first : Bool, (Python.TransportOutcome.returns 200 [] (shortBody first)).reply
      shortPythonExchange.env =
        .success (Python.PyValue.ofMembers (shortDocument first)) := by
    rintro (_ | _)
    · rfl
    · rfl
  rw [hread] at hreply
  exact (Python.Reply.success.inj hreply).symm

/-- The export of the short ledger ends here too. -/
theorem short_ledger_counted_py :
    ∃ result, Python.exportLedger Python.opsAdmin.toMizanClient (fun _ => shortPythonExchange)
        (str "shop") 2 0 0 0 = some result ∧
      ∃ j < 2, PyReport Python.opsAdmin.toMizanClient shortPythonExchange (str "shop")
        [firstEntry] result := by
  have hbytes : Python.encodeUtf8 (str "shop") = .ok (utf8 "shop") := by
    simp only [Python.encodeUtf8, str, Text.isScalar_ofString, if_true, Text.toScalars_ofString]
    rfl
  have hcounts := py_export_counts hbytes shortPythonExchange_answers
  rcases Option.isSome_iff_exists.mp (hcounts.2 1 fun _ => le_rfl) with ⟨result, hresult⟩
  exact ⟨result, hresult, hcounts.1 2 result hresult⟩

end Python

end MizanSDK.Agreement
