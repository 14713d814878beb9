import MizanSDK.Agreement.RequestPaths
import MizanSDK.Library.FormQuery
import MizanSDK.Library.Numerals

/-!
# What the queries of requests say

The lists, the audit trail and the ledger are read in pages, which the query of a request
describes: `url.Values.Encode` and a URL put together by hand in Go, `urlencode` in Python.
Whatever identifiers and search texts the caller gives, a server that decodes the query
finds the arguments of the call in it and nothing else.

Main results:

- Theorem `goCall_query`: the fields of what a call of the Go SDK sends.
- Theorem `pyCall_query`: those of what a call of the Python SDK sends.
- Theorem `listing_queries_agree`: both SDKs ask for the same page.
-/

namespace MizanSDK.Agreement

open Bytes Checks FormQuery JsonText
open Python (str PyStr)

/-! ## Paths with a query -/

/-- A path, or the end of one, whose only question mark stands before a query of these
fields, and in which no fragment begins. -/
inductive Asks : List Char → List (List UInt8 × List UInt8) → Prop where
  | plain {text : List Char} (h : Queryless text) : Asks text []
  | query (pairs : List (List UInt8 × List UInt8)) :
      Asks ('?' :: formEncoder.encodeFields pairs) pairs
  | behind {front text : List Char} {pairs : List (List UInt8 × List UInt8)} (h : Queryless front)
      (rest : Asks text pairs) : Asks (front ++ text) pairs

/-- A server finds these fields. -/
theorem Asks.fields_eq {text : List Char} {pairs : List (List UInt8 × List UInt8)}
    (h : Asks text pairs) : fields (queryOf text) = some pairs := by
  induction h with
  | plain hplain =>
      rw [queryOf_queryless hplain]
      rfl
  | query pairs =>
      rw [queryOf_cons (queryless_encodeFields formEncoder pairs).2]
      exact fields_encodeFields formEncoder pairs
  | behind hfront rest ih => rw [queryOf_append hfront, ih]

/-- No fragment begins in them. -/
theorem Asks.hash_notMem {text : List Char} {pairs : List (List UInt8 × List UInt8)}
    (h : Asks text pairs) : '#' ∉ text := by
  induction h with
  | plain hplain => exact hplain.2
  | query pairs =>
      have hquery := (queryless_encodeFields formEncoder pairs).2
      rw [List.mem_cons]
      rintro (hmark | hmem)
      · revert hmark
        decide
      · exact hquery hmem
  | behind hfront rest ih =>
      rw [List.mem_append]
      rintro (hmem | hmem)
      · exact hfront.2 hmem
      · exact ih hmem

/-- The bytes of a field. -/
def utf8Field (field : String × String) : List UInt8 × List UInt8 := (utf8 field.1, utf8 field.2)

/-- A printed integer is its own encoding. -/
theorem encode_toString (n : ℤ) :
    formEncoder.encode (utf8 (toString n)) = (toString n).toList := by
  apply encode_kept
  intro c hc
  apply formEscape_numeral
  rw [Decimal.toList_toString, List.mem_append] at hc
  rcases hc with hsign | hdigit
  · split at hsign
    · exact .inl (List.mem_singleton.mp hsign)
    · cases hsign
  · have hdigits := Decimal.isDigits_toDigits n.natAbs
    rw [Decimal.isDigits, Bool.and_eq_true, List.all_eq_true] at hdigits
    have hc' := hdigits.2 c hdigit
    rw [Decimal.isAsciiDigit, Bool.and_eq_true, decide_eq_true_eq, decide_eq_true_eq] at hc'
    exact .inr hc'

/-- A field with a number, written by hand. -/
theorem encodeField_number {name : String} (hname : formEncoder.encode (utf8 name) = name.toList)
    (n : ℤ) : formEncoder.encodeField (utf8Field (name, toString n)) =
      name.toList ++ '=' :: (toString n).toList := by
  rw [Encoder.encodeField, utf8Field, hname, encode_toString]

/-! ## Calls of the Go SDK -/

/-- `url.QueryEscape` writes a byte as forms do. -/
theorem queryEscapeByte_eq : Go.queryEscapeByte = formEscape := by
  funext b
  revert b
  exact forall_byte (by decide +kernel)

/-- It is the encoder of forms. -/
theorem toList_queryEscape (s : String) :
    (Go.queryEscape s).toList = formEncoder.encode (utf8 s) := by
  rw [Go.queryEscape, String.toList_ofList, queryEscapeByte_eq]
  rfl

/-- `url.Values.Encode` is the encoder of forms. -/
theorem toList_encodeValues (values : List (String × String)) :
    (Go.encodeValues values).toList = formEncoder.encodeFields (values.map utf8Field) := by
  have hfield : ∀ kv : String × String,
      (Go.queryEscape kv.1 ++ "=" ++ Go.queryEscape kv.2).toList =
        formEncoder.encodeField (utf8Field kv) := by
    intro kv
    rw [String.toList_append, String.toList_append, toList_queryEscape, toList_queryEscape,
      List.append_assoc]
    rfl
  rw [Go.encodeValues, String.toList_intercalate, Encoder.encodeFields, List.map_map,
    List.map_map]
  congr 1
  exact List.map_congr_left fun kv _ => hfield kv

/-- The fields of the query of a call. -/
def goFields : Go.MethodCall → List (String × String)
  | .business (.reading (.getLedger _ after limit)) =>
      [("after_sequence", toString after), ("limit", toString limit)]
  | .business (.reading (.listUsageDecisions _ offset limit))
  | .business (.reading (.listBusinessAudit _ offset limit)) =>
      [("limit", toString limit), ("offset", toString offset)]
  | .overall (.listBusinesses search offset limit) =>
      [("limit", toString limit), ("offset", toString offset), ("search", search)]
  | _ => []

/-- An escaped identifier is a piece of a path. -/
theorem pathEscape_plain (s : String) : Queryless (Go.pathEscape s).toList :=
  ⟨fun h => Go.pathEscape_delimiters s '?' h (by simp),
    fun h => Go.pathEscape_delimiters s '#' h (by simp)⟩

/-- Pieces of a path are put together to one. -/
theorem append_plain {s t : String} (hs : Queryless s.toList) (ht : Queryless t.toList) :
    Queryless (s ++ t).toList := by
  rw [String.toList_append]
  exact hs.append ht

/-- A path asks for nothing. -/
theorem asks_nil {s : String} (h : Queryless s.toList) : Asks s.toList [] := .plain h

/-- A query behind a piece of a path. -/
theorem Asks.append {s t : String} {pairs : List (List UInt8 × List UInt8)}
    (hs : Queryless s.toList) (ht : Asks t.toList pairs) : Asks (s ++ t).toList pairs := by
  rw [String.toList_append]
  exact .behind hs ht

/-- A path below a business asks for what its suffix asks for. -/
theorem businessPath_asks {suffix : String} {pairs : List (List UInt8 × List UInt8)}
    (hsuffix : Asks suffix.toList pairs) (b : String) :
    Asks (Go.businessPath b suffix).toList pairs :=
  hsuffix.append (append_plain (append_plain (by decide) (pathEscape_plain b)) (by decide))

/-- So does one below a business of the admin API. -/
theorem adminBusinessPath_asks {suffix : String} {pairs : List (List UInt8 × List UInt8)}
    (hsuffix : Asks suffix.toList pairs) (b : String) :
    Asks (Go.adminBusinessPath b suffix).toList pairs :=
  hsuffix.append (append_plain (append_plain (by decide) (pathEscape_plain b)) (by decide))

/-- A query in the path of a list. -/
theorem encodeValues_asks {resource : String} (h : Queryless resource.toList)
    (values : List (String × String)) :
    Asks (resource ++ ("?" ++ Go.encodeValues values)).toList (values.map utf8Field) := by
  refine .append h ?_
  rw [String.toList_append, toList_encodeValues]
  exact .query _

/-- The query `GetLedger` puts together by hand. -/
theorem ledgerQuery_asks (after limit : ℤ) :
    Asks ("ledger" ++ ("?after_sequence=" ++ (toString after ++ ("&limit=" ++
        toString limit)))).toList
      ([("after_sequence", toString after), ("limit", toString limit)].map utf8Field) := by
  refine .append (by decide) ?_
  have hquery : ("?after_sequence=" ++ (toString after ++ ("&limit=" ++ toString limit))).toList =
      '?' :: formEncoder.encodeFields
        ([("after_sequence", toString after), ("limit", toString limit)].map utf8Field) := by
    rw [List.map_cons, List.map_singleton, Encoder.encodeFields, List.map_cons,
      List.map_singleton, encodeField_number (by decide +kernel),
      encodeField_number (by decide +kernel)]
    simp [String.toList_append]
  rw [hquery]
  exact .query _

/-- The path of a mutating call whose arguments pass their check has no query. -/
theorem goMutation_asks {m : Go.MutatingCall} {a : Go.AdminClient}
    (h : m.argumentCheck a = none) : Asks m.target.2.1.toList [] := by
  cases m with
  | activateSubscription | changeSubscription | cancelSubscription | applyRenewalEvent
  | topUpAzeerUnits | topUpProviderBalance | refundProviderBalance | consume =>
      exact businessPath_asks (.plain (by decide)) _
  | setFeatureBudget b feature r =>
      apply businessPath_asks
      exact .plain (append_plain (append_plain (by decide) (pathEscape_plain feature)) (by decide))
  | configureAddon code input =>
      exact .plain (append_plain (by decide) (pathEscape_plain code))
  | configureGlobalDeliveryEndpoint kind input =>
      have hkind := (validateDeliveryKind_eq_none_iff kind).mp (Option.or_eq_none_iff.mp h).1
      rcases hkind with rfl | rfl
      · exact asks_nil (s := "/admin/api/delivery-endpoints/ledger") (by decide)
      · exact asks_nil (s := "/admin/api/delivery-endpoints/notification") (by decide)
  | configureBusinessDeliveryEndpoint b kind input =>
      have hkind := (validateDeliveryKind_eq_none_iff kind).mp (Option.or_eq_none_iff.mp h).1
      have hpath : Go.adminBusinessPath b "delivery-endpoints/" ++ kind =
          Go.adminBusinessPath b ("delivery-endpoints/" ++ kind) := String.append_assoc
      change Asks (Go.adminBusinessPath b "delivery-endpoints/" ++ kind).toList []
      rw [hpath]
      apply adminBusinessPath_asks
      rcases hkind with rfl | rfl
      · exact .plain (by decide)
      · exact .plain (by decide)

/-- The path of a reading call below a business. -/
theorem goReading_asks (r : Go.ReadingCall) (a : Go.AdminClient) :
    Asks (r.plan a).path.toList ((goFields (.business (.reading r))).map utf8Field) := by
  cases r with
  | checkEligibility b feature request =>
      apply businessPath_asks
      exact .plain (append_plain (append_plain (by decide) (pathEscape_plain feature)) (by decide))
  | getEntitlement b capability =>
      apply businessPath_asks
      exact .plain (append_plain (by decide) (pathEscape_plain capability))
  | previewBalanceImpact | getBillingSummary => exact businessPath_asks (.plain (by decide)) _
  | getLedger b after limit =>
      have hpath : ((Go.ReadingCall.getLedger b after limit).plan a).path =
          Go.businessPath b ("ledger" ++ ("?after_sequence=" ++ (toString after ++
            ("&limit=" ++ toString limit)))) := by
        unfold Go.ReadingCall.plan Go.Plan.ofRead Go.businessPath
        simp only [String.append_assoc]
      rw [hpath]
      exact businessPath_asks (ledgerQuery_asks after limit) b
  | listUsageDecisions b offset limit =>
      have hpath : ((Go.ReadingCall.listUsageDecisions b offset limit).plan a).path =
          Go.adminBusinessPath b ("usage-decisions" ++ ("?" ++ Go.encodeValues
            [("limit", toString limit), ("offset", toString offset)])) := by
        rw [← String.append_assoc]
        exact String.append_assoc
      rw [hpath]
      exact adminBusinessPath_asks (encodeValues_asks (by decide) _) b
  | listBusinessAudit b offset limit =>
      have hpath : ((Go.ReadingCall.listBusinessAudit b offset limit).plan a).path =
          Go.adminBusinessPath b ("audit" ++ ("?" ++ Go.encodeValues
            [("limit", toString limit), ("offset", toString offset)])) := by
        rw [← String.append_assoc]
        exact String.append_assoc
      rw [hpath]
      exact adminBusinessPath_asks (encodeValues_asks (by decide) _) b
  | getBusinessDeliveryEndpoints b => exact adminBusinessPath_asks (.plain (by decide)) b

/-- The path of any call that gets as far as sending. -/
theorem goPlan_asks {call : Go.MethodCall} {a : Go.AdminClient} {env : Go.Env} {key : String}
    (h : (call.plan a env key).check = none) :
    Asks (call.plan a env key).path.toList ((goFields call).map utf8Field) := by
  cases call with
  | business call =>
      cases call with
      | mutating m => exact goMutation_asks h
      | reading r => exact goReading_asks r a
      | metering b u =>
          rw [Go.MethodCall.plan, Go.BusinessCall.plan] at h ⊢
          split at h
          · rename_i request _
            exact goMutation_asks (m := .consume b request) (a := a) h
          · cases h
  | overall call =>
      cases call with
      | getCatalog => exact asks_nil (s := "/v1/catalog") (by decide)
      | getGlobalDeliveryEndpoints =>
          exact asks_nil (s := "/admin/api/delivery-endpoints") (by decide)
      | listAddons => exact asks_nil (s := "/admin/api/addons") (by decide)
      | listBusinesses search offset limit =>
          have hpath : ((Go.GlobalCall.listBusinesses search offset limit).plan a).path =
              "/admin/api/businesses" ++ ("?" ++ Go.encodeValues
                [("limit", toString limit), ("offset", toString offset), ("search", search)]) := by
            rw [← String.append_assoc]
            rfl
          change Asks ((Go.GlobalCall.listBusinesses search offset limit).plan a).path.toList _
          rw [hpath]
          exact encodeValues_asks (by decide) _

/-- A URL whose query a server decodes to these fields: no fragment begins in it that would
not be sent. -/
structure QueryIs (url : List Char) (pairs : List (List UInt8 × List UInt8)) : Prop where
  unfragmented : '#' ∉ url
  decodes : fields (queryOf url) = some pairs

/-- What is asked for is found in the query. -/
theorem Asks.queryIs {text : List Char} {pairs : List (List UInt8 × List UInt8)}
    (h : Asks text pairs) : QueryIs text pairs := ⟨h.hash_notMem, h.fields_eq⟩

/-- What a call of the Go SDK puts behind the base URL. -/
theorem goCall_asks {call : Go.MethodCall} {a : Go.AdminClient} {env : Go.Env} {key : String}
    {request : Go.HTTPRequest} (h : request ∈ (call.perform a env key).attempts) :
    ∃ path, request.url = a.client.baseURL ++ path ∧
      Asks path.toList ((goFields call).map utf8Field) := by
  rw [Go.MethodCall.perform_eq_run] at h
  have hplan := plan_url h
  exact ⟨_, hplan.2, goPlan_asks hplan.1⟩

/-- Whatever a call of the Go SDK sends, a server finds the fields of the call and no others in
the query of what stands behind the base URL, and of the whole URL if no query and no
fragment begins in the base. -/
theorem goCall_query {call : Go.MethodCall} {a : Go.AdminClient} {env : Go.Env} {key : String}
    {request : Go.HTTPRequest} (h : request ∈ (call.perform a env key).attempts) :
    (∃ path, request.url = a.client.baseURL ++ path ∧
      QueryIs path.toList ((goFields call).map utf8Field)) ∧
      (Queryless a.client.baseURL.toList →
        QueryIs request.url.toList ((goFields call).map utf8Field)) := by
  rcases goCall_asks h with ⟨path, hurl, hasks⟩
  refine ⟨⟨path, hurl, hasks.queryIs⟩, fun hbase => ?_⟩
  rw [hurl]
  exact (hasks.append hbase).queryIs

/-! ## Calls of the Python SDK -/

/-- `quote_plus` writes a byte as forms do. -/
theorem quotePlusByte_eq : Python.quotePlusByte = formEscape := by
  funext b
  revert b
  exact forall_byte (by decide +kernel)

/-- The fields of the query of a call. -/
def pyFields : Python.BusinessCall → List (String × PyStr)
  | .reading (.getLedger _ after limit) =>
      [("after_sequence", Python.strInt after), ("limit", Python.strInt limit)]
  | .reading (.listBusinesses search offset limit) =>
      [("search", search), ("offset", Python.strInt offset), ("limit", Python.strInt limit)]
  | .reading (.listUsageDecisions _ offset limit) | .reading (.listBusinessAudit _ offset limit) =>
      [("offset", Python.strInt offset), ("limit", Python.strInt limit)]
  | _ => []

/-- The bytes of a field; a text with a lone surrogate has none. -/
def textField (field : String × PyStr) : Except Python.PyError (List UInt8 × List UInt8) :=
  (Python.encodeUtf8 field.2).map fun bytes => (utf8 field.1, bytes)

/-- A field of Unicode text has its bytes. -/
theorem textField_str (name value : String) :
    textField (name, str value) = .ok (utf8Field (name, value)) := by
  simp only [textField, Python.encodeUtf8, str, Text.isScalar_ofString, if_true,
    Text.toScalars_ofString]
  rfl

/-- A path, or the end of one, with the fields of a query. -/
def TextAsks (text : PyStr) (pairs : List (String × PyStr)) : Prop :=
  ∃ bytes, pairs.mapM textField = .ok bytes ∧ Asks (characters text) bytes

/-- A text in which no query and no fragment begins. -/
def PlainText (text : PyStr) : Prop := Queryless (characters text)

/-- Two such texts make one. -/
theorem PlainText.append {t u : PyStr} (ht : PlainText t) (hu : PlainText u) :
    PlainText (t ++ u) := by
  rw [PlainText, characters_append]
  exact Queryless.append ht hu

/-- A string of Go that is a path is one in Python. -/
theorem plainText_str {s : String} (h : Queryless s.toList) : PlainText (str s) := by
  rwa [PlainText, characters_str]

/-- A quoted identifier is such text. -/
theorem plainText_quote {t quoted : PyStr} (h : Python.quote t = .ok quoted) :
    PlainText quoted := by
  rcases (bind_eq_ok_iff _ _ _).mp h with ⟨bytes, -, h⟩
  have hbytes : ∀ b, Queryless (Python.quoteByte b) := forall_byte (by decide +kernel)
  rw [← Except.ok.inj h, PlainText, characters_encoded]
  exact queryless_flatMap hbytes bytes

/-- A path asks for nothing. -/
theorem textAsks_plain {text : PyStr} (h : PlainText text) : TextAsks text [] :=
  ⟨[], rfl, .plain h⟩

/-- A path asks for what its end asks for. -/
theorem TextAsks.behind {front text : PyStr} {pairs : List (String × PyStr)}
    (hfront : PlainText front) (h : TextAsks text pairs) : TextAsks (front ++ text) pairs := by
  rcases h with ⟨bytes, hbytes, hasks⟩
  refine ⟨bytes, hbytes, ?_⟩
  rw [characters_append]
  exact .behind hfront hasks

/-- A path below a business. -/
theorem pyBusinessPath_asks {c : Python.MizanClient} {b suffix path : PyStr}
    {pairs : List (String × PyStr)} (h : c.businessPath b suffix = .ok path)
    (hsuffix : TextAsks suffix pairs) : TextAsks path pairs := by
  rcases exists_quote_of_businessPath h with ⟨segment, hsegment, rfl⟩
  refine .behind (.append (.append (plainText_str (by decide)) ?_) (plainText_str (by decide)))
    hsuffix
  exact plainText_quote hsegment

/-- The same for the admin API. -/
theorem pyAdminBusinessPath_asks {b suffix path : PyStr} {pairs : List (String × PyStr)}
    (h : Python.adminBusinessPath b suffix = .ok path) (hsuffix : TextAsks suffix pairs) :
    TextAsks path pairs := by
  rcases (bind_eq_ok_iff _ _ _).mp h with ⟨segment, hsegment, h⟩
  rw [← Except.ok.inj h]
  refine .behind (.append (.append (plainText_str (by decide)) ?_) (plainText_str (by decide)))
    hsuffix
  exact plainText_quote hsegment

/-- The path of a feature asks for nothing. -/
theorem pyFeaturePath_asks {c : Python.MizanClient} {b feature path : PyStr} {action : String}
    (h : c.featurePath b feature action = .ok path) (haction : Queryless action.toList) :
    TextAsks path [] := by
  rcases (bind_eq_ok_iff _ _ _).mp h with ⟨quoted, hquoted, h⟩
  apply pyBusinessPath_asks h
  exact textAsks_plain (((plainText_str (by decide)).append (plainText_quote hquoted)).append
    (plainText_str haction))

/-- The path of a mutating call has no query. -/
theorem pyMutation_asks {m : Python.MutatingCall} {a : Python.MizanAdminClient} {path : PyStr}
    (h : m.path a = .ok path) : TextAsks path [] := by
  cases m with
  | activateSubscription b r | refundProviderBalance b r =>
      rcases (bind_eq_ok_iff _ _ _).mp h with ⟨_, -, h⟩
      rcases (bind_eq_ok_iff _ _ _).mp h with ⟨_, -, h⟩
      exact pyBusinessPath_asks h (textAsks_plain (plainText_str (by decide)))
  | applyRenewalEvent b r | topUpAzeerUnits b r | topUpProviderBalance b r =>
      rcases (bind_eq_ok_iff _ _ _).mp h with ⟨_, -, h⟩
      exact pyBusinessPath_asks h (textAsks_plain (plainText_str (by decide)))
  | changeSubscription b r | cancelSubscription b r | consume b r =>
      exact pyBusinessPath_asks h (textAsks_plain (plainText_str (by decide)))
  | setFeatureBudget b feature r => exact pyFeaturePath_asks h (by decide)
  | configureAddon code r =>
      rcases exists_quote_of_addonPath h with ⟨quoted, hquoted, rfl⟩
      exact textAsks_plain ((plainText_str (by decide)).append (plainText_quote hquoted))
  | configureGlobalDeliveryEndpoint kind r =>
      rcases (bind_eq_ok_iff _ _ _).mp h with ⟨_, hkind, h⟩
      rw [← Except.ok.inj h]
      rcases validateDeliveryKind_eq_ok hkind with ⟨name, rfl, rfl | rfl⟩
      · exact textAsks_plain ((plainText_str (by decide)).append (plainText_str (by decide)))
      · exact textAsks_plain ((plainText_str (by decide)).append (plainText_str (by decide)))
  | configureBusinessDeliveryEndpoint b kind r =>
      rcases (bind_eq_ok_iff _ _ _).mp h with ⟨_, hkind, h⟩
      apply pyAdminBusinessPath_asks h
      rcases validateDeliveryKind_eq_ok hkind with ⟨name, rfl, rfl | rfl⟩
      · exact textAsks_plain ((plainText_str (by decide)).append (plainText_str (by decide)))
      · exact textAsks_plain ((plainText_str (by decide)).append (plainText_str (by decide)))

/-- The query of a page. -/
theorem pageQuery_asks {resource first : String} (hresource : Queryless resource.toList)
    (hfirst : formEncoder.encode (utf8 first) = first.toList) (m n : ℤ) :
    TextAsks (str resource ++ str ("?" ++ first ++ "=") ++ Python.strInt m ++ str "&limit=" ++
        Python.strInt n) [(first, Python.strInt m), ("limit", Python.strInt n)] := by
  refine ⟨[utf8Field (first, toString m), utf8Field ("limit", toString n)], ?_, ?_⟩
  · rw [Python.strInt, Python.strInt, List.mapM_cons, textField_str, List.mapM_cons,
      textField_str]
    rfl
  · have hquery : characters (str resource ++ str ("?" ++ first ++ "=") ++ Python.strInt m ++
        str "&limit=" ++ Python.strInt n) = resource.toList ++ '?' :: formEncoder.encodeFields
          [utf8Field (first, toString m), utf8Field ("limit", toString n)] := by
      rw [Encoder.encodeFields, List.map_cons, List.map_singleton, encodeField_number hfirst,
        encodeField_number (by decide +kernel)]
      simp [characters_append, characters_str, Python.strInt, String.toList_append]
    rw [hquery]
    exact .behind hresource (.query _)

/-- The suffix of a page of a list. -/
theorem pageSuffix_asks {resource : String} (h : Queryless resource.toList) (offset limit : ℤ) :
    TextAsks (Python.pageSuffix resource offset limit)
      [("offset", Python.strInt offset), ("limit", Python.strInt limit)] := by
  have hfirst : "?offset=" = "?" ++ "offset" ++ "=" := by decide
  rw [Python.pageSuffix, hfirst]
  exact pageQuery_asks h (by decide +kernel) offset limit

/-- The query of a list that is searched. -/
theorem searchQuery_asks {search path : PyStr} {offset limit : ℤ}
    (h : Python.businessesPath search offset limit = .ok path) :
    TextAsks path [("search", search), ("offset", Python.strInt offset),
      ("limit", Python.strInt limit)] := by
  rcases (bind_eq_ok_iff _ _ _).mp h with ⟨quoted, hquoted, h⟩
  rcases (bind_eq_ok_iff _ _ _).mp hquoted with ⟨bytes, hbytes, hquoted⟩
  refine ⟨[(utf8 "search", bytes), utf8Field ("offset", toString offset),
    utf8Field ("limit", toString limit)], ?_, ?_⟩
  · have hsearch : textField ("search", search) = .ok (utf8 "search", bytes) := by
      rw [textField, hbytes]
      rfl
    rw [Python.strInt, Python.strInt, List.mapM_cons, hsearch, List.mapM_cons, textField_str,
      List.mapM_cons, textField_str]
    rfl
  · have hname : formEncoder.encode (utf8 "search") = "search".toList := by decide +kernel
    have hencoded : characters quoted = formEncoder.encode bytes := by
      rw [← Except.ok.inj hquoted, characters_encoded, quotePlusByte_eq]
      rfl
    have hquery : characters path = "/admin/api/businesses".toList ++ '?' ::
        formEncoder.encodeFields [(utf8 "search", bytes), utf8Field ("offset", toString offset),
          utf8Field ("limit", toString limit)] := by
      rw [← Except.ok.inj h, Encoder.encodeFields, List.map_cons, List.map_cons,
        List.map_singleton, encodeField_number (by decide +kernel),
        encodeField_number (by decide +kernel), Encoder.encodeField, hname]
      simp [characters_append, characters_str, Python.strInt, hencoded]
    rw [hquery]
    exact .behind (by decide) (.query _)

/-- The path of a reading call. -/
theorem pyReading_asks {r : Python.ReadingCall} {a : Python.MizanAdminClient} {path : PyStr}
    (h : r.path a = .ok path) : TextAsks path (pyFields (.reading r)) := by
  cases r with
  | checkEligibility b feature request => exact pyFeaturePath_asks h (by decide)
  | getEntitlement b capability =>
      rcases (bind_eq_ok_iff _ _ _).mp h with ⟨quoted, hquoted, h⟩
      apply pyBusinessPath_asks h
      exact textAsks_plain ((plainText_str (by decide)).append (plainText_quote hquoted))
  | getCatalog | getGlobalDeliveryEndpoints | listAddons =>
      rw [← Except.ok.inj h]
      exact textAsks_plain (plainText_str (by decide))
  | previewBalanceImpact b request | getBillingSummary b =>
      exact pyBusinessPath_asks h (textAsks_plain (plainText_str (by decide)))
  | getLedger b after limit =>
      rcases (bind_eq_ok_iff _ _ _).mp h with ⟨_, -, h⟩
      rcases (bind_eq_ok_iff _ _ _).mp h with ⟨start, hstart, h⟩
      rcases exists_quote_of_businessPath hstart with ⟨segment, hsegment, rfl⟩
      rw [← Except.ok.inj h]
      have hsplit : str "/v1/businesses/" ++ segment ++ str "/" ++ str "ledger" ++
          str "?after_sequence=" ++ Python.strInt after ++ str "&limit=" ++ Python.strInt limit =
            (str "/v1/businesses/" ++ segment ++ str "/") ++ (str "ledger" ++
              str ("?" ++ "after_sequence" ++ "=") ++ Python.strInt after ++ str "&limit=" ++
                Python.strInt limit) := by
        simp only [List.append_assoc]
        rfl
      rw [hsplit]
      refine .behind (((plainText_str (by decide)).append (plainText_quote hsegment)).append
        (plainText_str (by decide))) ?_
      exact pageQuery_asks (by decide) (by decide +kernel) after limit
  | listBusinesses search offset limit => exact searchQuery_asks h
  | listUsageDecisions b offset limit | listBusinessAudit b offset limit =>
      exact pyAdminBusinessPath_asks h (pageSuffix_asks (by decide) offset limit)
  | getBusinessDeliveryEndpoints b =>
      exact pyAdminBusinessPath_asks h (textAsks_plain (plainText_str (by decide)))

/-- What a call of the Python SDK puts behind the base URL. -/
theorem pyCall_asks {call : Python.BusinessCall} {a : Python.MizanAdminClient}
    {py : Python.BuilderInterpreter} {env : Python.Env} {key : Option PyStr}
    {request : Python.Request} (h : request ∈ (call.perform a py env key).attempts) :
    ∃ path, request.url = a.baseUrl ++ path ∧ TextAsks path (pyFields call) := by
  rcases pyCall_url h with ⟨path, hpath, hurl⟩
  refine ⟨path, hurl, ?_⟩
  cases call with
  | mutating m => exact pyMutation_asks hpath
  | reading r => exact pyReading_asks hpath
  | metering b u => exact pyBusinessPath_asks hpath (textAsks_plain (plainText_str (by decide)))

/-- Whatever a call of the Python SDK sends, its texts can be encoded, and a server finds the
fields of the call and no others in the query of what stands behind the base URL, and of the
whole URL if no query and no fragment begins in the base. -/
theorem pyCall_query {call : Python.BusinessCall} {a : Python.MizanAdminClient}
    {py : Python.BuilderInterpreter} {env : Python.Env} {key : Option PyStr}
    {request : Python.Request} (h : request ∈ (call.perform a py env key).attempts) :
    ∃ bytes, (pyFields call).mapM textField = .ok bytes ∧
      (∃ path, request.url = a.baseUrl ++ path ∧ QueryIs (characters path) bytes) ∧
      (Queryless (characters a.baseUrl) → QueryIs (characters request.url) bytes) := by
  rcases pyCall_asks h with ⟨path, hurl, bytes, hbytes, hasks⟩
  refine ⟨bytes, hbytes, ⟨path, hurl, hasks.queryIs⟩, fun hbase => ?_⟩
  rw [hurl, characters_append]
  exact (Asks.behind hbase hasks).queryIs

/-! ## Both SDKs -/

/-- A page both SDKs can ask for. -/
inductive Listing where
  | businesses (search : String) (offset limit : ℤ)
  | usageDecisions (businessID : String) (offset limit : ℤ)
  | businessAudit (businessID : String) (offset limit : ℤ)
  | ledger (businessID : String) (after limit : ℤ)

/-- The call of the Go SDK. -/
def Listing.go : Listing → Go.MethodCall
  | .businesses search offset limit => .overall (.listBusinesses search offset limit)
  | .usageDecisions b offset limit => .business (.reading (.listUsageDecisions b offset limit))
  | .businessAudit b offset limit => .business (.reading (.listBusinessAudit b offset limit))
  | .ledger b after limit => .business (.reading (.getLedger b after limit))

/-- The call of the Python SDK. -/
def Listing.py : Listing → Python.BusinessCall
  | .businesses search offset limit => .reading (.listBusinesses (str search) offset limit)
  | .usageDecisions b offset limit => .reading (.listUsageDecisions (str b) offset limit)
  | .businessAudit b offset limit => .reading (.listBusinessAudit (str b) offset limit)
  | .ledger b after limit => .reading (.getLedger (str b) after limit)

/-- The fields of both calls, in their orders. -/
theorem Listing.fields_perm (l : Listing) : ∃ bytes, (pyFields l.py).mapM textField = .ok bytes ∧
    bytes.Perm ((goFields l.go).map utf8Field) := by
  cases l with
  | businesses search offset limit =>
      refine ⟨[utf8Field ("search", search), utf8Field ("offset", toString offset),
        utf8Field ("limit", toString limit)], ?_, ?_⟩
      · simp only [Listing.py, pyFields, Python.strInt, List.mapM_cons, List.mapM_nil,
          textField_str]
        rfl
      · exact (List.Perm.cons _ (List.Perm.swap _ _ _)).trans
          ((List.Perm.swap _ _ _).trans (List.Perm.cons _ (List.Perm.swap _ _ _)))
  | usageDecisions b offset limit | businessAudit b offset limit =>
      refine ⟨[utf8Field ("offset", toString offset), utf8Field ("limit", toString limit)],
        ?_, List.Perm.swap _ _ _⟩
      simp only [Listing.py, pyFields, Python.strInt, List.mapM_cons, List.mapM_nil,
        textField_str]
      rfl
  | ledger b after limit =>
      refine ⟨[utf8Field ("after_sequence", toString after), utf8Field ("limit", toString limit)],
        ?_, List.Perm.refl _⟩
      simp only [Listing.py, pyFields, Python.strInt, List.mapM_cons, List.mapM_nil,
        textField_str]
      rfl

/-- Both SDKs ask for the same page: whatever each of them sends, a server finds the same
fields in both queries, up to their order. -/
theorem listing_queries_agree (l : Listing) {a : Go.AdminClient} {env : Go.Env} {key : String}
    {sent : Go.HTTPRequest} (hsent : sent ∈ (l.go.perform a env key).attempts)
    {a' : Python.MizanAdminClient} {py : Python.BuilderInterpreter} {env' : Python.Env}
    {key' : Option PyStr} {sent' : Python.Request}
    (hsent' : sent' ∈ (l.py.perform a' py env' key').attempts) :
    ∃ path path' asked asked', sent.url = a.client.baseURL ++ path ∧
      sent'.url = a'.baseUrl ++ path' ∧ fields (queryOf path.toList) = some asked ∧
      fields (queryOf (characters path')) = some asked' ∧ asked'.Perm asked := by
  rcases goCall_asks hsent with ⟨path, hurl, hasks⟩
  rcases pyCall_asks hsent' with ⟨path', hurl', bytes, hbytes, hasks'⟩
  rcases l.fields_perm with ⟨bytes', hbytes', hperm⟩
  obtain rfl : bytes = bytes' := Except.ok.inj (hbytes.symm.trans hbytes')
  exact ⟨path, path', _, bytes, hurl, hurl', hasks.fields_eq, hasks'.fields_eq, hperm⟩

/-- A search text that looks like a query of its own. -/
def trickySearch : Listing := .businesses "a&limit=9999#?" 0 25

/-- The Go SDK sends a request for it. -/
theorem trickySearch_sent :
    ∃ sent, sent ∈ (trickySearch.go.perform Go.shopAdmin Go.unansweredEnv "").attempts := by
  have hactor : Go.shopAdmin.actorCheck = none := by decide
  have hsendable : (trickySearch.go.plan Go.shopAdmin Go.unansweredEnv "").Sendable
      Go.shopAdmin.client Go.unansweredEnv := ⟨hactor, ⟨none, rfl⟩, rfl⟩
  rcases Go.Plan.run_sends hsendable (fun h => nomatch h) with ⟨payload, j, r, hj, hrun⟩
  rw [Go.MethodCall.perform_eq_run, hrun]
  exact ⟨_, List.mem_map_of_mem (List.mem_range'_1.mpr ⟨le_rfl, by omega⟩)⟩

/-- So does the Python SDK. -/
theorem trickySearch_sent_py :
    ∃ sent, sent ∈ (trickySearch.py.perform Python.opsAdmin Python.asciiInterpreter
      Python.unansweredEnv none).attempts := by
  have hpath : ∃ path, Python.businessesPath (str "a&limit=9999#?") 0 25 = .ok path := by
    simp only [Python.businessesPath, Python.quotePlus, Python.encodeUtf8, str,
      Text.isScalar_ofString, if_true]
    exact ⟨_, rfl⟩
  rcases hpath with ⟨path, hpath⟩
  have hencode : Python.unansweredEnv.encode none = .ok none := rfl
  rcases Python.opsAdmin.request_decided rfl hencode with ⟨j, r, hdec, hrun⟩
  have hperform : trickySearch.py.perform Python.opsAdmin Python.asciiInterpreter
      Python.unansweredEnv none = Python.opsAdmin.request Python.unansweredEnv "GET" path none []
        none false Python.opsAdmin.adminHeaders := by
    rw [trickySearch, Listing.py, Python.BusinessCall.perform, Python.ReadingCall.perform_eq]
    simp only [Python.ReadingCall.path, hpath]
    rfl
  rw [hperform, hrun]
  exact ⟨_, List.mem_map_of_mem (List.mem_range'_1.mpr ⟨le_rfl, by have := hdec.le; omega⟩)⟩

/-- What either SDK makes of it is decoded to the same fields. -/
theorem trickySearch_kept :
    ∃ sent ∈ (trickySearch.go.perform Go.shopAdmin Go.unansweredEnv "").attempts,
    ∃ sent' ∈ (trickySearch.py.perform Python.opsAdmin Python.asciiInterpreter
      Python.unansweredEnv none).attempts,
    ∃ path path' asked asked', sent.url = Go.shopAdmin.client.baseURL ++ path ∧
      sent'.url = Python.opsAdmin.baseUrl ++ path' ∧ fields (queryOf path.toList) = some asked ∧
      fields (queryOf (characters path')) = some asked' ∧ asked'.Perm asked := by
  rcases trickySearch_sent with ⟨sent, hsent⟩
  rcases trickySearch_sent_py with ⟨sent', hsent'⟩
  exact ⟨sent, hsent, sent', hsent', listing_queries_agree trickySearch hsent hsent'⟩

/-- A call with that search and what is found in the query of its URL. -/
theorem trickySearch_found :
    ∃ sent ∈ (trickySearch.go.perform Go.shopAdmin Go.unansweredEnv "").attempts,
      (∃ path, sent.url = Go.shopAdmin.client.baseURL ++ path ∧
        QueryIs path.toList ((goFields trickySearch.go).map utf8Field)) ∧
      QueryIs sent.url.toList ([("limit", "25"), ("offset", "0"),
        ("search", "a&limit=9999#?")].map utf8Field) := by
  rcases trickySearch_sent with ⟨sent, hsent⟩
  have hquery := goCall_query hsent
  exact ⟨sent, hsent, hquery.1, hquery.2 (by decide)⟩

/-- The same for the Python SDK. -/
theorem trickySearch_found_py :
    ∃ sent ∈ (trickySearch.py.perform Python.opsAdmin Python.asciiInterpreter
      Python.unansweredEnv none).attempts,
    ∃ bytes, [("search", str "a&limit=9999#?"), ("offset", Python.strInt 0),
        ("limit", Python.strInt 25)].mapM textField = .ok bytes ∧
      (∃ path, sent.url = Python.opsAdmin.baseUrl ++ path ∧ QueryIs (characters path) bytes) ∧
      QueryIs (characters sent.url) bytes := by
  rcases trickySearch_sent_py with ⟨sent, hsent⟩
  rcases pyCall_query hsent with ⟨bytes, hbytes, hbehind, hwhole⟩
  exact ⟨sent, hsent, bytes, hbytes, hbehind, hwhole (by decide)⟩

end MizanSDK.Agreement
