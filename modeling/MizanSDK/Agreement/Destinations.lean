import MizanSDK.Agreement.BaseURLs
import MizanSDK.Agreement.RequestPaths
import MizanSDK.Library.Numerals

/-!
# Where a client sends its requests

A base URL addresses the right endpoints of API paths, and those are what both SDKs put
behind it: their paths and queries are written from fixed text, escapes and integers.  A
client of a plain base therefore sends every request of every method to the endpoint of
its path.

Main results:

- Theorems `goPlan_apiPath` and `pyPath_apiText`: the paths of all calls are API paths.
- Theorems `goCall_addresses` and `pyCall_addresses`: the requests of a client of a plain
  base go to endpoints below it.
-/

namespace MizanSDK.Agreement

open Endpoints JsonText Bytes Routes Checks
open Python (PyStr str)

/-! ## Text of a URL -/

/-- Text that a path and a query can be written from: visible ASCII characters but the
number sign, and percent signs only in front of two hexadecimal digits. -/
def writable (text : List Char) : Bool :=
  text.all (fun c => decide ('!' ≤ c) && decide (c ≤ '~') && !(c == '#')) && Go.validEscapes text

/-- Two pieces of such text make one. -/
theorem writable_append {front back : List Char} (hfront : writable front = true)
    (hback : writable back = true) : writable (front ++ back) = true := by
  rw [writable, Bool.and_eq_true] at hfront hback ⊢
  rw [List.all_append, hfront.1, hback.1]
  exact ⟨rfl, Go.validEscapes_append hfront.2 hback.2⟩

/-- So do the escapes of many items. -/
theorem writable_flatMap {α : Type} {escape : α → List Char}
    (h : ∀ a, writable (escape a) = true) (items : List α) :
    writable (items.flatMap escape) = true := by
  induction items with
  | nil => rfl
  | cons a items ih =>
      rw [List.flatMap_cons]
      exact writable_append (h a) ih

/-- What is written for the bytes of a text. -/
theorem writable_bytes {escape : UInt8 → List Char}
    (h : ∀ n : Fin 256, writable (escape (UInt8.ofNat n)) = true) (b : UInt8) :
    writable (escape b) = true := by
  have hb := h ⟨b.toNat, b.toNat_lt⟩
  rwa [UInt8.ofNat_toNat] at hb

/-- `url.PathEscape` writes such text. -/
theorem writable_escapeByte (b : UInt8) : writable (Go.escapeByte b) = true :=
  writable_bytes (by decide +kernel) b

/-- So does `url.QueryEscape`. -/
theorem writable_queryEscapeByte (b : UInt8) : writable (Go.queryEscapeByte b) = true :=
  writable_bytes (by decide +kernel) b

/-- So does `quote`. -/
theorem writable_quoteByte (b : UInt8) : writable (Python.quoteByte b) = true :=
  writable_bytes (by decide +kernel) b

/-- So does `quote_plus`. -/
theorem writable_quotePlusByte (b : UInt8) : writable (Python.quotePlusByte b) = true :=
  writable_bytes (by decide +kernel) b

/-- Digits are such text. -/
theorem writable_digit {c : Char} (h : Decimal.isAsciiDigit c = true) : writable [c] = true := by
  have hchar := Char.ofNat_toNat c
  rw [Decimal.isAsciiDigit, Bool.and_eq_true, decide_eq_true_eq, decide_eq_true_eq] at h
  have hlow : 48 ≤ c.toNat := h.1
  have hhigh : c.toNat ≤ 57 := h.2
  generalize c.toNat = n at hchar hlow hhigh
  rw [← hchar]
  interval_cases n <;> decide

/-- So is text of such characters. -/
theorem writable_of_forall {text : List Char} (h : ∀ c ∈ text, writable [c] = true) :
    writable text = true := by
  induction text with
  | nil => rfl
  | cons c text ih =>
      rw [List.forall_mem_cons] at h
      exact writable_append h.1 (ih h.2)

/-- A string of such text. -/
def Written (s : String) : Prop := writable s.toList = true

instance (s : String) : Decidable (Written s) := inferInstanceAs (Decidable (_ = true))

/-- Strings of such text are put together to one. -/
theorem Written.append {s t : String} (hs : Written s) (ht : Written t) : Written (s ++ t) := by
  rw [Written, String.toList_append]
  exact writable_append hs ht

/-- An integer is printed in such text. -/
theorem written_toString (n : ℤ) : Written (toString n) := by
  have hdigits := Decimal.isDigits_toDigits n.natAbs
  rw [Decimal.isDigits, Bool.and_eq_true, List.all_eq_true] at hdigits
  rw [Written, Decimal.toList_toString]
  apply writable_append
  · split
    · decide
    · rfl
  · exact writable_of_forall fun c hc => writable_digit (hdigits.2 c hc)

/-- Cutting off the query leaves the escapes of the path proper. -/
theorem validEscapes_takeWhile {text : List Char} (h : Go.validEscapes text = true) :
    Go.validEscapes (text.takeWhile (· ≠ '?')) = true := by
  have hhex : ∀ c, (hexValue c).isSome = true → decide (c ≠ '?') = true := by
    intro c hc
    rw [decide_eq_true_eq]
    rintro rfl
    exact absurd hc (by decide)
  fun_induction Go.validEscapes text with
  | case1 => rfl
  | case2 high low rest ih =>
      rw [Bool.and_eq_true, Bool.and_eq_true] at h
      rw [List.takeWhile_cons_of_pos (by decide),
        List.takeWhile_cons_of_pos (p := fun c => decide (c ≠ '?')) (hhex high h.1.1),
        List.takeWhile_cons_of_pos (p := fun c => decide (c ≠ '?')) (hhex low h.1.2),
        Go.validEscapes, h.1.1, h.1.2, ih h.2]
      rfl
  | case3 => cases h
  | case4 c rest hne ih =>
      by_cases hquery : c = '?'
      · rw [hquery]
        rfl
      · rw [List.takeWhile_cons_of_pos (p := fun c => decide (c ≠ '?')) (decide_eq_true hquery),
          Go.validEscapes]
        · exact ih h
        · exact hne

/-- Bytes are written in such text if each of them is. -/
theorem written_encoded {escape : UInt8 → List Char} (h : ∀ b, writable (escape b) = true)
    (bytes : List UInt8) : Written (String.ofList (bytes.flatMap escape)) := by
  rw [Written, String.toList_ofList]
  exact writable_flatMap h bytes

/-- A segment of a path is such text. -/
theorem written_pathEscape (s : String) : Written (Go.pathEscape s) :=
  written_encoded writable_escapeByte _

/-- So is a component of a query. -/
theorem written_queryEscape (s : String) : Written (Go.queryEscape s) :=
  written_encoded writable_queryEscapeByte _

/-- A value in a query with its key. -/
theorem written_pair (key value : String) :
    Written (Go.queryEscape key ++ "=" ++ Go.queryEscape value) :=
  ((written_queryEscape key).append (by decide)).append (written_queryEscape value)

/-- An absolute path with its query, written from such text, is an API path. -/
theorem Written.apiPath {p : String} (h : Written p) (habsolute : p.toList.head? = some '/') :
    Go.ApiPath p := by
  rw [Written, writable, Bool.and_eq_true, List.all_eq_true] at h
  refine ⟨⟨habsolute, fun c hc => ?_⟩, validEscapes_takeWhile h.2⟩
  simpa [and_assoc] using h.1 c hc

/-- A path is an API path whatever such text follows its start. -/
theorem apiPath_append {start rest : String} (hstart : Written start)
    (habsolute : start.toList.head? = some '/') (hrest : Written rest) :
    Go.ApiPath (start ++ rest) := by
  apply (hstart.append hrest).apiPath
  rw [String.toList_append, List.head?_append, habsolute]
  rfl

/-! ## Calls of the Go SDK -/

/-- A path below a business is an API path. -/
theorem businessPath_apiPath (b : String) {suffix : String} (h : Written suffix) :
    Go.ApiPath (Go.businessPath b suffix) := by
  have hrest : Written (Go.pathEscape b ++ ("/" ++ suffix)) :=
    (written_pathEscape b).append (.append (by decide) h)
  have hpath : Go.businessPath b suffix =
      "/v1/businesses/" ++ (Go.pathEscape b ++ ("/" ++ suffix)) := by
    unfold Go.businessPath
    rw [String.append_assoc, String.append_assoc]
  rw [hpath]
  exact apiPath_append (by decide) (by decide) hrest

/-- So is one below a business of the admin API. -/
theorem adminBusinessPath_apiPath (b : String) {suffix : String} (h : Written suffix) :
    Go.ApiPath (Go.adminBusinessPath b suffix) := by
  have hrest : Written (Go.pathEscape b ++ ("/" ++ suffix)) :=
    (written_pathEscape b).append (.append (by decide) h)
  have hpath : Go.adminBusinessPath b suffix =
      "/admin/api/businesses/" ++ (Go.pathEscape b ++ ("/" ++ suffix)) := by
    unfold Go.adminBusinessPath
    rw [String.append_assoc, String.append_assoc]
  rw [hpath]
  exact apiPath_append (by decide) (by decide) hrest

/-- The path of a mutating call whose arguments pass their check. -/
theorem goMutation_apiPath {m : Go.MutatingCall} {a : Go.AdminClient}
    (h : m.argumentCheck a = none) : Go.ApiPath m.target.2.1 := by
  cases m with
  | activateSubscription | changeSubscription | cancelSubscription | applyRenewalEvent
  | topUpAzeerUnits | topUpProviderBalance | refundProviderBalance | consume =>
      exact businessPath_apiPath _ (by decide)
  | setFeatureBudget b feature r =>
      apply businessPath_apiPath
      exact (Written.append (by decide) (written_pathEscape feature)).append (by decide)
  | configureAddon code input =>
      exact apiPath_append (by decide) (by decide) (written_pathEscape code)
  | configureGlobalDeliveryEndpoint kind input =>
      have hkind := (validateDeliveryKind_eq_none_iff kind).mp (Option.or_eq_none_iff.mp h).1
      apply apiPath_append (by decide) (by decide)
      rcases hkind with rfl | rfl
      · decide
      · decide
  | configureBusinessDeliveryEndpoint b kind input =>
      have hkind := (validateDeliveryKind_eq_none_iff kind).mp (Option.or_eq_none_iff.mp h).1
      have hpath : Go.adminBusinessPath b "delivery-endpoints/" ++ kind =
          Go.adminBusinessPath b ("delivery-endpoints/" ++ kind) := String.append_assoc
      change Go.ApiPath (Go.adminBusinessPath b "delivery-endpoints/" ++ kind)
      rw [hpath]
      apply adminBusinessPath_apiPath
      rcases hkind with rfl | rfl
      · decide
      · decide

/-- The values of a page of a list. -/
theorem written_encodeValues_pair (first second : String × String) :
    Written (Go.encodeValues [first, second]) :=
  ((written_pair _ _).append (by decide)).append (written_pair _ _)

/-- The values of a page of a list that is searched. -/
theorem written_encodeValues_triple (first second third : String × String) :
    Written (Go.encodeValues [first, second, third]) :=
  ((((written_pair _ _).append (by decide)).append (written_pair _ _)).append
    (by decide)).append (written_pair _ _)

/-- The path of a reading call below a business. -/
theorem goReading_apiPath (r : Go.ReadingCall) (a : Go.AdminClient) :
    Go.ApiPath (r.plan a).path := by
  cases r with
  | checkEligibility b feature request =>
      apply businessPath_apiPath
      exact (Written.append (by decide) (written_pathEscape feature)).append (by decide)
  | getEntitlement b capability =>
      apply businessPath_apiPath
      exact Written.append (by decide) (written_pathEscape capability)
  | previewBalanceImpact | getBillingSummary => exact businessPath_apiPath _ (by decide)
  | getLedger b after limit =>
      have hpath : ((Go.ReadingCall.getLedger b after limit).plan a).path =
          Go.businessPath b ("ledger" ++ ("?after_sequence=" ++
            (toString after ++ ("&limit=" ++ toString limit)))) := by
        unfold Go.ReadingCall.plan Go.Plan.ofRead Go.businessPath
        simp only [String.append_assoc]
      rw [hpath]
      apply businessPath_apiPath
      exact .append (by decide) (.append (by decide) ((written_toString after).append
        (.append (by decide) (written_toString limit))))
  | listUsageDecisions b offset limit | listBusinessAudit b offset limit =>
      have hpath : ∀ resource query : String, Go.adminBusinessPath b resource ++ query =
          Go.adminBusinessPath b (resource ++ query) := fun _ _ => String.append_assoc
      change Go.ApiPath (Go.adminBusinessPath b _ ++ _)
      rw [hpath]
      apply adminBusinessPath_apiPath
      exact .append (by decide) (written_encodeValues_pair _ _)
  | getBusinessDeliveryEndpoints => exact adminBusinessPath_apiPath _ (by decide)

/-- The path of any call that gets as far as sending. -/
theorem goPlan_apiPath {call : Go.MethodCall} {a : Go.AdminClient} {env : Go.Env} {key : String}
    (h : (call.plan a env key).check = none) : Go.ApiPath (call.plan a env key).path := by
  cases call with
  | business call =>
      cases call with
      | mutating m => exact goMutation_apiPath h
      | reading r => exact goReading_apiPath r a
      | metering b u =>
          rw [Go.MethodCall.plan, Go.BusinessCall.plan] at h ⊢
          split at h
          · rename_i request _
            exact goMutation_apiPath (m := .consume b request) (a := a) h
          · cases h
  | overall call =>
      cases call with
      | getCatalog => exact catalog_apiPath
      | getGlobalDeliveryEndpoints =>
          exact Written.apiPath (p := "/admin/api/delivery-endpoints") (by decide) (by decide)
      | listAddons => exact Written.apiPath (p := "/admin/api/addons") (by decide) (by decide)
      | listBusinesses search offset limit =>
          exact apiPath_append (by decide) (by decide) (written_encodeValues_triple _ _ _)

/-- Every request of a client whose base has no delimiter goes to the endpoint of an API path
below the base. -/
theorem goCall_addresses {net : Go.NetURL} {baseURL token : String} {a : Go.AdminClient}
    (hclient : Go.newClient net baseURL token = .ok a.client) (hquestion : '?' ∉ baseURL.toList)
    (hhash : '#' ∉ baseURL.toList) {call : Go.MethodCall} {env : Go.Env} {key : String}
    {request : Go.HTTPRequest} (h : request ∈ (call.perform a env key).attempts) :
    ∃ p, request.url = a.client.baseURL ++ p ∧ net.Addresses a.client.baseURL p := by
  rw [Go.MethodCall.perform_eq_run] at h
  have hplan := plan_url h
  have hpath := goPlan_apiPath hplan.1
  exact ⟨_, hplan.2, (Go.newClient_addresses_iff hclient hpath).mpr ⟨hquestion, hhash⟩⟩

/-! ## Calls of the Python SDK -/

/-- A text of Python that is such a string. -/
def WrittenText (t : PyStr) : Prop := ∃ s, t = str s ∧ Written s

/-- The same of a string of Python. -/
theorem writtenText_str {s : String} (h : Written s) : WrittenText (str s) := ⟨s, rfl, h⟩

/-- Texts of Python are put together to one. -/
theorem WrittenText.append {t u : PyStr} (ht : WrittenText t) (hu : WrittenText u) :
    WrittenText (t ++ u) := by
  rcases ht with ⟨s, rfl, hs⟩
  rcases hu with ⟨s', rfl, hs'⟩
  refine ⟨s ++ s', ?_, hs.append hs'⟩
  simp [Text.ofString]

/-- Python prints integers in such text. -/
theorem writtenText_strInt (n : ℤ) : WrittenText (Python.strInt n) :=
  writtenText_str (written_toString n)

/-- What is quoted is such text, and so is the value of a query. -/
theorem writtenText_quote {t quoted : PyStr} (h : Python.quote t = .ok quoted) :
    WrittenText quoted := by
  rcases (bind_eq_ok_iff _ _ _).mp h with ⟨bytes, -, h⟩
  rw [← Except.ok.inj h]
  exact writtenText_str (written_encoded writable_quoteByte bytes)

/-- So does `quote_plus` with the value of a query. -/
theorem writtenText_quotePlus {t quoted : PyStr} (h : Python.quotePlus t = .ok quoted) :
    WrittenText quoted := by
  rcases (bind_eq_ok_iff _ _ _).mp h with ⟨bytes, -, h⟩
  rw [← Except.ok.inj h]
  exact writtenText_str (written_encoded writable_quotePlusByte bytes)

/-- The text of an API path. -/
def ApiText (t : PyStr) : Prop := ∃ p, t = str p ∧ Go.ApiPath p

/-- An API path as a text of Python. -/
theorem apiText_str {p : String} (h : Written p) (habsolute : p.toList.head? = some '/') :
    ApiText (str p) := ⟨p, rfl, h.apiPath habsolute⟩

/-- It may go on with any such text. -/
theorem apiText_append {start : String} {rest : PyStr} (hstart : Written start)
    (habsolute : start.toList.head? = some '/') (hrest : WrittenText rest) :
    ApiText (str start ++ rest) := by
  rcases hrest with ⟨s, rfl, hs⟩
  refine ⟨start ++ s, ?_, apiPath_append hstart habsolute hs⟩
  simp [Text.ofString]

/-- The path of a client for a business. -/
theorem businessPath_apiText {c : Python.MizanClient} {b suffix path : PyStr}
    (h : c.businessPath b suffix = .ok path) (hsuffix : WrittenText suffix) : ApiText path := by
  rcases exists_quote_of_businessPath h with ⟨segment, hsegment, rfl⟩
  rw [List.append_assoc, List.append_assoc]
  apply apiText_append (by decide) (by decide)
  exact (writtenText_quote hsegment).append ((writtenText_str (by decide)).append hsuffix)

/-- The path of an admin client for a business. -/
theorem adminBusinessPath_apiText {b suffix path : PyStr}
    (h : Python.adminBusinessPath b suffix = .ok path) (hsuffix : WrittenText suffix) :
    ApiText path := by
  rcases (bind_eq_ok_iff _ _ _).mp h with ⟨segment, hsegment, h⟩
  rw [← Except.ok.inj h, List.append_assoc, List.append_assoc]
  apply apiText_append (by decide) (by decide)
  exact (writtenText_quote hsegment).append ((writtenText_str (by decide)).append hsuffix)

/-- The path of a client for a feature. -/
theorem featurePath_apiText {c : Python.MizanClient} {b feature path : PyStr} {action : String}
    (h : c.featurePath b feature action = .ok path) (haction : Written action) :
    ApiText path := by
  rcases (bind_eq_ok_iff _ _ _).mp h with ⟨quoted, hquoted, h⟩
  apply businessPath_apiText h
  exact ((writtenText_str (by decide)).append (writtenText_quote hquoted)).append
    (writtenText_str haction)

/-- The path of a mutating call. -/
theorem pyMutation_apiText {m : Python.MutatingCall} {a : Python.MizanAdminClient} {path : PyStr}
    (h : m.path a = .ok path) : ApiText path := by
  cases m with
  | activateSubscription b r | refundProviderBalance b r =>
      rcases (bind_eq_ok_iff _ _ _).mp h with ⟨_, -, h⟩
      rcases (bind_eq_ok_iff _ _ _).mp h with ⟨_, -, h⟩
      exact businessPath_apiText h (writtenText_str (by decide))
  | applyRenewalEvent b r | topUpAzeerUnits b r | topUpProviderBalance b r =>
      rcases (bind_eq_ok_iff _ _ _).mp h with ⟨_, -, h⟩
      exact businessPath_apiText h (writtenText_str (by decide))
  | changeSubscription b r | cancelSubscription b r | consume b r =>
      exact businessPath_apiText h (writtenText_str (by decide))
  | setFeatureBudget b feature r => exact featurePath_apiText h (by decide)
  | configureAddon code r =>
      rcases exists_quote_of_addonPath h with ⟨quoted, hquoted, rfl⟩
      exact apiText_append (by decide) (by decide) (writtenText_quote hquoted)
  | configureGlobalDeliveryEndpoint kind r =>
      rcases (bind_eq_ok_iff _ _ _).mp h with ⟨_, hkind, h⟩
      rw [← Except.ok.inj h]
      apply apiText_append (by decide) (by decide)
      rcases validateDeliveryKind_eq_ok hkind with ⟨name, rfl, rfl | rfl⟩
      · exact writtenText_str (by decide)
      · exact writtenText_str (by decide)
  | configureBusinessDeliveryEndpoint b kind r =>
      rcases (bind_eq_ok_iff _ _ _).mp h with ⟨_, hkind, h⟩
      apply adminBusinessPath_apiText h
      apply (writtenText_str (by decide)).append
      rcases validateDeliveryKind_eq_ok hkind with ⟨name, rfl, rfl | rfl⟩
      · exact writtenText_str (by decide)
      · exact writtenText_str (by decide)

/-- The suffix of a page of a list. -/
theorem writtenText_page {resource : String} (h : Written resource) (offset limit : ℤ) :
    WrittenText (Python.pageSuffix resource offset limit) :=
  ((((writtenText_str h).append (writtenText_str (by decide))).append
    (writtenText_strInt offset)).append (writtenText_str (by decide))).append
      (writtenText_strInt limit)

/-- The path of a reading call. -/
theorem pyReading_apiText {r : Python.ReadingCall} {a : Python.MizanAdminClient} {path : PyStr}
    (h : r.path a = .ok path) : ApiText path := by
  cases r with
  | checkEligibility b feature request => exact featurePath_apiText h (by decide)
  | getEntitlement b capability =>
      rcases (bind_eq_ok_iff _ _ _).mp h with ⟨quoted, hquoted, h⟩
      apply businessPath_apiText h
      exact (writtenText_str (by decide)).append (writtenText_quote hquoted)
  | getCatalog | getGlobalDeliveryEndpoints | listAddons =>
      rw [← Except.ok.inj h]
      exact apiText_str (by decide) (by decide)
  | previewBalanceImpact b request | getBillingSummary b =>
      exact businessPath_apiText h (writtenText_str (by decide))
  | getLedger b after limit =>
      rcases (bind_eq_ok_iff _ _ _).mp h with ⟨_, -, h⟩
      rcases (bind_eq_ok_iff _ _ _).mp h with ⟨start, hstart, h⟩
      rcases exists_quote_of_businessPath hstart with ⟨segment, hsegment, rfl⟩
      rw [← Except.ok.inj h]
      simp only [List.append_assoc]
      apply apiText_append (by decide) (by decide)
      exact (writtenText_quote hsegment).append ((writtenText_str (by decide)).append
        ((writtenText_str (by decide)).append ((writtenText_str (by decide)).append
          ((writtenText_strInt after).append ((writtenText_str (by decide)).append
            (writtenText_strInt limit))))))
  | listBusinesses search offset limit =>
      rcases (bind_eq_ok_iff _ _ _).mp h with ⟨quoted, hquoted, h⟩
      rw [← Except.ok.inj h]
      simp only [List.append_assoc]
      apply apiText_append (by decide) (by decide)
      exact (writtenText_quotePlus hquoted).append ((writtenText_str (by decide)).append
        ((writtenText_strInt offset).append ((writtenText_str (by decide)).append
          (writtenText_strInt limit))))
  | listUsageDecisions b offset limit | listBusinessAudit b offset limit =>
      exact adminBusinessPath_apiText h (writtenText_page (by decide) offset limit)
  | getBusinessDeliveryEndpoints b =>
      exact adminBusinessPath_apiText h (writtenText_str (by decide))

/-- The path of any call that has one. -/
theorem pyPath_apiText {call : Python.BusinessCall} {a : Python.MizanAdminClient} {path : PyStr}
    (h : pyPath call a = .ok path) : ApiText path := by
  cases call with
  | mutating m => exact pyMutation_apiText h
  | reading r => exact pyReading_apiText h
  | metering b u => exact businessPath_apiText h (writtenText_str (by decide))

/-- Every request of a client of a plain base goes to the endpoint of an API path below it. -/
theorem pyCall_addresses {checkNetloc : PyStr → Except Python.PyError Unit}
    {args : Python.ClientArguments} {a : Python.MizanAdminClient}
    (hclient : Python.MizanClient.init checkNetloc args = .ok a.toMizanClient)
    (hplain : Python.PlainURL args.baseUrl) {call : Python.BusinessCall}
    {py : Python.BuilderInterpreter} {env : Python.Env} {key : Option PyStr}
    {request : Python.Request} (h : request ∈ (call.perform a py env key).attempts) :
    ∃ p base, request.url = a.baseUrl ++ str p ∧
      Python.urlsplit checkNetloc args.baseUrl = .ok base ∧ a.Addresses base p := by
  rcases pyCall_url h with ⟨path, hpath, hurl⟩
  rcases pyPath_apiText hpath with ⟨p, rfl, hp⟩
  rcases (Python.init_addresses_iff hclient hp.toTarget).mpr hplain with ⟨base, hbase, haddresses⟩
  exact ⟨p, base, hurl, hbase, haddresses⟩

end MizanSDK.Agreement
