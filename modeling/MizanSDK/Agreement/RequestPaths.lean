import MizanSDK.Library.Routes
import MizanSDK.Go.Binding
import MizanSDK.Python.Binding

/-!
# Where requests lead

The methods of both SDKs put caller strings into the paths of their requests:
business IDs, feature codes, capabilities and add-on codes, each escaped into one
segment.  The escapes leave the unreserved characters alone, and the dot is one
of them.

Main results:

- Theorem `sends_spelled`: what a call sends is the path of its operation with its
  identifiers in the slots.
- Theorem `keptApart_iff`: requests arrive where their methods say, and those of
  different methods or identifiers at different places, exactly when no
  identifier is `.` or `..`.
-/

namespace MizanSDK.Agreement

open Bytes Checks JsonText Routes
open Python (str)

/-! ## Operations -/

/-- The kinds of delivery endpoints. -/
inductive DeliveryKind where
  | ledger
  | notification
deriving DecidableEq

/-- The name of a kind. -/
def DeliveryKind.name : DeliveryKind → String
  | .ledger => "ledger"
  | .notification => "notification"

/-- What a request with a caller string in its path is for.  The feature-specific
helpers end in `Consume`. -/
inductive Operation where
  | activateSubscription
  | changeSubscription
  | cancelSubscription
  | applyRenewalEvent
  | topUpAzeerUnits
  | topUpProviderBalance
  | refundProviderBalance
  | setFeatureBudget
  | consume
  | checkEligibility
  | getEntitlement
  | previewBalanceImpact
  | getBillingSummary
  | getLedger
  | listUsageDecisions
  | listBusinessAudit
  | getBusinessDeliveryEndpoints
  | configureAddon
  | configureGlobalDeliveryEndpoint (kind : DeliveryKind)
  | configureBusinessDeliveryEndpoint (kind : DeliveryKind)
deriving DecidableEq

/-- Fixed segments, a slot, and what follows it. -/
def below (root : List String) (rest : List (Option String)) : List (Option String) :=
  root.map some ++ none :: rest

/-- The segments below one business of the API. -/
def business (rest : List (Option String)) : List (Option String) :=
  below ["v1", "businesses"] rest

/-- The segments below one business of the admin API. -/
def adminBusiness (rest : List (Option String)) : List (Option String) :=
  below ["admin", "api", "businesses"] rest

/-- The segments of a method. -/
def Operation.template : Operation → List (Option String)
  | .activateSubscription => business [some "subscriptions", some "activate"]
  | .changeSubscription => business [some "subscriptions", some "change"]
  | .cancelSubscription => business [some "subscriptions", some "cancel"]
  | .applyRenewalEvent => business [some "subscriptions", some "renewal-events"]
  | .topUpAzeerUnits => business [some "azeer-units", some "top-ups"]
  | .topUpProviderBalance => business [some "provider-balance", some "top-ups"]
  | .refundProviderBalance => business [some "provider-balance", some "refunds"]
  | .setFeatureBudget => business [some "features", none, some "budget"]
  | .consume => business [some "consumptions"]
  | .checkEligibility => business [some "features", none, some "eligibility"]
  | .getEntitlement => business [some "entitlements", none]
  | .previewBalanceImpact => business [some "balance-impact-preview"]
  | .getBillingSummary => business [some "billing-summary"]
  | .getLedger => business [some "ledger"]
  | .listUsageDecisions => adminBusiness [some "usage-decisions"]
  | .listBusinessAudit => adminBusiness [some "audit"]
  | .getBusinessDeliveryEndpoints => adminBusiness [some "delivery-endpoints"]
  | .configureAddon => below ["admin", "api", "addons"] []
  | .configureGlobalDeliveryEndpoint kind =>
      [some "admin", some "api", some "delivery-endpoints", some kind.name]
  | .configureBusinessDeliveryEndpoint kind =>
      adminBusiness [some "delivery-endpoints", some kind.name]

/-- The pattern a template stands for. -/
def patternOf (template : List (Option String)) : Pattern :=
  template.map (Option.map String.toList)

/-- The pattern of the paths of a method. -/
def Operation.pattern (op : Operation) : Pattern := patternOf op.template

/-- The operations. -/
def operations : List Operation :=
  [.activateSubscription, .changeSubscription, .cancelSubscription, .applyRenewalEvent,
    .topUpAzeerUnits, .topUpProviderBalance, .refundProviderBalance, .setFeatureBudget,
    .consume, .checkEligibility, .getEntitlement, .previewBalanceImpact, .getBillingSummary,
    .getLedger, .listUsageDecisions, .listBusinessAudit, .getBusinessDeliveryEndpoints,
    .configureAddon, .configureGlobalDeliveryEndpoint .ledger,
    .configureGlobalDeliveryEndpoint .notification, .configureBusinessDeliveryEndpoint .ledger,
    .configureBusinessDeliveryEndpoint .notification]

/-- All operations are listed. -/
theorem mem_operations (op : Operation) : op ∈ operations := by
  cases op with
  | configureGlobalDeliveryEndpoint kind => cases kind <;> decide
  | configureBusinessDeliveryEndpoint kind => cases kind <;> decide
  | _ => decide

/-- The fixed segments hold no delimiter. -/
theorem Operation.pattern_delimiters (op : Operation) :
    ∀ s ∈ op.pattern.texts, ∀ c ∈ s, c ∉ ['/', '?', '#'] := by
  have hnone : ∀ op ∈ operations, ∀ s ∈ op.pattern.texts, '/' ∉ s ∧ '?' ∉ s ∧ '#' ∉ s := by
    decide +kernel
  intro s hs c hc hdelimiter
  rcases hnone op (mem_operations op) s hs with ⟨hslash, hquestion, hhash⟩
  simp only [List.mem_cons, List.not_mem_nil, or_false] at hdelimiter
  rcases hdelimiter with rfl | rfl | rfl
  · exact hslash hc
  · exact hquestion hc
  · exact hhash hc

/-- The fixed segments hold no delimiter and are not read as dots. -/
theorem Operation.pattern_plain (op : Operation) : op.pattern.Plain percentDecode := by
  have hdots : ∀ op ∈ operations, ∀ s ∈ [] :: op.pattern.texts, ∀ d ∈ dots,
      percentDecode s ≠ percentDecode d := by
    decide +kernel
  exact ⟨op.pattern_delimiters, hdots op (mem_operations op)⟩

/-- Paths of different methods differ in length or in a segment both have fixed. -/
theorem Operation.eq_of_compatible {op op' : Operation}
    (h : op.pattern.compatible op'.pattern = true) : op = op' := by
  have hall : ∀ op ∈ operations, ∀ op' ∈ operations,
      op.pattern.compatible op'.pattern = true → op = op' := by
    decide +kernel
  exact hall op (mem_operations op) op' (mem_operations op') h

/-! ## Escapes -/

/-- The two SDKs. -/
inductive Sdk where
  | go
  | python

/-- How an SDK writes a byte of an identifier. -/
def Sdk.escapeByte : Sdk → UInt8 → List Char
  | .go => Go.escapeByte
  | .python => Python.quoteByte

/-- What `quote` leaves alone is no percent sign and no delimiter. -/
theorem quoted_plain {b : UInt8} (h : (Char.ofNat b.toNat).isAlphanum = true ∨
    Char.ofNat b.toNat ∈ ['_', '.', '-', '~']) :
    Char.ofNat b.toNat ∉ ['%', '/', '?', '#'] := by
  intro hmem
  revert h
  generalize Char.ofNat b.toNat = c at hmem
  fin_cases hmem <;> decide

/-- `quote` keeps a byte that is no delimiter, or escapes it. -/
theorem quoteByte_cases (b : UInt8) :
    (b.toNat < 128 ∧ Char.ofNat b.toNat ∉ ['%', '/', '?', '#'] ∧
        Python.quoteByte b = [Char.ofNat b.toNat]) ∨
      Python.quoteByte b = ['%', upperDigit (b.toNat / 16), upperDigit (b.toNat % 16)] := by
  unfold Python.quoteByte
  dsimp only
  split
  · rename_i hkept
    rw [Bool.and_eq_true, decide_eq_true_eq, Bool.or_eq_true, List.contains_iff_mem] at hkept
    exact .inl ⟨hkept.1, quoted_plain hkept.2, rfl⟩
  · exact .inr rfl

/-- Decoding the escape of a byte gives back the byte. -/
theorem Sdk.percentDecode_escapeByte (sdk : Sdk) (b : UInt8) (rest : List Char) :
    percentDecode (sdk.escapeByte b ++ rest) = (percentDecode rest).map (b :: ·) := by
  cases sdk with
  | go => exact Go.percentDecode_escapeByte b rest
  | python =>
      change percentDecode (Python.quoteByte b ++ rest) = _
      rcases quoteByte_cases b with ⟨hlt, hplain, hquote⟩ | hquote
      · rw [hquote]
        refine percentDecode_ascii hlt ?_ rest
        intro hpercent
        exact hplain (hpercent ▸ List.mem_cons_self)
      · rw [hquote]
        exact percentDecode_escape b rest

/-- The escape of a byte holds no delimiter. -/
theorem Sdk.escapeByte_delimiters (sdk : Sdk) (b : UInt8) :
    ∀ c ∈ sdk.escapeByte b, c ∉ ['/', '?', '#'] := by
  cases sdk with
  | go => exact Go.escapeByte_delimiters b
  | python =>
      change ∀ c ∈ Python.quoteByte b, c ∉ ['/', '?', '#']
      rcases quoteByte_cases b with ⟨-, hplain, hquote⟩ | hquote
      · rw [hquote]
        intro c hc hdelimiter
        rw [List.mem_singleton] at hc
        subst hc
        exact hplain (List.mem_cons_of_mem _ hdelimiter)
      · rw [hquote]
        exact escape_delimiters b

/-- The bytes of an identifier in a segment: `url.PathEscape` and `quote`. -/
def Sdk.codec (sdk : Sdk) : Codec (List UInt8) where
  encode bytes := bytes.flatMap sdk.escapeByte
  decode := percentDecode
  decode_encode := percentDecode_flatMap sdk.percentDecode_escapeByte
  plain bytes c hc := by
    rcases List.mem_flatMap.mp hc with ⟨b, -, hb⟩
    exact sdk.escapeByte_delimiters b c hb

/-- The bytes of an identifier. -/
def utf8 (id : String) : List UInt8 := id.toUTF8.toList

/-- The identifiers that are escaped to dot segments. -/
theorem Sdk.encode_mem_dots_iff (sdk : Sdk) (id : String) :
    sdk.codec.encode (utf8 id) ∈ dots ↔ id = "." ∨ id = ".." := by
  have hdot : ∀ name ∈ [".", ".."], sdk.codec.encode (utf8 name) = name.toList := by
    cases sdk <;> decide +kernel
  constructor
  · intro h
    have hdecode := sdk.codec.decode_encode (utf8 id)
    have hread : ∀ name ∈ [".", ".."], sdk.codec.encode (utf8 id) = name.toList → id = name := by
      intro name hname hencode
      rw [hencode, ← hdot name hname, sdk.codec.decode_encode, Option.some.injEq] at hdecode
      exact (toUTF8_inj.mp hdecode).symm
    rw [dots, List.mem_cons, List.mem_singleton] at h
    rcases h with h | h
    · exact .inl (hread "." (by decide) h)
    · exact .inr (hread ".." (by decide) h)
  · rintro (rfl | rfl)
    · rw [hdot "." (by decide)]
      decide
    · rw [hdot ".." (by decide)]
      decide

/-! ## Paths of operations -/

/-- A path spelled as an operation says: its identifiers are escaped into the slots
of its pattern, and a query may follow. -/
def Spelled (sdk : Sdk) (op : Operation) (ids : List String) (path : List Char) : Prop :=
  ids.length = op.pattern.count none ∧
    ∃ query, IsQuery query ∧
      path = absolute (write sdk.codec op.pattern (ids.map utf8)) ++ query

/-- Where a path leads if it leads to an operation: behind the fixed segments, with
each identifier in one segment that decodes to it. -/
def Arrives (op : Operation) (ids : List String) (path : List Char) : Prop :=
  Routed percentDecode op.pattern (ids.map utf8) (route path)

/-- The segments written for a template with a slot behind fixed segments. -/
theorem write_below {α : Type} (codec : Codec α) (root : List String)
    (rest : List (Option String)) (a : α) (ids : List α) :
    write codec (patternOf (below root rest)) (a :: ids) =
      root.map String.toList ++ codec.encode a :: write codec (patternOf rest) ids := by
  induction root with
  | nil => rfl
  | cons s root ih => exact congrArg (s.toList :: ·) ih

/-- A path below a slot is spelled if what follows the slot is. -/
theorem spelled_below {sdk : Sdk} {op : Operation} {root : List String}
    {rest : List (Option String)} {id : String} {ids : List String} {start behind query : List Char}
    (htemplate : op.template = below root rest) (hlength : ids.length = rest.count none)
    (hquery : IsQuery query) (hstart : start = absolute (root.map String.toList) ++ ['/'])
    (hbehind : behind = absolute (write sdk.codec (patternOf rest) (ids.map utf8)) ++ query) :
    Spelled sdk op (id :: ids) (start ++ sdk.codec.encode (utf8 id) ++ behind) := by
  constructor
  · have hfixed : ∀ root : List String, (patternOf (root.map some)).count none = 0 := by
      intro root
      induction root with
      | nil => rfl
      | cons s root ih => exact ih
    have hrest : (patternOf rest).count none = rest.count none := by
      rw [patternOf, List.count, List.count, List.countP_map]
      apply List.countP_congr
      intro piece _
      cases piece <;> simp
    rw [Operation.pattern, htemplate, below, patternOf, List.map_append, List.count_append,
      List.map_cons, Option.map_none, List.count_cons_self, List.length_cons, hlength]
    exact (by rw [← patternOf, ← patternOf, hfixed, hrest, Nat.zero_add])
  · refine ⟨query, hquery, ?_⟩
    rw [Operation.pattern, htemplate, List.map_cons, write_below, hstart, hbehind]
    simp only [absolute, List.flatMap_append, List.flatMap_cons, List.append_assoc,
      List.nil_append, List.cons_append]

/-- The fixed segments in front of a business. -/
theorem business_start : "/v1/businesses/".toList =
    absolute (["v1", "businesses"].map String.toList) ++ ['/'] := by
  decide +kernel

/-- Those of the admin API. -/
theorem adminBusiness_start : "/admin/api/businesses/".toList =
    absolute (["admin", "api", "businesses"].map String.toList) ++ ['/'] := by
  decide +kernel

/-- Those in front of an add-on. -/
theorem addons_start : "/admin/api/addons/".toList =
    absolute (["admin", "api", "addons"].map String.toList) ++ ['/'] := by
  decide +kernel

/-- A path arrives at its operation unless an identifier is `.` or `..`. -/
theorem Spelled.arrives_iff {sdk : Sdk} {op : Operation} {ids : List String} {path : List Char}
    (h : Spelled sdk op ids path) :
    Arrives op ids path ↔ ∀ id ∈ ids, id ≠ "." ∧ id ≠ ".." := by
  rcases h with ⟨hlength, query, hquery, rfl⟩
  have hsome : op.pattern ≠ [] := by
    cases op <;> exact List.cons_ne_nil _ _
  have hcount : (ids.map utf8).length = op.pattern.count none := by
    rw [List.length_map, hlength]
  have hplain : op.pattern.Plain sdk.codec.decode := op.pattern_plain
  apply (routed_iff hplain hsome hcount hquery).trans
  rw [List.forall_mem_map]
  apply forall₂_congr
  intro id _
  rw [sdk.encode_mem_dots_iff, not_or]

/-- Paths that lead to one place are paths of one operation with the same
identifiers. -/
theorem Arrives.unique {op op' : Operation} {ids ids' : List String} {path path' : List Char}
    (h : Arrives op ids path) (h' : Arrives op' ids' path') (hroute : route path = route path') :
    op = op' ∧ ids = ids' := by
  rw [Arrives, hroute] at h
  obtain rfl : op = op' := Operation.eq_of_compatible (h.compatible h')
  have hinj : Function.Injective utf8 := fun _ _ heq => toUTF8_inj.mp heq
  exact ⟨rfl, hinj.list_map (h.ids_eq h')⟩

/-! ## Calls of the Go SDK -/

/-- The kind a checked name stands for. -/
def DeliveryKind.ofName (name : String) : DeliveryKind :=
  if name = "ledger" then .ledger else .notification

/-- What a call of the Go SDK is for. -/
def goOperation : Go.BusinessCall → Operation
  | .mutating (.activateSubscription _ _) => .activateSubscription
  | .mutating (.changeSubscription _ _) => .changeSubscription
  | .mutating (.cancelSubscription _ _) => .cancelSubscription
  | .mutating (.applyRenewalEvent _ _) => .applyRenewalEvent
  | .mutating (.topUpAzeerUnits _ _) => .topUpAzeerUnits
  | .mutating (.topUpProviderBalance _ _) => .topUpProviderBalance
  | .mutating (.refundProviderBalance _ _) => .refundProviderBalance
  | .mutating (.setFeatureBudget _ _ _) => .setFeatureBudget
  | .mutating (.consume _ _) => .consume
  | .mutating (.configureAddon _ _) => .configureAddon
  | .mutating (.configureGlobalDeliveryEndpoint kind _) =>
      .configureGlobalDeliveryEndpoint (.ofName kind)
  | .mutating (.configureBusinessDeliveryEndpoint _ kind _) =>
      .configureBusinessDeliveryEndpoint (.ofName kind)
  | .reading (.checkEligibility _ _ _) => .checkEligibility
  | .reading (.getEntitlement _ _) => .getEntitlement
  | .reading (.previewBalanceImpact _ _ _) => .previewBalanceImpact
  | .reading (.getBillingSummary _) => .getBillingSummary
  | .reading (.getLedger _ _ _) => .getLedger
  | .reading (.listUsageDecisions _ _ _) => .listUsageDecisions
  | .reading (.listBusinessAudit _ _ _) => .listBusinessAudit
  | .reading (.getBusinessDeliveryEndpoints _) => .getBusinessDeliveryEndpoints
  | .metering _ _ => .consume

/-- The caller strings in the path of a call. -/
def goIdentifiers : Go.BusinessCall → List String
  | .mutating (.setFeatureBudget b feature _) => [b, feature]
  | .mutating (.configureAddon code _) => [code]
  | .mutating (.configureGlobalDeliveryEndpoint _ _) => []
  | .reading (.checkEligibility b feature _) => [b, feature]
  | .reading (.getEntitlement b capability) => [b, capability]
  | .mutating m => [m.target.2.2]
  | .reading r => [r.businessID]
  | .metering b _ => [b]

/-- `url.PathEscape` is the codec of Go. -/
theorem toList_pathEscape (s : String) :
    (Go.pathEscape s).toList = Sdk.go.codec.encode (utf8 s) := String.toList_ofList

/-- The characters of a path below a slot. -/
theorem toList_path (start id suffix : String) :
    (start ++ Go.pathEscape id ++ "/" ++ suffix).toList =
      start.toList ++ Sdk.go.codec.encode (utf8 id) ++ '/' :: suffix.toList := by
  have hslash : "/".toList = ['/'] := by decide
  rw [String.toList_append, String.toList_append, String.toList_append, toList_pathEscape,
    hslash, List.append_assoc _ ['/'], List.singleton_append]

/-- The characters of a path that ends in a slot. -/
theorem toList_last (start id : String) :
    (start ++ Go.pathEscape id).toList =
      start.toList ++ Sdk.go.codec.encode (utf8 id) ++ [] := by
  rw [String.toList_append, toList_pathEscape, List.append_nil]

/-- A path below a business. -/
theorem goBusiness_spelled {op : Operation} {rest : List (Option String)} {b suffix : String}
    {ids : List String} {query : List Char} (htemplate : op.template = business rest)
    (hlength : ids.length = rest.count none) (hquery : IsQuery query)
    (hsuffix : '/' :: suffix.toList =
      absolute (write Sdk.go.codec (patternOf rest) (ids.map utf8)) ++ query) :
    Spelled .go op (b :: ids) (Go.businessPath b suffix).toList := by
  unfold Go.businessPath
  rw [toList_path]
  exact spelled_below htemplate hlength hquery business_start hsuffix

/-- The same below a business of the admin API. -/
theorem goAdminBusiness_spelled {op : Operation} {rest : List (Option String)}
    {b suffix : String} {ids : List String} {query : List Char}
    (htemplate : op.template = adminBusiness rest) (hlength : ids.length = rest.count none)
    (hquery : IsQuery query) (hsuffix : '/' :: suffix.toList =
      absolute (write Sdk.go.codec (patternOf rest) (ids.map utf8)) ++ query) :
    Spelled .go op (b :: ids) (Go.adminBusinessPath b suffix).toList := by
  unfold Go.adminBusinessPath
  rw [toList_path]
  exact spelled_below htemplate hlength hquery adminBusiness_start hsuffix

/-- The suffix of an action on a feature. -/
theorem goFeature_suffix (feature : String) {action name : String}
    (haction : action.toList = '/' :: name.toList) :
    '/' :: ("features/" ++ Go.pathEscape feature ++ action).toList =
      absolute (write Sdk.go.codec (patternOf [some "features", none, some name])
        [utf8 feature]) ++ [] := by
  simp only [String.toList_append, toList_pathEscape, haction, List.append_assoc, patternOf,
    write, absolute, List.map_cons, List.map_nil, Option.map_some, Option.map_none,
    List.flatMap_cons, List.flatMap_nil, List.append_nil, List.cons_append]
  rfl

/-- A path may end without a query. -/
theorem isQuery_nil : IsQuery [] := .inl rfl

/-- What follows a question mark is a query. -/
theorem isQuery_append {start rest : String} (h : start.toList.head? = some '?') :
    IsQuery (start ++ rest).toList := by
  right
  rw [String.toList_append, List.head?_append, h]
  rfl

/-- A fixed suffix, with what follows it. -/
theorem suffix_append {sdk : Sdk} {rest : List (Option String)} {suffix : String}
    (h : '/' :: suffix.toList = absolute (write sdk.codec (patternOf rest) [])) (query : String) :
    '/' :: (suffix ++ query).toList =
      absolute (write sdk.codec (patternOf rest) []) ++ query.toList := by
  rw [String.toList_append, ← List.cons_append, h]

/-- The suffix of an entitlement. -/
theorem goEntitlement_suffix (capability : String) :
    '/' :: ("entitlements/" ++ Go.pathEscape capability).toList =
      absolute (write Sdk.go.codec (patternOf [some "entitlements", none])
        [utf8 capability]) ++ [] := by
  simp only [String.toList_append, toList_pathEscape, patternOf, write, absolute,
    List.map_cons, List.map_nil, Option.map_some, Option.map_none, List.flatMap_cons,
    List.flatMap_nil, List.append_nil, List.cons_append]
  rfl

/-- Go knows two kinds of delivery. -/
theorem validateDeliveryKind_eq_none_iff (kind : String) :
    Go.validateDeliveryKind kind = none ↔ kind = "ledger" ∨ kind = "notification" := by
  unfold Go.validateDeliveryKind
  split
  · rename_i h
    simp [h]
  · rename_i h
    rw [← not_or, not_not] at h
    exact iff_of_true rfl h

/-- The path of a global delivery endpoint. -/
theorem global_spelled (sdk : Sdk) {kind : String}
    (h : kind = "ledger" ∨ kind = "notification") :
    Spelled sdk (.configureGlobalDeliveryEndpoint (.ofName kind)) []
      ("/admin/api/delivery-endpoints/" ++ kind).toList := by
  rcases h with rfl | rfl
  · exact ⟨rfl, [], isQuery_nil, by cases sdk <;> decide⟩
  · exact ⟨rfl, [], isQuery_nil, by cases sdk <;> decide⟩

/-- The path of a mutating call whose arguments pass their check. -/
theorem goMutation_spelled {m : Go.MutatingCall} {a : Go.AdminClient}
    (h : m.argumentCheck a = none) :
    Spelled .go (goOperation (.mutating m)) (goIdentifiers (.mutating m))
      m.target.2.1.toList := by
  cases m with
  | activateSubscription | changeSubscription | cancelSubscription | applyRenewalEvent
  | topUpAzeerUnits | topUpProviderBalance | refundProviderBalance | consume =>
      exact goBusiness_spelled rfl rfl isQuery_nil (by decide)
  | setFeatureBudget b feature r =>
      exact goBusiness_spelled rfl rfl isQuery_nil (goFeature_suffix feature (by decide))
  | configureAddon code input =>
      change Spelled .go .configureAddon [code] ("/admin/api/addons/" ++ Go.pathEscape code).toList
      rw [toList_last]
      exact spelled_below rfl rfl isQuery_nil addons_start rfl
  | configureGlobalDeliveryEndpoint kind input =>
      have hkind := (validateDeliveryKind_eq_none_iff kind).mp (Option.or_eq_none_iff.mp h).1
      exact global_spelled .go hkind
  | configureBusinessDeliveryEndpoint b kind input =>
      have hkind := (validateDeliveryKind_eq_none_iff kind).mp (Option.or_eq_none_iff.mp h).1
      have hpath : Go.adminBusinessPath b "delivery-endpoints/" ++ kind =
          Go.adminBusinessPath b ("delivery-endpoints/" ++ kind) := String.append_assoc
      change Spelled .go (.configureBusinessDeliveryEndpoint (.ofName kind)) [b]
        (Go.adminBusinessPath b "delivery-endpoints/" ++ kind).toList
      rw [hpath]
      rcases hkind with rfl | rfl
      · exact goAdminBusiness_spelled rfl rfl isQuery_nil (by decide)
      · exact goAdminBusiness_spelled rfl rfl isQuery_nil (by decide)

/-- The path of a reading call. -/
theorem goReading_spelled (r : Go.ReadingCall) (a : Go.AdminClient) :
    Spelled .go (goOperation (.reading r)) (goIdentifiers (.reading r)) (r.plan a).path.toList := by
  cases r with
  | checkEligibility b feature request =>
      exact goBusiness_spelled rfl rfl isQuery_nil (goFeature_suffix feature (by decide))
  | getEntitlement b capability =>
      exact goBusiness_spelled rfl rfl isQuery_nil (goEntitlement_suffix capability)
  | previewBalanceImpact | getBillingSummary =>
      exact goBusiness_spelled rfl rfl isQuery_nil (by decide)
  | getLedger b after limit =>
      have hpath : ((Go.ReadingCall.getLedger b after limit).plan a).path =
          Go.businessPath b ("ledger" ++ ("?after_sequence=" ++
            (toString after ++ "&limit=" ++ toString limit))) := by
        unfold Go.ReadingCall.plan Go.Plan.ofRead Go.businessPath
        simp only [String.append_assoc]
      rw [hpath]
      exact goBusiness_spelled rfl rfl (isQuery_append (by decide)) (suffix_append (by decide) _)
  | listUsageDecisions b offset limit =>
      have hpath : ((Go.ReadingCall.listUsageDecisions b offset limit).plan a).path =
          Go.adminBusinessPath b ("usage-decisions" ++ ("?" ++ Go.encodeValues
            [("limit", toString limit), ("offset", toString offset)])) := by
        rw [← String.append_assoc]
        exact String.append_assoc
      rw [hpath]
      exact goAdminBusiness_spelled rfl rfl (isQuery_append (by decide))
        (suffix_append (by decide) _)
  | listBusinessAudit b offset limit =>
      have hpath : ((Go.ReadingCall.listBusinessAudit b offset limit).plan a).path =
          Go.adminBusinessPath b ("audit" ++ ("?" ++ Go.encodeValues
            [("limit", toString limit), ("offset", toString offset)])) := by
        rw [← String.append_assoc]
        exact String.append_assoc
      rw [hpath]
      exact goAdminBusiness_spelled rfl rfl (isQuery_append (by decide))
        (suffix_append (by decide) _)
  | getBusinessDeliveryEndpoints b =>
      exact goAdminBusiness_spelled rfl rfl isQuery_nil (by decide)

/-- What a plan sends goes to its path. -/
theorem plan_url {p : Go.Plan} {c : Go.Client} {env : Go.Env} {request : Go.HTTPRequest}
    (h : request ∈ (p.run c env).attempts) :
    p.check = none ∧ request.url = c.baseURL ++ p.path := by
  by_cases hsendable : p.Sendable c env
  · by_cases hscope : p.guardsScope = true → c.scopeCheck env p.businessID = none
    · rcases Go.Plan.run_sends hsendable hscope with ⟨payload, j, r, -, hrun⟩
      rw [hrun, List.mem_map] at h
      rcases h with ⟨k, -, rfl⟩
      exact ⟨hsendable.check, rfl⟩
    · rw [Classical.not_imp] at hscope
      rw [(p.run_fails_of_scope hscope.1 hscope.2).1] at h
      cases h
  · rw [(Go.Plan.run_fails hsendable).1] at h
    cases h

/-- What a call of the Go SDK sends is spelled as its operation says. -/
theorem goCall_spelled {call : Go.BusinessCall} {a : Go.AdminClient} {env : Go.Env}
    {key : String} {request : Go.HTTPRequest}
    (h : request ∈ (call.perform a env key).attempts) :
    ∃ path, request.url = a.client.baseURL ++ path ∧
      Spelled .go (goOperation call) (goIdentifiers call) path.toList := by
  rw [Go.BusinessCall.perform_eq] at h
  have hplan := plan_url h
  refine ⟨(call.plan a env key).path, hplan.2, ?_⟩
  have hcheck := hplan.1
  cases call with
  | mutating m => exact goMutation_spelled hcheck
  | reading r => exact goReading_spelled r a
  | metering b u =>
      rw [Go.BusinessCall.plan] at hcheck ⊢
      split at hcheck
      · rename_i request _
        exact goMutation_spelled (m := .consume b request) (a := a) hcheck
      · cases hcheck

/-! ## Calls of the Python SDK -/

/-- What a call of the Python SDK is for, if its path has a caller string in it. -/
def pyOperation : Python.BusinessCall → Option Operation
  | .mutating (.activateSubscription _ _) => some .activateSubscription
  | .mutating (.changeSubscription _ _) => some .changeSubscription
  | .mutating (.cancelSubscription _ _) => some .cancelSubscription
  | .mutating (.applyRenewalEvent _ _) => some .applyRenewalEvent
  | .mutating (.topUpAzeerUnits _ _) => some .topUpAzeerUnits
  | .mutating (.topUpProviderBalance _ _) => some .topUpProviderBalance
  | .mutating (.refundProviderBalance _ _) => some .refundProviderBalance
  | .mutating (.setFeatureBudget _ _ _) => some .setFeatureBudget
  | .mutating (.consume _ _) => some .consume
  | .mutating (.configureAddon _ _) => some .configureAddon
  | .mutating (.configureGlobalDeliveryEndpoint kind _) =>
      some (.configureGlobalDeliveryEndpoint (.ofName kind.toScalars))
  | .mutating (.configureBusinessDeliveryEndpoint _ kind _) =>
      some (.configureBusinessDeliveryEndpoint (.ofName kind.toScalars))
  | .reading (.checkEligibility _ _ _) => some .checkEligibility
  | .reading (.getEntitlement _ _) => some .getEntitlement
  | .reading (.previewBalanceImpact _ _) => some .previewBalanceImpact
  | .reading (.getBillingSummary _) => some .getBillingSummary
  | .reading (.getLedger _ _ _) => some .getLedger
  | .reading (.listUsageDecisions _ _ _) => some .listUsageDecisions
  | .reading (.listBusinessAudit _ _ _) => some .listBusinessAudit
  | .reading (.getBusinessDeliveryEndpoints _) => some .getBusinessDeliveryEndpoints
  | .reading .getCatalog | .reading .getGlobalDeliveryEndpoints | .reading .listAddons
  | .reading (.listBusinesses _ _ _) => none
  | .metering _ _ => some .consume

/-- The caller strings in the path of a call. -/
def pyIdentifiers : Python.BusinessCall → List Python.PyStr
  | .mutating (.setFeatureBudget b feature _) => [b, feature]
  | .mutating (.configureAddon code _) => [code]
  | .mutating (.configureGlobalDeliveryEndpoint _ _) => []
  | .reading (.checkEligibility b feature _) => [b, feature]
  | .reading (.getEntitlement b capability) => [b, capability]
  | .mutating m => [m.target.2.2]
  | .reading r => [r.target.2.2]
  | .metering b _ => [b]

/-- The path of a call, unless it raises before it has one. -/
def pyPath (call : Python.BusinessCall) (a : Python.MizanAdminClient) :
    Except Python.PyError Python.PyStr :=
  match call with
  | .mutating m => m.path a
  | .reading r => r.path a
  | .metering b _ => a.businessPath b (str "consumptions")

/-- What a request is sent with goes to its path. -/
theorem request_url {c : Python.MizanClient} {env : Python.Env} {method : String}
    {path businessId : Python.PyStr} {body : Option Python.PyDict} {key : Option Python.PyStr}
    {mutation : Bool} {extraHeaders : List (String × Python.PyStr)} {request : Python.Request}
    (h : request ∈
      (c.request env method path body businessId key mutation extraHeaders).attempts) :
    request.url = c.baseUrl ++ path := by
  cases hencode : env.encode body with
  | error e =>
      rw [Python.MizanClient.request_unsent hencode] at h
      cases h
  | ok encoded =>
      rcases c.request_decided rfl hencode with ⟨j, r, -, hrun⟩
      rw [hrun, List.mem_map] at h
      rcases h with ⟨k, -, rfl⟩
      rfl

/-- What is sent behind a path goes to that path. -/
theorem guarded_url {c : Python.MizanClient} {env : Python.Env} {method : String}
    {first : Except Python.PyError Python.PyStr} {businessId : Python.PyStr}
    {body : Option Python.PyDict} {key : Option Python.PyStr} {mutation : Bool}
    {extraHeaders : List (String × Python.PyStr)} {request : Python.Request}
    (h : request ∈ (Python.guarded first fun path =>
      c.request env method path body businessId key mutation extraHeaders).attempts) :
    ∃ path, first = .ok path ∧ request.url = c.baseUrl ++ path := by
  cases first with
  | error e => cases h
  | ok path => exact ⟨path, rfl, request_url h⟩

/-- What a Python call sends to is its path behind the base URL. -/
theorem pyCall_url {call : Python.BusinessCall} {a : Python.MizanAdminClient}
    {py : Python.BuilderInterpreter} {env : Python.Env} {key : Option Python.PyStr}
    {request : Python.Request} (h : request ∈ (call.perform a py env key).attempts) :
    ∃ path, pyPath call a = .ok path ∧ request.url = a.baseUrl ++ path := by
  cases call with
  | mutating m =>
      rw [Python.BusinessCall.perform, Python.MutatingCall.perform_eq] at h
      exact guarded_url h
  | reading r =>
      rw [Python.BusinessCall.perform, Python.ReadingCall.perform_eq] at h
      exact guarded_url h
  | metering b u =>
      rw [Python.BusinessCall.perform, Python.UsageCall.perform_eq,
        Python.MizanClient.consumeBuilt] at h
      cases hbuild : u.build py with
      | error e =>
          rw [hbuild] at h
          cases h
      | ok body =>
          rw [hbuild] at h
          exact guarded_url h

/-- The characters of a text. -/
def characters (t : Python.PyStr) : List Char := t.toScalars.toList

/-- The characters of two texts. -/
theorem characters_append (t u : Python.PyStr) :
    characters (t ++ u) = characters t ++ characters u := by
  simp [characters, Text.toScalars]

/-- Those of a string. -/
theorem characters_str (s : String) : characters (str s) = s.toList :=
  congrArg String.toList (Text.toScalars_ofString s)

/-- Those of an encoded text. -/
theorem characters_encoded (encoded : List Char) :
    characters (str (String.ofList encoded)) = encoded := by
  rw [characters_str, String.toList_ofList]

/-- The characters of a path below a slot. -/
theorem characters_path (start : String) (encoded : List Char) (suffix : Python.PyStr) :
    characters (str start ++ str (String.ofList encoded) ++ str "/" ++ suffix) =
      start.toList ++ encoded ++ '/' :: characters suffix := by
  have hslash : characters (str "/") = ['/'] := by decide
  rw [characters_append, characters_append, characters_append, characters_str,
    characters_encoded, hslash, List.append_assoc _ ['/'], List.singleton_append]

/-- Quoting Unicode text. -/
theorem quote_str (s : String) :
    Python.quote (str s) = .ok (str (String.ofList (Sdk.python.codec.encode (utf8 s)))) := by
  simp only [Python.quote, Python.encodeUtf8, str, Text.isScalar_ofString, if_true,
    Text.toScalars_ofString]
  rfl

/-- A path below a business holds its quoted identifier. -/
theorem exists_quote_of_businessPath {c : Python.MizanClient} {b suffix path : Python.PyStr}
    (h : c.businessPath b suffix = .ok path) :
    ∃ segment, Python.quote b = .ok segment ∧
      path = str "/v1/businesses/" ++ segment ++ str "/" ++ suffix := by
  have hquoted : (Python.quote b >>= fun segment =>
      pure (str "/v1/businesses/" ++ segment ++ str "/" ++ suffix)) = .ok path := by
    by_cases hempty : b = []
    · simp [Python.MizanClient.businessPath, hempty, throw, throwThe, MonadExceptOf.throw, bind,
        Except.bind] at h
    · cases hbound : c.businessId with
      | none => simpa only [Python.MizanClient.businessPath, hempty, hbound, if_false] using h
      | some bound =>
          by_cases hother : b = bound
          · subst hother
            simpa only [Python.MizanClient.businessPath, hempty, hbound, ne_eq,
              not_true_eq_false, if_false] using h
          · simp [Python.MizanClient.businessPath, hempty, hbound, hother, throw, throwThe,
              MonadExceptOf.throw, bind, Except.bind] at h
  rcases (bind_eq_ok_iff _ _ _).mp hquoted with ⟨segment, hsegment, hpath⟩
  exact ⟨segment, hsegment, (Except.ok.inj hpath).symm⟩

/-- The path of a client for a business, if it has one. -/
theorem businessPath_eq_ok {c : Python.MizanClient} {b : String} {suffix path : Python.PyStr}
    (h : c.businessPath (str b) suffix = .ok path) :
    path = str "/v1/businesses/" ++ str (String.ofList (Sdk.python.codec.encode (utf8 b))) ++
      str "/" ++ suffix := by
  rcases exists_quote_of_businessPath h with ⟨segment, hsegment, hpath⟩
  rw [quote_str, Except.ok.injEq] at hsegment
  rw [hpath, hsegment]

/-- So does the path of an add-on. -/
theorem exists_quote_of_addonPath {code path : Python.PyStr}
    (h : Python.addonPath code = .ok path) :
    ∃ quoted, Python.quote code = .ok quoted ∧ path = str "/admin/api/addons/" ++ quoted := by
  have hquoted : (Python.quote code >>= fun code => pure (str "/admin/api/addons/" ++ code)) =
      .ok path := by
    by_cases hempty : code = []
    · simp [Python.addonPath, hempty, throw, throwThe, MonadExceptOf.throw, bind,
        Except.bind] at h
    · simpa only [Python.addonPath, hempty, if_false] using h
  rcases (bind_eq_ok_iff _ _ _).mp hquoted with ⟨quoted, hsegment, hpath⟩
  exact ⟨quoted, hsegment, (Except.ok.inj hpath).symm⟩

/-- The path of an admin client for a business. -/
theorem adminBusinessPath_str (b : String) (suffix : Python.PyStr) :
    Python.adminBusinessPath (str b) suffix =
      .ok (str "/admin/api/businesses/" ++
        str (String.ofList (Sdk.python.codec.encode (utf8 b))) ++ str "/" ++ suffix) := by
  rw [Python.adminBusinessPath, quote_str]
  rfl

/-- A path below a business. -/
theorem pyBusiness_spelled {op : Operation} {rest : List (Option String)} {b : String}
    {suffix path : Python.PyStr} {ids : List String} {query : List Char}
    (hpath : path = str "/v1/businesses/" ++
      str (String.ofList (Sdk.python.codec.encode (utf8 b))) ++ str "/" ++ suffix)
    (htemplate : op.template = business rest) (hlength : ids.length = rest.count none)
    (hquery : IsQuery query) (hsuffix : '/' :: characters suffix =
      absolute (write Sdk.python.codec (patternOf rest) (ids.map utf8)) ++ query) :
    Spelled .python op (b :: ids) (characters path) := by
  rw [hpath, characters_path]
  exact spelled_below htemplate hlength hquery business_start hsuffix

/-- The same below a business of the admin API. -/
theorem pyAdminBusiness_spelled {op : Operation} {rest : List (Option String)} {b : String}
    {suffix path : Python.PyStr} {ids : List String} {query : List Char}
    (h : Python.adminBusinessPath (str b) suffix = .ok path)
    (htemplate : op.template = adminBusiness rest) (hlength : ids.length = rest.count none)
    (hquery : IsQuery query) (hsuffix : '/' :: characters suffix =
      absolute (write Sdk.python.codec (patternOf rest) (ids.map utf8)) ++ query) :
    Spelled .python op (b :: ids) (characters path) := by
  rw [adminBusinessPath_str, Except.ok.injEq] at h
  rw [← h, characters_path]
  exact spelled_below htemplate hlength hquery adminBusiness_start hsuffix

/-- A fixed suffix. -/
theorem suffix_str {rest : List (Option String)} {suffix : String}
    (h : '/' :: suffix.toList = absolute (write Sdk.python.codec (patternOf rest) []) ++ []) :
    '/' :: characters (str suffix) =
      absolute (write Sdk.python.codec (patternOf rest) ([].map utf8)) ++ [] := by
  rw [characters_str]
  exact h

/-- A fixed suffix, with what follows it. -/
theorem suffix_query {rest : List (Option String)} {suffix : String}
    (h : '/' :: suffix.toList = absolute (write Sdk.python.codec (patternOf rest) []))
    (query : Python.PyStr) : '/' :: characters (str suffix ++ query) =
      absolute (write Sdk.python.codec (patternOf rest) ([].map utf8)) ++ characters query := by
  rw [characters_append, characters_str, ← List.cons_append, h]
  rfl

/-- The suffix of an action on a feature. -/
theorem pyFeature_suffix (feature : String) {action name : String}
    (haction : action.toList = '/' :: name.toList) :
    '/' :: characters (str "features/" ++
        str (String.ofList (Sdk.python.codec.encode (utf8 feature))) ++ str action) =
      absolute (write Sdk.python.codec (patternOf [some "features", none, some name])
        [utf8 feature]) ++ [] := by
  have hstart : characters (str "features/") = "features".toList ++ ['/'] := by decide
  rw [characters_append, characters_append, hstart, characters_encoded, characters_str action,
    haction]
  simp [patternOf, write, absolute]

/-- The suffix of an entitlement. -/
theorem pyEntitlement_suffix (capability : String) :
    '/' :: characters (str "entitlements/" ++
        str (String.ofList (Sdk.python.codec.encode (utf8 capability)))) =
      absolute (write Sdk.python.codec (patternOf [some "entitlements", none])
        [utf8 capability]) ++ [] := by
  have hstart : characters (str "entitlements/") = "entitlements".toList ++ ['/'] := by decide
  rw [characters_append, hstart, characters_encoded]
  simp [patternOf, write, absolute]

/-- A text that is spelled by one identifier. -/
theorem eq_of_singleton {t : Python.PyStr} {ids : List String} (h : [t] = ids.map str) :
    ∃ id, t = str id ∧ ids = [id] := by
  rcases List.map_eq_singleton_iff.mp h.symm with ⟨id, rfl, ht⟩
  exact ⟨id, ht.symm, rfl⟩

/-- Texts that are spelled by two. -/
theorem eq_of_pair {t u : Python.PyStr} {ids : List String} (h : [t, u] = ids.map str) :
    ∃ id other, t = str id ∧ u = str other ∧ ids = [id, other] := by
  rcases List.map_eq_cons_iff.mp h.symm with ⟨id, rest, rfl, ht, hrest⟩
  rcases eq_of_singleton hrest.symm with ⟨other, hu, rfl⟩
  exact ⟨id, other, ht.symm, hu, rfl⟩

/-- Python knows the same two kinds. -/
theorem validateDeliveryKind_eq_ok {kind : Python.PyStr}
    (h : Python.validateDeliveryKind kind = .ok ()) :
    ∃ name, kind = str name ∧ (name = "ledger" ∨ name = "notification") := by
  unfold Python.validateDeliveryKind at h
  split at h
  · rename_i hkind
    rcases hkind with hledger | hnotification
    · exact ⟨"ledger", hledger, .inl rfl⟩
    · exact ⟨"notification", hnotification, .inr rfl⟩
  · cases h

/-- The path of a mutating call. -/
theorem pyMutation_spelled {m : Python.MutatingCall} {a : Python.MizanAdminClient}
    {op : Operation} {ids : List String} {path : Python.PyStr}
    (hop : pyOperation (.mutating m) = some op)
    (hids : pyIdentifiers (.mutating m) = ids.map str) (h : m.path a = .ok path) :
    Spelled .python op ids (characters path) := by
  cases m with
  | activateSubscription b r | refundProviderBalance b r =>
      cases hop
      rcases eq_of_singleton hids with ⟨id, hid, rfl⟩
      change b = str id at hid
      subst hid
      rcases (bind_eq_ok_iff _ _ _).mp h with ⟨_, -, h⟩
      rcases (bind_eq_ok_iff _ _ _).mp h with ⟨_, -, h⟩
      exact pyBusiness_spelled (businessPath_eq_ok h) rfl rfl isQuery_nil (suffix_str (by decide))
  | applyRenewalEvent b r | topUpAzeerUnits b r | topUpProviderBalance b r =>
      cases hop
      rcases eq_of_singleton hids with ⟨id, hid, rfl⟩
      change b = str id at hid
      subst hid
      rcases (bind_eq_ok_iff _ _ _).mp h with ⟨_, -, h⟩
      exact pyBusiness_spelled (businessPath_eq_ok h) rfl rfl isQuery_nil (suffix_str (by decide))
  | changeSubscription b r | cancelSubscription b r | consume b r =>
      cases hop
      rcases eq_of_singleton hids with ⟨id, hid, rfl⟩
      change b = str id at hid
      subst hid
      exact pyBusiness_spelled (businessPath_eq_ok h) rfl rfl isQuery_nil (suffix_str (by decide))
  | setFeatureBudget b feature r =>
      cases hop
      rcases eq_of_pair hids with ⟨id, other, rfl, rfl, rfl⟩
      rcases (bind_eq_ok_iff _ _ _).mp h with ⟨quoted, hquote, h⟩
      rw [quote_str, Except.ok.injEq] at hquote
      subst hquote
      exact pyBusiness_spelled (businessPath_eq_ok h) rfl rfl isQuery_nil
        (pyFeature_suffix other (by decide))
  | configureAddon code r =>
      cases hop
      rcases eq_of_singleton hids with ⟨id, hid, rfl⟩
      change code = str id at hid
      subst hid
      rcases exists_quote_of_addonPath h with ⟨quoted, hquoted, hpath⟩
      rw [quote_str, Except.ok.injEq] at hquoted
      have htext : characters path =
          "/admin/api/addons/".toList ++ Sdk.python.codec.encode (utf8 id) ++ [] := by
        rw [hpath, ← hquoted, characters_append, characters_str, characters_encoded,
          List.append_nil]
      rw [htext]
      exact spelled_below rfl rfl isQuery_nil addons_start rfl
  | configureGlobalDeliveryEndpoint kind r =>
      rcases (bind_eq_ok_iff _ _ _).mp h with ⟨_, hkind, h⟩
      rcases validateDeliveryKind_eq_ok hkind with ⟨name, rfl, hname⟩
      obtain rfl : ids = [] := List.map_eq_nil_iff.mp hids.symm
      have hpath : characters path = ("/admin/api/delivery-endpoints/" ++ name).toList := by
        rw [← Except.ok.inj h, characters_append, characters_str, characters_str,
          String.toList_append]
      rw [pyOperation, Text.toScalars_ofString, Option.some.injEq] at hop
      rw [hpath, ← hop]
      exact global_spelled .python hname
  | configureBusinessDeliveryEndpoint b kind r =>
      rcases eq_of_singleton hids with ⟨id, hid, rfl⟩
      change b = str id at hid
      subst hid
      rcases (bind_eq_ok_iff _ _ _).mp h with ⟨_, hkind, h⟩
      rcases validateDeliveryKind_eq_ok hkind with ⟨name, rfl, hname⟩
      rw [pyOperation, Text.toScalars_ofString, Option.some.injEq] at hop
      subst hop
      have hsuffix : str "delivery-endpoints/" ++ str name =
          str ("delivery-endpoints/" ++ name) := by
        simp [Text.ofString]
      rw [hsuffix] at h
      rcases hname with rfl | rfl
      · exact pyAdminBusiness_spelled h rfl rfl isQuery_nil (suffix_str (by decide))
      · exact pyAdminBusiness_spelled h rfl rfl isQuery_nil (suffix_str (by decide))

/-- What follows a question mark is a query. -/
theorem isQuery_characters {start : String} (h : start.toList.head? = some '?')
    (rest : Python.PyStr) : IsQuery (characters (str start ++ rest)) := by
  right
  rw [characters_append, characters_str, List.head?_append, h]
  rfl

/-- The path of a reading call. -/
theorem pyReading_spelled {r : Python.ReadingCall} {a : Python.MizanAdminClient}
    {op : Operation} {ids : List String} {path : Python.PyStr}
    (hop : pyOperation (.reading r) = some op)
    (hids : pyIdentifiers (.reading r) = ids.map str) (h : r.path a = .ok path) :
    Spelled .python op ids (characters path) := by
  cases r with
  | getCatalog | getGlobalDeliveryEndpoints | listAddons | listBusinesses => cases hop
  | checkEligibility b feature request =>
      cases hop
      rcases eq_of_pair hids with ⟨id, other, rfl, rfl, rfl⟩
      rcases (bind_eq_ok_iff _ _ _).mp h with ⟨quoted, hquote, h⟩
      rw [quote_str, Except.ok.injEq] at hquote
      subst hquote
      exact pyBusiness_spelled (businessPath_eq_ok h) rfl rfl isQuery_nil
        (pyFeature_suffix other (by decide))
  | getEntitlement b capability =>
      cases hop
      rcases eq_of_pair hids with ⟨id, other, rfl, rfl, rfl⟩
      rcases (bind_eq_ok_iff _ _ _).mp h with ⟨quoted, hquote, h⟩
      rw [quote_str, Except.ok.injEq] at hquote
      subst hquote
      exact pyBusiness_spelled (businessPath_eq_ok h) rfl rfl isQuery_nil
        (pyEntitlement_suffix other)
  | previewBalanceImpact b request | getBillingSummary b =>
      cases hop
      rcases eq_of_singleton hids with ⟨id, hid, rfl⟩
      change b = str id at hid
      subst hid
      exact pyBusiness_spelled (businessPath_eq_ok h) rfl rfl isQuery_nil
        (suffix_str (by decide))
  | getLedger b after limit =>
      cases hop
      rcases eq_of_singleton hids with ⟨id, hid, rfl⟩
      change b = str id at hid
      subst hid
      rcases (bind_eq_ok_iff _ _ _).mp h with ⟨_, -, h⟩
      rcases (bind_eq_ok_iff _ _ _).mp h with ⟨start, hstart, h⟩
      have hpath : path = str "/v1/businesses/" ++
          str (String.ofList (Sdk.python.codec.encode (utf8 id))) ++ str "/" ++
            (str "ledger" ++ (str "?after_sequence=" ++
              (Python.strInt after ++ (str "&limit=" ++ Python.strInt limit)))) := by
        rw [← Except.ok.inj h, businessPath_eq_ok hstart]
        simp only [List.append_assoc]
      exact pyBusiness_spelled hpath rfl rfl (isQuery_characters (by decide) _)
        (suffix_query (by decide) _)
  | listUsageDecisions b offset limit | listBusinessAudit b offset limit =>
      cases hop
      rcases eq_of_singleton hids with ⟨id, hid, rfl⟩
      change b = str id at hid
      subst hid
      simp only [Python.ReadingCall.path, Python.pageSuffix, List.append_assoc] at h
      exact pyAdminBusiness_spelled h rfl rfl (isQuery_characters (by decide) _)
        (suffix_query (by decide) _)
  | getBusinessDeliveryEndpoints b =>
      cases hop
      rcases eq_of_singleton hids with ⟨id, hid, rfl⟩
      change b = str id at hid
      subst hid
      exact pyAdminBusiness_spelled h rfl rfl isQuery_nil (suffix_str (by decide))

/-- What a call of the Python SDK sends is spelled as its operation says. -/
theorem pyCall_spelled {call : Python.BusinessCall} {a : Python.MizanAdminClient}
    {py : Python.BuilderInterpreter} {env : Python.Env} {key : Option Python.PyStr}
    {request : Python.Request} {op : Operation} {ids : List String}
    (hop : pyOperation call = some op) (hids : pyIdentifiers call = ids.map str)
    (h : request ∈ (call.perform a py env key).attempts) :
    ∃ path, request.url = a.baseUrl ++ path ∧ Spelled .python op ids (characters path) := by
  rcases pyCall_url h with ⟨path, hpath, hurl⟩
  refine ⟨path, hurl, ?_⟩
  cases call with
  | mutating m => exact pyMutation_spelled hop hids hpath
  | reading r => exact pyReading_spelled hop hids hpath
  | metering b u => exact pyMutation_spelled (m := .consume b []) hop hids hpath

/-! ## Requests -/

/-- A call of an SDK for an operation, with Unicode identifiers, sends a request to
a path behind the base URL. -/
inductive Sends : Sdk → Operation → List String → List Char → Prop where
  | go {call : Go.BusinessCall} {a : Go.AdminClient} {env : Go.Env} {key : String}
      {request : Go.HTTPRequest} {path : String}
      (sent : request ∈ (call.perform a env key).attempts)
      (url : request.url = a.client.baseURL ++ path) :
      Sends .go (goOperation call) (goIdentifiers call) path.toList
  | python {call : Python.BusinessCall} {a : Python.MizanAdminClient}
      {py : Python.BuilderInterpreter} {env : Python.Env} {key : Option Python.PyStr}
      {request : Python.Request} {path : Python.PyStr} {op : Operation} {ids : List String}
      (operation : pyOperation call = some op) (identifiers : pyIdentifiers call = ids.map str)
      (sent : request ∈ (call.perform a py env key).attempts)
      (url : request.url = a.baseUrl ++ path) :
      Sends .python op ids (characters path)

/-- The path of a request is that of its operation with its identifiers in the
slots. -/
theorem sends_spelled {sdk : Sdk} {op : Operation} {ids : List String} {path : List Char}
    (h : Sends sdk op ids path) : Spelled sdk op ids path := by
  cases h with
  | go sent url =>
      rcases goCall_spelled sent with ⟨path', hurl, hspelled⟩
      rw [url, String.append_right_inj] at hurl
      exact hurl ▸ hspelled
  | python operation identifiers sent url =>
      rcases pyCall_spelled operation identifiers sent with ⟨path', hurl, hspelled⟩
      rw [url, List.append_cancel_left_eq] at hurl
      exact hurl ▸ hspelled

/-- Two requests keep to their routes: each arrives at its operation with its
identifiers, and they lead to different places if their operations or identifiers
differ. -/
structure KeptApart (op op' : Operation) (ids ids' : List String) (path path' : List Char) :
    Prop where
  first : Arrives op ids path
  second : Arrives op' ids' path'
  apart : op ≠ op' ∨ ids ≠ ids' → route path ≠ route path'

/-- Requests keep to their routes exactly when no identifier is `.` or `..`. -/
theorem keptApart_iff {sdk sdk' : Sdk} {op op' : Operation} {ids ids' : List String}
    {path path' : List Char} (h : Sends sdk op ids path) (h' : Sends sdk' op' ids' path') :
    KeptApart op op' ids ids' path path' ↔ ∀ id ∈ ids ++ ids', id ≠ "." ∧ id ≠ ".." := by
  have harrives := (sends_spelled h).arrives_iff
  have harrives' := (sends_spelled h').arrives_iff
  rw [List.forall_mem_append, ← harrives, ← harrives']
  constructor
  · intro hkept
    exact ⟨hkept.first, hkept.second⟩
  · rintro ⟨hfirst, hsecond⟩
    refine ⟨hfirst, hsecond, ?_⟩
    intro hdiffer hroute
    have hsame := hfirst.unique hsecond hroute
    rcases hdiffer with hop | hids
    · exact hop hsame.1
    · exact hids hsame.2

section Example

/-- A plan that gets as far as sending sends to its path. -/
theorem sends_of_sendable (call : Go.BusinessCall) (a : Go.AdminClient) (env : Go.Env)
    (key : String) (h : (call.plan a env key).Sendable a.client env)
    (hscope : (call.plan a env key).guardsScope = true →
      a.client.scopeCheck env (call.plan a env key).businessID = none) :
    Sends .go (goOperation call) (goIdentifiers call) (call.plan a env key).path.toList := by
  rcases Go.Plan.run_sends h hscope with ⟨payload, j, r, hpos, hrun⟩
  have hfirst : 1 ∈ List.range' 1 j := by
    simp only [List.mem_range'_1]
    omega
  have hsent : a.client.buildRequest env (a.client.newCall env (call.plan a env key).method
      (call.plan a env key).path (call.plan a env key).businessID payload
      (call.plan a env key).key (call.plan a env key).mutation
      (call.plan a env key).extraHeaders) 1 ∈ (call.perform a env key).attempts := by
    rw [Go.BusinessCall.perform_eq, hrun]
    exact List.mem_map_of_mem hfirst
  exact .go hsent rfl

/-- The path of a read of a client without a business. -/
def readPath (r : Go.ReadingCall) : List Char := (r.plan Go.opsAdmin).path.toList

/-- A read that passes its checks is sent. -/
theorem read_sends {r : Go.ReadingCall} (hcheck : (r.plan Go.opsAdmin).check = none)
    (hbody : (r.plan Go.opsAdmin).body = none) :
    Sends .go (goOperation (.reading r)) (goIdentifiers (.reading r)) (readPath r) := by
  have hscope : ∀ b, Go.opsAdmin.client.scopeCheck Go.unansweredEnv b = none := by
    intro b
    simp [Go.Client.scopeCheck, Go.opsAdmin]
  have hencodes : ∃ payload, Go.unansweredEnv.encode (r.plan Go.opsAdmin).body = .ok payload := by
    rw [hbody]
    exact ⟨none, rfl⟩
  exact sends_of_sendable (.reading r) Go.opsAdmin Go.unansweredEnv "" ⟨hcheck, hencodes, rfl⟩
    fun _ => hscope _

/-- A consumption of the Python SDK. -/
theorem consume_sends : ∃ path, Sends .python .consume ["shop"] path := by
  have hadmitted := Python.oneMessage_admitted Python.unansweredEnv rfl
  rcases Python.MutatingCall.perform_of_admitted hadmitted none with
    ⟨path, encoded, j, r, hdecides, hrun⟩
  have hpos : 1 ≤ j := hdecides.le
  have hfirst : 1 ∈ List.range' 1 j := by
    simp only [List.mem_range'_1]
    omega
  have hsent : Python.opsAdmin.buildRequest Python.unansweredEnv
      (Python.oneMessage.call Python.opsAdmin Python.unansweredEnv none path encoded) 1 ∈
        ((Python.BusinessCall.mutating Python.oneMessage).perform Python.opsAdmin
          Python.asciiInterpreter Python.unansweredEnv none).attempts := by
    rw [Python.BusinessCall.perform, hrun]
    exact List.mem_map_of_mem hfirst
  exact ⟨characters path, .python rfl rfl hsent rfl⟩

/-- Other delimiters inside identifiers change no route. -/
theorem delimiters_keptApart :
    ∃ path, Sends .python .consume ["shop"] path ∧
      KeptApart .getEntitlement .consume ["a/../b", "50%"] ["shop"]
        (readPath (.getEntitlement "a/../b" "50%")) path := by
  have hentitlement := read_sends (r := .getEntitlement "a/../b" "50%") rfl rfl
  rcases consume_sends with ⟨path, hconsume⟩
  exact ⟨path, hconsume, (keptApart_iff hentitlement hconsume).mpr (by decide)⟩

/-- The entitlement `ledger` of the business `.` leads to the ledger of the business
`entitlements`. -/
theorem dot_changes_route :
    Sends .go .getEntitlement [".", "ledger"] (readPath (.getEntitlement "." "ledger")) ∧
      Sends .go .getLedger ["entitlements"] (readPath (.getLedger "entitlements" 0 100)) ∧
      ¬ Arrives .getEntitlement [".", "ledger"] (readPath (.getEntitlement "." "ledger")) ∧
      route (readPath (.getEntitlement "." "ledger")) =
        route (readPath (.getLedger "entitlements" 0 100)) := by
  have hentitlement : Sends .go .getEntitlement [".", "ledger"]
      (readPath (.getEntitlement "." "ledger")) :=
    read_sends (r := .getEntitlement "." "ledger") rfl rfl
  have hledger : Sends .go .getLedger ["entitlements"]
      (readPath (.getLedger "entitlements" 0 100)) :=
    read_sends (r := .getLedger "entitlements" 0 100) rfl rfl
  refine ⟨hentitlement, hledger, ?_, by decide +kernel⟩
  rw [(sends_spelled hentitlement).arrives_iff]
  decide

end Example

end MizanSDK.Agreement
