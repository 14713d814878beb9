import MizanSDK.Agreement.Amounts
import MizanSDK.Agreement.Members

/-!
# Notifications in both receivers

Go decodes every field of a notification before it looks at the type, Python
looks at the fields a type calls for.

Main results:

- Theorem `goNotification_iff`: Go accepts the notifications that meet the shared
  contract and what Go alone demands.
- Theorem `pyNotification_iff`: Python accepts the notifications that meet the
  shared contract and what Python alone demands.
-/

namespace MizanSDK.Agreement

open JsonText Go Python

/-! ## The contract -/

/-- The types of notifications. -/
def notificationTypes : List String :=
  ["budget_warning", "budget_breached", "budget_paused", "feature_paused_manual",
    "feature_resumed_manual"]

/-- The types that come with a period. -/
def periodTypes : List String := ["budget_warning", "budget_breached", "budget_paused"]

/-- The types that come with amounts. -/
def thresholdTypes : List String := ["budget_warning", "budget_breached"]

/-- An amount Python accepts. -/
def UnsignedAmount (py : Interpreter) (v : Option Json) : Prop :=
  ∃ t, v = some (.string t) ∧ unsignedCanonicalInteger py (some (.str t)) = .ok true

/-- What both receivers demand of a notification. -/
structure NotificationCommon (py : Interpreter) (members : Members) (type : String) :
    Prop where
  businessId : Filled (member members "business_id")
  featureCode : Filled (member members "feature_code")
  isType : member members "type" = some (.string (Text.ofString type))
  known : type ∈ notificationTypes
  period : type ∈ periodTypes → Filled (member members "period")
  amounts : type ∈ thresholdTypes →
    ∀ name ∈ ["projected", "limit"], UnsignedAmount py (member members name)

/-- What Go alone demands of a notification. -/
structure NotificationGo (members : Members) (type : String) : Prop where
  texts : ∀ name ∈ ["period", "projected", "limit"], OptionalText (member members name)
  amounts : type ∈ thresholdTypes → ∀ name ∈ ["projected", "limit"],
    ∀ t, member members name = some (.string t) → isAscii t = true

/-- What Python alone demands of a notification. -/
structure NotificationPy (members : Members) (type : String) : Prop where
  names : ∀ name ∈ ["business_id", "feature_code"],
    spelled members name = member members name
  period : type ∈ periodTypes → spelled members "period" = member members "period"
  amounts : type ∈ thresholdTypes → ∀ name ∈ ["projected", "limit"],
    spelled members name = member members name

/-- The type of a notification is its type member. -/
theorem NotificationCommon.type_unique {py : Interpreter} {members : Members}
    {type other : String} (h : NotificationCommon py members type)
    (h' : NotificationCommon py members other) : type = other := by
  have hsame := h.isType.symm.trans h'.isType
  simpa using hsame

/-! ## Go -/

/-- No type is empty or has a replacement character in it. -/
theorem plain_types : ∀ s ∈ notificationTypes, s ≠ "" ∧ '\uFFFD' ∉ s.toList := by
  decide

/-- The fields of a decoded notification. -/
structure DecodesNotification (members : Members) (event : NotificationWebhook) : Prop where
  type : decoded decodeString "" (member members "type") = some event.type
  businessID : decoded decodeString "" (member members "business_id") = some event.businessID
  featureCode :
    decoded decodeString "" (member members "feature_code") = some event.featureCode
  period : decoded decodeString "" (member members "period") = some event.period
  projected : decoded decodeString "" (member members "projected") = some event.projected
  limit : decoded decodeString "" (member members "limit") = some event.limit

theorem decodeNotificationWebhook_eq_some_iff {members : Members}
    (h : DistinctNames members) (event : NotificationWebhook) :
    decodeNotificationWebhook members = some event ↔ DecodesNotification members event := by
  unfold decodeNotificationWebhook
  simp only [Option.bind_eq_bind, Option.bind_eq_some_iff, field_eq_decoded h]
  constructor
  · rintro ⟨type, htype, business, hbusiness, feature, hfeature, period, hperiod, projected,
      hprojected, limit, hlimit, hevent⟩
    obtain rfl := Option.some.inj hevent
    exact ⟨htype, hbusiness, hfeature, hperiod, hprojected, hlimit⟩
  · intro hevent
    exact ⟨_, hevent.type, _, hevent.businessID, _, hevent.featureCode, _, hevent.period, _,
      hevent.projected, _, hevent.limit, rfl⟩

/-- A decoded amount is exact when it is one that Python accepts and that is written
in ASCII. -/
theorem decoded_exact_iff (py : Interpreter) {v : Option Json} {s : String}
    (h : decoded decodeString "" v = some s) :
    isUnsignedExactAmount s = true ↔
      UnsignedAmount py v ∧ ∀ t, v = some (.string t) → isAscii t = true := by
  rcases (decoded_string_eq_some_iff v s).mp h with ⟨hv, rfl⟩ | ⟨t, rfl, rfl⟩
  · have hempty : isUnsignedExactAmount "" = false := by decide
    rw [hempty]
    rcases hv with rfl | rfl <;> simp [UnsignedAmount]
  · rw [isUnsignedExactAmount_iff py]
    simp [UnsignedAmount, and_comm]

/-- Go accepts the notifications that meet the shared contract and what Go alone
demands. -/
theorem goNotification_iff (py : Interpreter) {members : Members}
    (h : DistinctNames members) :
    (∃ event, decodeNotificationWebhook members = some event ∧
        validateNotificationWebhook event = none) ↔
      ∃ type, NotificationCommon py members type ∧ NotificationGo members type := by
  simp only [decodeNotificationWebhook_eq_some_iff h, validateNotificationWebhook_eq_none_iff]
  constructor
  · rintro ⟨event, hdecodes, hvalid⟩
    have htype := plain_types _ hvalid.type
    refine ⟨event.type, ?_, ?_, ?_⟩
    · exact
        { businessId := (decoded_filled_iff hdecodes.businessID).mp hvalid.businessID
          featureCode := (decoded_filled_iff hdecodes.featureCode).mp hvalid.featureCode
          isType := (decoded_eq_iff htype.1 htype.2 _).mp hdecodes.type
          known := hvalid.type
          period := fun hmem => (decoded_filled_iff hdecodes.period).mp (hvalid.period hmem)
          amounts := by
            intro hmem
            obtain ⟨hprojected, hlimit⟩ := hvalid.amounts hmem
            simp only [List.forall_mem_cons]
            exact ⟨((decoded_exact_iff py hdecodes.projected).mp hprojected).1,
              ((decoded_exact_iff py hdecodes.limit).mp hlimit).1, by simp⟩ }
    · simp only [List.forall_mem_cons]
      exact ⟨(optionalText_iff_decoded _).mpr ⟨_, hdecodes.period⟩,
        (optionalText_iff_decoded _).mpr ⟨_, hdecodes.projected⟩,
        (optionalText_iff_decoded _).mpr ⟨_, hdecodes.limit⟩, by simp⟩
    · intro hmem
      obtain ⟨hprojected, hlimit⟩ := hvalid.amounts hmem
      simp only [List.forall_mem_cons]
      exact ⟨((decoded_exact_iff py hdecodes.projected).mp hprojected).2,
        ((decoded_exact_iff py hdecodes.limit).mp hlimit).2, by simp⟩
  · rintro ⟨type, hcommon, hgo⟩
    have htexts := hgo.texts
    simp only [List.forall_mem_cons] at htexts
    obtain ⟨hperiodText, hprojectedText, hlimitText, -⟩ := htexts
    obtain ⟨business, hbusiness⟩ :=
      (optionalText_iff_decoded _).mp hcommon.businessId.optionalText
    obtain ⟨feature, hfeature⟩ :=
      (optionalText_iff_decoded _).mp hcommon.featureCode.optionalText
    obtain ⟨period, hperiod⟩ := (optionalText_iff_decoded _).mp hperiodText
    obtain ⟨projected, hprojected⟩ := (optionalText_iff_decoded _).mp hprojectedText
    obtain ⟨limit, hlimit⟩ := (optionalText_iff_decoded _).mp hlimitText
    have htype := plain_types _ hcommon.known
    refine ⟨⟨type, business, feature, period, projected, limit⟩,
      ⟨(decoded_eq_iff htype.1 htype.2 _).mpr hcommon.isType, hbusiness, hfeature, hperiod,
        hprojected, hlimit⟩, ?_⟩
    exact
      { businessID := (decoded_filled_iff hbusiness).mpr hcommon.businessId
        featureCode := (decoded_filled_iff hfeature).mpr hcommon.featureCode
        type := hcommon.known
        period := fun hmem => (decoded_filled_iff hperiod).mpr (hcommon.period hmem)
        amounts := fun hmem =>
          ⟨(decoded_exact_iff py hprojected).mpr
              ⟨hcommon.amounts hmem "projected" (by simp), hgo.amounts hmem "projected" (by simp)⟩,
            (decoded_exact_iff py hlimit).mpr
              ⟨hcommon.amounts hmem "limit" (by simp), hgo.amounts hmem "limit" (by simp)⟩⟩ }

/-! ## Python -/

/-- Only texts are amounts. -/
theorem unsignedCanonicalInteger_ofMembers_iff (py : Interpreter) (members : Members)
    (name : String) :
    unsignedCanonicalInteger py (PyDict.get (PyValue.ofMembers members) name) = .ok true ↔
      UnsignedAmount py (spelled members name) := by
  unfold UnsignedAmount
  simp only [← get_eq_str_iff]
  constructor
  · intro h
    have hexact := h
    unfold unsignedCanonicalInteger at hexact
    split at hexact
    · rename_i t ht
      exact ⟨t, ht, ht ▸ h⟩
    · simp at hexact
  · rintro ⟨t, ht, hexact⟩
    rw [ht]
    exact hexact

theorem spelled_of_filled {members : Members} (h : DistinctNames members) {name : String}
    (hfilled : Filled (spelled members name)) :
    spelled members name = member members name ∧ Filled (member members name) := by
  obtain ⟨t, ht, hne⟩ := hfilled
  have hmember := member_of_spelled h ht
  exact ⟨ht.trans hmember.symm, t, hmember, hne⟩

theorem spelled_of_unsignedAmount {py : Interpreter} {members : Members}
    (h : DistinctNames members) {name : String}
    (hamount : UnsignedAmount py (spelled members name)) :
    spelled members name = member members name ∧ UnsignedAmount py (member members name) := by
  obtain ⟨t, ht, hexact⟩ := hamount
  have hmember := member_of_spelled h ht
  exact ⟨ht.trans hmember.symm, t, hmember, hexact⟩

/-- Python accepts the notifications that meet the shared contract and what Python
alone demands. -/
theorem pyNotification_iff (py : Interpreter) {members : Members}
    (h : DistinctNames members) (hstream : (spelled members "type").isSome = true) :
    validateNotification py (PyValue.ofMembers members) = .ok () ↔
      ∃ type, NotificationCommon py members type ∧ NotificationPy members type := by
  have htypeName := spelled_eq_member h hstream
  rw [validateNotification_eq_ok_iff]
  refine exists_congr fun type => ?_
  constructor
  · intro hvalid
    have hbusiness := spelled_of_filled h ((filled_ofMembers_iff _ _).mp hvalid.businessId)
    have hfeature := spelled_of_filled h ((filled_ofMembers_iff _ _).mp hvalid.featureCode)
    have hperiod : type ∈ periodTypes →
        spelled members "period" = member members "period" ∧
          Filled (member members "period") :=
      fun hmem => spelled_of_filled h ((filled_ofMembers_iff _ _).mp (hvalid.period hmem))
    have hamounts : type ∈ thresholdTypes → ∀ name ∈ ["projected", "limit"],
        spelled members name = member members name ∧
          UnsignedAmount py (member members name) := by
      intro hmem
      obtain ⟨hprojected, hlimit⟩ := hvalid.amounts hmem
      rw [unsignedCanonicalInteger_ofMembers_iff] at hprojected hlimit
      simp only [List.forall_mem_cons]
      exact ⟨spelled_of_unsignedAmount h hprojected, spelled_of_unsignedAmount h hlimit,
        by simp⟩
    constructor
    · exact
        { businessId := hbusiness.2
          featureCode := hfeature.2
          isType := htypeName ▸ (get_eq_str_iff _ _ _).mp hvalid.isType
          known := hvalid.known
          period := fun hmem => (hperiod hmem).2
          amounts := fun hmem name hname => (hamounts hmem name hname).2 }
    · refine ⟨?_, fun hmem => (hperiod hmem).1, fun hmem name hname =>
        (hamounts hmem name hname).1⟩
      simp only [List.forall_mem_cons]
      exact ⟨hbusiness.1, hfeature.1, by simp⟩
  · rintro ⟨hcommon, hpy⟩
    have hnames := hpy.names
    simp only [List.forall_mem_cons] at hnames
    have hamount : type ∈ thresholdTypes → ∀ name ∈ ["projected", "limit"],
        unsignedCanonicalInteger py (PyDict.get (PyValue.ofMembers members) name) =
          .ok true := by
      intro hmem name hname
      rw [unsignedCanonicalInteger_ofMembers_iff, hpy.amounts hmem name hname]
      exact hcommon.amounts hmem name hname
    exact
      { businessId := (filled_ofMembers_iff _ _).mpr (hnames.1 ▸ hcommon.businessId)
        featureCode := (filled_ofMembers_iff _ _).mpr (hnames.2.1 ▸ hcommon.featureCode)
        isType := (get_eq_str_iff _ _ _).mpr (htypeName.trans hcommon.isType)
        known := hcommon.known
        period := fun hmem => (filled_ofMembers_iff _ _).mpr
          (hpy.period hmem ▸ hcommon.period hmem)
        amounts := fun hmem =>
          ⟨hamount hmem "projected" (by simp), hamount hmem "limit" (by simp)⟩ }

end MizanSDK.Agreement
