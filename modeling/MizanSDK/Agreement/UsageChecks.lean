import MizanSDK.Agreement.UsageFamilies

/-!
# Which usages are reported

Each SDK reports a usage exactly when it passes the checks both SDKs make and its
own.  There is one lemma for each family and SDK.

Main results:

- Theorem `go_reports_iff`: the usages Go reports.
- Theorem `python_reports_iff`: the usages Python reports.
-/

namespace MizanSDK.Agreement

open JsonText Decimal Trim Checks

/-! ## Go -/

section Go

/-- What holds of a pair holds of both. -/
theorem forall_mem_pair {p : String → Prop} {s t : String} :
    (∀ a ∈ [s, t], p a) ↔ p s ∧ p t := by
  simp

/-- Go checks the metadata it is given, and none as empty ones. -/
theorem validateMetadata_iff (source : Option Go.UsageMetadata) :
    Go.validateMetadata source = none ↔ (source.getD .zero).Valid := by
  cases source with
  | none => exact ⟨validateMetadata_getD, fun _ => rfl⟩
  | some m => exact Go.validateMetadata_eq_none_iff m

/-- The identity of a conversation keeps metadata within its bounds when it is. -/
theorem conversation_valid_iff {m : Go.UsageMetadata} (hm : m.Valid)
    (conversationID channel : String) :
    ({ m with conversationID := conversationID, channel := channel } : Go.UsageMetadata).Valid ↔
      (channel = "" ∨ channel ∈ Go.channels) ∧ conversationID.utf8ByteSize ≤ 512 := by
  have hbefore := hm.fields
  constructor
  · intro h
    have hafter := h.fields
    simp only [Go.UsageMetadata.boundedFields, List.forall_mem_cons] at hafter
    exact ⟨h.channel, hafter.2.2.2.1⟩
  · rintro ⟨hchannel, hconversation⟩
    refine ⟨hchannel, hm.actor, ?_, hm.amount, hm.attributes_length, hm.attributes⟩
    simp only [Go.UsageMetadata.boundedFields, List.forall_mem_cons] at hbefore ⊢
    exact ⟨hbefore.1, hbefore.2.1, hbefore.2.2.1, hconversation, hbefore.2.2.2.2⟩

/-- Go builds a conversation that meets the demands both make and its own. -/
theorem go_conversation_iff (usage : Go.Conversation24HUsage) :
    (∃ request, (Usage.conversation usage).request = .ok request) ↔
      (Usage.conversation usage).Shared ∧ (Usage.conversation usage).GoOnly := by
  have hone : Go.validateWholeCount (Go.quantityOrOne "1") = none := by decide
  simp only [Usage.request, Go.Conversation24HUsage.request, bind_eq_ok_iff,
    Go.conversationMetadata_eq_ok_iff, Go.countRequest, Go.quantityRequest_eq_ok_iff, hone,
    validateMetadata_iff, Option.getD_some, Go.validateUsageEvent_eq_none_iff]
  constructor
  · rintro ⟨_, _, ⟨hconversation, hchannel, hsource, rfl, hvalid⟩, ⟨hevent, htime⟩, -⟩
    rcases (conversation_valid_iff hsource _ _).mp hvalid with ⟨hknown, hlength⟩
    refine ⟨⟨hevent, hknown.resolve_left hchannel, hsource, ?_, ?_⟩, htime, ?_, nofun⟩
    · exact List.forall_mem_singleton.mpr hconversation
    · exact List.forall_mem_singleton.mpr ((length_strip_le _).trans hlength)
    · exact List.forall_mem_singleton.mpr hlength
  · rintro ⟨hshared, hgo⟩
    have hchannel : usage.channel ≠ "" := by
      intro hempty
      have hfacts := hshared.facts
      rw [Usage.FactsPass, hempty] at hfacts
      exact absurd hfacts (by decide)
    have hvalid := (conversation_valid_iff hshared.metadata _ _).mpr
      ⟨.inr hshared.facts, hgo.bounded _ List.mem_cons_self⟩
    exact ⟨_, _, ⟨hshared.required _ List.mem_cons_self, hchannel, hshared.metadata, rfl, hvalid⟩,
      ⟨hshared.event, hgo.time⟩, trivial, hvalid, rfl⟩

/-- The same for a message or a reply. -/
theorem go_count_iff (feature : String) (usage : Go.OutboundDeliveredMessageUsage) :
    (∃ request, (Usage.count feature usage).request = .ok request) ↔
      (Usage.count feature usage).Shared ∧ (Usage.count feature usage).GoOnly := by
  simp only [Usage.request, Go.countRequest, Go.quantityRequest_eq_ok_iff, validateMetadata_iff,
    Go.validateUsageEvent_eq_none_iff]
  constructor
  · rintro ⟨_, ⟨hevent, htime⟩, hquantity, hmetadata, -⟩
    exact ⟨⟨hevent, hquantity, hmetadata, List.forall_mem_nil _, List.forall_mem_nil _⟩, htime,
      List.forall_mem_nil _, List.forall_mem_nil _⟩
  · rintro ⟨hshared, hgo⟩
    exact ⟨_, ⟨hshared.event, hgo.time⟩, hshared.facts, hshared.metadata, rfl⟩

/-- The same for minutes of voice AI. -/
theorem go_minutes_iff (usage : Go.VoiceAIStartedMinuteUsage) :
    (∃ request, (Usage.minutes usage).request = .ok request) ↔
      (Usage.minutes usage).Shared ∧ (Usage.minutes usage).GoOnly := by
  simp only [Usage.request, Go.VoiceAIStartedMinuteUsage.request, bind_eq_ok_iff,
    report_eq_ok_iff, validateMetadata_iff, Go.validateUsageEvent_eq_none_iff, pure, Except.pure,
    Except.ok.injEq]
  constructor
  · rintro ⟨_, _, ⟨hevent, htime⟩, _, hduration, _, hmetadata, -⟩
    exact ⟨⟨hevent, hduration, hmetadata, List.forall_mem_nil _, List.forall_mem_nil _⟩, htime,
      List.forall_mem_nil _, List.forall_mem_nil _⟩
  · rintro ⟨hshared, hgo⟩
    exact ⟨_, (), ⟨hshared.event, hgo.time⟩, (), hshared.facts, (), hshared.metadata, rfl⟩

/-- The same for a usage a provider charges for. -/
theorem go_attributed_iff (wholeCount : Bool) (feature : String)
    (usage : Go.TelephonyVoiceMinuteUsage) :
    (∃ request, (Usage.attributed wholeCount feature usage).request = .ok request) ↔
      (Usage.attributed wholeCount feature usage).Shared ∧
        (Usage.attributed wholeCount feature usage).GoOnly := by
  simp only [Usage.request, bind_eq_ok_iff, Go.providerMetadata_eq_ok_iff,
    Go.quantityRequest_eq_ok_iff, validateMetadata_iff, Option.getD_some,
    Go.validateUsageEvent_eq_none_iff]
  constructor
  · rintro ⟨_, _, ⟨hprovider, hevent, rfl, hvalid⟩, ⟨hid, htime⟩, hquantity, -⟩
    rcases (attributed_valid_iff _ _ _).mp hvalid with ⟨hothers, hlength, hlength'⟩
    refine ⟨⟨hid, hquantity, hothers, ?_, ?_⟩, htime, ?_, nofun⟩
    · exact forall_mem_pair.mpr ⟨hprovider, hevent⟩
    · exact forall_mem_pair.mpr
        ⟨(length_strip_le _).trans hlength, (length_strip_le _).trans hlength'⟩
    · exact forall_mem_pair.mpr ⟨hlength, hlength'⟩
  · rintro ⟨hshared, hgo⟩
    have hrequired := forall_mem_pair.mp hshared.required
    have hbounded := forall_mem_pair.mp hgo.bounded
    have hvalid := (attributed_valid_iff _ _ _).mpr ⟨hshared.metadata, hbounded⟩
    exact ⟨_, _, ⟨hrequired.1, hrequired.2, rfl, hvalid⟩, ⟨hshared.event, hgo.time⟩,
      hshared.facts, hvalid, rfl⟩

/-- An ASCII letter is no space. -/
theorem pySpace_of_isAlpha {c : Char} (h : c.isAlpha = true) : pySpace c = false := by
  rw [isAlpha_iff] at h
  cases hspace : pySpace c with
  | false => rfl
  | true =>
      simp only [pySpace, Python.isSpace, Bool.or_eq_true, Bool.and_eq_true,
        decide_eq_true_eq, beq_iff_eq] at hspace
      omega

/-- A letter code that Go leaves has nothing that Python trims. -/
theorem trim_of_letterCode {s : String} (h : LetterCode (Go.trimSpace s).toList) :
    (Go.trimSpace s).toList = trim pySpace s.toList := by
  have hletters : ∀ c ∈ (Go.trimSpace s).toList, pySpace c = false :=
    fun c hc => pySpace_of_isAlpha (h.2 c hc)
  rw [← trim_of_forall_not hletters, toList_trimSpace, trim_trim pySpace_of_isSpace]

/-- Both SDKs trim a text alike if Python's white space is at most Go's in it. -/
theorem trimmedAlike_iff (s : String) :
    TrimmedAlike s ↔ (Go.trimSpace s).toList = trim pySpace s.toList := by
  rw [TrimmedAlike, strip_str, eq_comm, points_eq_str_iff, eq_comm]

/-- No letter that only looks like an ASCII one is ASCII. -/
theorem not_mem_of_ascii {s : String} (h : Ascii s) : ∀ c ∈ pythonTwins, c ∉ s.toList := by
  intro c hc hmem
  have hsmall := h c hmem
  have hlarge : ∀ d ∈ pythonTwins, ¬ d.toNat < 128 :=
    List.all_iff_forall_prop.mp (by decide)
  exact hlarge c hc hsmall

/-- No character that is folded into ASCII is in a trimmed ASCII text. -/
theorem not_mem_trimSpace_of_ascii {s : String} (h : Ascii s) :
    ∀ c ∈ goTwins, c ∉ (Go.trimSpace s).toList := by
  intro c hc
  exact not_mem_of_ascii (ascii_trimSpace h) c (List.mem_append_left _ hc)

/-- An empty exchange rule is not sent. -/
theorem rule_of_empty {usage : Go.OtherProviderChargeUsage} (h : usage.fxRule = "") :
    (Usage.charge usage).rule = [] := by
  rw [Usage.rule, if_pos h]

/-- Any other one is. -/
theorem rule_of_given {usage : Go.OtherProviderChargeUsage} (h : usage.fxRule ≠ "") :
    (Usage.charge usage).rule = [usage.fxRule] := by
  rw [Usage.rule, if_neg h]

/-- What holds of an empty rule holds of the rule that is sent. -/
theorem forall_mem_rule {p : String → Prop} (hempty : p "")
    (usage : Go.OtherProviderChargeUsage) :
    (∀ s ∈ (Usage.charge usage).rule, p s) ↔ p usage.fxRule := by
  by_cases hrule : usage.fxRule = ""
  · rw [rule_of_empty hrule, hrule]
    simp [hempty]
  · rw [rule_of_given hrule, List.forall_mem_singleton]

/-- The bounded texts of a charge. -/
theorem forall_mem_required_charge {p : String → Prop} (usage : Go.OtherProviderChargeUsage) :
    (∀ s ∈ (Usage.charge usage).required, p s) ↔
      (p usage.provider ∧ p usage.providerEventID) ∧
        p usage.providerInvoiceID ∧ p usage.tariffVersion := by
  simp [Usage.required, and_assoc]

/-- The same for a charge of another provider. -/
theorem go_charge_iff {usage : Go.OtherProviderChargeUsage}
    (h : Ascii usage.originalCurrency) :
    (∃ request, (Usage.charge usage).request = .ok request) ↔
      (Usage.charge usage).Shared ∧ (Usage.charge usage).GoOnly := by
  have htwins := not_mem_trimSpace_of_ascii h
  have hblank : (Go.trimSpace "").utf8ByteSize ≤ 512 := by decide
  have hempty : (Python.strip (Python.str "")).length ≤ 512 := by decide
  simp only [Usage.request, Go.OtherProviderChargeUsage.request_eq_ok_iff,
    Go.providerMetadata_eq_ok_iff]
  constructor
  · rintro ⟨_, hcomplete, _, ⟨hprovider, hevent, rfl, hattributed⟩, hvalid, -⟩
    have hoccurred := (Go.validateUsageEvent_eq_none_iff _ _).mp hcomplete.event
    have horiginal := (goAmount_iff _ _).mp hcomplete.original
    have hsettles := (go_settles_iff htwins).mp ⟨hcomplete.code, hcomplete.same, hcomplete.rule⟩
    have hcurrency := trim_of_letterCode hsettles.1
    rcases (evidence_valid_iff hattributed horiginal hcomplete.code).mp hvalid with
      ⟨hinvoice, htariff, hrule⟩
    rcases (attributed_valid_iff _ _ _).mp hattributed with ⟨hothers, hlength⟩
    have hbounded : ∀ s ∈ (Usage.charge usage).trimmed, (Go.trimSpace s).utf8ByteSize ≤ 512 :=
      List.forall_mem_append.mpr ⟨(forall_mem_required_charge usage).mpr
        ⟨hlength, hinvoice, htariff⟩, (forall_mem_rule hblank usage).mpr hrule⟩
    rw [hcurrency] at hsettles
    refine ⟨⟨hoccurred.1, ⟨(goAmount_iff _ _).mp hcomplete.amount, horiginal, hsettles⟩, hothers,
      (forall_mem_required_charge usage).mpr ⟨⟨hprovider, hevent⟩, hcomplete.invoice,
        hcomplete.tariff⟩, ?_⟩, hoccurred.2, hbounded, ?_⟩
    · exact List.forall_mem_append.mpr ⟨forall_mem_pair.mpr
        ⟨(length_strip_le _).trans hinvoice, (length_strip_le _).trans htariff⟩,
        (forall_mem_rule hempty usage).mpr ((length_strip_le _).trans hrule)⟩
    · exact List.forall_mem_singleton.mpr ((trimmedAlike_iff _).mpr hcurrency)
  · rintro ⟨hshared, hgo⟩
    have hcurrency := (trimmedAlike_iff _).mp (hgo.currency _ List.mem_cons_self)
    rcases hshared.facts with ⟨hamount, horiginal, hsettles⟩
    rw [← hcurrency] at hsettles
    rcases (go_settles_iff htwins).mpr hsettles with ⟨hcode, hsame, hconverted⟩
    rcases (forall_mem_required_charge usage).mp hshared.required with
      ⟨⟨hprovider, hevent⟩, hinvoice, htariff⟩
    rcases List.forall_mem_append.mp hgo.bounded with ⟨hrequired, hrule⟩
    rcases (forall_mem_required_charge usage).mp hrequired with ⟨hlength, htexts⟩
    have hattributed := (attributed_valid_iff (usage.metadata.getD .zero) _ _).mpr
      ⟨hshared.metadata, hlength⟩
    refine ⟨_, ⟨(Go.validateUsageEvent_eq_none_iff _ _).mpr ⟨hshared.event, hgo.time⟩,
      (goAmount_iff _ _).mpr hamount, (goAmount_iff _ _).mpr horiginal, hinvoice, htariff, hcode,
      hsame, hconverted⟩, _, ⟨hprovider, hevent, rfl, hattributed⟩, ?_, rfl⟩
    exact (evidence_valid_iff hattributed horiginal hcode).mpr
      ⟨htexts.1, htexts.2, (forall_mem_rule hblank usage).mp hrule⟩

end Go

/-! ## Python -/

section Python

variable {py : Python.BuilderInterpreter}

/-- Python checks the length of an event ID when the time can be read. -/
theorem checkEvent_iff {s : String} (hs : Ascii s) (time : String)
    (htime : py.fromisoformat (Python.spellUtc (Python.str time)) = some true) :
    Python.checkEvent py (text s) (text time) = .ok () ↔
      1 ≤ s.utf8ByteSize ∧ s.utf8ByteSize ≤ 128 := by
  rw [Python.checkEvent_eq_ok_iff, ← length_str_of_ascii hs]
  constructor
  · rintro ⟨⟨id, hid, hlength⟩, -⟩
    obtain rfl := Python.PyValue.str.inj hid
    exact hlength
  · intro hlength
    exact ⟨⟨_, rfl, hlength⟩, _, rfl, htime⟩

/-- The default quantity is ASCII. -/
theorem ascii_one : Ascii "1" := by decide

/-- So is a quantity that may be left out. -/
theorem ascii_quantityOrOne {quantity : String} (h : Ascii quantity) :
    Ascii (Go.quantityOrOne quantity) := by
  rw [Go.quantityOrOne]
  split
  · exact ascii_one
  · exact h

/-- Python counts what Go counts if its digits fit into `int`. -/
theorem checkCount_iff (wholeCount : Bool) {quantity : String} (h : Ascii quantity) :
    Python.checkCount py wholeCount (text quantity) = .ok () ↔
      goCheck wholeCount quantity = none ∧ FitsCount py wholeCount quantity := by
  cases wholeCount with
  | true => exact checkWholeCount_iff py h
  | false => exact checkQuantity_iff py h

/-- The metadata of a caller passes in Python when it does in Go and its amount is short
enough. -/
theorem validateMetadata_of_expressible {m : Option Go.UsageMetadata}
    (h : AsciiMetadata (m.getD .zero)) :
    Python.validateMetadata py (m.map toDict) = .ok () ↔
      (m.getD .zero).Valid ∧ FitsInt py (m.getD .zero).originalAmountMinor := by
  rw [validateMetadata_toDict_iff, validateMetadata_iff]
  rintro n rfl
  exact h

/-- Python builds what meets the demands both make and its own. -/
theorem python_count_iff (feature : String) {usage : Go.OutboundDeliveredMessageUsage}
    (h : (Usage.count feature usage).Expressible py) :
    (∃ request, (Usage.count feature usage).build py = .ok request) ↔
      (Usage.count feature usage).Shared ∧ (Usage.count feature usage).PythonOnly py := by
  rcases forall_mem_pair.mp h.strings with ⟨hid, hquantity⟩
  simp only [Usage.build, Python.countUsage_eq_ok_iff,
    checkEvent_iff hid usage.occurredAt.rfc3339Nano h.time,
    checkCount_iff true (ascii_quantityOrOne hquantity),
    validateMetadata_of_expressible h.metadata]
  constructor
  · rintro ⟨_, hevent, ⟨hcount, hfits⟩, ⟨hmetadata, hamount⟩, -⟩
    exact ⟨⟨hevent, hcount, hmetadata, List.forall_mem_nil _, List.forall_mem_nil _⟩, hfits,
      hamount, List.forall_mem_nil _, List.forall_mem_nil _⟩
  · rintro ⟨hshared, hpython⟩
    exact ⟨_, hshared.event, ⟨hshared.facts, hpython.numerals⟩,
      ⟨hshared.metadata, hpython.amount⟩, rfl⟩

/-- The same for minutes of voice AI. -/
theorem python_minutes_iff {usage : Go.VoiceAIStartedMinuteUsage}
    (h : (Usage.minutes usage).Expressible py) :
    (∃ request, (Usage.minutes usage).build py = .ok request) ↔
      (Usage.minutes usage).Shared ∧ (Usage.minutes usage).PythonOnly py := by
  rcases forall_mem_pair.mp h.strings with ⟨hid, hduration⟩
  simp only [Usage.build, Python.voiceAiStartedMinute, bind_eq_ok_iff,
    checkEvent_iff hid usage.occurredAt.rfc3339Nano h.time,
    checkInteger_iff py hduration "duration_seconds" "duration seconds" false,
    validateMetadata_of_expressible h.metadata, pure, Except.pure, Except.ok.injEq]
  constructor
  · rintro ⟨_, _, hevent, _, ⟨hpasses, hfits⟩, _, ⟨hmetadata, hamount⟩, -⟩
    exact ⟨⟨hevent, hpasses, hmetadata, List.forall_mem_nil _, List.forall_mem_nil _⟩, hfits,
      hamount, List.forall_mem_nil _, List.forall_mem_nil _⟩
  · rintro ⟨hshared, hpython⟩
    exact ⟨_, (), hshared.event, (), ⟨hshared.facts, hpython.numerals⟩, (),
      ⟨hshared.metadata, hpython.amount⟩, rfl⟩

/-- A text that has to be there passes when Python leaves something within the bound. -/
theorem requiredMetadataString_text_iff (s field : String) (trimmed : Python.PyStr) :
    Python.requiredMetadataString (text s) field = .ok trimmed ↔
      (Python.strip (Python.str s) ≠ [] ∧ (Python.strip (Python.str s)).length ≤ 512) ∧
        trimmed = Python.strip (Python.str s) := by
  rw [Python.requiredMetadataString_eq_ok_iff]
  constructor
  · rintro ⟨t, ht, rfl, hne, hlength⟩
    obtain rfl := Python.PyValue.str.inj ht
    exact ⟨⟨hne, hlength⟩, rfl⟩
  · rintro ⟨⟨hne, hlength⟩, rfl⟩
    exact ⟨_, rfl, rfl, hne, hlength⟩

/-- A text is blank as `strip` says. -/
theorem isTextWith_text_iff (s : String) :
    ((text s).isTextWith fun t => Python.strip t ≠ []) = true ↔
      Python.strip (Python.str s) ≠ [] :=
  decide_eq_true_iff

/-- What Python does not trim away Go does not either. -/
theorem trimSpace_ne_of_strip {s : String} (h : Python.strip (Python.str s) ≠ []) :
    Go.trimSpace s ≠ "" :=
  fun hempty => h (strip_eq_nil_of_trimSpace hempty)

/-- The same for a conversation. -/
theorem python_conversation_iff {usage : Go.Conversation24HUsage}
    (h : (Usage.conversation usage).Expressible py) :
    (∃ request, (Usage.conversation usage).build py = .ok request) ↔
      (Usage.conversation usage).Shared ∧ (Usage.conversation usage).PythonOnly py := by
  have hid : Ascii usage.sourceEventID := h.strings _ List.mem_cons_self
  have hone : Python.checkCount py true (text "1") = .ok () :=
    (checkCount_iff true ascii_one).mpr ⟨by decide, withinDigits_of_le py (by decide)⟩
  have hstr : py.str (text usage.channel) = .ok (Python.str usage.channel) := rfl
  simp only [Usage.build, Python.conversation24h, bind_eq_ok_iff, hstr, Except.ok.injEq,
    exists_eq_left', require_eq_ok_iff, isChannel_str, requiredMetadataString_text_iff,
    validateMetadata_of_expressible h.metadata, Python.countUsage_eq_ok_iff]
  constructor
  · rintro ⟨_, _, ⟨hmetadata, hamount⟩, _, hchannel, _, ⟨⟨hne, hlength⟩, rfl⟩, hevent, -⟩
    have hbounded := (checkEvent_iff hid usage.occurredAt.rfc3339Nano h.time).mp hevent
    exact ⟨⟨hbounded, hchannel, hmetadata,
      List.forall_mem_singleton.mpr (trimSpace_ne_of_strip hne),
      List.forall_mem_singleton.mpr hlength⟩, trivial, hamount,
      List.forall_mem_singleton.mpr hne, nofun⟩
  · rintro ⟨hshared, hpython⟩
    have hevent := (checkEvent_iff hid usage.occurredAt.rfc3339Nano h.time).mpr hshared.event
    have hcaller := (validateMetadata_of_expressible h.metadata).mpr
      ⟨hshared.metadata, hpython.amount⟩
    have hne := hpython.nonblank _ List.mem_cons_self
    have hlength := hshared.bounded _ List.mem_cons_self
    have hidentity : Python.checkMember py "conversation_id"
        (some (.str (Python.strip (Python.str usage.conversationID)))) = .ok () :=
      (Python.checkMember_text_iff (by decide) _).mpr ⟨List.length_pos_iff.mpr hne, hlength⟩
    have hchannel : Python.checkMember py "channel" (some (text usage.channel)) = .ok () :=
      (require_eq_ok_iff _ _ _).mpr ((isChannel_str usage.channel).mpr hshared.facts)
    have hmerged := ((Python.withinContract_getD hcaller).set "conversation_id" (by decide)
      hidentity).set "channel" (by decide) hchannel
    exact ⟨_, (), ⟨hshared.metadata, hpython.amount⟩, (), hshared.facts, _,
      ⟨⟨hne, hlength⟩, rfl⟩, hevent, hone,
      (Python.validateMetadata_eq_ok_iff py _).mpr hmerged, rfl⟩

/-- The metadata of a caller passes in Python when it does in Go apart from an
attribution, the attribution is bounded as well and the amount is short enough. -/
theorem validateMetadata_replaced {m : Option Go.UsageMetadata}
    (h : AsciiMetadata (m.getD .zero)) :
    Python.validateMetadata py (m.map toDict) = .ok () ↔
      ((m.getD .zero).attributed "" "").Valid ∧
        (∀ s ∈ [(m.getD .zero).provider, (m.getD .zero).providerEventID],
          s.utf8ByteSize ≤ 512) ∧
        FitsInt py (m.getD .zero).originalAmountMinor := by
  have hself := attributed_valid_iff (m.getD .zero) (m.getD .zero).provider
    (m.getD .zero).providerEventID
  rw [validateMetadata_of_expressible h, forall_mem_pair, ← and_assoc, ← hself]
  rfl

/-- An attribution laid over metadata that passes has to be bounded. -/
theorem setAttribution_iff {d : Python.PyDict} (h : Python.WithinContract py d)
    {provider event : Python.PyStr} (hprovider : provider ≠ []) (hevent : event ≠ []) :
    Python.WithinContract py (d.setAttribution provider event) ↔
      provider.length ≤ 512 ∧ event.length ≤ 512 := by
  constructor
  · intro hwithin
    have hfirst : (d.setAttribution provider event).get "provider" = some (.str provider) := by
      simp [Python.PyDict.setAttribution]
    have hsecond : (d.setAttribution provider event).get "provider_event_id" =
        some (.str event) := by
      simp [Python.PyDict.setAttribution]
    exact ⟨hwithin.length_le (by decide) hfirst, hwithin.length_le (by decide) hsecond⟩
  · rintro ⟨hlength, hlength'⟩
    exact h.setAttribution ⟨hprovider, hlength⟩ ⟨hevent, hlength'⟩

/-- The same for a usage a provider charges for. -/
theorem python_attributed_iff (wholeCount : Bool) (feature : String)
    {usage : Go.TelephonyVoiceMinuteUsage}
    (h : (Usage.attributed wholeCount feature usage).Expressible py) :
    (∃ request, (Usage.attributed wholeCount feature usage).build py = .ok request) ↔
      (Usage.attributed wholeCount feature usage).Shared ∧
        (Usage.attributed wholeCount feature usage).PythonOnly py := by
  have hid : Ascii usage.sourceEventID := h.strings _ List.mem_cons_self
  have hquantity : Ascii usage.billableMinutes := h.strings _ (by simp [Usage.strings])
  simp only [Usage.build, Python.providerUsage, bind_eq_ok_iff,
    Python.providerMetadata_eq_ok_iff, isTextWith_text_iff, Python.countUsage_eq_ok_iff,
    checkEvent_iff hid usage.occurredAt.rfc3339Nano h.time,
    checkCount_iff wholeCount (ascii_quantityOrOne hquantity)]
  constructor
  · rintro ⟨_, _, ⟨hcaller, hprovider, hevent, rfl⟩, hbounded, ⟨hcount, hfits⟩, hmerged, -⟩
    rcases (validateMetadata_replaced h.metadata).mp hcaller with ⟨hothers, hreplaced, hamount⟩
    have hlengths := (setAttribution_iff (Python.withinContract_getD hcaller) hprovider
      hevent).mp ((Python.validateMetadata_eq_ok_iff py _).mp hmerged)
    exact ⟨⟨hbounded, hcount, hothers, forall_mem_pair.mpr ⟨trimSpace_ne_of_strip hprovider,
      trimSpace_ne_of_strip hevent⟩, forall_mem_pair.mpr hlengths⟩, hfits, hamount,
      forall_mem_pair.mpr ⟨hprovider, hevent⟩, hreplaced⟩
  · rintro ⟨hshared, hpython⟩
    have hcaller := (validateMetadata_replaced h.metadata).mpr
      ⟨hshared.metadata, hpython.replaced, hpython.amount⟩
    rcases forall_mem_pair.mp hpython.nonblank with ⟨hprovider, hevent⟩
    have hmerged := (setAttribution_iff (Python.withinContract_getD hcaller) hprovider
      hevent).mpr (forall_mem_pair.mp hshared.bounded)
    exact ⟨_, _, ⟨hcaller, hprovider, hevent, rfl⟩, hshared.event,
      ⟨hshared.facts, hpython.numerals⟩, (Python.validateMetadata_eq_ok_iff py _).mpr hmerged,
      rfl⟩

/-- An ASCII amount passes in Python if it does in Go and fits into `int`. -/
theorem pyAmount_text_iff {amount : String} (h : Ascii amount) :
    PyAmount py (text amount) ↔ GoAmount amount ∧ FitsInt py amount := by
  rw [← pyAmount_iff (text amount) "provider_amount_minor",
    checkInteger_iff py h "provider_amount_minor" "provider amount minor" true, goAmount_iff]

/-- A bounded text is not blank and not too long without its white space. -/
theorem pyBounded_text_iff (s : String) :
    PyBounded (text s) ↔
      Python.strip (Python.str s) ≠ [] ∧ (Python.strip (Python.str s)).length ≤ 512 := by
  constructor
  · rintro ⟨t, ht, hbounded⟩
    obtain rfl := Python.PyValue.str.inj ht
    exact hbounded
  · exact fun hbounded => ⟨_, rfl, hbounded⟩

/-- A rule of conversion passes in Python when it is left out, or is not blank and within
the bound. -/
theorem pythonRule_passes_iff (usage : Go.OtherProviderChargeUsage) :
    (pythonRule usage.fxRule = .none ∨ PyBounded (pythonRule usage.fxRule)) ↔
      ∀ s ∈ (Usage.charge usage).rule,
        Python.strip (Python.str s) ≠ [] ∧ (Python.strip (Python.str s)).length ≤ 512 := by
  by_cases hempty : usage.fxRule = ""
  · rw [rule_of_empty hempty, pythonRule, if_pos hempty]
    simp
  · rw [rule_of_given hempty, pythonRule, if_neg hempty, List.forall_mem_singleton,
      pyBounded_text_iff]
    exact or_iff_right nofun

/-- Python finds a rule of conversion where it has one that is not blank. -/
theorem pythonRule_nonblank_iff (fxRule : String) :
    (∃ rule, pythonRule fxRule = .str rule ∧ Python.strip rule ≠ []) ↔
      Python.strip (Python.str fxRule) ≠ [] := by
  rw [pythonRule]
  by_cases hempty : fxRule = ""
  · rw [if_pos hempty, hempty]
    refine iff_of_false ?_ fun hne => hne rfl
    rintro ⟨rule, hrule, -⟩
    cases hrule
  · rw [if_neg hempty]
    simp [text]

/-- What the checks on a charge alone require of it. -/
theorem pythonCharge_settles_iff (usage : Go.OtherProviderChargeUsage) (code : Python.PyStr) :
    (∃ s currency, (pythonCharge usage).originalCurrency = .str s ∧
      Python.strip s = points currency ∧ code = points (capitals currency) ∧
      Settles currency
        ((pythonCharge usage).originalAmountMinor = (pythonCharge usage).providerAmountMinor)
        (∃ rule, (pythonCharge usage).fxRule = .str rule ∧ Python.strip rule ≠ [])) ↔
      code = points (capitals (trim pySpace usage.originalCurrency.toList)) ∧
        Settles (trim pySpace usage.originalCurrency.toList)
          (usage.originalAmountMinor = usage.providerAmountMinor)
          (Python.strip (Python.str usage.fxRule) ≠ []) := by
  have hinjective : Function.Injective points :=
    List.map_injective_iff.mpr fun _ _ => CodePoint.scalar.inj
  have hrule := pythonRule_nonblank_iff usage.fxRule
  constructor
  · rintro ⟨s, currency, hs, hcurrency, hcode, hsettles⟩
    obtain rfl := Python.PyValue.str.inj hs
    rw [strip_str] at hcurrency
    obtain rfl := hinjective hcurrency
    simp only [pythonCharge, text_inj, hrule] at hsettles
    exact ⟨hcode, hsettles⟩
  · rintro ⟨hcode, hsettles⟩
    refine ⟨_, _, rfl, strip_str _, hcode, ?_⟩
    simp only [pythonCharge, text_inj, hrule]
    exact hsettles

/-- What the checks on the charge of an ASCII usage require. -/
theorem checkCharge_pythonCharge_iff {usage : Go.OtherProviderChargeUsage}
    (h : (Usage.charge usage).Expressible py) (code : Python.PyStr) :
    Python.checkCharge py (pythonCharge usage) = .ok code ↔
      (1 ≤ usage.sourceEventID.utf8ByteSize ∧ usage.sourceEventID.utf8ByteSize ≤ 128) ∧
        (GoAmount usage.providerAmountMinor ∧ FitsInt py usage.providerAmountMinor) ∧
        (GoAmount usage.originalAmountMinor ∧ FitsInt py usage.originalAmountMinor) ∧
        code = points (capitals (trim pySpace usage.originalCurrency.toList)) ∧
        Settles (trim pySpace usage.originalCurrency.toList)
          (usage.originalAmountMinor = usage.providerAmountMinor)
          (Python.strip (Python.str usage.fxRule) ≠ []) := by
  have hid : Ascii usage.sourceEventID := h.strings _ List.mem_cons_self
  have hamount : Ascii usage.providerAmountMinor := h.strings _ (by simp [Usage.strings])
  have horiginal : Ascii usage.originalAmountMinor := h.strings _ (by simp [Usage.strings])
  have hcurrency : Ascii usage.originalCurrency := h.strings _ (by simp [Usage.strings])
  have htwins : ∀ c ∈ pythonTwins,
      .scalar c ∉ Python.strip (pythonCharge usage).originalCurrency.text := by
    intro c hc hmem
    change CodePoint.scalar c ∈ Python.strip (Python.str usage.originalCurrency) at hmem
    rw [strip_str] at hmem
    rcases List.mem_map.mp hmem with ⟨d, hd, hsame⟩
    obtain rfl := CodePoint.scalar.inj hsame
    exact not_mem_of_ascii hcurrency d hc (mem_of_mem_trim hd)
  rw [checkCharge_iff htwins, pythonCharge_settles_iff]
  exact and_congr (checkEvent_iff hid usage.occurredAt.rfc3339Nano h.time)
    (and_congr (pyAmount_text_iff hamount) (and_congr_left' (pyAmount_text_iff horiginal)))

/-- The same for a charge of another provider. -/
theorem python_charge_iff {usage : Go.OtherProviderChargeUsage}
    (h : (Usage.charge usage).Expressible py) :
    (∃ request, (Usage.charge usage).build py = .ok request) ↔
      (Usage.charge usage).Shared ∧ (Usage.charge usage).PythonOnly py := by
  have hmetadata : ∀ metadata, Python.providerMetadata py (text usage.provider)
      (text usage.providerEventID) (usage.metadata.map toDict) = .ok metadata ↔ _ :=
    Python.providerMetadata_eq_ok_iff _ _ _
  simp only [isTextWith_text_iff] at hmetadata
  simp only [Usage.build, Python.otherProviderCharge_eq_ok_iff, checkCharge_pythonCharge_iff h]
  constructor
  · rintro ⟨_, code, metadata, evidence, ⟨hevent, ⟨hamount, hfits⟩, ⟨horiginal, hfits'⟩, -,
      hsettles⟩, hattributed, hevidence, -⟩
    rcases (hmetadata metadata).mp hattributed with ⟨hcaller, hprovider, heventID, -⟩
    rcases (validateMetadata_replaced h.metadata).mp hcaller with ⟨hothers, hreplaced, hshort⟩
    rcases (exists_evidence_iff code metadata).mp ⟨evidence, hevidence⟩ with
      ⟨hinvoice, htariff, hrule⟩
    have hinvoice := (pyBounded_text_iff usage.providerInvoiceID).mp hinvoice
    have htariff := (pyBounded_text_iff usage.tariffVersion).mp htariff
    have hrule := (pythonRule_passes_iff usage).mp hrule
    have hnonblank : ∀ s ∈ (Usage.charge usage).required, Python.strip (Python.str s) ≠ [] :=
      (forall_mem_required_charge usage).mpr
        ⟨⟨hprovider, heventID⟩, hinvoice.1, htariff.1⟩
    refine ⟨⟨hevent, ⟨hamount, horiginal, hsettles.imp trimSpace_ne_of_strip⟩, hothers,
      fun s hs => trimSpace_ne_of_strip (hnonblank s hs), ?_⟩, ⟨hfits, hfits'⟩, hshort, ?_,
      hreplaced⟩
    · exact List.forall_mem_append.mpr
        ⟨forall_mem_pair.mpr ⟨hinvoice.2, htariff.2⟩, fun s hs => (hrule s hs).2⟩
    · exact List.forall_mem_append.mpr ⟨hnonblank, fun s hs => (hrule s hs).1⟩
  · rintro ⟨hshared, hpython⟩
    rcases hshared.facts with ⟨hamount, horiginal, hsettles⟩
    rcases hpython.numerals with ⟨hfits, hfits'⟩
    have hcaller := (validateMetadata_replaced h.metadata).mpr
      ⟨hshared.metadata, hpython.replaced, hpython.amount⟩
    rcases List.forall_mem_append.mp hpython.nonblank with ⟨hrequired, hrule⟩
    rcases (forall_mem_required_charge usage).mp hrequired with
      ⟨⟨hprovider, heventID⟩, hinvoice, htariff⟩
    rcases List.forall_mem_append.mp hshared.bounded with ⟨hbounded, hrule'⟩
    rcases forall_mem_pair.mp hbounded with ⟨hinvoice', htariff'⟩
    have hconverted : Go.trimSpace usage.fxRule ≠ "" →
        Python.strip (Python.str usage.fxRule) ≠ [] := by
      intro hne
      have hgiven : usage.fxRule ≠ "" := by
        intro hempty
        rw [hempty] at hne
        exact hne rfl
      rw [rule_of_given hgiven, List.forall_mem_singleton] at hrule
      exact hrule
    have hpasses : PyBounded (pythonCharge usage).providerInvoiceId ∧
        PyBounded (pythonCharge usage).tariffVersion ∧
        ((pythonCharge usage).fxRule = .none ∨ PyBounded (pythonCharge usage).fxRule) :=
      ⟨(pyBounded_text_iff usage.providerInvoiceID).mpr ⟨hinvoice, hinvoice'⟩,
        (pyBounded_text_iff usage.tariffVersion).mpr ⟨htariff, htariff'⟩,
        (pythonRule_passes_iff usage).mpr fun s hs => ⟨hrule s hs, hrule' s hs⟩⟩
    rcases (exists_evidence_iff _ _).mpr hpasses with ⟨evidence, hevidence⟩
    exact ⟨_, _, _, evidence, ⟨hshared.event, ⟨hamount, hfits⟩, ⟨horiginal, hfits'⟩, rfl,
      hsettles.imp hconverted⟩, (hmetadata _).mpr ⟨hcaller, hprovider, heventID, rfl⟩, hevidence,
      rfl⟩

end Python

/-- Go reports a usage that passes the shared checks and its own. -/
theorem go_reports_iff {py : Python.BuilderInterpreter} {u : Usage} (h : u.Expressible py) :
    (∃ request, u.request = .ok request) ↔ u.Shared ∧ u.GoOnly := by
  cases u with
  | conversation usage => exact go_conversation_iff usage
  | count feature usage => exact go_count_iff feature usage
  | minutes usage => exact go_minutes_iff usage
  | attributed wholeCount feature usage => exact go_attributed_iff wholeCount feature usage
  | charge usage =>
      have hcurrency : Ascii usage.originalCurrency := h.strings _ (by simp [Usage.strings])
      exact go_charge_iff hcurrency

/-- Python reports a usage that passes the shared checks and its own. -/
theorem python_reports_iff {py : Python.BuilderInterpreter} {u : Usage} (h : u.Expressible py) :
    (∃ request, u.build py = .ok request) ↔ u.Shared ∧ u.PythonOnly py := by
  cases u with
  | conversation usage => exact python_conversation_iff h
  | count feature usage => exact python_count_iff feature h
  | minutes usage => exact python_minutes_iff h
  | attributed wholeCount feature usage => exact python_attributed_iff wholeCount feature h
  | charge usage => exact python_charge_iff h

end MizanSDK.Agreement
