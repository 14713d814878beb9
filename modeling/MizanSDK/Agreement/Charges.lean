import MizanSDK.Agreement.UsageFacts
import MizanSDK.Python.BuilderRequests

/-!
# Pass-through charges

What evidence `ConsumeOtherProviderCharge` and `other_provider_charge` accept for a
charge of another provider, and what of it the metadata of the charge then has.
Both SDKs match the currency after it was put in capitals, so that a few letters
outside ASCII pass for ASCII ones; the results below are about other currencies.

Main results:

- Theorems `go_accepts_iff` and `python_accepts_iff`: a charge is accepted exactly
  on consistent evidence.
- Theorems `go_evidenced` and `python_evidenced`: the metadata of an accepted charge
  has its evidence.
-/

namespace MizanSDK.Agreement

open JsonText Decimal Trim Checks

/-! ## Capitals -/

/-- The ASCII letters by their code points. -/
theorem isAlpha_iff (c : Char) :
    c.isAlpha = true ↔ 65 ≤ c.toNat ∧ c.toNat ≤ 90 ∨ 97 ≤ c.toNat ∧ c.toNat ≤ 122 := by
  delta Char.isAlpha Char.isUpper Char.isLower
  simp [UInt32.le_iff_toNat_le]

/-- The code point of a letter in upper case. -/
theorem toNat_toUpper (c : Char) :
    c.toUpper.toNat = if 97 ≤ c.toNat ∧ c.toNat ≤ 122 then c.toNat - 32 else c.toNat := by
  have hlower : ('a'.val ≤ c.val ∧ c.val ≤ 'z'.val) ↔ 97 ≤ c.toNat ∧ c.toNat ≤ 122 := by
    simp [UInt32.le_iff_toNat_le]
  delta Char.toUpper
  split
  · rename_i h
    have hrange := hlower.mp h
    have hval : c.val.toNat = c.toNat := rfl
    rw [if_pos hrange, ← Char.toNat_val]
    simp [UInt32.toNat_add, hval]
    omega
  · rename_i h
    rw [if_neg fun hrange => h (hlower.mpr hrange)]

/-- The capital of a character is an ASCII capital if the character is an ASCII
letter. -/
theorem isUpper_toUpper_iff (c : Char) :
    ('A' ≤ c.toUpper && c.toUpper ≤ 'Z') = true ↔ c.isAlpha = true := by
  have hle : ∀ a b : Char, a ≤ b ↔ a.toNat ≤ b.toNat := fun _ _ => Iff.rfl
  have hA : 'A'.toNat = 65 := rfl
  have hZ : 'Z'.toNat = 90 := rfl
  rw [Bool.and_eq_true, decide_eq_true_eq, decide_eq_true_eq, hle, hle, toNat_toUpper,
    isAlpha_iff]
  split
  · omega
  · omega

/-- Three ASCII letters in any case. -/
def LetterCode (currency : List Char) : Prop :=
  currency.length = 3 ∧ ∀ c ∈ currency, c.isAlpha = true

instance (currency : List Char) : Decidable (LetterCode currency) :=
  haveI := List.decidableBAll (fun c => c.isAlpha = true) currency
  instDecidableAnd

/-- The currency in capitals. -/
def capitals (currency : List Char) : List Char := currency.map Char.toUpper

/-- The letters outside ASCII whose capital in Go is an ASCII letter. -/
def goTwins : List Char := ['\u0131', '\u017F']

/-- The letters outside ASCII whose capitals in Python are ASCII letters. -/
def pythonTwins : List Char :=
  goTwins ++ ['\u00DF', '\uFB00', '\uFB01', '\uFB02', '\uFB03', '\uFB04', '\uFB05', '\uFB06']

/-- The evidence for an amount in a currency: three letters, and for riyals the
settled amount itself, for another currency a rule of conversion. -/
def Settles (currency : List Char) (sameAmount converted : Prop) : Prop :=
  LetterCode currency ∧
    (capitals currency = "SAR".toList ∧ sameAmount ∨
      capitals currency ≠ "SAR".toList ∧ converted)

/-- A charge settles with a weaker demand on the conversion. -/
theorem Settles.imp {currency : List Char} {sameAmount converted converted' : Prop}
    (h : Settles currency sameAmount converted) (himp : converted → converted') :
    Settles currency sameAmount converted' :=
  ⟨h.1, h.2.imp_right fun hother => ⟨hother.1, himp hother.2⟩⟩

/-- The checks both SDKs make of a currency, in terms of its letters. -/
theorem checks_iff_settles {currency : List Char} {isCode isRiyal sameAmount converted : Prop}
    (hcode : isCode ↔ LetterCode currency)
    (hriyal : isRiyal ↔ capitals currency = "SAR".toList) :
    (isCode ∧ (isRiyal → sameAmount) ∧ (¬ isRiyal → converted)) ↔
      Settles currency sameAmount converted := by
  rw [Settles, hcode, hriyal, ← ite_prop_iff_and, ite_prop_iff_or]

/-! ## Charges in Go -/

section Go

variable {usage : Go.OtherProviderChargeUsage} {s : String}

/-- Without letters that are folded into ASCII `strings.ToUpper` is that of ASCII. -/
theorem go_toUpper_eq (h : ∀ c ∈ goTwins, c ∉ s.toList) :
    Go.toUpper s = String.ofList (capitals s.toList) := by
  unfold Go.toUpper capitals
  congr 1
  refine List.map_congr_left fun c hc => ?_
  rw [if_neg, if_neg]
  · rintro rfl
    exact h '\u017F' (by decide) hc
  · rintro rfl
    exact h '\u0131' (by decide) hc

/-- Go takes three letters for a currency. -/
theorem go_isCurrencyCode_iff (h : ∀ c ∈ goTwins, c ∉ s.toList) :
    Go.isCurrencyCode (Go.toUpper s) = true ↔ LetterCode s.toList := by
  rw [go_toUpper_eq h, Go.isCurrencyCode, String.toList_ofList, Bool.and_eq_true, beq_iff_eq,
    capitals, List.length_map, List.all_map, List.all_eq_true, LetterCode]
  exact and_congr_right fun _ => forall₂_congr fun c _ => isUpper_toUpper_iff c

/-- A text that is not blank and within the bound of a metadata field. -/
structure GoBounded (s : String) : Prop where
  nonblank : Go.trimSpace s ≠ ""
  length : (Go.trimSpace s).utf8ByteSize ≤ 512

/-- A digit string that denotes an exact amount. -/
def GoAmount (amount : String) : Prop :=
  Go.integerPattern amount = true ∧ digitsValue amount.toList ≤ 2 ^ 63 - 1

/-- A charge whose event, attribution, references and metadata are in order. -/
structure GoAttributed (usage : Go.OtherProviderChargeUsage) : Prop where
  event : Go.validateUsageEvent usage.sourceEventID usage.occurredAt = none
  provider : GoBounded usage.provider
  providerEventID : GoBounded usage.providerEventID
  invoice : GoBounded usage.providerInvoiceID
  tariff : GoBounded usage.tariffVersion
  metadata : Go.validateMetadata usage.metadata = none
  currency : ∀ c ∈ goTwins, c ∉ (Go.trimSpace usage.originalCurrency).toList

/-- Evidence that is complete and consistent. -/
structure GoConsistent (usage : Go.OtherProviderChargeUsage) : Prop where
  amount : GoAmount usage.providerAmountMinor
  original : GoAmount usage.originalAmountMinor
  settles : Settles (Go.trimSpace usage.originalCurrency).toList
    (usage.originalAmountMinor = usage.providerAmountMinor) (Go.trimSpace usage.fxRule ≠ "")
  rule : (Go.trimSpace usage.fxRule).utf8ByteSize ≤ 512

/-- Metadata that has the evidence of a charge. -/
structure GoEvidenced (usage : Go.OtherProviderChargeUsage) (m : Go.UsageMetadata) : Prop where
  currency :
    m.originalCurrency = String.ofList (capitals (Go.trimSpace usage.originalCurrency).toList)
  invoice : m.providerInvoiceID = Go.trimSpace usage.providerInvoiceID
  tariff : m.tariffVersion = Go.trimSpace usage.tariffVersion
  original : m.originalAmountMinor = usage.originalAmountMinor
  rule : m.fxRule = Go.trimSpace usage.fxRule

/-- An amount passes in Go if it is a run of digits in range. -/
theorem goAmount_iff (amount name : String) :
    Go.validateExactInteger amount name true = none ↔ GoAmount amount := by
  rw [Go.validateExactInteger_eq_none_iff, GoAmount]
  simp [Go.maxInt64Exact]

/-- Metadata that pass are valid, and so are empty ones. -/
theorem validateMetadata_getD {source : Option Go.UsageMetadata}
    (h : Go.validateMetadata source = none) : (source.getD .zero).Valid := by
  cases source with
  | none => exact (Go.validateMetadata_eq_none_iff _).mp rfl
  | some m => exact (Go.validateMetadata_eq_none_iff m).mp h

/-- A currency code has three bytes. -/
theorem utf8ByteSize_of_code {currency : String} (h : Go.isCurrencyCode currency = true) :
    currency.utf8ByteSize = 3 := by
  rw [Go.isCurrencyCode, Bool.and_eq_true, beq_iff_eq, List.all_eq_true] at h
  have hascii : Ascii currency := by
    intro c hc
    have hcapital := h.2 c hc
    rw [Bool.and_eq_true, decide_eq_true_eq, decide_eq_true_eq] at hcapital
    have hle : c.toNat ≤ 'Z'.toNat := hcapital.2
    have hZ : 'Z'.toNat = 90 := rfl
    omega
  rw [utf8ByteSize_of_ascii hascii, h.1]

/-- The amount of a charge passes again as a member of its metadata. -/
theorem checkOriginalAmount_of_goAmount {amount : String} (h : GoAmount amount) :
    Go.checkOriginalAmount amount = none := by
  unfold Go.checkOriginalAmount
  split
  · rfl
  · exact (goAmount_iff amount _).mpr h

/-- Evidence keeps metadata within its bounds when its texts are. -/
theorem evidence_valid_iff {m : Go.UsageMetadata} (hm : m.Valid)
    (hamount : GoAmount usage.originalAmountMinor)
    (hcode : Go.isCurrencyCode usage.currency = true) :
    (usage.evidence m).Valid ↔
      (Go.trimSpace usage.providerInvoiceID).utf8ByteSize ≤ 512 ∧
        (Go.trimSpace usage.tariffVersion).utf8ByteSize ≤ 512 ∧
        (Go.trimSpace usage.fxRule).utf8ByteSize ≤ 512 := by
  have hcurrency : usage.currency.utf8ByteSize ≤ 512 := by
    rw [utf8ByteSize_of_code hcode]
    omega
  have hfields : (∀ field ∈ (usage.evidence m).boundedFields, field.2.utf8ByteSize ≤ 512) ↔
      (Go.trimSpace usage.providerInvoiceID).utf8ByteSize ≤ 512 ∧
        (Go.trimSpace usage.tariffVersion).utf8ByteSize ≤ 512 ∧
        (Go.trimSpace usage.fxRule).utf8ByteSize ≤ 512 := by
    have hbefore := hm.fields
    simp only [Go.UsageMetadata.boundedFields, List.forall_mem_cons] at hbefore
    simp only [Go.UsageMetadata.boundedFields, Go.OtherProviderChargeUsage.evidence,
      List.forall_mem_cons, hbefore, hcurrency, List.not_mem_nil, false_implies, implies_true,
      true_and, and_true]
    exact and_congr_right fun _ => and_comm
  constructor
  · intro hvalid
    exact hfields.mp hvalid.fields
  · intro htexts
    exact ⟨hm.channel, hm.actor, hfields.mpr htexts, checkOriginalAmount_of_goAmount hamount,
      hm.attributes_length, hm.attributes⟩

/-- An attribution keeps metadata within its bounds when it is. -/
theorem attributed_valid_iff (m : Go.UsageMetadata) (provider eventID : String) :
    (m.attributed provider eventID).Valid ↔
      (m.attributed "" "").Valid ∧ provider.utf8ByteSize ≤ 512 ∧
        eventID.utf8ByteSize ≤ 512 := by
  have hfields : (∀ field ∈ (m.attributed provider eventID).boundedFields,
      field.2.utf8ByteSize ≤ 512) ↔
        (∀ field ∈ (m.attributed "" "").boundedFields, field.2.utf8ByteSize ≤ 512) ∧
          provider.utf8ByteSize ≤ 512 ∧ eventID.utf8ByteSize ≤ 512 := by
    have hempty : ("" : String).utf8ByteSize ≤ 512 := by decide
    simp only [Go.UsageMetadata.boundedFields, Go.UsageMetadata.attributed,
      List.forall_mem_cons, hempty, List.not_mem_nil, false_implies, implies_true, true_and,
      and_true]
    tauto
  constructor
  · rintro ⟨hchannel, hactor, hbounded, hamount, hlength, hattributes⟩
    rcases hfields.mp hbounded with ⟨hothers, hattribution⟩
    exact ⟨⟨hchannel, hactor, hothers, hamount, hlength, hattributes⟩, hattribution⟩
  · rintro ⟨⟨hchannel, hactor, hothers, hamount, hlength, hattributes⟩, hattribution⟩
    exact ⟨hchannel, hactor, hfields.mpr ⟨hothers, hattribution⟩, hamount, hlength, hattributes⟩

/-- What the currency of a charge requires, read off its code. -/
theorem go_settles_iff
    (h : ∀ c ∈ goTwins, c ∉ (Go.trimSpace usage.originalCurrency).toList) :
    (Go.isCurrencyCode usage.currency = true ∧
      (usage.currency = "SAR" → usage.originalAmountMinor = usage.providerAmountMinor) ∧
      (usage.currency ≠ "SAR" → Go.trimSpace usage.fxRule ≠ "")) ↔
      Settles (Go.trimSpace usage.originalCurrency).toList
        (usage.originalAmountMinor = usage.providerAmountMinor)
        (Go.trimSpace usage.fxRule ≠ "") := by
  have hsar : usage.currency = "SAR" ↔
      capitals (Go.trimSpace usage.originalCurrency).toList = "SAR".toList := by
    rw [Go.OtherProviderChargeUsage.currency, go_toUpper_eq h, ← String.toList_inj,
      String.toList_ofList]
  exact checks_iff_settles (go_isCurrencyCode_iff h) hsar

/-- A charge is accepted exactly on consistent evidence. -/
theorem go_accepts_iff (h : GoAttributed usage) :
    (∃ request, usage.request = .ok request) ↔ GoConsistent usage := by
  simp only [Go.OtherProviderChargeUsage.request_eq_ok_iff, Go.providerMetadata_eq_ok_iff]
  have hcaller := (attributed_valid_iff _ _ _).mp (validateMetadata_getD h.metadata)
  have hattributed := (attributed_valid_iff (usage.metadata.getD .zero) _ _).mpr
    ⟨hcaller.1, h.provider.length, h.providerEventID.length⟩
  constructor
  · rintro ⟨_, hcomplete, m, ⟨-, -, rfl, hm⟩, hvalid, -⟩
    have hamount := (goAmount_iff _ _).mp hcomplete.original
    exact ⟨(goAmount_iff _ _).mp hcomplete.amount, hamount,
      (go_settles_iff h.currency).mp ⟨hcomplete.code, hcomplete.same, hcomplete.rule⟩,
      ((evidence_valid_iff hm hamount hcomplete.code).mp hvalid).2.2⟩
  · intro hc
    rcases (go_settles_iff h.currency).mpr hc.settles with ⟨hcode, hsame, hrule⟩
    refine ⟨_, ⟨h.event, (goAmount_iff _ _).mpr hc.amount, (goAmount_iff _ _).mpr hc.original,
      h.invoice.nonblank, h.tariff.nonblank, hcode, hsame, hrule⟩, _,
      ⟨h.provider.nonblank, h.providerEventID.nonblank, rfl, hattributed⟩, ?_, rfl⟩
    exact (evidence_valid_iff hattributed hc.original hcode).mpr
      ⟨h.invoice.length, h.tariff.length, hc.rule⟩

/-- The metadata of an accepted charge has its evidence. -/
theorem go_evidenced (h : GoAttributed usage) {request : Go.ConsumptionRequest}
    (hrequest : usage.request = .ok request) :
    ∃ m, request.metadata = some m ∧ GoEvidenced usage m := by
  rcases (usage.request_eq_ok_iff request).mp hrequest with ⟨-, m, -, -, rfl⟩
  exact ⟨_, rfl, go_toUpper_eq h.currency, rfl, rfl, rfl, rfl⟩

end Go

/-! ## Charges in Python -/

section Python

variable {py : Python.BuilderInterpreter} {charge : Python.OtherProviderCharge}
  {currency : List Char}

/-- An ASCII letter has its own capital alone. -/
theorem upperCodePoint_scalar {c : Char} (h : c ∉ pythonTwins) :
    Python.upperCodePoint (.scalar c) = [.scalar c.toUpper] := by
  simp only [pythonTwins, goTwins, List.cons_append, List.nil_append, List.mem_cons,
    List.not_mem_nil, or_false, not_or] at h
  simp [Python.upperCodePoint, h]

/-- Without such letters `upper` is that of ASCII. -/
theorem python_upper_points (h : ∀ c ∈ pythonTwins, c ∉ currency) :
    Python.upper (points currency) = points (capitals currency) := by
  induction currency with
  | nil => rfl
  | cons c rest ih =>
      have hc : c ∉ pythonTwins := fun hmem => h c hmem List.mem_cons_self
      have hrest : ∀ d ∈ pythonTwins, d ∉ rest := fun d hd hmem =>
        h d hd (List.mem_cons_of_mem c hmem)
      have happend : Python.upper (points (c :: rest)) =
          Python.upperCodePoint (.scalar c) ++ Python.upper (points rest) := rfl
      rw [happend, upperCodePoint_scalar hc, ih hrest]
      rfl

/-- Python takes three letters for a currency. -/
theorem python_isCurrencyCode_points (h : ∀ c ∈ pythonTwins, c ∉ currency) :
    Python.isCurrencyCode (Python.upper (points currency)) = true ↔ LetterCode currency := by
  rw [python_upper_points h, Python.isCurrencyCode, Bool.and_eq_true, beq_iff_eq, points,
    capitals, List.length_map, List.length_map, List.all_map, List.all_map, List.all_eq_true,
    LetterCode]
  exact and_congr_right fun _ => forall₂_congr fun c _ => isUpper_toUpper_iff c

/-- Code points of characters spell a string. -/
theorem points_eq_str_iff (chars : List Char) (s : String) :
    points chars = Python.str s ↔ chars = s.toList :=
  (List.map_injective_iff.mpr fun _ _ => CodePoint.scalar.inj).eq_iff

/-- What Python checks of a currency. -/
theorem python_settles_iff {sameAmount converted : Prop} (h : ∀ c ∈ pythonTwins, c ∉ currency) :
    (Python.isCurrencyCode (Python.upper (points currency)) = true ∧
      (Python.upper (points currency) = Python.str "SAR" → sameAmount) ∧
      (Python.upper (points currency) ≠ Python.str "SAR" → converted)) ↔
      Settles currency sameAmount converted := by
  have hriyal : Python.upper (points currency) = Python.str "SAR" ↔
      capitals currency = "SAR".toList := by
    rw [python_upper_points h, points_eq_str_iff]
  exact checks_iff_settles (python_isCurrencyCode_points h) hriyal

/-- Text in capitals is no currency code when it has a surrogate. -/
theorem exists_points_of_code {s : Python.PyStr}
    (h : Python.isCurrencyCode (Python.upper s) = true) : ∃ currency, s = points currency := by
  rw [Python.isCurrencyCode, Bool.and_eq_true, List.all_eq_true] at h
  have hscalar : ∀ p ∈ s, p ∈ Set.range CodePoint.scalar := by
    intro p hp
    cases p with
    | scalar c => exact ⟨c, rfl⟩
    | surrogate i =>
        have hmem : CodePoint.surrogate i ∈ Python.upper s :=
          List.mem_flatMap.mpr ⟨.surrogate i, hp, List.mem_singleton_self _⟩
        exact absurd (h.2 _ hmem) (by simp)
  have hrange : s ∈ Set.range (List.map CodePoint.scalar) := by
    rw [Set.range_list_map]
    exact hscalar
  rcases hrange with ⟨currency, hcurrency⟩
  exact ⟨currency, hcurrency.symm⟩

/-- A `str` that is not blank and within the bound of a metadata field. -/
def PyBounded (v : Python.PyValue) : Prop :=
  ∃ s, v = .str s ∧ Python.strip s ≠ [] ∧ (Python.strip s).length ≤ 512

/-- A digit string that denotes an exact amount, as `int` reads it. -/
def PyAmount (py : Python.BuilderInterpreter) (amount : Python.PyValue) : Prop :=
  ∃ s n, amount = .str s ∧ Python.integerPattern py s = true ∧ py.int s = .ok n ∧ 0 ≤ n ∧
    n ≤ 2 ^ 63 - 1

/-- A charge whose event, attribution, references and metadata are in order. -/
structure PyAttributed (py : Python.BuilderInterpreter) (charge : Python.OtherProviderCharge) :
    Prop where
  event : Python.checkEvent py charge.sourceEventId charge.occurredAt = .ok ()
  provider : PyBounded charge.provider
  providerEventId : PyBounded charge.providerEventId
  invoice : PyBounded charge.providerInvoiceId
  tariff : PyBounded charge.tariffVersion
  metadata : Python.validateMetadata py charge.metadata = .ok ()
  currency : ∀ c ∈ pythonTwins, .scalar c ∉ Python.strip charge.originalCurrency.text

/-- Evidence that is complete and consistent. -/
structure PyConsistent (py : Python.BuilderInterpreter) (charge : Python.OtherProviderCharge) :
    Prop where
  amount : PyAmount py charge.providerAmountMinor
  original : PyAmount py charge.originalAmountMinor
  settles : ∃ s currency, charge.originalCurrency = .str s ∧ Python.strip s = points currency ∧
    Settles currency (charge.originalAmountMinor = charge.providerAmountMinor)
      (∃ rule, charge.fxRule = .str rule ∧ Python.strip rule ≠ [])
  rule : charge.fxRule = .none ∨ PyBounded charge.fxRule

/-- Metadata that has the evidence of a charge. -/
structure PyEvidenced (charge : Python.OtherProviderCharge) (metadata : Python.PyDict) :
    Prop where
  currency : ∃ currency, Python.strip charge.originalCurrency.text = points currency ∧
    metadata.get "original_currency" = some (.str (points (capitals currency)))
  invoice : metadata.get "provider_invoice_id" =
    some (.str (Python.strip charge.providerInvoiceId.text))
  tariff : metadata.get "tariff_version" =
    some (.str (Python.strip charge.tariffVersion.text))
  original : metadata.get "original_amount_minor" = some charge.originalAmountMinor
  rule : charge.fxRule ≠ .none →
    metadata.get "fx_rule" = some (.str (Python.strip charge.fxRule.text))

/-- `int` reads a numeral without a sign as a natural number. -/
theorem int_nonneg {s : Python.PyStr} {n : ℤ} (hs : Python.integerPattern py s = true)
    (h : py.int s = .ok n) : 0 ≤ n := by
  have hminus : Python.startsWithMinus s = false := by
    cases s with
    | nil => rfl
    | cons p rest =>
        rw [Python.integerPattern, Bool.and_eq_true, List.all_cons, Bool.and_eq_true] at hs
        cases hp : Python.startsWithMinus (p :: rest) with
        | false => rfl
        | true =>
            have hsign : p = .scalar '-' := by
              simpa [Python.startsWithMinus] using hp
            rw [hsign, isDecimal_scalar py (by decide)] at hs
            exact absurd hs.2.1 (by decide)
  unfold Python.Interpreter.int at h
  split at h
  · cases h
  · cases h
  · split at h
    · rw [hminus] at h
      cases h
      exact Int.natCast_nonneg _
    · cases h

/-- An amount passes in Python if `int` reads it in range. -/
theorem pyAmount_iff (amount : Python.PyValue) (field : String) :
    Python.checkInteger py amount field true = .ok () ↔ PyAmount py amount := by
  rw [Python.checkInteger_eq_ok_iff, PyAmount]
  refine exists_congr fun s => exists_congr fun n => ?_
  have hmax : Python.maxInt64 = 2 ^ 63 - 1 := by rfl
  rw [hmax]
  constructor
  · rintro ⟨hamount, hdigits, hint, hle, -⟩
    exact ⟨hamount, hdigits, hint, int_nonneg hdigits hint, hle⟩
  · rintro ⟨hamount, hdigits, hint, -, hle⟩
    exact ⟨hamount, hdigits, hint, hle, fun _ => rfl⟩

/-- A bounded text is one that a builder requires. -/
theorem pyBounded_iff (v : Python.PyValue) (field : String) (s : Python.PyStr) :
    Python.requiredMetadataString v field = .ok s ↔ PyBounded v ∧ Python.strip v.text = s := by
  rw [Python.requiredMetadataString_eq_ok_iff, PyBounded]
  constructor
  · rintro ⟨t, rfl, rfl, hne, hlength⟩
    exact ⟨⟨t, rfl, hne, hlength⟩, rfl⟩
  · rintro ⟨⟨t, rfl, hne, hlength⟩, rfl⟩
    exact ⟨t, rfl, rfl, hne, hlength⟩

/-- Amounts are the same when their texts are. -/
theorem PyAmount.text_inj {amount other : Python.PyValue} (h : PyAmount py amount)
    (hother : PyAmount py other) : amount.text = other.text ↔ amount = other := by
  rcases h with ⟨s, -, rfl, -⟩
  rcases hother with ⟨t, -, rfl, -⟩
  exact (Python.PyValue.str.injEq s t).to_iff.symm

/-- What the checks on a charge alone require of it. -/
theorem checkCharge_iff
    (h : ∀ c ∈ pythonTwins, .scalar c ∉ Python.strip charge.originalCurrency.text)
    (code : Python.PyStr) :
    Python.checkCharge py charge = .ok code ↔
      Python.checkEvent py charge.sourceEventId charge.occurredAt = .ok () ∧
        PyAmount py charge.providerAmountMinor ∧ PyAmount py charge.originalAmountMinor ∧
        ∃ s currency, charge.originalCurrency = .str s ∧ Python.strip s = points currency ∧
          code = points (capitals currency) ∧
          Settles currency (charge.originalAmountMinor = charge.providerAmountMinor)
            (∃ rule, charge.fxRule = .str rule ∧ Python.strip rule ≠ []) := by
  have htwins : ∀ {s currency}, charge.originalCurrency = .str s →
      Python.strip s = points currency → ∀ c ∈ pythonTwins, c ∉ currency := by
    intro s currency hs hstrip c hc hmem
    have hscalar := h c hc
    rw [hs] at hscalar
    change CodePoint.scalar c ∉ Python.strip s at hscalar
    rw [hstrip] at hscalar
    exact hscalar (List.mem_map_of_mem hmem)
  have hrule : (charge.fxRule.isTextWith fun s => Python.strip s ≠ []) = true ↔
      ∃ rule, charge.fxRule = .str rule ∧ Python.strip rule ≠ [] := by
    simp
  rw [Python.checkCharge_eq_ok_iff, pyAmount_iff, pyAmount_iff, hrule]
  refine and_congr_right fun _ => and_congr_right fun hamount => and_congr_right fun horiginal => ?_
  rw [horiginal.text_inj hamount]
  constructor
  · rintro ⟨⟨trimmed, hrequired, rfl⟩, hchecks⟩
    rcases (Python.requiredMetadataString_eq_ok_iff _ _ _).mp hrequired with ⟨s, hs, rfl, -, -⟩
    rcases exists_points_of_code hchecks.1 with ⟨currency, hcurrency⟩
    have hplain := htwins hs hcurrency
    rw [hcurrency] at hchecks
    refine ⟨s, currency, hs, hcurrency, ?_, (python_settles_iff hplain).mp hchecks⟩
    rw [hcurrency, python_upper_points hplain]
  · rintro ⟨s, currency, hs, hcurrency, rfl, hsettles⟩
    have hplain := htwins hs hcurrency
    have hlength : (points currency).length = 3 := by
      rw [points, List.length_map, hsettles.1.1]
    rw [← python_upper_points hplain]
    refine ⟨⟨points currency, ?_, rfl⟩, (python_settles_iff hplain).mpr hsettles⟩
    refine (Python.requiredMetadataString_eq_ok_iff _ _ _).mpr ⟨s, hs, hcurrency, ?_, by omega⟩
    exact List.ne_nil_of_length_pos (by omega)

/-- The attribution of a charge whose evidence is in order passes. -/
theorem providerMetadata_of_attributed (h : PyAttributed py charge) :
    Python.providerMetadata py charge.provider charge.providerEventId charge.metadata =
      .ok ((charge.metadata.getD []).setAttribution (Python.strip charge.provider.text)
        (Python.strip charge.providerEventId.text)) := by
  rcases h.provider with ⟨provider, hprovider, hne, -⟩
  rcases h.providerEventId with ⟨event, hevent, hne', -⟩
  refine (Python.providerMetadata_eq_ok_iff _ _ _ _).mpr ⟨h.metadata, ?_, ?_, rfl⟩
  · exact (Python.PyValue.isTextWith_iff _ _).mpr ⟨provider, hprovider, decide_eq_true hne⟩
  · exact (Python.PyValue.isTextWith_iff _ _).mpr ⟨event, hevent, decide_eq_true hne'⟩

/-- The evidence of a charge passes when its texts do. -/
theorem exists_evidence_iff (code : Python.PyStr) (metadata : Python.PyDict) :
    (∃ evidence, Python.passThroughEvidence charge code metadata = .ok evidence) ↔
      PyBounded charge.providerInvoiceId ∧ PyBounded charge.tariffVersion ∧
        (charge.fxRule = .none ∨ PyBounded charge.fxRule) := by
  simp only [Python.passThroughEvidence_eq_ok_iff, pyBounded_iff]
  constructor
  · rintro ⟨_, _, _, ⟨hinvoice, -⟩, ⟨htariff, -⟩, ⟨hrule, -⟩ | ⟨_, ⟨hrule, -⟩, -⟩⟩
    · exact ⟨hinvoice, htariff, .inl hrule⟩
    · exact ⟨hinvoice, htariff, .inr hrule⟩
  · rintro ⟨hinvoice, htariff, hrule | hrule⟩
    · exact ⟨_, _, _, ⟨hinvoice, rfl⟩, ⟨htariff, rfl⟩, .inl ⟨hrule, rfl⟩⟩
    · exact ⟨_, _, _, ⟨hinvoice, rfl⟩, ⟨htariff, rfl⟩, .inr ⟨_, ⟨hrule, rfl⟩, rfl⟩⟩

/-- A charge is accepted exactly on consistent evidence. -/
theorem python_accepts_iff (h : PyAttributed py charge) :
    (∃ request, Python.otherProviderCharge py charge = .ok request) ↔
      PyConsistent py charge := by
  simp only [Python.otherProviderCharge_eq_ok_iff, checkCharge_iff h.currency]
  constructor
  · rintro ⟨_, code, metadata, evidence, ⟨-, hamount, horiginal, s, currency, hs, hcurrency, -,
      hsettles⟩, -, hevidence, -⟩
    exact ⟨hamount, horiginal, ⟨s, currency, hs, hcurrency, hsettles⟩,
      ((exists_evidence_iff code metadata).mp ⟨evidence, hevidence⟩).2.2⟩
  · intro hc
    rcases hc.settles with ⟨s, currency, hs, hcurrency, hsettles⟩
    rcases (exists_evidence_iff (points (capitals currency)) _).mpr
      ⟨h.invoice, h.tariff, hc.rule⟩ with ⟨evidence, hevidence⟩
    exact ⟨_, _, _, evidence,
      ⟨h.event, hc.amount, hc.original, s, currency, hs, hcurrency, rfl, hsettles⟩,
      providerMetadata_of_attributed h, hevidence, rfl⟩

/-- The metadata of an accepted charge has its evidence. -/
theorem python_evidenced (h : PyAttributed py charge) {request : Python.PyDict}
    (hrequest : Python.otherProviderCharge py charge = .ok request) :
    ∃ metadata, request.get "metadata" = some (.dict metadata) ∧ PyEvidenced charge metadata := by
  rcases (Python.otherProviderCharge_eq_ok_iff charge request).mp hrequest with
    ⟨code, metadata, evidence, hcharge, -, hevidence, rfl⟩
  rcases (checkCharge_iff h.currency code).mp hcharge with
    ⟨-, -, -, s, currency, hs, hcurrency, rfl, -⟩
  refine ⟨evidence, Python.usageRequest_get_metadata _ _ _ (by decide) _ _, ?_⟩
  have htrimmed : Python.strip charge.originalCurrency.text = points currency := by
    rw [hs]
    exact hcurrency
  simp only [Python.passThroughEvidence_eq_ok_iff, pyBounded_iff] at hevidence
  rcases hevidence with ⟨_, _, ⟨-, rfl⟩, ⟨-, rfl⟩, ⟨hrule, rfl⟩ | ⟨_, ⟨-, rfl⟩, rfl⟩⟩
  · refine ⟨⟨currency, htrimmed, ?_⟩, ?_, ?_, ?_, absurd hrule⟩
    all_goals simp [Python.PyDict.setEvidence]
  · refine ⟨⟨currency, htrimmed, ?_⟩, ?_, ?_, ?_, fun _ => ?_⟩
    all_goals simp [Python.PyDict.setEvidence]

end Python

/-! ## Both SDKs -/

/-- Pass-through charges are accepted exactly on complete and consistent evidence, in
both SDKs, and the metadata of an accepted charge has its evidence. -/
theorem charges_accepted_iff {usage : Go.OtherProviderChargeUsage} (hgo : GoAttributed usage)
    {py : Python.BuilderInterpreter} {charge : Python.OtherProviderCharge}
    (hpython : PyAttributed py charge) :
    (((∃ request, usage.request = .ok request) ↔ GoConsistent usage) ∧
      ∀ request, usage.request = .ok request →
        ∃ m, request.metadata = some m ∧ GoEvidenced usage m) ∧
    ((∃ request, Python.otherProviderCharge py charge = .ok request) ↔
        PyConsistent py charge) ∧
      ∀ request, Python.otherProviderCharge py charge = .ok request →
        ∃ metadata, request.get "metadata" = some (.dict metadata) ∧
          PyEvidenced charge metadata :=
  ⟨⟨go_accepts_iff hgo, fun _ => go_evidenced hgo⟩, python_accepts_iff hpython,
    fun _ => python_evidenced hpython⟩

section Example

/-- A charge of a carrier in Go. -/
def carrierUsage (originalAmountMinor originalCurrency fxRule : String) :
    Go.OtherProviderChargeUsage where
  sourceEventID := "provider-fee-1"
  occurredAt := ⟨false, "2026-08-04T00:00:00Z"⟩
  provider := "Carrier"
  providerEventID := "provider-event-1"
  providerAmountMinor := "337"
  providerInvoiceID := "INV-1"
  originalAmountMinor := originalAmountMinor
  originalCurrency := originalCurrency
  tariffVersion := "carrier-v1"
  fxRule := fxRule
  metadata := none

/-- The charge of a carrier in Python, in riyals. -/
def carrierCharge (originalAmountMinor : String) (fxRule : Python.PyValue) :
    Python.OtherProviderCharge :=
  { Python.riyalCharge (Python.str "Carrier") with
    originalAmountMinor := .str (Python.str originalAmountMinor)
    fxRule := fxRule }

/-- The usage of the examples is attributed. -/
theorem carrierUsage_attributed (original rule : String) {currency : String}
    (h : ∀ c ∈ goTwins, c ∉ (Go.trimSpace currency).toList) :
    GoAttributed (carrierUsage original currency rule) := by
  have hevent : Go.validateUsageEvent "provider-fee-1" ⟨false, "2026-08-04T00:00:00Z"⟩ = none := by
    decide
  have hprovider : GoBounded "Carrier" := ⟨by decide, by decide⟩
  have heventID : GoBounded "provider-event-1" := ⟨by decide, by decide⟩
  have hinvoice : GoBounded "INV-1" := ⟨by decide, by decide⟩
  have htariff : GoBounded "carrier-v1" := ⟨by decide, by decide⟩
  exact ⟨hevent, hprovider, heventID, hinvoice, htariff, rfl, h⟩

/-- So is their charge. -/
theorem carrierCharge_attributed (original : String) (rule : Python.PyValue) :
    PyAttributed Python.asciiInterpreter (carrierCharge original rule) := by
  have hbounded : ∀ s, Python.strip (Python.str s) ≠ [] →
      (Python.strip (Python.str s)).length ≤ 512 → PyBounded (.str (Python.str s)) :=
    fun s hne hlength => ⟨Python.str s, rfl, hne, hlength⟩
  have hcurrency : ∀ c ∈ pythonTwins, .scalar c ∉ Python.strip (Python.str "sar") :=
    List.all_iff_forall_prop.mp (by decide)
  exact ⟨rfl, hbounded "Carrier" (by decide) (by decide),
    hbounded "provider-event-1" (by decide) (by decide),
    hbounded "INV-1" (by decide) (by decide), hbounded "carrier-v1" (by decide) (by decide), rfl,
    hcurrency⟩

/-- A charge of 337 halalas, settled as such, is accepted by both SDKs. -/
theorem carrier_charge_accepted :
    (∃ request m, (carrierUsage "337" " sar" "").request = .ok request ∧
      request.metadata = some m ∧ m.originalCurrency = "SAR") ∧
    ∃ request, Python.otherProviderCharge Python.asciiInterpreter (carrierCharge "337" .none) =
      .ok request := by
  have hgo : GoAttributed (carrierUsage "337" " sar" "") :=
    carrierUsage_attributed "337" "" (List.all_iff_forall_prop.mp (by decide))
  have hpython := carrierCharge_attributed "337" .none
  have haccepted := charges_accepted_iff hgo hpython
  have hletters : LetterCode "sar".toList := by decide
  have hsettles : ∀ sameAmount converted : Prop, sameAmount →
      Settles "sar".toList sameAmount converted :=
    fun _ _ hsame => ⟨hletters, .inl ⟨by decide, hsame⟩⟩
  have hamount : GoAmount "337" := ⟨by decide, by decide⟩
  have hconsistent : GoConsistent (carrierUsage "337" " sar" "") :=
    ⟨hamount, hamount, hsettles _ _ rfl, by decide⟩
  have hread : PyAmount Python.asciiInterpreter (.str (Python.str "337")) :=
    ⟨_, 337, rfl, rfl, rfl, by omega, by omega⟩
  have hsettled : PyConsistent Python.asciiInterpreter (carrierCharge "337" .none) :=
    ⟨hread, hread, ⟨_, "sar".toList, rfl, rfl, hsettles _ _ rfl⟩, .inl rfl⟩
  rcases haccepted.1.1.mpr hconsistent with ⟨request, hrequest⟩
  rcases haccepted.1.2 request hrequest with ⟨m, hm, hevidenced⟩
  exact ⟨⟨request, m, hrequest, hm, hevidenced.currency⟩, haccepted.2.1.mpr hsettled⟩

/-- Evidence in Go by the integers its amounts denote, whatever their spelling and the
length of the rule. -/
def GoDenotes (usage : Go.OtherProviderChargeUsage) : Prop :=
  GoAmount usage.providerAmountMinor ∧ GoAmount usage.originalAmountMinor ∧
    Settles (Go.trimSpace usage.originalCurrency).toList
      (digitsValue usage.originalAmountMinor.toList =
        digitsValue usage.providerAmountMinor.toList)
      (Go.trimSpace usage.fxRule ≠ "")

/-- Evidence in Python by the integers its amounts denote. -/
def PyDenotes (py : Python.BuilderInterpreter) (charge : Python.OtherProviderCharge) : Prop :=
  PyAmount py charge.providerAmountMinor ∧ PyAmount py charge.originalAmountMinor ∧
    ∃ s currency, charge.originalCurrency = .str s ∧ Python.strip s = points currency ∧
      Settles currency
        (py.int charge.originalAmountMinor.text = py.int charge.providerAmountMinor.text)
        (∃ rule, charge.fxRule = .str rule ∧ Python.strip rule ≠ [])

/-- Two spellings of an amount in riyals are refused by Go. -/
theorem go_spelled_refused :
    GoAttributed (carrierUsage "0337" "sar" "") ∧ GoDenotes (carrierUsage "0337" "sar" "") ∧
      ¬ ∃ request, (carrierUsage "0337" "sar" "").request = .ok request := by
  have hgo : GoAttributed (carrierUsage "0337" "sar" "") :=
    carrierUsage_attributed "0337" "" (List.all_iff_forall_prop.mp (by decide))
  have hletters : LetterCode "sar".toList := by decide
  refine ⟨hgo, ⟨⟨by decide, by decide⟩, ⟨by decide, by decide⟩, hletters,
    .inl ⟨by decide, by decide⟩⟩, ?_⟩
  rw [go_accepts_iff hgo]
  rintro ⟨-, -, ⟨-, ⟨-, hsame⟩ | ⟨hother, -⟩⟩, -⟩
  · exact absurd hsame (by decide)
  · exact hother (by decide)

/-- A text of so many letters. -/
def letters (n : ℕ) : String := String.ofList (List.replicate n 'x')

/-- The long text of the examples repeats one letter. -/
theorem eq_of_mem_letters {n : ℕ} {c : Char} (h : c ∈ (letters n).toList) : c = 'x' := by
  rw [letters, String.toList_ofList] at h
  exact List.eq_of_mem_replicate h

/-- Its length is the number of its letters. -/
theorem utf8ByteSize_letters (n : ℕ) : (letters n).utf8ByteSize = n := by
  have hascii : Ascii (letters n) := by
    intro c hc
    rw [eq_of_mem_letters hc]
    decide
  rw [utf8ByteSize_of_ascii hascii, letters, String.toList_ofList, List.length_replicate]

/-- It has no white space. -/
theorem trimSpace_letters (n : ℕ) : Go.trimSpace (letters n) = letters n := by
  have hletter : ∀ c ∈ (letters n).toList, Go.isSpace c = false := by
    intro c hc
    rw [eq_of_mem_letters hc]
    decide
  rw [← String.toList_inj, toList_trimSpace, trim_of_forall_not hletter]

/-- A rule of conversion beyond the bound of metadata is refused by Go. -/
theorem go_long_rule_refused :
    GoAttributed (carrierUsage "90" "usd" (letters 513)) ∧
      GoDenotes (carrierUsage "90" "usd" (letters 513)) ∧
      ¬ ∃ request, (carrierUsage "90" "usd" (letters 513)).request = .ok request := by
  have hgo : GoAttributed (carrierUsage "90" "usd" (letters 513)) :=
    carrierUsage_attributed "90" (letters 513) (List.all_iff_forall_prop.mp (by decide))
  have hnonblank : Go.trimSpace (letters 513) ≠ "" := by
    intro hempty
    have hsize := utf8ByteSize_letters 513
    rw [← trimSpace_letters, hempty] at hsize
    exact absurd hsize (by decide)
  have hletters : LetterCode "usd".toList := by decide
  refine ⟨hgo, ⟨⟨by decide, by decide⟩, ⟨by decide, by decide⟩, hletters,
    .inr ⟨by decide, hnonblank⟩⟩, ?_⟩
  rw [go_accepts_iff hgo]
  intro h
  have hrule : (Go.trimSpace (letters 513)).utf8ByteSize ≤ 512 := h.rule
  rw [trimSpace_letters, utf8ByteSize_letters] at hrule
  omega

/-- The charge of the examples has the amount it denotes. -/
theorem pyDenotes_carrierCharge {original : String} (rule : Python.PyValue)
    (h : Python.asciiInterpreter.int (Python.str original) = .ok 337)
    (hdigits : Python.integerPattern Python.asciiInterpreter (Python.str original) = true) :
    PyDenotes Python.asciiInterpreter (carrierCharge original rule) := by
  have hletters : LetterCode "sar".toList := by decide
  exact ⟨⟨_, 337, rfl, rfl, rfl, by omega, by omega⟩, ⟨_, 337, rfl, hdigits, h, by omega,
    by omega⟩, _, "sar".toList, rfl, rfl, hletters, .inl ⟨by decide, h⟩⟩

/-- So are they by Python, as is an empty rule of conversion for an amount in riyals. -/
theorem spelled_amount_refused :
    (GoAttributed (carrierUsage "0337" "sar" "") ∧ GoDenotes (carrierUsage "0337" "sar" "") ∧
      ¬ ∃ request, (carrierUsage "0337" "sar" "").request = .ok request) ∧
    (GoAttributed (carrierUsage "90" "usd" (letters 513)) ∧
      GoDenotes (carrierUsage "90" "usd" (letters 513)) ∧
      ¬ ∃ request, (carrierUsage "90" "usd" (letters 513)).request = .ok request) ∧
    (PyAttributed Python.asciiInterpreter (carrierCharge "0337" .none) ∧
      PyDenotes Python.asciiInterpreter (carrierCharge "0337" .none) ∧
      ¬ ∃ request, Python.otherProviderCharge Python.asciiInterpreter
        (carrierCharge "0337" .none) = .ok request) ∧
    PyAttributed Python.asciiInterpreter (carrierCharge "337" (.str [])) ∧
      PyDenotes Python.asciiInterpreter (carrierCharge "337" (.str [])) ∧
      ¬ ∃ request, Python.otherProviderCharge Python.asciiInterpreter
        (carrierCharge "337" (.str [])) = .ok request := by
  have hspelled := carrierCharge_attributed "0337" .none
  have hempty := carrierCharge_attributed "337" (.str [])
  refine ⟨go_spelled_refused, go_long_rule_refused,
    ⟨hspelled, pyDenotes_carrierCharge .none rfl rfl, ?_⟩,
    hempty, pyDenotes_carrierCharge (.str []) rfl rfl, ?_⟩
  · rw [python_accepts_iff hspelled]
    rintro ⟨-, -, ⟨s, currency, hs, hcurrency, -, ⟨-, hsame⟩ | ⟨-, rule, hrule, -⟩⟩, -⟩
    · exact absurd (Python.PyValue.str.inj hsame) (by decide)
    · cases hrule
  · rw [python_accepts_iff hempty]
    rintro ⟨-, -, -, hrule | ⟨rule, hrule, hne, -⟩⟩
    · cases hrule
    · cases hrule
      exact hne rfl

end Example

end MizanSDK.Agreement
