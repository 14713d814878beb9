import MizanSDK.Agreement.UsageFacts
import MizanSDK.Python.Payments

/-!
# Exact amounts in the requests of the Python builders

The contract wants an amount as a string of the digits 0 to 9 that fits a signed
64-bit integer.  The builders look at amounts in three ways: most arguments have to
match a pattern whose digits are those of any script, the amount in metadata is
converted by `str` before it has to, and the limit of a budget is not looked at.

Main results:

- Theorem `exactText_iff_of_checked`: what a check leaves open is the script of the
  digits and, for metadata, the type.
- Theorem `exactRequest_iff`: which calls make a request whose amounts are all
  exact.
-/

namespace MizanSDK.Agreement

open JsonText Decimal Checks

/-! ## Exact amounts -/

/-- A `str` of the digits 0 to 9 that fits a signed 64-bit integer. -/
def ExactText (v : Python.PyValue) : Prop :=
  ∃ s, v = text s ∧ isDigits s.toList = true ∧ digitsValue s.toList ≤ 2 ^ 63 - 1

/-- Every amount of a request is exact. -/
def ExactRequest (request : Python.PyDict) : Prop :=
  ∀ v, Python.HoldsAmount request v → ExactText v

/-- A `str` without characters other than the digits 0 to 9. -/
def AsciiDigits (v : Python.PyValue) : Prop :=
  ∃ s, v = text s ∧ ∀ c ∈ s.toList, isAsciiDigit c = true

theorem ExactText.asciiDigits {v : Python.PyValue} (h : ExactText v) : AsciiDigits v := by
  rcases h with ⟨s, rfl, hdigits, -⟩
  rw [isDigits, Bool.and_eq_true, List.all_eq_true] at hdigits
  exact ⟨s, rfl, hdigits.2⟩

variable {py : Python.BuilderInterpreter}

/-- Digits that have passed the check of an amount are exact. -/
theorem exactText_of_checkInteger {s field : String} {allowZero : Bool}
    (h : ∀ c ∈ s.toList, isAsciiDigit c = true)
    (hcheck : Python.checkInteger py (text s) field allowZero = .ok ()) :
    ExactText (text s) := by
  have hascii : Ascii s := fun c hc => toNat_lt_of_isAsciiDigit (h c hc)
  have hgo := ((checkInteger_iff py hascii field field allowZero).mp hcheck).1
  rcases (Go.validateExactInteger_eq_none_iff s field allowZero).mp hgo with
    ⟨hpattern, hle, -⟩
  have hmax : Go.maxInt64Exact = 2 ^ 63 - 1 := rfl
  rw [hmax] at hle
  exact ⟨s, rfl, hpattern, hle⟩

/-- A check leaves open only whether the amount is a `str` of the digits 0 to 9. -/
theorem exactText_iff_of_checked {v : Python.PyValue} (h : Python.Checked py v) :
    ExactText v ↔ AsciiDigits v := by
  constructor
  · exact ExactText.asciiDigits
  · rintro ⟨s, rfl, hdigits⟩
    rcases h with ⟨field, allowZero, hcheck⟩ | hcheck
    · exact exactText_of_checkInteger hdigits hcheck
    · -- `str` leaves a `str` alone.
      have hmember : Python.checkInteger py (text s) "metadata.original_amount_minor" true =
          .ok () := hcheck
      exact exactText_of_checkInteger hdigits hmember

/-- The amounts of a request are those of its call. -/
theorem exactRequest_iff_amounts {call : Python.BuilderCall} {request : Python.PyDict}
    (h : call.build py = .ok request) :
    ExactRequest request ↔ ∀ v ∈ call.amounts, ExactText v :=
  forall_congr' fun v => by rw [call.holdsAmount_iff h v]

/-- The amounts among the arguments are written in the digits 0 to 9, and the limit
of a budget, which is not checked, fits as well. -/
def PlainAmounts : Python.BuilderCall → Prop
  | .featureBudget _ limit _ _ _ => ExactText limit
  | call => ∀ v ∈ call.amounts, AsciiDigits v

/-- Where every amount is checked, the digits decide. -/
theorem exact_amounts_iff {call : Python.BuilderCall}
    (hchecked : ∀ v ∈ call.amounts, Python.Checked py v) :
    (∀ v ∈ call.amounts, ExactText v) ↔ ∀ v ∈ call.amounts, AsciiDigits v :=
  forall₂_congr fun v hv => exactText_iff_of_checked (hchecked v hv)

/-- The amounts of a request are all exact when those among the arguments of its
builder are written in the digits 0 to 9, and a limit is exact to begin with. -/
theorem exactRequest_iff (call : Python.BuilderCall) {request : Python.PyDict}
    (h : call.build py = .ok request) : ExactRequest request ↔ PlainAmounts call := by
  rw [exactRequest_iff_amounts h]
  have hchecked : (∀ m l a w s, call ≠ .featureBudget m l a w s) →
      ∀ v ∈ call.amounts, Python.Checked py v := by
    intro hbudget v hv
    rcases call.amounts_checked h hv with hchecked | ⟨m, a, w, s, hcall⟩
    · exact hchecked
    · exact absurd hcall (hbudget m v a w s)
  cases call with
  | featureBudget m l a w s => simp [Python.BuilderCall.amounts, PlainAmounts]
  | confirmedTopUp | confirmedRefund | usage =>
      apply exact_amounts_iff
      apply hchecked
      intro m l a w s h
      cases h

/-! ## Other digits and other types -/

/-- A confirmed top-up of one riyal before tax. -/
def riyalTopUp (amountMinor : String) : Python.BuilderCall :=
  .confirmedTopUp (text amountMinor) (text "pay-1") (text "115")

theorem exactRequest_riyalTopUp :
    ∃ request, (riyalTopUp "100").build Python.asciiInterpreter = .ok request ∧
      ExactRequest request := by
  have hplain : PlainAmounts (riyalTopUp "100") := by
    intro v hv
    simp only [riyalTopUp, Python.BuilderCall.amounts, List.mem_cons, List.not_mem_nil,
      or_false] at hv
    rcases hv with rfl | rfl
    · exact ⟨"100", rfl, List.all_iff_forall_prop.mp (by decide)⟩
    · exact ⟨"115", rfl, List.all_iff_forall_prop.mp (by decide)⟩
  have hbuild : ∃ request, (riyalTopUp "100").build Python.asciiInterpreter = .ok request :=
    ⟨_, rfl⟩
  rcases hbuild with ⟨request, hrequest⟩
  exact ⟨request, hrequest, (exactRequest_iff (riyalTopUp "100") hrequest).mpr hplain⟩

/-- The value of a digit, with the Arabic-Indic digits among the decimal ones. -/
def arabicDecimal (c : Char) : Option ℕ :=
  if isAsciiDigit c then some (c.toNat - '0'.toNat)
  else if 0x660 ≤ c.toNat ∧ c.toNat ≤ 0x669 then some (c.toNat - 0x660)
  else none

/-- An interpreter that knows them. -/
def arabicInterpreter : Python.BuilderInterpreter where
  loads _ := .ok none
  dumps _ := .ok []
  lower := Python.lower
  repr _ := .ok []
  isDigit c := (arabicDecimal c).isSome
  decimal := arabicDecimal
  maxStrDigits := 4300
  isDigit_ascii c h := by
    have hlow : ¬ (0x660 ≤ c.toNat ∧ c.toNat ≤ 0x669) := by omega
    unfold arabicDecimal
    rw [if_neg hlow]
    split <;> simp_all
  decimal_ascii c h := by rw [arabicDecimal, if_pos h]
  maxStrDigits_threshold := Python.defaultMaxStrDigits_threshold
  fromisoformat s :=
    if s = Python.str "2026-08-04T00:00:00+00:00" then some true else none
  isDigit_of_decimal c d h := by rw [h, Option.isSome_some]
  repr_error := Python.isValueError_of_ok

/-- A budget with this limit. -/
def monthlyBudget (limit : Python.PyValue) : Python.BuilderCall :=
  .featureBudget (text "quantity") limit (text "pause") none none

/-- A delivered message with this original amount in its metadata. -/
def messageUsage (amount : Python.PyValue) : Python.BuilderCall :=
  .usage (.outboundDeliveredMessage (text "message-1") (text "2026-08-04T00:00:00Z")
    (text "1") (some [(Python.str "original_amount_minor", amount)]))

/-- A top-up in Arabic-Indic digits, a limit that is a number and an original amount
that is a number all become requests. -/
theorem inexact_requests :
    (∃ request, (riyalTopUp "\u0663").build arabicInterpreter = .ok request ∧
        ¬ ExactRequest request) ∧
      (∃ request, (monthlyBudget (.int 5)).build arabicInterpreter = .ok request ∧
        ¬ ExactRequest request) ∧
      ∃ request, (messageUsage (.int 100)).build arabicInterpreter = .ok request ∧
        ¬ ExactRequest request := by
  have hnumber : ∀ n, ¬ ExactText (.int n) := by
    rintro n ⟨s, hs, -⟩
    cases hs
  obtain ⟨request, hbuild⟩ : ∃ request,
      (riyalTopUp "\u0663").build arabicInterpreter = .ok request := ⟨_, rfl⟩
  refine ⟨⟨request, hbuild, ?_⟩, ⟨_, rfl, ?_⟩, ⟨_, rfl, ?_⟩⟩
  · rw [exactRequest_iff_amounts hbuild]
    intro h
    rcases (h (text "\u0663") List.mem_cons_self).asciiDigits with ⟨s, hs, hdigits⟩
    obtain rfl : "\u0663" = s := Text.ofString_inj.mp (Python.PyValue.str.inj hs)
    exact absurd (List.all_iff_forall_prop.mpr hdigits) (by decide)
  · intro h
    exact hnumber 5 (h _ (.inl ⟨"limit", by decide, rfl⟩))
  · intro h
    exact hnumber 100 (h _ (.inr ⟨_, rfl, rfl⟩))

end MizanSDK.Agreement
