import MizanSDK.Agreement.CanonicalAmounts
import MizanSDK.Agreement.ExactRequests

/-!
# The numerals of requests in both SDKs

Quantities, whole counts and amounts are matched against the same patterns in both SDKs,
but the digits of Python's patterns are those of any script, and `int` converts a bounded
number of them.  What Go accepts is a numeral in ASCII digits that is in range, and what
Python accepts one in range that is short enough.

Main results:

- Theorems `checkQuantity_text_iff`, `checkWholeCount_text_iff` and `checkInteger_text_iff`:
  what Python accepts.
- Theorems `validateQuantity_python_iff` and `go_integer_iff`: what Go accepts, in Python's
  words.
- Theorem `outgoing_numerals_alike_iff`: when both accept the same.
-/

namespace MizanSDK.Agreement

open JsonText Decimal

section Numerals

variable (py : Python.BuilderInterpreter)

/-! ## Digits of any script -/

/-- Decimal digits have no sign. -/
theorem startsWithMinus_of_decimal {s : Python.PyStr} (h : AllDecimal py.toInterpreter s) :
    Python.startsWithMinus s = false := by
  rw [Python.startsWithMinus, beq_eq_false_iff_ne]
  intro hhead
  rcases List.head?_eq_some_iff.mp hhead with ⟨rest, rfl⟩
  rcases Option.isSome_iff_exists.mp (h _ List.mem_cons_self) with ⟨d, hd⟩
  have hknown := py.isDigit_of_decimal '-' d hd
  rw [py.isDigit_ascii '-' (by decide)] at hknown
  exact absurd hknown (by decide)

/-- `int` reads decimal digits as their value, if they are not too many. -/
theorem int_of_decimal {s : Python.PyStr} (hne : s ≠ []) (h : AllDecimal py.toInterpreter s)
    (n : ℤ) :
    py.int s = .ok n ↔
      py.withinDigits s.length = true ∧ n = decimalValue py.toInterpreter s := by
  have hminus := startsWithMinus_of_decimal py h
  have hsame : Python.withoutMinus s = s := by
    rw [Python.withoutMinus, hminus]
    rfl
  have hdigits : Python.withoutMinus s ≠ [] := by
    rw [hsame]
    exact hne
  have hread := @int_eq_ok_iff py.toInterpreter s hdigits n
  rw [hsame, hminus] at hread
  rw [hread, and_iff_right h]
  rfl

/-- Python's pattern takes decimal digits of every script. -/
theorem integerPattern_iff (s : Python.PyStr) :
    Python.integerPattern py s = true ↔ s ≠ [] ∧ AllDecimal py.toInterpreter s := by
  rw [Python.integerPattern, Bool.and_eq_true, Bool.not_eq_true', List.isEmpty_eq_false_iff,
    List.all_eq_true]
  rfl

/-- The value of ASCII digits is the same in both SDKs. -/
theorem decimalValue_points {digits : List Char} (h : ∀ c ∈ digits, isAsciiDigit c = true) :
    decimalValue py.toInterpreter (points digits) = digitsValue digits := by
  have hread := (mapM_digit_eq_some_iff _ _).mp (mapM_digit_points py.toInterpreter h)
  rw [decimalValue, ← hread.2, List.foldl_map]
  rfl

/-- A run of digits in Go is one in ASCII digits. -/
theorem isDigits_python_iff (s : String) :
    isDigits s.toList = true ↔ Ascii s ∧ Python.integerPattern py (Python.str s) = true := by
  refine ⟨fun h => ?_, fun h => ?_⟩
  · have hdigits := h
    rw [isDigits, Bool.and_eq_true, List.all_eq_true] at hdigits
    have hascii : Ascii s := fun c hc => toNat_lt_of_isAsciiDigit (hdigits.2 c hc)
    exact ⟨hascii, (integerPattern_points py hascii).trans h⟩
  · exact (integerPattern_points py h.1).symm.trans h.2

/-! ## Integers -/

/-- What a check of an integer accepts in Python, with this condition on the value. -/
theorem python_integer_iff (s : String) (p : ℤ → Prop) :
    (∃ t n, text s = .str t ∧ Python.integerPattern py t = true ∧ py.int t = .ok n ∧ p n) ↔
      py.withinDigits s.toList.length = true ∧
        Python.integerPattern py (Python.str s) = true ∧
          p (decimalValue py.toInterpreter (Python.str s)) := by
  refine ⟨fun h => ?_, fun h => ?_⟩
  · rcases h with ⟨t, n, ht, hpattern, hint, hp⟩
    cases ht
    rcases (integerPattern_iff py _).mp hpattern with ⟨hne, hall⟩
    rcases (int_of_decimal py hne hall n).mp hint with ⟨hwithin, rfl⟩
    rw [length_str] at hwithin
    exact ⟨hwithin, hpattern, hp⟩
  · rcases h with ⟨hwithin, hpattern, hp⟩
    rcases (integerPattern_iff py _).mp hpattern with ⟨hne, hall⟩
    rw [← length_str] at hwithin
    exact ⟨_, _, rfl, hpattern, (int_of_decimal py hne hall _).mpr ⟨hwithin, rfl⟩, hp⟩

/-- What a check of an integer accepts in Go, with this condition on the value. -/
theorem go_integer_iff (s : String) (p : ℤ → Prop) :
    (isDigits s.toList = true ∧ p (digitsValue s.toList)) ↔
      Ascii s ∧ Python.integerPattern py (Python.str s) = true ∧
        p (decimalValue py.toInterpreter (Python.str s)) := by
  rw [← and_assoc, ← isDigits_python_iff]
  refine and_congr_right fun h => ?_
  rw [isDigits, Bool.and_eq_true, List.all_eq_true] at h
  have hvalue : decimalValue py.toInterpreter (Python.str s) = digitsValue s.toList :=
    decimalValue_points py h.2
  rw [hvalue]

/-- An exact amount that is in range. -/
def AmountFits (allowZero : Bool) (n : ℤ) : Prop :=
  n ≤ 2 ^ 63 - 1 ∧ (n = 0 → allowZero = true)

/-- A whole count that is in range in thousandths. -/
def CountFits (n : ℤ) : Prop := 0 < n ∧ n ≤ (2 ^ 63 - 1) / 1000

/-- An amount passes in Python if `int` converts it and it is in range. -/
theorem checkInteger_text_iff (s field : String) (allowZero : Bool) :
    Python.checkInteger py (text s) field allowZero = .ok () ↔
      py.withinDigits s.toList.length = true ∧
        Python.integerPattern py (Python.str s) = true ∧
          AmountFits allowZero (decimalValue py.toInterpreter (Python.str s)) := by
  rw [Python.checkInteger_eq_ok_iff, ← python_integer_iff]
  rfl

/-- So does a whole count. -/
theorem checkWholeCount_text_iff (s : String) :
    Python.checkWholeCount py (text s) = .ok () ↔
      py.withinDigits s.toList.length = true ∧
        Python.integerPattern py (Python.str s) = true ∧
          CountFits (decimalValue py.toInterpreter (Python.str s)) := by
  rw [Python.checkWholeCount_eq_ok_iff, ← python_integer_iff]
  rfl

/-- An amount passes in Go if it is one of Python in ASCII. -/
theorem validateExactInteger_python_iff (s field : String) (allowZero : Bool) :
    Go.validateExactInteger s field allowZero = none ↔
      Ascii s ∧ Python.integerPattern py (Python.str s) = true ∧
        AmountFits allowZero (decimalValue py.toInterpreter (Python.str s)) := by
  have hmax : Go.maxInt64Exact = 2 ^ 63 - 1 := rfl
  rw [← go_integer_iff, Go.validateExactInteger_eq_none_iff, Go.integerPattern, AmountFits, hmax]
  refine and_congr_right fun _ => and_congr (by omega) ⟨fun h hzero => ?_, fun h => ?_⟩
  · rcases h with hallowed | hpos
    · exact hallowed
    · omega
  · by_cases hzero : digitsValue s.toList = 0
    · exact .inl (h (by rw [hzero]; rfl))
    · exact .inr (by omega)

/-- So does a whole count. -/
theorem validateWholeCount_python_iff (s : String) :
    Go.validateWholeCount s = none ↔
      Ascii s ∧ Python.integerPattern py (Python.str s) = true ∧
        CountFits (decimalValue py.toInterpreter (Python.str s)) := by
  have hmax : Go.maxInt64Exact = 2 ^ 63 - 1 := rfl
  rw [← go_integer_iff, Go.validateWholeCount_eq_none_iff, Go.integerPattern, CountFits, hmax]
  exact and_congr_right fun _ => and_congr (by omega) (by omega)

/-! ## Quantities -/

/-- The value of the groups of a quantity in thousandths. -/
def scaledValue (groups : Python.PyStr × Python.PyStr) : ℕ :=
  decimalValue py.toInterpreter groups.1 * 1000 +
    decimalValue py.toInterpreter (Python.millis groups.2)

/-- A quantity that is in range. -/
def QuantityFits (n : ℕ) : Prop := 0 < n ∧ n ≤ 2 ^ 63 - 1

/-- A text of decimal digits. -/
theorem allDecimal_of_all {s : Python.PyStr} (h : s.all (Python.isDecimal py) = true) :
    AllDecimal py.toInterpreter s := List.all_eq_true.mp h

/-- A padded fraction is decimal and short. -/
theorem millis_decimal {fraction : Python.PyStr} (h : fraction.all (Python.isDecimal py) = true)
    (hlength : fraction.length ≤ 3) :
    AllDecimal py.toInterpreter (Python.millis fraction) ∧ (Python.millis fraction).length = 3 := by
  refine ⟨?_, ?_⟩
  · intro c hc
    rcases List.mem_append.mp hc with hc | hc
    · exact allDecimal_of_all py h c hc
    · rw [List.eq_of_mem_replicate hc, Python.Interpreter.digit, py.decimal_ascii '0' (by decide)]
      rfl
  · rw [Python.millis, List.length_append, List.length_replicate]
    omega

/-- A quantity passes in Python if `int` converts its whole part and it is in range. -/
theorem checkQuantity_text_iff (s : String) :
    Python.checkQuantity py (text s) = .ok () ↔
      ∃ groups, Python.decimalPattern py (Python.str s) = some groups ∧
        py.withinDigits groups.1.length = true ∧ QuantityFits (scaledValue py groups) := by
  rw [Python.checkQuantity_eq_ok_iff]
  have hmax : Python.maxInt64 = 2 ^ 63 - 1 := rfl
  have hread : ∀ groups : Python.PyStr × Python.PyStr,
      Python.decimalPattern py (Python.str s) = some groups →
        ((∃ m n, py.int groups.1 = .ok m ∧ py.int (Python.millis groups.2) = .ok n ∧
            0 < m * 1000 + n ∧ m * 1000 + n ≤ Python.maxInt64) ↔
          py.withinDigits groups.1.length = true ∧ QuantityFits (scaledValue py groups)) := by
    intro groups hgroups
    rcases matchDecimal_eq_some hgroups with ⟨hne, hwhole, hlength, hfraction⟩
    rcases millis_decimal py hfraction hlength with ⟨hmillis, hthree⟩
    have hpadded : Python.millis groups.2 ≠ [] := List.ne_nil_of_length_pos (by omega)
    have hshort : py.withinDigits (Python.millis groups.2).length = true :=
      withinDigits_of_le py (by omega)
    have hint := int_of_decimal py hne (allDecimal_of_all py hwhole)
    have hint' := int_of_decimal py hpadded hmillis
    rw [QuantityFits, scaledValue]
    refine ⟨fun h => ?_, fun h => ?_⟩
    · rcases h with ⟨m, n, hm, hn, hrange⟩
      rcases (hint m).mp hm with ⟨hwithin, rfl⟩
      rcases (hint' n).mp hn with ⟨-, rfl⟩
      exact ⟨hwithin, by omega⟩
    · rcases h with ⟨hwithin, hrange⟩
      exact ⟨_, _, (hint _).mpr ⟨hwithin, rfl⟩, (hint' _).mpr ⟨hshort, rfl⟩, by omega⟩
  refine ⟨fun h => ?_, fun h => ?_⟩
  · rcases h with ⟨whole, fraction, m, n, hgroups, hm⟩
    exact ⟨(whole, fraction), hgroups, (hread _ hgroups).mp ⟨m, n, hm⟩⟩
  · rcases h with ⟨groups, hgroups, hfits⟩
    rcases (hread groups hgroups).mpr hfits with ⟨m, n, hm⟩
    exact ⟨groups.1, groups.2, m, n, hgroups, hm⟩

/-- What Go matches as a quantity is ASCII text. -/
theorem ascii_of_quantityPattern {s : String} {groups : List Char × List Char}
    (h : Go.quantityPattern s = some groups) : Ascii s := by
  rcases (matchDecimal_eq_some_iff _ _).mp h with ⟨n, htext, -⟩
  have hwhole := n.whole_digits
  rw [isDigits, Bool.and_eq_true, List.all_eq_true] at hwhole
  have hfraction := List.all_eq_true.mp n.fraction_digits
  intro c hc
  rw [← htext, Numeral.text, List.mem_append] at hc
  rcases hc with hc | hc
  · exact toNat_lt_of_isAsciiDigit (hwhole.2 c hc)
  · split at hc
    · cases hc
    · rcases List.mem_cons.mp hc with rfl | hc
      · decide
      · exact toNat_lt_of_isAsciiDigit (hfraction c hc)

/-- ASCII digits are scaled alike. -/
theorem scaledValue_points {groups : List Char × List Char}
    (h : ∀ c ∈ groups.1, isAsciiDigit c = true) (hfraction : groups.2.all isAsciiDigit = true)
    (hlength : groups.2.length ≤ 3) :
    scaledValue py (points groups.1, points groups.2) = Go.scaledQuantity groups := by
  have hmillis := (isDigits_thousandths hfraction hlength).1
  rw [isDigits, Bool.and_eq_true, List.all_eq_true] at hmillis
  rw [scaledValue, millis_points, decimalValue_points py h, decimalValue_points py hmillis.2,
    scaledQuantity_eq]

/-- It passes in Go if it is one of Python in ASCII. -/
theorem validateQuantity_python_iff (s : String) :
    Go.validateQuantity s = none ↔
      Ascii s ∧ ∃ groups, Python.decimalPattern py (Python.str s) = some groups ∧
        QuantityFits (scaledValue py groups) := by
  have hmax : Go.maxInt64Exact = 2 ^ 63 - 1 := rfl
  have hvalue : ∀ groups, Go.quantityPattern s = some groups →
      scaledValue py (points groups.1, points groups.2) = Go.scaledQuantity groups := by
    intro groups hgroups
    rcases matchDecimal_eq_some hgroups with ⟨-, hwhole, hlength, hfraction⟩
    exact scaledValue_points py (List.all_eq_true.mp hwhole) hfraction hlength
  rw [Go.validateQuantity_eq_none_iff, hmax]
  refine ⟨fun h => ?_, fun h => ?_⟩
  · rcases h with ⟨groups, hgroups, hrange⟩
    have hascii := ascii_of_quantityPattern hgroups
    refine ⟨hascii, (points groups.1, points groups.2), ?_, ?_⟩
    · rw [decimalPattern_str py hascii, hgroups]
      rfl
    · rw [hvalue groups hgroups]
      exact hrange
  · rcases h with ⟨hascii, groups, hgroups, hrange⟩
    rw [decimalPattern_str py hascii, Option.map_eq_some_iff] at hgroups
    rcases hgroups with ⟨chars, hchars, rfl⟩
    rw [hvalue chars hchars] at hrange
    exact ⟨chars, hchars, hrange⟩

/-! ## Agreement -/

/-- Wherever a text is a numeral in range, its digits are ASCII ones if and only if `int`
converts as many. -/
structure SpelledAlike (s : String) (allowZero : Bool) : Prop where
  quantity : ∀ groups, Python.decimalPattern py (Python.str s) = some groups →
    QuantityFits (scaledValue py groups) → (Ascii s ↔ py.withinDigits groups.1.length = true)
  integer : Python.integerPattern py (Python.str s) = true →
    AmountFits allowZero (decimalValue py.toInterpreter (Python.str s)) →
      (Ascii s ↔ py.withinDigits s.toList.length = true)

/-- A whole count in range is an exact amount in range. -/
theorem CountFits.amountFits {n : ℤ} (h : CountFits n) (allowZero : Bool) :
    AmountFits allowZero n := by
  rcases h with ⟨hpos, hle⟩
  exact ⟨by omega, fun hzero => absurd hzero (by omega)⟩

/-- Two checks that share a condition agree if what they want besides is the same under it. -/
theorem checks_alike_iff {short ascii fits : Prop} :
    (short ∧ fits ↔ ascii ∧ fits) ↔ (fits → (ascii ↔ short)) := by
  refine ⟨fun h hfits => ⟨fun hascii => ?_, fun hshort => ?_⟩, fun h => ⟨fun hread => ?_,
    fun hread => ?_⟩⟩
  · exact (h.mpr ⟨hascii, hfits⟩).1
  · exact (h.mp ⟨hshort, hfits⟩).1
  · exact ⟨(h hread.2).mpr hread.1, hread.2⟩
  · exact ⟨(h hread.2).mp hread.1, hread.2⟩

/-- Both check a quantity alike if, in range, it is ASCII just when `int` converts it. -/
theorem quantities_alike_iff (s : String) :
    (Python.checkQuantity py (text s) = .ok () ↔ Go.validateQuantity s = none) ↔
      ∀ groups, Python.decimalPattern py (Python.str s) = some groups →
        QuantityFits (scaledValue py groups) →
          (Ascii s ↔ py.withinDigits groups.1.length = true) := by
  rw [checkQuantity_text_iff, validateQuantity_python_iff py]
  cases Python.decimalPattern py (Python.str s) with
  | none =>
      refine iff_of_true (iff_of_false ?_ ?_) fun groups hgroups => nomatch hgroups
      · rintro ⟨groups, hgroups, -⟩
        cases hgroups
      · rintro ⟨-, groups, hgroups, -⟩
        cases hgroups
  | some groups =>
      simp only [Option.some.injEq, exists_eq_left', forall_eq']
      exact checks_alike_iff

/-- The same for an amount. -/
theorem amounts_alike_iff (s field goField : String) (allowZero : Bool) :
    (Python.checkInteger py (text s) field allowZero = .ok () ↔
        Go.validateExactInteger s goField allowZero = none) ↔
      (Python.integerPattern py (Python.str s) = true →
        AmountFits allowZero (decimalValue py.toInterpreter (Python.str s)) →
          (Ascii s ↔ py.withinDigits s.toList.length = true)) := by
  rw [checkInteger_text_iff, validateExactInteger_python_iff py, checks_alike_iff, and_imp]

/-- The same for a whole count. -/
theorem wholeCounts_alike_iff (s : String) :
    (Python.checkWholeCount py (text s) = .ok () ↔ Go.validateWholeCount s = none) ↔
      (Python.integerPattern py (Python.str s) = true →
        CountFits (decimalValue py.toInterpreter (Python.str s)) →
          (Ascii s ↔ py.withinDigits s.toList.length = true)) := by
  rw [checkWholeCount_text_iff, validateWholeCount_python_iff py, checks_alike_iff, and_imp]

/-- Both SDKs accept the same numerals if and only if these are spelled alike. -/
theorem outgoing_numerals_alike_iff (s field goField : String) (allowZero : Bool) :
    ((Python.checkQuantity py (text s) = .ok () ↔ Go.validateQuantity s = none) ∧
        (Python.checkWholeCount py (text s) = .ok () ↔ Go.validateWholeCount s = none) ∧
        (Python.checkInteger py (text s) field allowZero = .ok () ↔
          Go.validateExactInteger s goField allowZero = none)) ↔
      SpelledAlike py s allowZero := by
  rw [quantities_alike_iff, wholeCounts_alike_iff, amounts_alike_iff]
  refine ⟨fun h => ⟨h.1, h.2.2⟩, fun h => ⟨h.quantity, fun hpattern hfits => ?_, h.integer⟩⟩
  exact h.integer hpattern (hfits.amountFits allowZero)

end Numerals

/-- Python accepts an Arabic-Indic three in every place, Go in none. -/
theorem foreign_numerals_accepted :
    Python.checkQuantity arabicInterpreter (text "\u0663") = .ok () ∧
      Go.validateQuantity "\u0663" ≠ none ∧
      Python.checkWholeCount arabicInterpreter (text "\u0663") = .ok () ∧
      Go.validateWholeCount "\u0663" ≠ none ∧
      Python.checkInteger arabicInterpreter (text "\u0663") "amount_minor" false = .ok () ∧
      Go.validateExactInteger "\u0663" "amount minor" false ≠ none := by
  refine ⟨rfl, by decide, rfl, by decide, rfl, ?_⟩
  rw [Ne, Go.validateExactInteger_eq_none_iff, not_and_or]
  left
  decide

end MizanSDK.Agreement
