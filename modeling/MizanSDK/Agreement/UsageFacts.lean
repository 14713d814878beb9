import Mathlib.Data.Bool.AllAny
import MizanSDK.Agreement.Amounts
import MizanSDK.Go.Usage
import MizanSDK.Library.Trim
import MizanSDK.Python.Builders

/-!
# Usage facts in both SDKs

Lengths, numerals and trimmed texts, checked by Go on the bytes of a
string and by Python on its code points.  On ASCII text the two checks agree up to
two things: `str.strip` removes the information separators that
`strings.TrimSpace` leaves, and `int` refuses numerals beyond a number of digits.

Main results:

- Theorems `checkInteger_iff`, `checkWholeCount_iff` and `checkQuantity_iff`: a
  numeral passes in Python when it passes in Go and is short enough for `int`.
- Theorem `strip_trimSpace`: Python trims what Go has trimmed to the same text.
-/

namespace MizanSDK.Agreement

open JsonText Decimal Trim Checks

/-! ## ASCII strings -/

/-- A string of ASCII characters. -/
def Ascii (s : String) : Prop := ∀ c ∈ s.toList, c.toNat < 128

instance (s : String) : Decidable (Ascii s) := List.decidableBAll _ _

theorem utf8ByteSize_ofList {chars : List Char} (h : ∀ c ∈ chars, c.toNat < 128) :
    (String.ofList chars).utf8ByteSize = chars.length := by
  induction chars with
  | nil => rfl
  | cons c chars ih =>
      rw [List.forall_mem_cons] at h
      have hsize : c.utf8Size = 1 := by
        have hle : c.toNat ≤ 127 := Nat.le_of_lt_succ h.1
        exact Char.utf8Size_eq_one_iff.mpr hle
      rw [String.ofList_cons, String.utf8ByteSize_append, ih h.2, String.utf8ByteSize_singleton,
        hsize, List.length_cons, Nat.add_comm]

/-- A string has a byte for every character at least. -/
theorem length_le_utf8ByteSize (chars : List Char) :
    chars.length ≤ (String.ofList chars).utf8ByteSize := by
  induction chars with
  | nil => exact Nat.zero_le _
  | cons c chars ih =>
      have hpos : 0 < c.utf8Size := c.utf8Size_pos
      rw [String.ofList_cons, String.utf8ByteSize_append, String.utf8ByteSize_singleton,
        List.length_cons]
      omega

/-- An ASCII string has as many bytes as characters. -/
theorem utf8ByteSize_of_ascii {s : String} (h : Ascii s) :
    s.utf8ByteSize = s.toList.length := by
  have hsize := utf8ByteSize_ofList h
  rwa [String.ofList_toList] at hsize

/-- Its Python form has as many code points. -/
theorem length_str (s : String) : (Python.str s).length = s.toList.length := by
  simp [Python.str, Text.ofString]

theorem length_str_of_ascii {s : String} (h : Ascii s) :
    (Python.str s).length = s.utf8ByteSize := by
  rw [utf8ByteSize_of_ascii h, length_str]

/-- A `str` argument. -/
def text (s : String) : Python.PyValue := .str (Python.str s)

/-! ## Trimmed texts -/

/-- The spaces of `str.strip` among the characters. -/
def pySpace (c : Char) : Bool := Python.isSpace (.scalar c)

/-- Python's spaces are those of Go and the information separators. -/
theorem pySpace_of_isSpace (c : Char) (h : Go.isSpace c = true) : pySpace c = true := by
  simp only [Go.isSpace, pySpace, Python.isSpace, Bool.or_eq_true, Bool.and_eq_true,
    decide_eq_true_eq, beq_iff_eq] at h ⊢
  omega

theorem strip_str (s : String) :
    Python.strip (Python.str s) = points (trim pySpace s.toList) :=
  trim_map Python.isSpace CodePoint.scalar s.toList

theorem toList_trimSpace (s : String) : (Go.trimSpace s).toList = trim Go.isSpace s.toList :=
  String.toList_ofList

/-- Python trims what Go has trimmed to the same text. -/
theorem strip_trimSpace (s : String) :
    Python.strip (Python.str (Go.trimSpace s)) = Python.strip (Python.str s) := by
  rw [strip_str, strip_str, toList_trimSpace, trim_trim pySpace_of_isSpace]

/-- Python leaves no more characters than Go leaves bytes. -/
theorem length_strip_le (s : String) :
    (Python.strip (Python.str s)).length ≤ (Go.trimSpace s).utf8ByteSize := by
  have hbytes := length_le_utf8ByteSize (trim Go.isSpace s.toList)
  have hleft := length_trim_mono pySpace_of_isSpace s.toList
  rw [strip_str, points, List.length_map]
  exact hleft.trans hbytes

/-- What is blank in Go is blank in Python. -/
theorem strip_eq_nil_of_trimSpace {s : String} (h : Go.trimSpace s = "") :
    Python.strip (Python.str s) = [] := by
  rw [← strip_trimSpace, h]
  rfl

theorem ascii_trimSpace {s : String} (h : Ascii s) : Ascii (Go.trimSpace s) := by
  intro c hc
  rw [toList_trimSpace] at hc
  exact h c (mem_of_mem_trim hc)

/-! ## Numerals -/

section Numerals

variable (py : Python.BuilderInterpreter)

/-- The digits `int` reads are the ASCII ones on ASCII characters. -/
theorem isDecimal_scalar {c : Char} (h : c.toNat < 128) :
    Python.isDecimal py (.scalar c) = isAsciiDigit c := by
  rw [Python.isDecimal, Python.Interpreter.digit]
  cases hdigit : isAsciiDigit c with
  | true => rw [py.decimal_ascii c hdigit, Option.isSome_some]
  | false =>
      cases hdecimal : py.decimal c with
      | none => rfl
      | some d =>
          have hknown := py.isDigit_of_decimal c d hdecimal
          rw [py.isDigit_ascii c h, hdigit] at hknown
          cases hknown

variable {digits : List Char}

theorem integerPattern_points (h : ∀ c ∈ digits, c.toNat < 128) :
    Python.integerPattern py (points digits) = isDigits digits := by
  unfold Python.integerPattern isDigits points
  rw [List.all_map, List.isEmpty_map]
  congr 1
  rw [Bool.eq_iff_iff, List.all_eq_true, List.all_eq_true]
  refine forall₂_congr fun c hc => ?_
  rw [Function.comp_apply, isDecimal_scalar py (h c hc)]

/-- A run of digits is read as its value, if `int` converts numerals of its length. -/
theorem int_digits_eq_ok_iff (h : isDigits digits = true) (n : ℤ) :
    py.int (points digits) = .ok n ↔
      py.withinDigits digits.length = true ∧ n = digitsValue digits := by
  rw [isDigits, Bool.and_eq_true, List.all_eq_true] at h
  have hhead : digits.head? ≠ some '-' := by
    intro hfirst
    exact absurd (h.2 '-' (List.mem_of_mem_head? hfirst)) (by decide)
  have hunsigned := (unsignedChars_of_head hhead).1
  unfold Python.Interpreter.int
  rw [withoutMinus_points, hunsigned, mapM_digit_points _ h.2]
  cases hdigits : digits with
  | nil => simp [hdigits] at h
  | cons c rest =>
      have hminus : (c == '-') = false := by
        have hdigit := h.2 c (by rw [hdigits]; exact List.mem_cons_self)
        cases hc : c == '-' with
        | false => rfl
        | true =>
            rw [beq_iff_eq.mp hc] at hdigit
            exact absurd hdigit (by decide)
      simp only [List.map_cons, List.length_cons, List.length_map, startsWithMinus_points,
        List.head?_cons, Option.some_beq_some, hminus, signed, digitsValue, List.foldl_cons,
        List.foldl_map, Bool.false_eq_true, if_false]
      split
      · rename_i hwithin
        simp [hwithin, eq_comm]
      · rename_i hwithin
        simp [hwithin]

/-- `int` converts numerals of the length of a string. -/
def FitsInt (s : String) : Prop := py.withinDigits s.toList.length = true

variable {s : String}

/-- An integer fact passes in Python when it does in Go and is short enough. -/
theorem checkInteger_iff (h : Ascii s) (field goField : String) (allowZero : Bool) :
    Python.checkInteger py (text s) field allowZero = .ok () ↔
      Go.validateExactInteger s goField allowZero = none ∧ FitsInt py s := by
  rw [Python.checkInteger_eq_ok_iff, Go.validateExactInteger_eq_none_iff, Go.integerPattern,
    FitsInt]
  have hpattern : Python.integerPattern py (Python.str s) = isDigits s.toList :=
    integerPattern_points py h
  constructor
  · rintro ⟨t, n, ht, hdigits, hint, hle, hzero⟩
    cases ht
    rw [hpattern] at hdigits
    rcases (int_digits_eq_ok_iff py hdigits n).mp hint with ⟨hwithin, rfl⟩
    have hmax : Python.maxInt64 = (Go.maxInt64Exact : ℤ) := rfl
    rw [hmax] at hle
    refine ⟨⟨hdigits, by omega, ?_⟩, hwithin⟩
    rcases Nat.eq_zero_or_pos (digitsValue s.toList) with hvalue | hvalue
    · exact .inl (hzero (by omega))
    · exact .inr hvalue
  · rintro ⟨⟨hdigits, hle, hzero⟩, hwithin⟩
    have hmax : Python.maxInt64 = (Go.maxInt64Exact : ℤ) := rfl
    refine ⟨_, digitsValue s.toList, rfl, hpattern.trans hdigits,
      (int_digits_eq_ok_iff py hdigits _).mpr ⟨hwithin, rfl⟩, by omega, fun hvalue => ?_⟩
    rcases hzero with hzero | hzero
    · exact hzero
    · omega

/-- A whole count passes in Python when it does in Go and is short enough. -/
theorem checkWholeCount_iff (h : Ascii s) :
    Python.checkWholeCount py (text s) = .ok () ↔
      Go.validateWholeCount s = none ∧ FitsInt py s := by
  rw [Python.checkWholeCount_eq_ok_iff, Go.validateWholeCount_eq_none_iff, Go.integerPattern,
    FitsInt]
  have hpattern : Python.integerPattern py (Python.str s) = isDigits s.toList :=
    integerPattern_points py h
  have hmax : Python.maxInt64 / 1000 = ((Go.maxInt64Exact / 1000 : ℕ) : ℤ) := rfl
  rw [hmax]
  constructor
  · rintro ⟨t, n, ht, hdigits, hint, hpos, hle⟩
    cases ht
    rw [hpattern] at hdigits
    rcases (int_digits_eq_ok_iff py hdigits n).mp hint with ⟨hwithin, rfl⟩
    exact ⟨⟨hdigits, by omega, by omega⟩, hwithin⟩
  · rintro ⟨⟨hdigits, hpos, hle⟩, hwithin⟩
    exact ⟨_, digitsValue s.toList, rfl, hpattern.trans hdigits,
      (int_digits_eq_ok_iff py hdigits _).mpr ⟨hwithin, rfl⟩, by omega, by omega⟩

/-- A few digits are always converted. -/
theorem withinDigits_of_le {count : ℕ} (h : count ≤ 640) : py.withinDigits count = true := by
  rw [Python.Interpreter.withinDigits, Bool.or_eq_true, beq_iff_eq, decide_eq_true_eq]
  rcases py.maxStrDigits_threshold with hzero | hlimit
  · exact .inl hzero
  · exact .inr (by omega)

/-- `int` converts the whole part of a decimal numeral. -/
def FitsWhole (s : String) : Prop :=
  ∀ groups, Go.quantityPattern s = some groups → py.withinDigits groups.1.length = true

/-- The groups of a decimal numeral are the same in both SDKs. -/
theorem decimalPattern_str (h : Ascii s) :
    Python.decimalPattern py (Python.str s) =
      (Go.quantityPattern s).map fun groups => (points groups.1, points groups.2) := by
  have hinjective : Function.Injective CodePoint.scalar := fun _ _ => CodePoint.scalar.inj
  have hmap := matchDecimal_map hinjective (Python.isDecimal py) '.' 3 s.toList
  have hdigit : ∀ c ∈ s.toList, (Python.isDecimal py ∘ CodePoint.scalar) c = isAsciiDigit c :=
    fun c hc => isDecimal_scalar py (h c hc)
  rw [matchDecimal_congr '.' 3 hdigit] at hmap
  exact hmap

/-- The fraction of a decimal numeral in thousandths. -/
def thousandths (fraction : List Char) : List Char :=
  fraction ++ List.replicate (3 - fraction.length) '0'

theorem millis_points (fraction : List Char) :
    Python.millis (points fraction) = points (thousandths fraction) := by
  simp [Python.millis, points, thousandths]

/-- Both SDKs scale a numeral alike. -/
theorem scaledQuantity_eq (groups : List Char × List Char) :
    Go.scaledQuantity groups =
      digitsValue groups.1 * 1000 + digitsValue (thousandths groups.2) := by
  rw [Go.scaledQuantity]
  split
  · rename_i hempty
    rw [hempty]
    rfl
  · rfl

theorem isDigits_thousandths {fraction : List Char} (h : fraction.all isAsciiDigit = true)
    (hlength : fraction.length ≤ 3) :
    isDigits (thousandths fraction) = true ∧ (thousandths fraction).length = 3 := by
  have hthree : (thousandths fraction).length = 3 := by
    rw [thousandths, List.length_append, List.length_replicate]
    omega
  refine ⟨?_, hthree⟩
  rw [isDigits, Bool.and_eq_true, Bool.not_eq_true', List.isEmpty_eq_false_iff]
  refine ⟨List.ne_nil_of_length_pos (by omega), ?_⟩
  rw [thousandths, List.all_append, h, List.all_replicate]
  simp [isAsciiDigit]

/-- A quantity passes in Python when it does in Go and is short enough. -/
theorem checkQuantity_iff (h : Ascii s) :
    Python.checkQuantity py (text s) = .ok () ↔
      Go.validateQuantity s = none ∧ FitsWhole py s := by
  have hmax : Python.maxInt64 = (Go.maxInt64Exact : ℤ) := rfl
  rw [Python.checkQuantity_eq_ok_iff, Go.validateQuantity_eq_none_iff, FitsWhole]
  change (∃ whole fraction m n, Python.decimalPattern py (Python.str s) = some (whole, fraction) ∧
    _) ↔ _
  rw [decimalPattern_str py h]
  cases hgroups : Go.quantityPattern s with
  | none => simp
  | some groups =>
      rcases matchDecimal_eq_some hgroups with ⟨hne, hwhole, hlength, hfraction⟩
      have hdigits : isDigits groups.1 = true := by
        rw [isDigits, hwhole, Bool.and_true, Bool.not_eq_true', List.isEmpty_eq_false_iff]
        exact hne
      rcases isDigits_thousandths hfraction hlength with ⟨hmillis, hthree⟩
      have hwithin : py.withinDigits (thousandths groups.2).length = true :=
        withinDigits_of_le py (by omega)
      simp only [Option.map_some, Option.some.injEq, Prod.mk.injEq, forall_eq', exists_eq_left',
        scaledQuantity_eq, hmax]
      constructor
      · rintro ⟨_, _, m, n, ⟨rfl, rfl⟩, hm, hn, hpos, hle⟩
        rw [millis_points] at hn
        rcases (int_digits_eq_ok_iff py hdigits m).mp hm with ⟨hshort, rfl⟩
        rcases (int_digits_eq_ok_iff py hmillis n).mp hn with ⟨-, rfl⟩
        exact ⟨⟨by omega, by omega⟩, hshort⟩
      · rintro ⟨⟨hpos, hle⟩, hshort⟩
        refine ⟨_, _, digitsValue groups.1, digitsValue (thousandths groups.2), ⟨rfl, rfl⟩,
          (int_digits_eq_ok_iff py hdigits _).mpr ⟨hshort, rfl⟩, ?_, by omega, by omega⟩
        rw [millis_points]
        exact (int_digits_eq_ok_iff py hmillis _).mpr ⟨hwithin, rfl⟩

end Numerals

end MizanSDK.Agreement
