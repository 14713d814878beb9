import MizanSDK.Go.Usage
import MizanSDK.Library.Numerals

/-!
# Quantities in thousandths

A quantity is validated by its value in thousandths, a whole count by its own value.

Main results:

- Theorem `validateQuantity_eq_none_iff_value`: the quantities that pass, by the rational
  number they denote.
- Theorem `quantities_exact`: and the whole counts are those among them without a point.
-/

namespace MizanSDK.Go

open Decimal

/-- The scaled quantity is a thousand times the number that is written. -/
theorem cast_scaledQuantity (n : Numeral 3) :
    (scaledQuantity (n.whole, n.fraction) : ℚ) = 1000 * n.value := by
  have hscaled : scaledQuantity (n.whole, n.fraction) = digitsValue n.whole * 10 ^ 3 +
      digitsValue (n.fraction ++ List.replicate (3 - n.fraction.length) '0') := by
    unfold scaledQuantity
    dsimp only
    split
    · rename_i hempty
      rw [hempty]
      rfl
    · rfl
  rw [hscaled, n.scaled]
  norm_num

theorem validateQuantity_eq_none_iff_value (s : ExactAmount) :
    validateQuantity s = none ↔
      ∃ n : Numeral 3, n.text = s.toList ∧ 0 < 1000 * n.value ∧ 1000 * n.value ≤ 2 ^ 63 - 1 := by
  have hbound : (2 ^ 63 - 1 : ℚ) = (maxInt64Exact : ℕ) := by norm_num [maxInt64Exact]
  rw [validateQuantity_eq_none_iff, hbound]
  refine ⟨fun h => ?_, fun h => ?_⟩
  · rcases h with ⟨groups, hgroups, hpos, hle⟩
    rcases (matchDecimal_eq_some_iff _ _).mp hgroups with ⟨n, htext, rfl⟩
    refine ⟨n, htext, ?_⟩
    rw [← cast_scaledQuantity]
    exact ⟨Nat.cast_pos.mpr hpos, Nat.cast_le.mpr hle⟩
  · rcases h with ⟨n, htext, hpos, hle⟩
    rw [← cast_scaledQuantity] at hpos hle
    refine ⟨(n.whole, n.fraction), ?_, Nat.cast_pos.mp hpos, Nat.cast_le.mp hle⟩
    exact (matchDecimal_eq_some_iff _ _).mpr ⟨n, htext, rfl⟩

/-- A run of digits is matched as the whole of a quantity. -/
theorem quantityPattern_of_digits {s : ExactAmount} (h : s.toList.all isAsciiDigit = true) :
    quantityPattern s = if s.toList = [] then none else some (s.toList, []) := by
  have hall := List.all_eq_true.mp h
  rw [quantityPattern, matchDecimal, List.takeWhile_eq_self_iff.mpr hall,
    List.dropWhile_eq_nil_iff.mpr hall]

/-- A quantity passes if it is written with at most three digits behind a point and fits
`int64` in thousandths, and a run of digits passes as a whole count if it does as a quantity. -/
theorem quantities_exact (s : ExactAmount) :
    (validateQuantity s = none ↔
      ∃ n : Numeral 3, n.text = s.toList ∧ 0 < 1000 * n.value ∧ 1000 * n.value ≤ 2 ^ 63 - 1) ∧
      (s.toList.all isAsciiDigit = true →
        (validateWholeCount s = none ↔ validateQuantity s = none)) := by
  refine ⟨validateQuantity_eq_none_iff_value s, fun h => ?_⟩
  rw [validateWholeCount_eq_none_iff, validateQuantity_eq_none_iff, quantityPattern_of_digits h,
    integerPattern, isDigits, h, Bool.and_true]
  by_cases hempty : s.toList = []
  · simp [hempty]
  · rw [if_neg hempty]
    have hnonempty : (!s.toList.isEmpty) = true := by
      rw [Bool.not_eq_true', List.isEmpty_eq_false_iff]
      exact hempty
    have hscaled : scaledQuantity (s.toList, []) = digitsValue s.toList * 1000 := by
      rw [scaledQuantity, if_pos rfl, Nat.add_zero]
    have hmax : maxInt64Exact = 9223372036854775807 := rfl
    refine ⟨fun hcount => ⟨_, rfl, ?_⟩, fun hquantity => ⟨hnonempty, ?_⟩⟩
    · rw [hscaled]
      omega
    · rcases hquantity with ⟨groups, hgroups, hpos, hle⟩
      rw [← Option.some.inj hgroups, hscaled] at hpos hle
      omega

/-- The largest whole count passes as a quantity. -/
theorem largest_count_exact :
    validateWholeCount "9223372036854775" = none ↔ validateQuantity "9223372036854775" = none :=
  (quantities_exact "9223372036854775").2 (by decide)

end MizanSDK.Go
