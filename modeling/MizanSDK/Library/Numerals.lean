import MizanSDK.Library.Decimal

/-!
# The values of numerals

What a numeral is worth, and which numeral is the one that is printed for its value.

Main results:

- Theorem `matchDecimal_eq_some_iff`: what is matched as digits with a point.
- Theorem `Numeral.scaled`: padding the digits behind the point scales the value.
- Theorem `toDigits_digitsValue`: digits without a leading zero are the digits of their value.
- Theorem `toList_toString`: how an integer is printed.
-/

namespace Decimal

/-! ## Positions -/

/-- Digits that were read before count by the power of ten of what follows. -/
theorem foldl_digits (digits : List Char) (n : ℕ) :
    digits.foldl (fun n c => 10 * n + (c.toNat - '0'.toNat)) n =
      n * 10 ^ digits.length + digitsValue digits := by
  induction digits generalizing n with
  | nil => simp [digitsValue]
  | cons c digits ih =>
      rw [digitsValue, List.foldl_cons, List.foldl_cons, ih, ih (10 * 0 + _), List.length_cons,
        pow_succ]
      ring

theorem digitsValue_append (front back : List Char) :
    digitsValue (front ++ back) = digitsValue front * 10 ^ back.length + digitsValue back := by
  rw [digitsValue, List.foldl_append]
  exact foldl_digits back (digitsValue front)

theorem digitsValue_singleton (c : Char) : digitsValue [c] = c.toNat - '0'.toNat := by
  rw [digitsValue, List.foldl_cons, List.foldl_nil, Nat.mul_zero, Nat.zero_add]

theorem digitsValue_zeros (count : ℕ) : digitsValue (List.replicate count '0') = 0 := by
  induction count with
  | zero => rfl
  | succ count ih => rw [List.replicate_succ', digitsValue_append, ih]; rfl

/-- Zeros behind digits multiply their value. -/
theorem digitsValue_pad (digits : List Char) (count : ℕ) :
    digitsValue (digits ++ List.replicate count '0') = digitsValue digits * 10 ^ count := by
  rw [digitsValue_append, digitsValue_zeros, List.length_replicate, Nat.add_zero]

/-! ## Digits with a point -/

/-- Digits, and at most `places` more behind a point. -/
structure Numeral (places : ℕ) where
  whole : List Char
  fraction : List Char
  whole_digits : isDigits whole = true
  fraction_digits : fraction.all isAsciiDigit = true
  fraction_length : fraction.length ≤ places

variable {places : ℕ}

/-- The spelling of a numeral. -/
def Numeral.text (n : Numeral places) : List Char :=
  n.whole ++ if n.fraction = [] then [] else '.' :: n.fraction

/-- The number it denotes. -/
def Numeral.value (n : Numeral places) : ℚ :=
  digitsValue n.whole + digitsValue n.fraction / 10 ^ n.fraction.length

/-- What is matched is the spelling of a numeral. -/
theorem matchDecimal_eq_some_iff (s : List Char) (groups : List Char × List Char) :
    matchDecimal isAsciiDigit '.' places s = some groups ↔
      ∃ n : Numeral places, n.text = s ∧ groups = (n.whole, n.fraction) := by
  have hpoint : isAsciiDigit '.' = false := by decide
  refine ⟨fun h => ?_, fun h => ?_⟩
  · have hgroups := matchDecimal_eq_some h
    have hdigits : isDigits groups.1 = true := by
      rw [isDigits, hgroups.2.1, Bool.and_true, Bool.not_eq_true', List.isEmpty_eq_false_iff]
      exact hgroups.1
    refine ⟨⟨groups.1, groups.2, hdigits, hgroups.2.2.2, hgroups.2.2.1⟩, ?_, rfl⟩
    have hsplit := List.takeWhile_append_dropWhile (p := isAsciiDigit) (l := s)
    unfold matchDecimal at h
    dsimp only at h
    split at h
    · cases h
    · split at h
      · rename_i hrest
        cases h
        rw [hrest] at hsplit
        exact hsplit
      · rename_i c fraction hrest
        split at h
        · rename_i hfraction
          cases h
          rw [hrest, hfraction.1] at hsplit
          rw [Numeral.text, if_neg hfraction.2.1]
          exact hsplit
        · cases h
  · rcases h with ⟨n, rfl, rfl⟩
    have hwhole := n.whole_digits
    rw [isDigits, Bool.and_eq_true, Bool.not_eq_true', List.isEmpty_eq_false_iff,
      List.all_eq_true] at hwhole
    unfold matchDecimal Numeral.text
    by_cases hfraction : n.fraction = []
    · rw [if_pos hfraction, List.append_nil, List.takeWhile_eq_self_iff.mpr hwhole.2,
        List.dropWhile_eq_nil_iff.mpr hwhole.2, hfraction]
      exact if_neg hwhole.1
    · have htake : (n.whole ++ '.' :: n.fraction).takeWhile isAsciiDigit = n.whole := by
        rw [List.takeWhile_append_of_pos hwhole.2, List.takeWhile_cons, hpoint]
        simp
      have hdrop : (n.whole ++ '.' :: n.fraction).dropWhile isAsciiDigit = '.' :: n.fraction := by
        rw [List.dropWhile_append_of_pos hwhole.2, List.dropWhile_cons, hpoint]
        simp
      rw [if_neg hfraction, htake, hdrop]
      dsimp only
      rw [if_neg hwhole.1, if_pos ⟨rfl, hfraction, n.fraction_length, n.fraction_digits⟩]

/-- With its fraction padded a numeral counts units of the last place. -/
theorem Numeral.scaled (n : Numeral places) :
    ((digitsValue n.whole * 10 ^ places +
        digitsValue (n.fraction ++ List.replicate (places - n.fraction.length) '0') : ℕ) : ℚ) =
      10 ^ places * n.value := by
  have hplaces : (10 : ℚ) ^ places =
      10 ^ n.fraction.length * 10 ^ (places - n.fraction.length) := by
    rw [← pow_add, Nat.add_sub_cancel' n.fraction_length]
  have hne : (10 : ℚ) ^ n.fraction.length ≠ 0 := pow_ne_zero _ (by norm_num)
  rw [digitsValue_pad, Numeral.value, mul_add]
  push_cast
  rw [hplaces]
  field_simp

/-! ## Printed numbers -/

/-- A digit is the character of its value. -/
theorem digitChar_of_isAsciiDigit {c : Char} (h : isAsciiDigit c = true) :
    (c.toNat - '0'.toNat).digitChar = c ∧ c.toNat - '0'.toNat < 10 := by
  rw [isAsciiDigit, Bool.and_eq_true, decide_eq_true_eq, decide_eq_true_eq] at h
  have hlow : '0'.toNat ≤ c.toNat := h.1
  have hhigh : c.toNat ≤ '9'.toNat := h.2
  have hchar : Char.ofNat c.toNat = c := Char.ofNat_toNat c
  have hzero : '0'.toNat = 48 := rfl
  have hnine : '9'.toNat = 57 := rfl
  rw [hzero] at hlow ⊢
  rw [hnine] at hhigh
  refine ⟨?_, by omega⟩
  rw [← hchar]
  generalize c.toNat = n at hlow hhigh
  interval_cases n <;> rfl

theorem digitsValue_toDigits (n : ℕ) : digitsValue (Nat.toDigits 10 n) = n :=
  Nat.ofDigitChars_ten_toDigits

theorem isDigits_toDigits (n : ℕ) : isDigits (Nat.toDigits 10 n) = true := by
  rw [isDigits, Bool.and_eq_true, Bool.not_eq_true', List.isEmpty_eq_false_iff, List.all_eq_true]
  refine ⟨Nat.toDigits_ne_nil, fun c hc => ?_⟩
  have hdigit := Nat.isDigit_of_mem_toDigits (by norm_num) (by norm_num) hc
  rw [Char.isDigit, Bool.and_eq_true, decide_eq_true_eq, decide_eq_true_eq] at hdigit
  rw [isAsciiDigit, Bool.and_eq_true, decide_eq_true_eq, decide_eq_true_eq]
  exact hdigit

/-- Digits that start with a zero only if it is all there is. -/
def NoLeadingZero (digits : List Char) : Prop := digits.head? = some '0' → digits = ['0']

/-- No number is printed with a leading zero. -/
theorem noLeadingZero_toDigits (n : ℕ) : NoLeadingZero (Nat.toDigits 10 n) := by
  induction n using Nat.strongRecOn with
  | ind n ih =>
      intro hhead
      by_cases hsmall : n < 10
      · rw [Nat.toDigits_of_lt_base hsmall] at hhead ⊢
        rw [List.head?_cons] at hhead
        rw [Option.some.inj hhead]
      · have hsplit := Nat.toDigits_of_base_le (by norm_num) (Nat.le_of_not_lt hsmall)
        rw [hsplit, List.head?_append_of_ne_nil _ Nat.toDigits_ne_nil] at hhead
        have hfront := congrArg digitsValue (ih (n / 10) (by omega) hhead)
        have hzero : digitsValue ['0'] = 0 := rfl
        rw [digitsValue_toDigits, hzero] at hfront
        omega

/-- Digits without a leading zero are the digits of their value. -/
theorem toDigits_digitsValue {digits : List Char} (h : isDigits digits = true)
    (hzero : NoLeadingZero digits) : Nat.toDigits 10 (digitsValue digits) = digits := by
  induction digits using List.reverseRecOn with
  | nil => cases h
  | append_singleton front c ih =>
      rw [isDigits, Bool.and_eq_true, List.all_append, Bool.and_eq_true] at h
      have hdigit : isAsciiDigit c = true := by
        rw [← h.2.2, List.all_cons, List.all_nil, Bool.and_true]
      rcases digitChar_of_isAsciiDigit hdigit with ⟨hchar, hsmall⟩
      by_cases hfront : front = []
      · rw [hfront, List.nil_append, digitsValue_singleton, Nat.toDigits_of_lt_base hsmall, hchar]
      · -- The digits before the last one are a shorter numeral, and not a zero.
        have hhead : front.head? ≠ some '0' := by
          intro hhead
          have hall := hzero (by rw [List.head?_append_of_ne_nil _ hfront, hhead])
          have hlength := congrArg List.length hall
          rw [List.length_append, List.length_singleton, List.length_singleton] at hlength
          exact hfront (List.eq_nil_of_length_eq_zero (by omega))
        have hdigits : isDigits front = true := by
          rw [isDigits, Bool.and_eq_true, Bool.not_eq_true', List.isEmpty_eq_false_iff]
          exact ⟨hfront, h.2.1⟩
        have hprefix := ih hdigits fun hzero => absurd hzero hhead
        have hpos : 0 < digitsValue front := by
          rw [Nat.pos_iff_ne_zero]
          intro hvalue
          rw [hvalue, Nat.toDigits_zero] at hprefix
          apply hhead
          rw [← hprefix, List.head?_cons]
        rw [digitsValue_append, List.length_singleton, pow_one, digitsValue_singleton, Nat.mul_comm,
          ← Nat.toDigits_append_toDigits (by norm_num) hpos hsmall, hprefix,
          Nat.toDigits_of_lt_base hsmall, hchar]

/-- The digits that are printed for some number. -/
theorem exists_toDigits_iff (digits : List Char) :
    (∃ n, Nat.toDigits 10 n = digits) ↔ isDigits digits = true ∧ NoLeadingZero digits := by
  refine ⟨fun h => ?_, fun h => ⟨digitsValue digits, toDigits_digitsValue h.1 h.2⟩⟩
  rcases h with ⟨n, rfl⟩
  exact ⟨isDigits_toDigits n, noLeadingZero_toDigits n⟩

/-- An integer is printed as the digits of its size, behind a sign if it is negative. -/
theorem toList_toString (n : ℤ) :
    (toString n).toList = (if n < 0 then ['-'] else []) ++ Nat.toDigits 10 n.natAbs := by
  cases n with
  | ofNat n =>
      have hprinted : toString (Int.ofNat n) = n.repr := rfl
      have hnonneg : ¬ Int.ofNat n < 0 := Int.not_lt.mpr (Int.natCast_nonneg n)
      rw [hprinted, Nat.toList_repr, if_neg hnonneg]
      rfl
  | negSucc n =>
      have hprinted : toString (Int.negSucc n) = "-" ++ (n + 1).repr := rfl
      rw [hprinted, String.toList_append, Nat.toList_repr, if_pos (Int.negSucc_lt_zero n)]
      rfl

end Decimal
