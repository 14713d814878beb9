import Mathlib.Algebra.Order.Archimedean.Basic
import Mathlib.Data.Int.Log
import Mathlib.Data.Rat.Floor
import Mathlib.Tactic

/-!
# Numbers as binary64 values

A decimal literal is read as the nearest binary64 value, ties to even, and a value is
written as the shortest decimal that reads back as it: a multiple of the greatest power
of ten that has such a multiple.  Magnitudes are rationals here; the sign of a number
takes no part, and overflow is left to the reader of a literal.

Main results:

- Theorem `nearest_eq_self`: a binary64 value is its own nearest one.
- Theorem `nearest_mono`: reading is monotone.
- Theorem `nearest_shortest`: what is written reads back.
- Theorem `nearest_lt_iff`: which magnitudes are read as finite values.
- Theorem `throughNat_of_lt`: integers below `2 ^ 53` survive reading and writing.
-/

namespace Binary64

/-! ## Rounding to integers -/

/-- The nearest integer, the even one of two. -/
def roundHalfEven (r : ℚ) : ℕ :=
  if r - ⌊r⌋₊ < 1 / 2 then ⌊r⌋₊
  else if 1 / 2 < r - ⌊r⌋₊ then ⌊r⌋₊ + 1
  else if ⌊r⌋₊ % 2 = 0 then ⌊r⌋₊ else ⌊r⌋₊ + 1

/-- Rounding does not go below the floor. -/
theorem floor_le_roundHalfEven (r : ℚ) : ⌊r⌋₊ ≤ roundHalfEven r := by
  unfold roundHalfEven
  split_ifs <;> omega

/-- It goes up by less than two. -/
theorem roundHalfEven_le_succ (r : ℚ) : roundHalfEven r ≤ ⌊r⌋₊ + 1 := by
  unfold roundHalfEven
  split_ifs <;> omega

/-- Natural numbers are not rounded. -/
@[simp] theorem roundHalfEven_natCast (n : ℕ) : roundHalfEven (n : ℚ) = n := by
  simp [roundHalfEven]

/-- Rounding keeps the order. -/
theorem roundHalfEven_mono {r s : ℚ} (h : r ≤ s) : roundHalfEven r ≤ roundHalfEven s := by
  have hfloor : ⌊r⌋₊ ≤ ⌊s⌋₊ := Nat.floor_mono h
  rcases Nat.lt_or_eq_of_le hfloor with hlt | heq
  · calc roundHalfEven r ≤ ⌊r⌋₊ + 1 := roundHalfEven_le_succ r
      _ ≤ ⌊s⌋₊ := hlt
      _ ≤ roundHalfEven s := floor_le_roundHalfEven s
  · -- Between two integers only the distance to the lower one counts.
    have hdistance : r - ⌊r⌋₊ ≤ s - ⌊s⌋₊ := by
      rw [heq]
      linarith
    unfold roundHalfEven
    rw [heq] at hdistance ⊢
    split_ifs <;> first | omega | linarith

/-- Rounding does not pass an integer. -/
theorem roundHalfEven_le {r : ℚ} {n : ℕ} (h : r ≤ n) : roundHalfEven r ≤ n := by
  have hmono := roundHalfEven_mono h
  rwa [roundHalfEven_natCast] at hmono

/-- Less than one half above an integer is rounded down. -/
theorem roundHalfEven_le_of_lt {r : ℚ} {n : ℕ} (hr : 0 ≤ r) (h : r < n + 1 / 2) :
    roundHalfEven r ≤ n := by
  have hfloor : ⌊r⌋₊ < n + 1 := by
    rw [Nat.floor_lt hr]
    push_cast
    linarith
  rcases Nat.lt_or_eq_of_le (Nat.le_of_lt_succ hfloor) with hlt | heq
  · calc roundHalfEven r ≤ ⌊r⌋₊ + 1 := roundHalfEven_le_succ r
      _ ≤ n := hlt
  · unfold roundHalfEven
    rw [heq, if_pos (by linarith)]

/-- It does not go below a natural number. -/
theorem le_roundHalfEven {r : ℚ} {n : ℕ} (h : n ≤ r) : n ≤ roundHalfEven r := by
  have hmono := roundHalfEven_mono h
  rwa [roundHalfEven_natCast] at hmono

/-! ## The nearest value -/

/-- The exponent of the unit in the last place. -/
def unitExponent (x : ℚ) : ℤ := max (Int.log 2 x - 52) (-1074)

/-- The binary64 value nearest to a magnitude, without a bound on its exponent. -/
def nearest (x : ℚ) : ℚ := roundHalfEven (x / 2 ^ unitExponent x) * 2 ^ unitExponent x

/-- A magnitude with a significand of 53 bits. -/
def Representable (x : ℚ) : Prop :=
  ∃ (m : ℕ) (e : ℤ), m < 2 ^ 53 ∧ -1074 ≤ e ∧ x = m * 2 ^ e

/-- Powers of two are positive. -/
theorem two_zpow_pos (e : ℤ) : (0 : ℚ) < 2 ^ e := zpow_pos (by norm_num) e

/-- The nearest value of a size is one. -/
theorem nearest_nonneg (x : ℚ) : 0 ≤ nearest x :=
  mul_nonneg (Nat.cast_nonneg _) (two_zpow_pos _).le

/-- Zero is kept. -/
@[simp] theorem nearest_zero : nearest 0 = 0 := by
  have hround : roundHalfEven 0 = 0 := roundHalfEven_natCast 0
  rw [nearest, zero_div, hround, Nat.cast_zero, zero_mul]

/-- A magnitude is less than `2 ^ 53` units. -/
theorem scaled_lt (x : ℚ) : x / 2 ^ unitExponent x < 2 ^ 53 := by
  rw [div_lt_iff₀ (two_zpow_pos _)]
  have hlog : x < 2 ^ (Int.log 2 x + 1) := by
    exact_mod_cast Int.lt_zpow_succ_log_self (b := 2) (by norm_num) x
  have hexponent : Int.log 2 x + 1 ≤ 53 + unitExponent x := by
    have hmax := le_max_left (Int.log 2 x - 52) (-1074)
    unfold unitExponent
    omega
  calc x < 2 ^ (Int.log 2 x + 1) := hlog
    _ ≤ 2 ^ (53 + unitExponent x) := zpow_le_zpow_right₀ (by norm_num) hexponent
    _ = 2 ^ 53 * 2 ^ unitExponent x := by
      rw [zpow_add₀ (by norm_num)]
      norm_num

/-- Unless the unit is the smallest one, it is at least `2 ^ 52` units. -/
theorem le_scaled {x : ℚ} (hx : 0 < x) (h : -1074 < unitExponent x) :
    2 ^ 52 ≤ x / 2 ^ unitExponent x := by
  have hexponent : Int.log 2 x = 52 + unitExponent x := by
    unfold unitExponent at h ⊢
    omega
  have hlog : (2 : ℚ) ^ Int.log 2 x ≤ x := by
    exact_mod_cast Int.zpow_log_le_self (b := 2) (by norm_num) hx
  rw [le_div_iff₀ (two_zpow_pos _)]
  calc (2 : ℚ) ^ 52 * 2 ^ unitExponent x = 2 ^ (52 + unitExponent x) := by
        rw [zpow_add₀ (by norm_num)]
        norm_num
    _ ≤ x := by rwa [← hexponent]

/-- A binary64 value is its own nearest one. -/
theorem nearest_eq_self {x : ℚ} (h : Representable x) : nearest x = x := by
  rcases h with ⟨m, e, hm, he, hx⟩
  rcases Nat.eq_zero_or_pos m with rfl | hpos
  · rw [hx, Nat.cast_zero, zero_mul, nearest_zero]
  · have hxpos : 0 < x := by
      rw [hx]
      exact mul_pos (by exact_mod_cast hpos) (two_zpow_pos e)
    have hbound : x < 2 ^ (53 + e) := by
      rw [hx, zpow_add₀ (by norm_num)]
      apply mul_lt_mul_of_pos_right _ (two_zpow_pos e)
      exact_mod_cast hm
    have hlog : Int.log 2 x < 53 + e :=
      (Int.lt_zpow_iff_log_lt (by norm_num) hxpos).mp (by exact_mod_cast hbound)
    have hunit : unitExponent x ≤ e := by
      unfold unitExponent
      omega
    unfold nearest
    generalize unitExponent x = u at hunit
    have hscaled : x / 2 ^ u = (m * 2 ^ (e - u).toNat : ℕ) := by
      rw [div_eq_iff (two_zpow_pos u).ne', hx]
      push_cast
      rw [mul_assoc, ← zpow_natCast, ← zpow_add₀ (by norm_num)]
      congr 2
      omega
    rw [hscaled, roundHalfEven_natCast, ← hscaled, div_mul_cancel₀ _ (two_zpow_pos u).ne']

/-- The nearest value has a significand of 53 bits. -/
theorem nearest_representable (x : ℚ) : Representable (nearest x) := by
  have hunit : -1074 ≤ unitExponent x := le_max_right _ _
  have hround : roundHalfEven (x / 2 ^ unitExponent x) ≤ 2 ^ 53 := by
    apply roundHalfEven_le
    exact_mod_cast (scaled_lt x).le
  rcases Nat.lt_or_eq_of_le hround with hlt | heq
  · exact ⟨_, _, hlt, hunit, rfl⟩
  · refine ⟨2 ^ 52, unitExponent x + 1, by norm_num, by omega, ?_⟩
    rw [nearest, heq, zpow_add₀ (by norm_num)]
    push_cast
    ring

/-- Reading is monotone. -/
theorem nearest_mono {x y : ℚ} (hx : 0 ≤ x) (h : x ≤ y) : nearest x ≤ nearest y := by
  rcases hx.eq_or_lt with rfl | hpos
  · rw [nearest_zero]
    exact nearest_nonneg y
  · have hunits : unitExponent x ≤ unitExponent y :=
      max_le_max (sub_le_sub_right (Int.log_mono_right hpos h) 52) le_rfl
    rcases hunits.eq_or_lt with heq | hlt
    · unfold nearest
      rw [heq]
      apply mul_le_mul_of_nonneg_right _ (two_zpow_pos _).le
      exact_mod_cast roundHalfEven_mono (div_le_div_of_nonneg_right h (two_zpow_pos _).le)
    · -- A greater unit belongs to a magnitude beyond all of the smaller one.
      have hsmall : roundHalfEven (x / 2 ^ unitExponent x) ≤ 2 ^ 53 := by
        apply roundHalfEven_le
        exact_mod_cast (scaled_lt x).le
      have hunit : -1074 < unitExponent y := lt_of_le_of_lt (le_max_right _ _) hlt
      have hlarge : 2 ^ 52 ≤ roundHalfEven (y / 2 ^ unitExponent y) := by
        apply le_roundHalfEven
        exact_mod_cast le_scaled (lt_of_lt_of_le hpos h) hunit
      calc nearest x ≤ 2 ^ 53 * 2 ^ unitExponent x := by
            apply mul_le_mul_of_nonneg_right _ (two_zpow_pos _).le
            exact_mod_cast hsmall
        _ = 2 ^ 52 * 2 ^ (unitExponent x + 1) := by
            rw [zpow_add₀ (by norm_num)]
            ring
        _ ≤ 2 ^ 52 * 2 ^ unitExponent y := by
            apply mul_le_mul_of_nonneg_left _ (by norm_num)
            exact zpow_le_zpow_right₀ (by norm_num) hlt
        _ ≤ nearest y := by
            apply mul_le_mul_of_nonneg_right _ (two_zpow_pos _).le
            exact_mod_cast hlarge

/-- An integer is read as an integer. -/
theorem exists_nearest_natCast (n : ℕ) : ∃ m : ℕ, nearest (n : ℚ) = m := by
  unfold nearest
  generalize unitExponent (n : ℚ) = u
  rcases le_or_gt 0 u with hu | hu
  · refine ⟨roundHalfEven (n / 2 ^ u) * 2 ^ u.toNat, ?_⟩
    push_cast
    rw [← zpow_natCast, Int.toNat_of_nonneg hu]
  · have hscaled : (n : ℚ) / 2 ^ u = (n * 2 ^ (-u).toNat : ℕ) := by
      push_cast
      rw [div_eq_mul_inv, ← zpow_neg, ← zpow_natCast, Int.toNat_of_nonneg (by omega)]
    refine ⟨n, ?_⟩
    rw [hscaled, roundHalfEven_natCast, ← hscaled, div_mul_cancel₀ _ (two_zpow_pos u).ne']

/-- The integers below `2 ^ 53` are binary64 values. -/
theorem nearest_natCast {n : ℕ} (h : n < 2 ^ 53) : nearest (n : ℚ) = n := by
  apply nearest_eq_self
  exact ⟨n, 0, h, by norm_num, by simp⟩

/-- The tie half a unit behind the greatest value is read as the next power of two. -/
theorem nearest_tie : nearest (2 ^ 1024 - 2 ^ 970) = 2 ^ 1024 := by
  decide +kernel

/-- The magnitudes that are read as finite values end half a unit behind the greatest one. -/
theorem nearest_lt_iff {x : ℚ} (hx : 0 ≤ x) :
    nearest x < 2 ^ 1024 ↔ x < 2 ^ 1024 - 2 ^ 970 := by
  have hpower : (2 : ℚ) ^ 1024 = 2 ^ 54 * 2 ^ 970 := pow_add 2 54 970
  have hzpow : ∀ n : ℕ, (2 : ℚ) ^ ((970 + n : ℕ) : ℤ) = 2 ^ n * 2 ^ 970 := by
    intro n
    rw [zpow_natCast, pow_add, mul_comm]
  have hc : (0 : ℚ) < 2 ^ 970 := pow_pos (by norm_num) 970
  have htie := nearest_tie
  -- Half a unit is the measure of everything below.
  generalize (2 : ℚ) ^ 970 = c at *
  generalize (2 : ℚ) ^ 1024 = greatest at *
  constructor
  · intro h
    by_contra hnot
    have hmono := nearest_mono (by linarith) (not_lt.mp hnot)
    rw [htie] at hmono
    exact absurd h (not_lt.mpr hmono)
  · intro h
    have hround : (roundHalfEven (x / 2 ^ unitExponent x) : ℚ) ≤ 2 ^ 53 := by
      have hle : roundHalfEven (x / 2 ^ unitExponent x) ≤ 2 ^ 53 := by
        apply roundHalfEven_le
        exact_mod_cast (scaled_lt x).le
      exact_mod_cast hle
    rcases lt_or_ge (unitExponent x) 971 with hunit | hunit
    · have hpow : (2 : ℚ) ^ unitExponent x ≤ 2 ^ ((970 + 0 : ℕ) : ℤ) :=
        zpow_le_zpow_right₀ (by norm_num) (by push_cast; omega)
      rw [hzpow] at hpow
      calc nearest x ≤ 2 ^ 53 * (2 ^ 0 * c) :=
            mul_le_mul hround hpow (two_zpow_pos _).le (by norm_num)
        _ < greatest := by linarith
    · have hpos : 0 < x := by
        rcases hx.eq_or_lt with rfl | hpos
        · have hzero : unitExponent 0 = -52 := by decide +kernel
          omega
        · exact hpos
      have hlow := le_scaled hpos (by omega)
      rw [le_div_iff₀ (two_zpow_pos _)] at hlow
      have hlast : unitExponent x = ((970 + 1 : ℕ) : ℤ) := by
        by_contra hne
        have hgreater : (2 : ℚ) ^ ((970 + 2 : ℕ) : ℤ) ≤ 2 ^ unitExponent x :=
          zpow_le_zpow_right₀ (by norm_num) (by push_cast at hne ⊢; omega)
        rw [hzpow] at hgreater
        linarith
      unfold nearest
      rw [hlast, hzpow]
      have hlargest : ((2 ^ 53 - 1 : ℕ) : ℚ) = 2 ^ 53 - 1 := by norm_num
      have hunits : x / (2 ^ 1 * c) < ((2 ^ 53 - 1 : ℕ) : ℚ) + 1 / 2 := by
        rw [hlargest, div_lt_iff₀ (by linarith)]
        linarith
      have hcast : (roundHalfEven (x / (2 ^ 1 * c)) : ℚ) ≤ 2 ^ 53 - 1 := by
        rw [← hlargest]
        exact_mod_cast roundHalfEven_le_of_lt (div_nonneg hx (by linarith)) hunits
      calc (roundHalfEven (x / (2 ^ 1 * c)) : ℚ) * (2 ^ 1 * c)
          ≤ (2 ^ 53 - 1) * (2 ^ 1 * c) := mul_le_mul_of_nonneg_right hcast (by linarith)
        _ < greatest := by linarith

/-! ## The shortest decimal -/

/-- The magnitude of a decimal, a significand and a power of ten. -/
def decimalValue (decimal : ℕ × ℤ) : ℚ := decimal.1 * 10 ^ decimal.2

/-- The multiple of a power of ten that reads back as a value: the nearest one if it does,
else the one on its other side. -/
def digitsAt (value : ℚ) (k : ℤ) : Option ℕ :=
  [roundHalfEven (value / 10 ^ k), ⌊value / 10 ^ k⌋₊, ⌈value / 10 ^ k⌉₊].find? fun digits =>
    nearest (decimalValue (digits, k)) = value

/-- The decimal expansion of a value, whose denominator is a power of two. -/
def exactDecimal (value : ℚ) : ℕ × ℤ :=
  (⌊value * 10 ^ Nat.log2 value.den⌋₊, -Nat.log2 value.den)

/-- The first power of ten, from `k` downwards, with a multiple that reads back. -/
def scan (value : ℚ) (k : ℤ) : ℕ → ℕ × ℤ
  | 0 => exactDecimal value
  | steps + 1 =>
      match digitsAt value k with
      | some digits => (digits, k)
      | none => scan value (k - 1) steps

/-- The shortest decimal of a value.  No power of ten beyond it has a multiple that reads
back, and the finest one that matters has the value itself. -/
def shortest (value : ℚ) : ℕ × ℤ :=
  scan value (Int.log 10 value + 1) (Int.log 10 value + 1 + Nat.log2 value.den).toNat

/-- The denominator of a binary64 value is a power of two. -/
theorem den_of_representable {x : ℚ} (h : Representable x) : x.den = 2 ^ Nat.log2 x.den := by
  rcases h with ⟨m, e, -, -, hx⟩
  have hdvd : x.den ∣ 2 ^ (-e).toNat := by
    rw [← Int.natCast_dvd_natCast]
    rcases le_or_gt 0 e with he | he
    · have hnat : x = (m * 2 ^ e.toNat : ℕ) := by
        rw [hx]
        push_cast
        rw [← zpow_natCast, Int.toNat_of_nonneg he]
      rw [hnat, Rat.den_natCast]
      exact one_dvd _
    · have hdiv : x = Rat.divInt m (2 ^ (-e).toNat : ℕ) := by
        rw [hx, Rat.divInt_eq_div]
        push_cast
        rw [div_eq_mul_inv, ← zpow_natCast, Int.toNat_of_nonneg (by omega), zpow_neg, inv_inv]
      rw [hdiv]
      exact Rat.den_dvd _ _
  rcases (Nat.dvd_prime_pow Nat.prime_two).mp hdvd with ⟨i, -, hi⟩
  rw [hi, Nat.log2_two_pow]

/-- The expansion denotes the value. -/
theorem decimalValue_exactDecimal {x : ℚ} (h : Representable x) :
    decimalValue (exactDecimal x) = x := by
  have hden := den_of_representable h
  have hnonneg : 0 ≤ x := by
    rcases h with ⟨m, e, -, -, hx⟩
    rw [hx]
    exact mul_nonneg (Nat.cast_nonneg m) (two_zpow_pos e).le
  have hwhole : x * 10 ^ Nat.log2 x.den = (x.num.toNat * 5 ^ Nat.log2 x.den : ℕ) := by
    have hnum : ((x.num.toNat : ℤ) : ℚ) = x.num :=
      congrArg _ (Int.toNat_of_nonneg (Rat.num_nonneg.mpr hnonneg))
    have hcast : ((x.den : ℕ) : ℚ) = 2 ^ Nat.log2 x.den := by
      nth_rewrite 1 [hden]
      push_cast
      rfl
    have hpower : (10 : ℚ) ^ Nat.log2 x.den = 5 ^ Nat.log2 x.den * 2 ^ Nat.log2 x.den := by
      rw [← mul_pow]
      norm_num
    push_cast at hnum ⊢
    rw [hnum, hpower, ← hcast]
    nth_rewrite 1 [← Rat.num_div_den x]
    field_simp
  unfold decimalValue exactDecimal
  rw [hwhole, Nat.floor_natCast, ← hwhole, zpow_neg, zpow_natCast,
    mul_inv_cancel_right₀ (pow_ne_zero _ (by norm_num))]

/-- What is scanned for reads back. -/
theorem nearest_scan {x : ℚ} (h : Representable x) (k : ℤ) (steps : ℕ) :
    nearest (decimalValue (scan x k steps)) = x := by
  induction steps generalizing k with
  | zero =>
      rw [scan, decimalValue_exactDecimal h]
      exact nearest_eq_self h
  | succ steps ih =>
      rw [scan]
      cases hdigits : digitsAt x k with
      | none => exact ih (k - 1)
      | some digits => simpa using List.find?_some hdigits

/-- What is written reads back. -/
theorem nearest_shortest {x : ℚ} (h : Representable x) :
    nearest (decimalValue (shortest x)) = x :=
  nearest_scan h _ _

/-- A scan that stops in time uses no finer power of ten than the expansion. -/
theorem le_scan_exponent {x : ℚ} {k : ℤ} {steps : ℕ} (h : -Nat.log2 x.den ≤ k - steps) :
    -Nat.log2 x.den ≤ (scan x k steps).2 := by
  induction steps generalizing k with
  | zero => exact le_rfl
  | succ steps ih =>
      rw [scan]
      push_cast at h
      cases digitsAt x k with
      | none => exact ih (by omega)
      | some digits =>
          change -(Nat.log2 x.den : ℤ) ≤ k
          omega

/-! ## Integers -/

/-- The shortest decimal of an integer is an integer. -/
theorem shortest_natCast_exponent (n : ℕ) : 0 ≤ (shortest (n : ℚ)).2 := by
  have hden : Nat.log2 (n : ℚ).den = 0 := by
    rw [Rat.den_natCast]
    decide
  have hlog : 0 ≤ Int.log 10 (n : ℚ) := by
    rw [Int.log_natCast]
    exact Int.natCast_nonneg _
  have hscan : -(Nat.log2 (n : ℚ).den : ℤ) ≤ (shortest (n : ℚ)).2 := by
    apply le_scan_exponent
    rw [hden]
    push_cast
    omega
  rw [hden] at hscan
  exact hscan

/-- What becomes of an integer that is read as a binary64 value and written again. -/
def throughNat (n : ℕ) : ℕ :=
  (shortest (nearest n)).1 * 10 ^ (shortest (nearest n)).2.toNat

/-- It is the decimal that is written. -/
theorem decimalValue_natCast (n : ℕ) :
    0 ≤ (shortest (nearest n)).2 ∧ decimalValue (shortest (nearest n)) = throughNat n := by
  rcases exists_nearest_natCast n with ⟨m, hm⟩
  have hexponent : 0 ≤ (shortest (nearest (n : ℚ))).2 := by
    rw [hm]
    exact shortest_natCast_exponent m
  refine ⟨hexponent, ?_⟩
  unfold decimalValue throughNat
  push_cast
  rw [← zpow_natCast, Int.toNat_of_nonneg hexponent]

/-- It is read as the same value. -/
theorem nearest_throughNat (n : ℕ) : nearest (throughNat n : ℚ) = nearest n := by
  rw [← (decimalValue_natCast n).2]
  exact nearest_shortest (nearest_representable n)

/-- Integers below `2 ^ 53` survive. -/
theorem throughNat_of_lt {n : ℕ} (h : n < 2 ^ 53) : throughNat n = n := by
  have hread := nearest_throughNat n
  rw [nearest_natCast h] at hread
  by_cases hsmall : throughNat n < 2 ^ 53
  · rw [nearest_natCast hsmall] at hread
    exact_mod_cast hread
  · -- What is written would be read as a value that is not below that power.
    have hpower : nearest ((2 ^ 53 : ℕ) : ℚ) = (2 ^ 53 : ℕ) := by
      apply nearest_eq_self
      exact ⟨2 ^ 52, 1, by norm_num, by norm_num, by norm_num⟩
    have hmono : nearest ((2 ^ 53 : ℕ) : ℚ) ≤ nearest (throughNat n : ℚ) :=
      nearest_mono (Nat.cast_nonneg _) (by exact_mod_cast not_lt.mp hsmall)
    rw [hpower, hread] at hmono
    have hge : 2 ^ 53 ≤ n := by exact_mod_cast hmono
    omega

end Binary64
