import Mathlib.Data.List.Basic
import Mathlib.Data.List.DropRight
import Mathlib.Tactic

/-!
# Decimal numerals

Numerals in base ten as lists of characters: the value of a run of ASCII
digits, and the reading of an optionally signed run.

Main results:

- Theorem `readSigned_of_isDigits`: a run of digits is read as its value.
- Theorem `pow_le_digitsValue`: a numeral with no leading zero is worth at least
  the power of ten of its length.
-/

namespace Decimal

/-- The ten ASCII digits. -/
def isAsciiDigit (c : Char) : Bool := '0' ≤ c && c ≤ '9'

/-- The value of a run of digits, most significant digit first. -/
def digitsValue (digits : List Char) : ℕ :=
  digits.foldl (fun n c => 10 * n + (c.toNat - '0'.toNat)) 0

/-- A non-empty run of ASCII digits. -/
def isDigits (s : List Char) : Bool := !s.isEmpty && s.all isAsciiDigit

/-- Split a numeral at its decimal point: a run of digits, and at most `places`
digits behind a point, if there is one. -/
def matchDecimal {α : Type*} [DecidableEq α] (isDigit : α → Bool) (point : α) (places : ℕ)
    (s : List α) : Option (List α × List α) :=
  let whole := s.takeWhile isDigit
  if whole = [] then none
  else match s.dropWhile isDigit with
    | [] => some (whole, [])
    | c :: fraction =>
        if c = point ∧ fraction ≠ [] ∧ fraction.length ≤ places ∧ fraction.all isDigit = true then
          some (whole, fraction)
        else none

section Match

variable {α β : Type*} [DecidableEq α] [DecidableEq β]

/-- The groups of a numeral are runs of digits, the second one within its bound. -/
theorem matchDecimal_eq_some {isDigit : α → Bool} {point : α} {places : ℕ} {s : List α}
    {groups : List α × List α} (h : matchDecimal isDigit point places s = some groups) :
    groups.1 ≠ [] ∧ groups.1.all isDigit = true ∧ groups.2.length ≤ places ∧
      groups.2.all isDigit = true := by
  unfold matchDecimal at h
  dsimp only at h
  have hwhole : (s.takeWhile isDigit).all isDigit = true :=
    List.all_eq_true.mpr fun c hc => List.mem_takeWhile_imp hc
  split at h
  · cases h
  · rename_i hne
    split at h
    · cases h
      exact ⟨hne, hwhole, Nat.zero_le _, rfl⟩
    · split at h
      · rename_i hfraction
        cases h
        exact ⟨hne, hwhole, hfraction.2.2.1, hfraction.2.2.2⟩
      · cases h

/-- A numeral whose characters were translated. -/
theorem matchDecimal_map {f : α → β} (hf : Function.Injective f) (isDigit : β → Bool) (point : α)
    (places : ℕ) (s : List α) :
    matchDecimal isDigit (f point) places (s.map f) =
      (matchDecimal (isDigit ∘ f) point places s).map fun groups =>
        (groups.1.map f, groups.2.map f) := by
  unfold matchDecimal
  dsimp only
  simp only [List.takeWhile_map, List.dropWhile_map, List.map_eq_nil_iff]
  split
  · rfl
  · cases s.dropWhile (isDigit ∘ f) with
    | nil => rfl
    | cons c fraction =>
        simp only [List.map_cons, hf.eq_iff, ne_eq, List.map_eq_nil_iff, List.length_map,
          List.all_map]
        split
        · rfl
        · rfl

/-- Only the characters of the numeral matter. -/
theorem matchDecimal_congr {p q : α → Bool} (point : α) (places : ℕ) {s : List α}
    (h : ∀ c ∈ s, p c = q c) : matchDecimal p point places s = matchDecimal q point places s := by
  have htake : s.takeWhile p = s.takeWhile q := by
    induction s with
    | nil => rfl
    | cons c s ih =>
        rw [List.forall_mem_cons] at h
        rw [List.takeWhile_cons, List.takeWhile_cons, h.1, ih h.2]
  have hdrop : s.dropWhile p = s.dropWhile q := by
    have hp := List.takeWhile_append_dropWhile (p := p) (l := s)
    have hq := List.takeWhile_append_dropWhile (p := q) (l := s)
    rw [htake] at hp
    exact List.append_cancel_left (hp.trans hq.symm)
  unfold matchDecimal
  dsimp only
  rw [htake, hdrop]
  split
  · rfl
  · cases hrest : s.dropWhile q with
    | nil => rfl
    | cons c fraction =>
        have hall : fraction.all p = fraction.all q := by
          rw [Bool.eq_iff_iff, List.all_eq_true, List.all_eq_true]
          refine forall₂_congr fun d hd => ?_
          have hmem : d ∈ s.dropWhile q := by
            rw [hrest]
            exact List.mem_cons_of_mem c hd
          rw [h d (List.dropWhile_subset q hmem)]
        dsimp only
        rw [hall]

end Match

/-- Read a run of digits with at most one leading sign. -/
def readSigned : List Char → Option ℤ
  | '-' :: digits => if isDigits digits then some (-(digitsValue digits : ℤ)) else none
  | '+' :: digits => if isDigits digits then some (digitsValue digits) else none
  | digits => if isDigits digits then some (digitsValue digits) else none

/-- A digit other than zero. -/
theorem isAsciiDigit_of_le {c : Char} (hlow : '1' ≤ c) (hhigh : c ≤ '9') :
    isAsciiDigit c = true := by
  have hzero : '0'.toNat ≤ '1'.toNat := by decide
  have hle : '0' ≤ c := Nat.le_trans hzero hlow
  simp [isAsciiDigit, hle, hhigh]

theorem toNat_lt_of_isAsciiDigit {c : Char} (h : isAsciiDigit c = true) : c.toNat < 128 := by
  rw [isAsciiDigit, Bool.and_eq_true, decide_eq_true_eq, decide_eq_true_eq] at h
  have hle : c.toNat ≤ '9'.toNat := h.2
  have hnine : '9'.toNat = 57 := rfl
  omega

/-- A run of digits without a sign is read as its value. -/
theorem readSigned_of_isDigits {digits : List Char} (h : isDigits digits = true) :
    readSigned digits = some (digitsValue digits : ℤ) := by
  unfold readSigned
  split
  · simp [isDigits, isAsciiDigit] at h
  · simp [isDigits, isAsciiDigit] at h
  · rw [if_pos h]

/-- Reading digits multiplies what was read before by a power of ten at least. -/
theorem mul_pow_le_foldl (digits : List Char) (n : ℕ) :
    n * 10 ^ digits.length ≤ digits.foldl (fun n c => 10 * n + (c.toNat - '0'.toNat)) n := by
  induction digits generalizing n with
  | nil => simp
  | cons c digits ih =>
      rw [List.length_cons, List.foldl_cons]
      calc n * 10 ^ (digits.length + 1) = (10 * n) * 10 ^ digits.length := by ring
        _ ≤ (10 * n + (c.toNat - '0'.toNat)) * 10 ^ digits.length :=
            Nat.mul_le_mul_right _ (Nat.le_add_right _ _)
        _ ≤ _ := ih _

/-- A numeral with no leading zero is worth a power of ten of its length at
least. -/
theorem pow_le_digitsValue {c : Char} (hc : '1' ≤ c) (digits : List Char) :
    10 ^ digits.length ≤ digitsValue (c :: digits) := by
  have hpos : 1 ≤ 10 * 0 + (c.toNat - '0'.toNat) := by
    have hle : '1'.toNat ≤ c.toNat := hc
    have hone : '1'.toNat = 49 := rfl
    have hzero : '0'.toNat = 48 := rfl
    omega
  calc 10 ^ digits.length = 1 * 10 ^ digits.length := (Nat.one_mul _).symm
    _ ≤ (10 * 0 + (c.toNat - '0'.toNat)) * 10 ^ digits.length := Nat.mul_le_mul_right _ hpos
    _ ≤ digitsValue (c :: digits) := mul_pow_le_foldl digits _

end Decimal
