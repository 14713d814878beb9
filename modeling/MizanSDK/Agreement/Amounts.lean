import MizanSDK.Go.Webhooks
import MizanSDK.Python.Webhooks

/-!
# Exact amounts in both receivers

Both receivers want the canonical decimal numeral of a signed 64-bit integer.
Go recognises it by bytes, Python by the Unicode tables of `str.isdigit` and
`int`, so the two agree on ASCII text and differ beyond.

Main results:

- Theorem `postingAmount_eq_some_iff`: Go reads the amounts that Python reads and
  that are written in ASCII.
- Theorem `isUnsignedExactAmount_iff`: the same for the amounts of notifications.
-/

namespace MizanSDK.Agreement

open JsonText Decimal Go Python

/-! ## ASCII text -/

/-- Text that consists of ASCII characters. -/
def isAscii (t : Text) : Bool :=
  t.all fun
    | .scalar c => decide (c.toNat < 128)
    | .surrogate _ => false

/-- The code points of characters. -/
def points (chars : List Char) : Text := chars.map .scalar

theorem toScalars_points (chars : List Char) :
    (points chars).toScalars = String.ofList chars := by
  simp [points, Text.toScalars, CodePoint.toScalar, Function.comp_def]

/-- ASCII text consists of ASCII characters. -/
theorem exists_points_of_isAscii {t : Text} (h : isAscii t = true) :
    ∃ chars, t = points chars ∧ ∀ c ∈ chars, c.toNat < 128 := by
  induction t with
  | nil => exact ⟨[], rfl, by simp⟩
  | cons p t ih =>
      rw [isAscii, List.all_cons, Bool.and_eq_true] at h
      obtain ⟨chars, rfl, hchars⟩ := ih h.2
      cases p with
      | scalar c =>
          exact ⟨c :: chars, rfl, List.forall_mem_cons.mpr ⟨by simpa using h.1, hchars⟩⟩
      | surrogate i => simp at h

/-- Text whose replacement is ASCII has nothing that needs replacing. -/
theorem isAscii_of_toScalars {t : Text} (h : ∀ c ∈ t.toScalars.toList, c.toNat < 128) :
    isAscii t = true := by
  rw [isAscii, List.all_eq_true]
  intro p hp
  have hmem : p.toScalar ∈ t.toScalars.toList := by
    rw [Text.toScalars, String.toList_ofList]
    exact List.mem_map_of_mem hp
  have hsmall := h _ hmem
  cases p with
  | scalar c => simpa [CodePoint.toScalar] using hsmall
  | surrogate i =>
      have hreplaced : ¬ '\uFFFD'.toNat < 128 := by decide
      exact absurd hsmall hreplaced

/-! ## Numerals -/

/-- The characters of a numeral after its minus sign, if it has one. -/
def unsignedChars : List Char → List Char
  | '-' :: digits => digits
  | digits => digits

/-- The value of a numeral. -/
def numeralValue (chars : List Char) : ℤ :=
  signed (chars.head? == some '-') (digitsValue (unsignedChars chars))

/-- Without a minus sign a numeral is worth its digits. -/
theorem unsignedChars_of_head {chars : List Char} (h : chars.head? ≠ some '-') :
    unsignedChars chars = chars ∧ numeralValue chars = digitsValue chars := by
  have hsame : unsignedChars chars = chars := by
    unfold unsignedChars
    split
    · exact absurd rfl h
    · rfl
  have hplain : (chars.head? == some '-') = false := by
    rw [beq_eq_false_iff_ne]
    exact h
  refine ⟨hsame, ?_⟩
  rw [numeralValue, hsame, hplain]
  rfl

theorem isCanonicalInteger_eq (chars : List Char) :
    isCanonicalInteger chars = isUnsignedCanonicalInteger (unsignedChars chars) := by
  fun_cases unsignedChars chars with
  | case1 digits => rfl
  | case2 _ hminus =>
      unfold isCanonicalInteger
      split
      · exact absurd rfl (hminus _)
      · rfl

/-- A canonical numeral is a run of digits. -/
theorem isDigits_of_canonical {digits : List Char}
    (h : isUnsignedCanonicalInteger digits = true) : isDigits digits = true := by
  unfold isUnsignedCanonicalInteger at h
  split at h
  · simp at h
  · rename_i first rest
    rw [Bool.or_eq_true, beq_iff_eq] at h
    rcases h with hzero | h
    · rw [hzero]
      decide
    · simp only [Bool.and_eq_true, decide_eq_true_eq] at h
      simp [isDigits, isAsciiDigit_of_le h.1.1 h.1.2, h.2]

/-- A canonical numeral is read as its value. -/
theorem readSigned_of_canonical {chars : List Char} (h : isCanonicalInteger chars = true) :
    readSigned chars = some (numeralValue chars) := by
  rw [isCanonicalInteger_eq] at h
  have hdigits := isDigits_of_canonical h
  unfold readSigned
  split
  · rename_i digits
    simp only [unsignedChars] at hdigits
    simp [hdigits, numeralValue, unsignedChars, signed]
  · rename_i digits
    simp [unsignedChars, isDigits, isAsciiDigit] at hdigits
  · rename_i digits hminus hplus
    have hhead : chars.head? ≠ some '-' := by
      intro hfirst
      rcases List.head?_eq_some_iff.mp hfirst with ⟨rest, hrest⟩
      exact hminus rest hrest
    rcases unsignedChars_of_head hhead with ⟨hsame, hvalue⟩
    rw [hsame] at hdigits
    rw [hdigits, hvalue]
    rfl

/-- What Go reads as an amount. -/
theorem postingAmount_ofList (chars : List Char) (n : ℤ) :
    postingAmount (String.ofList chars) = some n ↔
      isCanonicalInteger chars = true ∧ isInt64 n = true ∧ n = numeralValue chars := by
  unfold postingAmount
  rw [String.toList_ofList]
  cases hcanonical : isCanonicalInteger chars with
  | true =>
      rw [readSigned_of_canonical hcanonical]
      simp only [Bool.and_true, true_and]
      constructor
      · intro h
        split at h
        · rename_i hrange
          obtain rfl := Option.some.inj h
          exact ⟨hrange, rfl⟩
        · simp at h
      · rintro ⟨hrange, rfl⟩
        rw [if_pos hrange]
  | false =>
      cases readSigned chars <;> simp

/-- What Go reads as an unsigned amount. -/
theorem isUnsignedExactAmount_ofList (chars : List Char) :
    isUnsignedExactAmount (String.ofList chars) = true ↔
      isUnsignedCanonicalInteger chars = true ∧ isInt64 (digitsValue chars) = true := by
  unfold isUnsignedExactAmount
  rw [String.toList_ofList]
  cases hcanonical : isUnsignedCanonicalInteger chars with
  | false => cases readSigned chars <;> simp
  | true => simp [readSigned_of_isDigits (isDigits_of_canonical hcanonical)]

/-! ## Numerals in Python -/

section PythonNumerals

variable (py : Interpreter)

/-- The first digit of a canonical numeral. -/
theorem contains_nonzeroDigit (c : Char) :
    (str "123456789").contains (.scalar c) = (decide ('1' ≤ c) && decide (c ≤ '9')) := by
  have hmem : (str "123456789").contains (.scalar c) = "123456789".toList.contains c := by
    rw [Bool.eq_iff_iff]
    simp [Text.ofString]
  rw [hmem, Bool.eq_iff_iff]
  simp only [List.contains_iff_mem, Bool.and_eq_true, decide_eq_true_eq]
  constructor
  · intro h
    simp only [String.reduceToList, List.mem_cons, List.not_mem_nil, or_false] at h
    rcases h with rfl | rfl | rfl | rfl | rfl | rfl | rfl | rfl | rfl <;> decide
  · rintro ⟨hlow, hhigh⟩
    have hlow : '1'.toNat ≤ c.toNat := hlow
    have hhigh : c.toNat ≤ '9'.toNat := hhigh
    have hchar : Char.ofNat c.toNat = c := Char.ofNat_toNat c
    have hone : '1'.toNat = 49 := rfl
    have hnine : '9'.toNat = 57 := rfl
    rw [hone] at hlow
    rw [hnine] at hhigh
    rw [← hchar]
    generalize c.toNat = n at hlow hhigh
    interval_cases n <;> decide

variable {chars digits : List Char}

theorem isdigit_points (h : ∀ c ∈ digits, c.toNat < 128) :
    py.isdigit (points digits) = isDigits digits := by
  unfold Interpreter.isdigit isDigits points
  rw [List.all_map, List.isEmpty_map]
  congr 1
  rw [Bool.eq_iff_iff, List.all_eq_true, List.all_eq_true]
  refine forall₂_congr fun c hc => ?_
  simp [py.isDigit_ascii c (h c hc)]

/-- On ASCII text both receivers know the same canonical numerals. -/
theorem unsignedCanonicalDigits_points (h : ∀ c ∈ digits, c.toNat < 128) :
    unsignedCanonicalDigits py (points digits) = isUnsignedCanonicalInteger digits := by
  have hzero : (points digits == str "0") = (digits == ['0']) := by
    rw [Bool.eq_iff_iff, beq_iff_eq, beq_iff_eq]
    have hinj : Function.Injective (CodePoint.scalar) := fun a b hab => by simpa using hab
    constructor
    · intro hsame
      exact hinj.list_map hsame
    · rintro rfl
      rfl
  rw [unsignedCanonicalDigits, hzero, isdigit_points py h]
  cases digits with
  | nil => rfl
  | cons first rest =>
      have hfirst : ((points (first :: rest)).take 1).all (fun c =>
          (str "123456789").contains c) = (decide ('1' ≤ first) && decide (first ≤ '9')) := by
        simp only [points, List.map_cons, List.take_succ_cons, List.take_zero, List.all_cons,
          List.all_nil, Bool.and_true]
        exact contains_nonzeroDigit first
      rw [hfirst, isUnsignedCanonicalInteger]
      by_cases hrange : '1' ≤ first ∧ first ≤ '9'
      · simp [isDigits, hrange.1, hrange.2, isAsciiDigit_of_le hrange.1 hrange.2]
      · have hfalse : (decide ('1' ≤ first) && decide (first ≤ '9')) = false := by
          simpa using hrange
        rw [hfalse, Bool.false_and, Bool.false_and]

theorem startsWithMinus_points : startsWithMinus (points chars) = (chars.head? == some '-') := by
  cases chars with
  | nil => rfl
  | cons c rest =>
      rw [Bool.eq_iff_iff]
      simp [startsWithMinus, points]

theorem withoutMinus_points : withoutMinus (points chars) = points (unsignedChars chars) := by
  rw [withoutMinus, startsWithMinus_points]
  cases chars with
  | nil => rfl
  | cons c rest =>
      by_cases hminus : c = '-'
      · subst hminus
        rfl
      · have hhead : (c :: rest).head? ≠ some '-' := by simpa using hminus
        rw [(unsignedChars_of_head hhead).1]
        simp [hminus]

theorem mapM_digit_points (h : ∀ c ∈ digits, isAsciiDigit c = true) :
    (points digits).mapM py.digit = some (digits.map fun c => c.toNat - '0'.toNat) := by
  induction digits with
  | nil => rfl
  | cons c rest ih =>
      rw [List.forall_mem_cons] at h
      rw [points, List.map_cons, List.mapM_cons, Interpreter.digit, py.decimal_ascii c h.1]
      have hrest := ih h.2
      rw [points] at hrest
      rw [hrest]
      rfl

/-- A canonical numeral in ASCII is read as its value, if `int` converts numerals
of its length. -/
theorem int_points_eq_ok_iff (h : isCanonicalInteger chars = true) (n : ℤ) :
    py.int (points chars) = .ok n ↔
      py.withinDigits (unsignedChars chars).length = true ∧ n = numeralValue chars := by
  rw [isCanonicalInteger_eq] at h
  have hdigits := isDigits_of_canonical h
  rw [isDigits, Bool.and_eq_true, List.all_eq_true] at hdigits
  unfold Interpreter.int
  rw [withoutMinus_points, mapM_digit_points py hdigits.2]
  cases hchars : unsignedChars chars with
  | nil => simp [hchars] at hdigits
  | cons c rest =>
      simp only [List.map_cons, List.length_cons, List.length_map, startsWithMinus_points,
        numeralValue, hchars, digitsValue, List.foldl_cons, List.foldl_map]
      split
      · rename_i hwithin
        simp [hwithin, eq_comm]
      · rename_i hwithin
        simp [hwithin]

/-- Numerals of 64-bit integers are short enough for `int`. -/
theorem withinDigits_of_canonical (h : isUnsignedCanonicalInteger digits = true)
    (hvalue : digitsValue digits ≤ 2 ^ 63) : py.withinDigits digits.length = true := by
  have hlength : digits.length ≤ 640 := by
    unfold isUnsignedCanonicalInteger at h
    split at h
    · simp
    · rename_i first rest
      rw [Bool.or_eq_true, beq_iff_eq] at h
      rcases h with hzero | h
      · simp [hzero]
      · simp only [Bool.and_eq_true, decide_eq_true_eq] at h
        have hpow := pow_le_digitsValue h.1.1 rest
        have hlt : (10 : ℕ) ^ rest.length < 10 ^ 20 := by
          have hbound : (2 : ℕ) ^ 63 < 10 ^ 20 := by norm_num
          omega
        have hshort := (Nat.pow_lt_pow_iff_right (by norm_num)).mp hlt
        simp only [List.length_cons]
        omega
  rw [Interpreter.withinDigits, Bool.or_eq_true, beq_iff_eq, decide_eq_true_eq]
  exact py.maxStrDigits_threshold.imp_right hlength.trans

theorem isInt64_iff (n : ℤ) : isInt64 n = true ↔ -(2 ^ 63) ≤ n ∧ n ≤ 2 ^ 63 - 1 := by
  simp [isInt64]

theorem digitsValue_le_of_isInt64 (h : isInt64 (numeralValue chars) = true) :
    digitsValue (unsignedChars chars) ≤ 2 ^ 63 := by
  rw [isInt64_iff, numeralValue, signed] at h
  split at h <;> omega

theorem unsignedChars_ascii (h : ∀ c ∈ chars, c.toNat < 128) :
    ∀ c ∈ unsignedChars chars, c.toNat < 128 := by
  fun_cases unsignedChars chars with
  | case1 digits => exact (List.forall_mem_cons.mp h).2
  | case2 => exact h

/-- What Python accepts as an amount, on ASCII text. -/
theorem canonicalInteger_points (h : ∀ c ∈ chars, c.toNat < 128) :
    canonicalInteger py (some (.str (points chars))) = .ok true ↔
      isCanonicalInteger chars = true ∧ isInt64 (numeralValue chars) = true := by
  have hdigits : unsignedCanonicalDigits py (withoutMinus (points chars)) =
      isCanonicalInteger chars := by
    rw [withoutMinus_points, unsignedCanonicalDigits_points py (unsignedChars_ascii h),
      isCanonicalInteger_eq]
  rw [canonicalInteger, hdigits]
  cases hcanonical : isCanonicalInteger chars with
  | false => simp
  | true =>
      have hnonempty : (points chars).isEmpty = false := by
        cases chars with
        | nil => simp [isCanonicalInteger, isUnsignedCanonicalInteger] at hcanonical
        | cons c rest => rfl
      simp only [hnonempty, Bool.false_eq_true, if_false, if_true, true_and]
      cases hint : py.int (points chars) with
      | ok n =>
          obtain ⟨-, rfl⟩ := (int_points_eq_ok_iff py hcanonical n).mp hint
          simp [bind, Except.bind, pure, Except.pure, isInt64]
      | error e =>
          -- Only a numeral that is too long fails, and its value is out of range.
          simp only [bind, Except.bind, reduceCtorEq, false_iff]
          intro hrange
          have hcanonical' := hcanonical
          rw [isCanonicalInteger_eq] at hcanonical'
          have hwithin := withinDigits_of_canonical py hcanonical'
            (digitsValue_le_of_isInt64 hrange)
          rw [(int_points_eq_ok_iff py hcanonical _).mpr ⟨hwithin, rfl⟩] at hint
          simp at hint

/-- What Python accepts as an unsigned amount, on ASCII text. -/
theorem unsignedCanonicalInteger_points (h : ∀ c ∈ chars, c.toNat < 128) :
    unsignedCanonicalInteger py (some (.str (points chars))) = .ok true ↔
      isUnsignedCanonicalInteger chars = true ∧ isInt64 (digitsValue chars) = true := by
  rw [unsignedCanonicalInteger, unsignedCanonicalDigits_points py h]
  cases hcanonical : isUnsignedCanonicalInteger chars with
  | false => simp
  | true =>
      -- No digit is a minus sign, so the numeral is a signed one as well.
      have hhead : chars.head? ≠ some '-' := by
        intro hfirst
        rcases List.head?_eq_some_iff.mp hfirst with ⟨rest, rfl⟩
        simp [isUnsignedCanonicalInteger] at hcanonical
      rcases unsignedChars_of_head hhead with ⟨hminus, hvalue⟩
      have hsigned : isCanonicalInteger chars = true := by
        rw [isCanonicalInteger_eq, hminus, hcanonical]
      simp only [if_true, true_and]
      cases hint : py.int (points chars) with
      | ok n =>
          obtain ⟨-, rfl⟩ := (int_points_eq_ok_iff py hsigned n).mp hint
          rw [hvalue, isInt64_iff]
          simp only [bind, Except.bind, pure, Except.pure, Except.ok.injEq,
            decide_eq_true_eq]
          omega
      | error e =>
          simp only [bind, Except.bind, reduceCtorEq, false_iff]
          intro hrange
          rw [← hvalue] at hrange
          have hle := digitsValue_le_of_isInt64 hrange
          rw [hminus] at hle
          have hwithin := withinDigits_of_canonical py hcanonical hle
          rw [← hminus] at hwithin
          rw [(int_points_eq_ok_iff py hsigned _).mpr ⟨hwithin, rfl⟩] at hint
          simp at hint

end PythonNumerals

/-! ## The amounts both read -/

/-- A canonical numeral is ASCII text. -/
theorem ascii_of_canonical {chars : List Char} (h : isCanonicalInteger chars = true) :
    ∀ c ∈ chars, c.toNat < 128 := by
  rw [isCanonicalInteger_eq] at h
  have hdigits := isDigits_of_canonical h
  rw [isDigits, Bool.and_eq_true, List.all_eq_true] at hdigits
  have hsmall : ∀ c ∈ unsignedChars chars, c.toNat < 128 :=
    fun c hc => toNat_lt_of_isAsciiDigit (hdigits.2 c hc)
  unfold unsignedChars at hsmall
  split at hsmall
  · exact List.forall_mem_cons.mpr ⟨by decide, hsmall⟩
  · exact hsmall

/-- Go reads the amounts that Python reads and that are written in ASCII. -/
theorem postingAmount_eq_some_iff (py : Interpreter) (t : Text) (n : ℤ) :
    postingAmount t.toScalars = some n ↔
      isAscii t = true ∧ canonicalInteger py (some (.str t)) = .ok true ∧
        py.int t = .ok n := by
  have hpoints : ∀ chars : List Char, (∀ c ∈ chars, c.toNat < 128) →
      (postingAmount (points chars).toScalars = some n ↔
        canonicalInteger py (some (.str (points chars))) = .ok true ∧
          py.int (points chars) = .ok n) := by
    intro chars hascii
    rw [toScalars_points, postingAmount_ofList, canonicalInteger_points py hascii]
    constructor
    · rintro ⟨hcanonical, hrange, rfl⟩
      have hdigits := hcanonical
      rw [isCanonicalInteger_eq] at hdigits
      have hwithin := withinDigits_of_canonical py hdigits (digitsValue_le_of_isInt64 hrange)
      exact ⟨⟨hcanonical, hrange⟩, (int_points_eq_ok_iff py hcanonical _).mpr ⟨hwithin, rfl⟩⟩
    · rintro ⟨⟨hcanonical, hrange⟩, hint⟩
      obtain ⟨-, rfl⟩ := (int_points_eq_ok_iff py hcanonical n).mp hint
      exact ⟨hcanonical, hrange, rfl⟩
  constructor
  · intro h
    have hread : postingAmount (String.ofList t.toScalars.toList) = some n := by
      rwa [String.ofList_toList]
    rw [postingAmount_ofList] at hread
    have hascii := isAscii_of_toScalars (ascii_of_canonical hread.1)
    obtain ⟨chars, rfl, hchars⟩ := exists_points_of_isAscii hascii
    exact ⟨hascii, (hpoints chars hchars).mp h⟩
  · rintro ⟨hascii, h⟩
    obtain ⟨chars, rfl, hchars⟩ := exists_points_of_isAscii hascii
    exact (hpoints chars hchars).mpr h

/-- Go reads the unsigned amounts that Python reads and that are written in
ASCII. -/
theorem isUnsignedExactAmount_iff (py : Interpreter) (t : Text) :
    isUnsignedExactAmount t.toScalars = true ↔
      isAscii t = true ∧ unsignedCanonicalInteger py (some (.str t)) = .ok true := by
  constructor
  · intro h
    have hread : isUnsignedExactAmount (String.ofList t.toScalars.toList) = true := by
      rwa [String.ofList_toList]
    rw [isUnsignedExactAmount_ofList] at hread
    have hcanonical : isCanonicalInteger t.toScalars.toList = true := by
      unfold isCanonicalInteger
      split
      · rename_i hminus
        simp [hminus, isUnsignedCanonicalInteger] at hread
      · exact hread.1
    have hascii := isAscii_of_toScalars (ascii_of_canonical hcanonical)
    obtain ⟨chars, rfl, hchars⟩ := exists_points_of_isAscii hascii
    refine ⟨hascii, (unsignedCanonicalInteger_points py hchars).mpr ?_⟩
    rwa [toScalars_points, String.toList_ofList] at hread
  · rintro ⟨hascii, h⟩
    obtain ⟨chars, rfl, hchars⟩ := exists_points_of_isAscii hascii
    rw [toScalars_points, isUnsignedExactAmount_ofList]
    exact (unsignedCanonicalInteger_points py hchars).mp h

end MizanSDK.Agreement
