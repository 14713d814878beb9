import MizanSDK.Agreement.Amounts
import MizanSDK.Library.Numerals

/-!
# Canonical amounts

An amount is canonical if it is what is printed for its value.  Go reads the canonical
amounts of 64-bit integers and one spelling more; Python agrees with Go wherever the digits
of an amount are ASCII ones and not too many for `int`.

Main results:

- Theorem `postingAmount_toString`: Go reads an amount that is printed as its value.
- Theorem `canonical_amounts_iff`: when Go reads canonical amounts only.
- Theorem `recognised_alike_iff`: when Python and Go recognise the same amounts.
-/

namespace MizanSDK.Agreement

open JsonText Decimal Go Python

/-! ## Printed numbers -/

theorem isUnsignedCanonicalInteger_iff (digits : List Char) :
    isUnsignedCanonicalInteger digits = true ↔ ∃ n, Nat.toDigits 10 n = digits := by
  rw [exists_toDigits_iff]
  refine ⟨fun h => ⟨isDigits_of_canonical h, fun hhead => ?_⟩, fun h => ?_⟩
  · cases digits with
    | nil => cases hhead
    | cons first rest =>
        rw [isUnsignedCanonicalInteger, Bool.or_eq_true, beq_iff_eq, Option.some.inj hhead] at h
        rcases h with hzero | hrest
        · rw [Option.some.inj hhead]
          exact hzero
        · have hlow : decide ('1' ≤ '0') = false := by decide
          rw [hlow] at hrest
          cases hrest
  · cases digits with
    | nil => cases h.1
    | cons first rest =>
        rcases h with ⟨hdigits, hhead⟩
        rw [isDigits, Bool.and_eq_true, List.all_cons, Bool.and_eq_true] at hdigits
        rw [isUnsignedCanonicalInteger, Bool.or_eq_true, beq_iff_eq, hdigits.2.2, Bool.and_true,
          Bool.and_eq_true, decide_eq_true_eq, decide_eq_true_eq]
        by_cases hzero : first = '0'
        · left
          apply hhead
          rw [List.head?_cons, hzero]
        · right
          have hdigit := hdigits.2.1
          rw [isAsciiDigit, Bool.and_eq_true, decide_eq_true_eq, decide_eq_true_eq] at hdigit
          refine ⟨?_, hdigit.2⟩
          have hlow : '0'.toNat ≤ first.toNat := hdigit.1
          have hne : first.toNat ≠ '0'.toNat := fun hsame => hzero (Char.toNat_inj.mp hsame)
          have hle : '1'.toNat ≤ first.toNat := by
            have hone : '1'.toNat = '0'.toNat + 1 := rfl
            omega
          exact hle

theorem numeralValue_negative (digits : List Char) :
    numeralValue ('-' :: digits) = -(digitsValue digits : ℤ) := rfl

/-- No printed natural number starts with a sign. -/
theorem head_toDigits_ne (n : ℕ) : (Nat.toDigits 10 n).head? ≠ some '-' := by
  intro hhead
  have hdigits := isDigits_toDigits n
  rw [isDigits, Bool.and_eq_true, List.all_eq_true] at hdigits
  have hminus := hdigits.2 '-' (List.mem_of_head? hhead)
  exact absurd hminus (by decide)

/-- The canonical numerals are the printed integers and the negative zero. -/
theorem isCanonicalInteger_iff (chars : List Char) (n : ℤ) :
    isCanonicalInteger chars = true ∧ n = numeralValue chars ↔
      (toString n).toList = chars ∨ n = 0 ∧ chars = ['-', '0'] := by
  rw [isCanonicalInteger_eq, isUnsignedCanonicalInteger_iff, toList_toString]
  by_cases hhead : chars.head? = some '-'
  · -- The sign of the numeral is that of the number, unless the number is zero.
    rcases List.head?_eq_some_iff.mp hhead with ⟨digits, rfl⟩
    rw [numeralValue_negative, unsignedChars]
    refine ⟨fun h => ?_, fun h => ?_⟩
    · rcases h with ⟨⟨m, rfl⟩, rfl⟩
      rw [digitsValue_toDigits]
      by_cases hzero : m = 0
      · right
        rw [hzero]
        exact ⟨rfl, rfl⟩
      · left
        have hnegative : -(m : ℤ) < 0 := by omega
        rw [if_pos hnegative, Int.natAbs_neg, Int.natAbs_natCast]
        rfl
    · rcases h with hprinted | ⟨rfl, hzero⟩
      · by_cases hnegative : n < 0
        · rw [if_pos hnegative, List.singleton_append, List.cons.injEq] at hprinted
          rw [← hprinted.2, digitsValue_toDigits]
          exact ⟨⟨n.natAbs, rfl⟩, by omega⟩
        · rw [if_neg hnegative, List.nil_append] at hprinted
          exact absurd (by rw [hprinted, List.head?_cons]) (head_toDigits_ne n.natAbs)
      · rw [(List.cons.inj hzero).2]
        exact ⟨⟨0, rfl⟩, rfl⟩
  · rcases unsignedChars_of_head hhead with ⟨hsame, hvalue⟩
    rw [hsame, hvalue]
    refine ⟨fun h => ?_, fun h => ?_⟩
    · rcases h with ⟨⟨m, rfl⟩, rfl⟩
      left
      rw [digitsValue_toDigits, if_neg (by omega), List.nil_append, Int.natAbs_natCast]
    · rcases h with hprinted | ⟨-, hzero⟩
      · by_cases hnegative : n < 0
        · rw [if_pos hnegative] at hprinted
          exact absurd (by rw [← hprinted]; rfl) hhead
        · rw [if_neg hnegative, List.nil_append] at hprinted
          rw [← hprinted, digitsValue_toDigits]
          exact ⟨⟨n.natAbs, rfl⟩, by omega⟩
      · exact absurd (by rw [hzero]; rfl) hhead

/-! ## What Go reads -/

/-- An amount is read as the integer it is printed for, and the negative zero as zero. -/
theorem postingAmount_toString (s : String) (n : ℤ) :
    postingAmount s = some n ↔
      isInt64 n = true ∧ (toString n = s ∨ n = 0 ∧ s = "-0") := by
  have hread := postingAmount_ofList s.toList n
  rw [String.ofList_toList] at hread
  have hzero : s.toList = "-0".toList ↔ s = "-0" := String.toList_inj
  have hchars : "-0".toList = ['-', '0'] := rfl
  rw [hchars] at hzero
  rw [hread, and_left_comm, isCanonicalInteger_iff, String.toList_inj, hzero]

/-- An unsigned amount is the print of a natural number. -/
theorem isUnsignedExactAmount_toString (s : String) :
    isUnsignedExactAmount s = true ↔ ∃ n : ℕ, n ≤ 2 ^ 63 - 1 ∧ toString n = s := by
  have hread := isUnsignedExactAmount_ofList s.toList
  rw [String.ofList_toList, isUnsignedCanonicalInteger_iff, isInt64_iff] at hread
  rw [hread]
  refine ⟨fun h => ?_, fun h => ?_⟩
  · rcases h with ⟨⟨n, hdigits⟩, -, hle⟩
    rw [← hdigits, digitsValue_toDigits] at hle
    refine ⟨n, by omega, ?_⟩
    rw [← String.toList_inj, ← hdigits]
    exact Nat.toList_repr
  · rcases h with ⟨n, hle, rfl⟩
    have hdigits : (toString n).toList = Nat.toDigits 10 n := Nat.toList_repr
    rw [hdigits, digitsValue_toDigits]
    exact ⟨⟨n, rfl⟩, by omega, by omega⟩

/-- What the receiver promises of an amount `s`, and of another one `s'` beside it. -/
structure CanonicalAmounts (s s' : String) : Prop where
  accepted : (postingAmount s).isSome = true ↔
    ∃ n : ℤ, -(2 ^ 63) ≤ n ∧ n ≤ 2 ^ 63 - 1 ∧ toString n = s
  printed : ∀ n, postingAmount s = some n → toString n = s
  unsigned : isUnsignedExactAmount s = true ↔ ∃ n : ℕ, n ≤ 2 ^ 63 - 1 ∧ toString n = s
  distinct : ∀ n, postingAmount s = some n → postingAmount s' = some n → s = s'

theorem postingAmount_negativeZero : postingAmount "-0" = some 0 :=
  (postingAmount_toString "-0" 0).mpr ⟨by decide, .inr ⟨rfl, rfl⟩⟩

/-- Go reads canonical amounts only, but for the negative zero. -/
theorem canonical_amounts_iff (s s' : String) :
    CanonicalAmounts s s' ↔ s ≠ "-0" ∧ (s = "0" → s' ≠ "-0") := by
  have hprint : toString (0 : ℤ) = "0" := rfl
  have hdiffer : "0" ≠ "-0" := by decide
  refine ⟨fun h => ⟨?_, ?_⟩, fun h => ?_⟩
  · rintro rfl
    exact hdiffer (h.printed 0 postingAmount_negativeZero)
  · rintro rfl rfl
    have hzero : postingAmount "0" = some 0 :=
      (postingAmount_toString "0" 0).mpr ⟨by decide, .inl hprint⟩
    exact hdiffer (h.distinct 0 hzero postingAmount_negativeZero)
  · have hprinted : ∀ n, postingAmount s = some n ↔ isInt64 n = true ∧ toString n = s := by
      intro n
      rw [postingAmount_toString, or_iff_left (fun hzero => h.1 hzero.2)]
    refine ⟨?_, fun n hn => ((hprinted n).mp hn).2, isUnsignedExactAmount_toString s, ?_⟩
    · rw [Option.isSome_iff_exists]
      refine exists_congr fun n => ?_
      rw [hprinted, isInt64_iff, and_assoc]
    · intro n hn hn'
      have hs := ((hprinted n).mp hn).2
      rcases ((postingAmount_toString s' n).mp hn').2 with hs' | ⟨hzero, hs'⟩
      · exact hs.symm.trans hs'
      · rw [hzero, hprint] at hs
        exact absurd hs' (h.2 hs.symm)

/-- The negative zero is read as an amount, that of another string, and never printed. -/
theorem negative_zero_accepted :
    (postingAmount "-0").isSome = true ∧ postingAmount "-0" = postingAmount "0" ∧
      ¬ ∃ n : ℤ, -(2 ^ 63) ≤ n ∧ n ≤ 2 ^ 63 - 1 ∧ toString n = "-0" := by
  have hzero : postingAmount "0" = some 0 := by decide
  refine ⟨by rw [postingAmount_negativeZero]; rfl, by rw [postingAmount_negativeZero, hzero], ?_⟩
  rintro ⟨n, -, -, hn⟩
  have hread : n = 0 :=
    ((isCanonicalInteger_iff ['-', '0'] n).mpr (.inl (String.toList_inj.mpr hn))).2
  rw [hread] at hn
  exact absurd hn (by decide)

/-! ## What Python reads -/

section Python

variable (py : Interpreter)

/-- Characters that `int` reads, each of them a decimal digit. -/
def AllDecimal (s : PyStr) : Prop := ∀ c ∈ s, (py.digit c).isSome = true

/-- The value of decimal digits. -/
def decimalValue (s : PyStr) : ℕ := (s.filterMap py.digit).foldl (fun n d => 10 * n + d) 0

variable {py}

theorem mapM_digit_eq_some_iff (s : PyStr) (digits : List ℕ) :
    s.mapM py.digit = some digits ↔ AllDecimal py s ∧ digits = s.filterMap py.digit := by
  induction s generalizing digits with
  | nil =>
      refine ⟨fun h => ⟨nofun, (Option.some.inj h).symm⟩, fun h => ?_⟩
      rw [h.2]
      rfl
  | cons c s ih =>
      rw [AllDecimal, List.forall_mem_cons, List.mapM_cons]
      cases hdigit : py.digit c with
      | none => simp
      | some d =>
          rw [List.filterMap_cons_some hdigit, Option.isSome_some, eq_self, true_and]
          change (s.mapM py.digit).bind (fun rest => some (d :: rest)) = some digits ↔ _
          rw [Option.bind_eq_some_iff]
          refine ⟨fun h => ?_, fun h => ?_⟩
          · rcases h with ⟨rest, hrest, hdigits⟩
            rcases (ih rest).mp hrest with ⟨hall, rfl⟩
            exact ⟨hall, (Option.some.inj hdigits).symm⟩
          · refine ⟨s.filterMap py.digit, (ih _).mpr ⟨h.1, rfl⟩, ?_⟩
            rw [h.2]

theorem length_filterMap_digit {s : PyStr} (h : AllDecimal py s) :
    (s.filterMap py.digit).length = s.length := by
  induction s with
  | nil => rfl
  | cons c s ih =>
      rw [AllDecimal, List.forall_mem_cons] at h
      rcases Option.isSome_iff_exists.mp h.1 with ⟨d, hd⟩
      rw [List.filterMap_cons_some hd, List.length_cons, List.length_cons, ih h.2]

/-- What `int` reads, and as which integer. -/
theorem int_eq_ok_iff {s : PyStr} (hs : withoutMinus s ≠ []) (n : ℤ) :
    py.int s = .ok n ↔
      (AllDecimal py (withoutMinus s) ∧ py.withinDigits (withoutMinus s).length = true) ∧
        n = signed (startsWithMinus s) (decimalValue py (withoutMinus s)) := by
  unfold Interpreter.int
  by_cases hall : AllDecimal py (withoutMinus s)
  · have hlength := length_filterMap_digit hall
    rw [(mapM_digit_eq_some_iff _ _).mpr ⟨hall, rfl⟩, decimalValue]
    cases hdigits : (withoutMinus s).filterMap py.digit with
    | nil =>
        rw [hdigits, List.length_nil] at hlength
        exact absurd (List.eq_nil_of_length_eq_zero hlength.symm) hs
    | cons d rest =>
        rw [hdigits] at hlength
        dsimp only
        rw [hlength]
        split
        · rename_i hwithin
          rw [Except.ok.injEq, eq_comm]
          exact (and_iff_right ⟨hall, hwithin⟩).symm
        · rename_i hwithin
          exact iff_of_false nofun fun h => hwithin h.1.2
  · have hnone : (withoutMinus s).mapM py.digit = none := by
      rw [Option.eq_none_iff_forall_ne_some]
      intro digits hdigits
      exact hall ((mapM_digit_eq_some_iff _ _).mp hdigits).1
    rw [hnone]
    exact iff_of_false nofun fun h => hall h.1.1

/-- The integer a text is read as. -/
def readValue (py : Interpreter) (t : PyStr) : ℤ :=
  signed (startsWithMinus t) (decimalValue py (withoutMinus t))

/-- A text that looks canonical consists of decimal digits, which are not too many for `int`,
and is written in ASCII or not worth a 64-bit integer. -/
def ReadAlike (py : Interpreter) (t : PyStr) : Prop :=
  unsignedCanonicalDigits py (withoutMinus t) = true →
    (AllDecimal py (withoutMinus t) ∧ py.withinDigits (withoutMinus t).length = true) ∧
      (isAscii t = true ∨ isInt64 (readValue py t) = false)

theorem unsignedCanonicalDigits_nil : unsignedCanonicalDigits py [] = false := rfl

/-- What looks canonical has no sign. -/
theorem startsWithMinus_of_digits {t : PyStr} (h : unsignedCanonicalDigits py t = true) :
    startsWithMinus t = false := by
  rw [startsWithMinus, beq_eq_false_iff_ne]
  intro hhead
  rcases List.head?_eq_some_iff.mp hhead with ⟨rest, rfl⟩
  rw [unsignedCanonicalDigits, Bool.or_eq_true, beq_iff_eq, Bool.and_eq_true] at h
  rcases h with hzero | h
  · have hfirst : some (CodePoint.scalar '-') = (str "0").head? := congrArg List.head? hzero
    exact absurd hfirst (by decide)
  · have hdigit := h.2
    rw [Interpreter.isdigit, Bool.and_eq_true, List.all_cons, Bool.and_eq_true] at hdigit
    have hminus : py.isDigit '-' = false := py.isDigit_ascii '-' (by decide)
    have hfirst : py.isDigit '-' = true := hdigit.2.1
    rw [hminus] at hfirst
    cases hfirst

theorem isInt64_eq (n : ℤ) :
    isInt64 n = (decide (-(2 ^ 63) ≤ n) && decide (n ≤ 2 ^ 63 - 1)) := rfl

/-- A text that does not look canonical is refused. -/
theorem canonicalInteger_of_not {t : PyStr}
    (h : unsignedCanonicalDigits py (withoutMinus t) = false) :
    canonicalInteger py (some (.str t)) = .ok false := by
  rw [canonicalInteger, h]
  split
  · rfl
  · rfl

/-- One that does is left to `int`. -/
theorem canonicalInteger_eq_ok_iff {t : PyStr}
    (h : unsignedCanonicalDigits py (withoutMinus t) = true) (b : Bool) :
    canonicalInteger py (some (.str t)) = .ok b ↔
      (AllDecimal py (withoutMinus t) ∧ py.withinDigits (withoutMinus t).length = true) ∧
        b = isInt64 (readValue py t) := by
  have hne : withoutMinus t ≠ [] := by
    intro hempty
    rw [hempty, unsignedCanonicalDigits_nil] at h
    cases h
  have hnonempty : t.isEmpty = false := by
    rw [List.isEmpty_eq_false_iff]
    rintro rfl
    exact hne rfl
  rw [canonicalInteger, h, hnonempty]
  change (py.int t >>= fun n => Except.ok (isInt64 n)) = .ok b ↔ _
  rw [Checks.bind_eq_ok_iff]
  refine ⟨fun hread => ?_, fun hread => ?_⟩
  · rcases hread with ⟨n, hn, hb⟩
    rcases (int_eq_ok_iff hne n).mp hn with ⟨hdigits, hvalue⟩
    rw [← Except.ok.inj hb, hvalue]
    exact ⟨hdigits, rfl⟩
  · rcases hread with ⟨hdigits, rfl⟩
    exact ⟨readValue py t, (int_eq_ok_iff hne _).mpr ⟨hdigits, rfl⟩, rfl⟩

theorem unsignedCanonicalInteger_eq_ok_iff {t : PyStr} (h : unsignedCanonicalDigits py t = true)
    (b : Bool) :
    unsignedCanonicalInteger py (some (.str t)) = .ok b ↔
      (AllDecimal py t ∧ py.withinDigits t.length = true) ∧ b = isInt64 (readValue py t) := by
  have hminus := startsWithMinus_of_digits h
  have hsame : withoutMinus t = t := by
    rw [withoutMinus, hminus]
    rfl
  have hne : withoutMinus t ≠ [] := by
    rw [hsame]
    rintro rfl
    cases h
  have hrange : isInt64 (readValue py t) = decide (readValue py t ≤ 2 ^ 63 - 1) := by
    have hnonneg : 0 ≤ readValue py t := by
      rw [readValue, hminus]
      exact Int.natCast_nonneg _
    have hlow : -(2 ^ 63) ≤ readValue py t := by omega
    rw [isInt64_eq, decide_eq_true hlow, Bool.true_and]
  rw [unsignedCanonicalInteger, h, hrange]
  change (py.int t >>= fun n => Except.ok (decide (n ≤ 2 ^ 63 - 1))) = .ok b ↔ _
  rw [Checks.bind_eq_ok_iff]
  refine ⟨fun hread => ?_, fun hread => ?_⟩
  · rcases hread with ⟨n, hn, hb⟩
    rcases (int_eq_ok_iff hne n).mp hn with ⟨hdigits, hvalue⟩
    rw [hsame] at hdigits
    rw [← Except.ok.inj hb, hvalue]
    exact ⟨hdigits, rfl⟩
  · rcases hread with ⟨hdigits, rfl⟩
    rw [← hsame] at hdigits
    exact ⟨readValue py t, (int_eq_ok_iff hne _).mpr ⟨hdigits, rfl⟩, rfl⟩

/-- Go accepts what Python accepts in ASCII. -/
theorem isSome_postingAmount_iff (py : Interpreter) (t : PyStr) :
    (postingAmount t.toScalars).isSome = true ↔
      isAscii t = true ∧ canonicalInteger py (some (.str t)) = .ok true := by
  rw [Option.isSome_iff_exists]
  refine ⟨fun h => ?_, fun h => ?_⟩
  · rcases h with ⟨n, hn⟩
    have hpython := (postingAmount_eq_some_iff py t n).mp hn
    exact ⟨hpython.1, hpython.2.1⟩
  · cases hdigits : unsignedCanonicalDigits py (withoutMinus t) with
    | false =>
        rw [canonicalInteger_of_not hdigits] at h
        cases h.2
    | true =>
        have hread := ((canonicalInteger_eq_ok_iff hdigits true).mp h.2).1
        have hne : withoutMinus t ≠ [] := by
          intro hempty
          rw [hempty, unsignedCanonicalDigits_nil] at hdigits
          cases hdigits
        refine ⟨readValue py t, (postingAmount_eq_some_iff py t _).mpr ⟨h.1, h.2, ?_⟩⟩
        exact (int_eq_ok_iff hne _).mpr ⟨hread, rfl⟩

/-- Go gives the answer of Python if it reads the same digits, or none of them counts. -/
theorem answer_alike {go ascii answer : Bool} {read : Prop}
    (hgo : go = true ↔ ascii = true ∧ read ∧ true = answer) (hread : read)
    (h : ascii = true ∨ answer = false) : go = answer := by
  rw [Bool.eq_iff_iff, hgo, and_iff_right hread]
  rcases h with hascii | hrefused
  · rw [and_iff_right hascii, eq_comm]
  · rw [hrefused]
    exact iff_of_false (fun haccepts => nomatch haccepts.2) Bool.false_ne_true

/-- Both receivers give the same answer on a posting amount. -/
theorem canonicalInteger_alike_iff (py : Interpreter) (t : PyStr) :
    canonicalInteger py (some (.str t)) = .ok (postingAmount t.toScalars).isSome ↔
      ReadAlike py t := by
  have hgo := isSome_postingAmount_iff py t
  cases hdigits : unsignedCanonicalDigits py (withoutMinus t) with
  | false =>
      rw [canonicalInteger_of_not hdigits] at hgo ⊢
      have hrefused : (postingAmount t.toScalars).isSome = false := by
        rw [Bool.eq_false_iff]
        intro haccepts
        cases (hgo.mp haccepts).2
      rw [hrefused, ReadAlike, hdigits]
      exact iff_of_true rfl nofun
  | true =>
      rw [canonicalInteger_eq_ok_iff hdigits] at hgo ⊢
      refine ⟨fun h _ => ⟨h.1, ?_⟩, fun h => ?_⟩
      · by_cases hascii : isAscii t = true
        · exact .inl hascii
        · right
          rw [← h.2, Bool.eq_false_iff]
          exact fun haccepts => hascii (hgo.mp haccepts).1
      · rcases h hdigits with ⟨hread, halike⟩
        exact ⟨hread, answer_alike hgo hread halike⟩

theorem unsignedCanonicalInteger_alike {t : PyStr} (h : ReadAlike py t) :
    unsignedCanonicalInteger py (some (.str t)) = .ok (isUnsignedExactAmount t.toScalars) := by
  have hgo := isUnsignedExactAmount_iff py t
  cases hdigits : unsignedCanonicalDigits py t with
  | false =>
      have hpython : unsignedCanonicalInteger py (some (.str t)) = .ok false := by
        rw [unsignedCanonicalInteger, hdigits]
        rfl
      rw [hpython] at hgo ⊢
      have hrefused : isUnsignedExactAmount t.toScalars = false := by
        rw [Bool.eq_false_iff]
        intro haccepts
        cases (hgo.mp haccepts).2
      rw [hrefused]
  | true =>
      have hsame : withoutMinus t = t := by
        rw [withoutMinus, startsWithMinus_of_digits hdigits]
        rfl
      rw [ReadAlike, hsame] at h
      rw [unsignedCanonicalInteger_eq_ok_iff hdigits] at hgo ⊢
      rcases h hdigits with ⟨hread, halike⟩
      exact ⟨hread, answer_alike hgo hread halike⟩

end Python

/-- Python recognises the amounts that Go recognises, and raises on no text, if and only if
digits are read alike. -/
theorem recognised_alike_iff (py : Interpreter) (s : String) :
    canonicalInteger py (some (.str (str s))) = .ok (postingAmount s).isSome ∧
        unsignedCanonicalInteger py (some (.str (str s))) = .ok (isUnsignedExactAmount s) ↔
      ReadAlike py (str s) := by
  have hsigned := canonicalInteger_alike_iff py (str s)
  have hunsigned := @unsignedCanonicalInteger_alike py (str s)
  rw [str, Text.toScalars_ofString] at hsigned hunsigned
  exact ⟨fun h => hsigned.mp h.1, fun h => ⟨hsigned.mpr h, hunsigned h⟩⟩

/-- The value of a digit, with the Arabic-Indic three among the decimal ones. -/
def threeDecimal (c : Char) : Option ℕ :=
  if isAsciiDigit c then some (c.toNat - '0'.toNat)
  else if c = '\u0663' then some 3
  else none

/-- An interpreter that knows it, and the superscript two as a digit that is not decimal. -/
def threeInterpreter : Interpreter where
  loads _ := .ok none
  dumps _ := .ok []
  lower := lower
  repr _ := .ok []
  isDigit c := isAsciiDigit c || c == '\u0663' || c == '\u00B2'
  decimal := threeDecimal
  maxStrDigits := 4300
  isDigit_ascii c h := by
    have hthree : (c == '\u0663') = false := by
      rw [beq_eq_false_iff_ne]
      rintro rfl
      exact absurd h (by decide)
    have htwo : (c == '\u00B2') = false := by
      rw [beq_eq_false_iff_ne]
      rintro rfl
      exact absurd h (by decide)
    rw [hthree, htwo, Bool.or_false, Bool.or_false]
  decimal_ascii c h := by rw [threeDecimal, if_pos h]
  maxStrDigits_threshold := defaultMaxStrDigits_threshold

/-- Python accepts an Arabic-Indic three behind a one and raises on a superscript two, where
Go refuses both. -/
theorem foreign_digits_recognised :
    canonicalInteger threeInterpreter (some (.str (str "1\u0663"))) = .ok true ∧
      unsignedCanonicalInteger threeInterpreter (some (.str (str "1\u0663"))) = .ok true ∧
      (postingAmount "1\u0663").isSome = false ∧ isUnsignedExactAmount "1\u0663" = false ∧
      (∀ b, canonicalInteger threeInterpreter (some (.str (str "1\u00B2"))) ≠ .ok b) ∧
      (postingAmount "1\u00B2").isSome = false := by
  refine ⟨rfl, rfl, by decide, by decide, ?_, by decide⟩
  intro b hb
  cases hb

end MizanSDK.Agreement
