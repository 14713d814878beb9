import Mathlib.Data.List.Basic
import Mathlib.Data.List.TakeWhile
import Mathlib.Data.Nat.Digits.Defs
import Mathlib.Tactic

/-!
# Bytes spelled in text

Three spellings of byte strings: hexadecimal digits, percent escapes, and UTF-8
text in which what is no encoding of a character is replaced.

Main results:

- Theorem `hexEncode_injective`: the hexadecimal text of bytes determines them.
- Theorem `percentDecode_flatMap`: decoding undoes an escaping of single bytes.
- Theorem `repair_of_ascii`: ASCII text needs no replacement.
- Theorem `length_decodeReplacing_le`: what is read is no longer than its bytes.
- Theorem `toUTF8_inj`: the bytes of a string determine it.
- Theorem `repair_toUTF8`: the bytes of a string need no replacement.
-/

namespace Bytes

/-! ## Hexadecimal text -/

/-- The two lower-case digits of a byte. -/
def hexByte (b : UInt8) : List Char :=
  [Nat.digitChar (b.toNat / 16), Nat.digitChar (b.toNat % 16)]

/-- The hexadecimal text of bytes. -/
def hexEncode (bytes : List UInt8) : List Char := bytes.flatMap hexByte

/-- Different numbers below 16 have different digits. -/
theorem digitChar_inj {m n : ℕ} (hm : m < 16) (hn : n < 16)
    (h : Nat.digitChar m = Nat.digitChar n) : m = n := by
  have hinj : ∀ a b : Fin 16, Nat.digitChar a = Nat.digitChar b → a = b := by decide
  exact congrArg Fin.val (hinj ⟨m, hm⟩ ⟨n, hn⟩ h)

/-- The digits of a byte determine it. -/
theorem hexByte_inj {a b : UInt8} (hhigh : Nat.digitChar (a.toNat / 16) =
    Nat.digitChar (b.toNat / 16)) (hlow : Nat.digitChar (a.toNat % 16) =
    Nat.digitChar (b.toNat % 16)) : a = b := by
  have ha : a.toNat < 256 := a.toNat_lt
  have hb : b.toNat < 256 := b.toNat_lt
  have hquotient := digitChar_inj (by omega) (by omega) hhigh
  have hremainder := digitChar_inj (by omega) (by omega) hlow
  apply UInt8.toNat_inj.mp
  omega

/-- The hexadecimal text of bytes determines them. -/
theorem hexEncode_injective : Function.Injective hexEncode := by
  intro a
  induction a with
  | nil =>
      intro b h
      cases b with
      | nil => rfl
      | cons y b => simp [hexEncode, hexByte] at h
  | cons x a ih =>
      intro b h
      cases b with
      | nil => simp [hexEncode, hexByte] at h
      | cons y b =>
          simp only [hexEncode, hexByte, List.flatMap_cons, List.cons_append, List.nil_append,
            List.cons.injEq] at h
          rcases h with ⟨hhigh, hlow, hrest⟩
          rw [hexByte_inj hhigh hlow, ih hrest]

/-! ## Percent escapes -/

/-- The value of a hexadecimal digit of either case. -/
def hexValue (c : Char) : Option ℕ :=
  if '0' ≤ c ∧ c ≤ '9' then some (c.toNat - '0'.toNat)
  else if 'a' ≤ c ∧ c ≤ 'f' then some (c.toNat - 'a'.toNat + 10)
  else if 'A' ≤ c ∧ c ≤ 'F' then some (c.toNat - 'A'.toNat + 10)
  else none

/-- Read percent escapes; a percent sign without two digits behind it is an
error. -/
def percentDecode : List Char → Option (List UInt8)
  | [] => some []
  | '%' :: high :: low :: rest => do
      let h ← hexValue high
      let l ← hexValue low
      let tail ← percentDecode rest
      pure (UInt8.ofNat (16 * h + l) :: tail)
  | '%' :: _ => none
  | c :: rest => (percentDecode rest).map (UInt8.ofNat c.toNat :: ·)

/-- The digit of a number below 16 in upper case. -/
def upperDigit (digit : ℕ) : Char := "0123456789ABCDEF".toList.getD digit '0'

/-- Reading a digit gives back the number. -/
theorem hexValue_upperDigit {d : ℕ} (h : d < 16) : hexValue (upperDigit d) = some d := by
  interval_cases d <;> decide

/-- Decoding an escape gives back the byte. -/
theorem percentDecode_escape (b : UInt8) (rest : List Char) :
    percentDecode ('%' :: upperDigit (b.toNat / 16) :: upperDigit (b.toNat % 16) :: rest) =
      (percentDecode rest).map (b :: ·) := by
  have hb : b.toNat < 256 := b.toNat_lt
  have hbyte : UInt8.ofNat (16 * (b.toNat / 16) + b.toNat % 16) = b := by
    rw [Nat.div_add_mod, UInt8.ofNat_toNat]
  rw [percentDecode, hexValue_upperDigit (by omega), hexValue_upperDigit (by omega)]
  cases percentDecode rest with
  | none => rfl
  | some tail => exact congrArg (fun byte => some (byte :: tail)) hbyte

/-- Decoding leaves other characters alone. -/
theorem percentDecode_cons {c : Char} (hc : c ≠ '%') (rest : List Char) :
    percentDecode (c :: rest) = (percentDecode rest).map (UInt8.ofNat c.toNat :: ·) := by
  rw [percentDecode.eq_def]
  split <;> simp_all

/-- Decoding leaves an ASCII byte alone that is not the percent sign. -/
theorem percentDecode_ascii {b : UInt8} (hlt : b.toNat < 128) (hne : Char.ofNat b.toNat ≠ '%')
    (rest : List Char) :
    percentDecode (Char.ofNat b.toNat :: rest) = (percentDecode rest).map (b :: ·) := by
  have hvalid : b.toNat.isValidChar := .inl (by omega)
  have hchar : (Char.ofNat b.toNat).toNat = b.toNat := by
    rw [Char.ofNat, dif_pos hvalid]
    rfl
  rw [percentDecode_cons hne, hchar, UInt8.ofNat_toNat]

/-- An escape holds no delimiter of URLs. -/
theorem escape_delimiters (b : UInt8) :
    ∀ c ∈ ['%', upperDigit (b.toNat / 16), upperDigit (b.toNat % 16)],
      c ∉ ['/', '?', '#'] := by
  have hb : b.toNat < 256 := b.toNat_lt
  have hdigit : ∀ d, d < 16 → upperDigit d ∉ ['/', '?', '#'] := by
    intro d hd
    interval_cases d <;> decide
  intro c hc
  rw [List.mem_cons, List.mem_cons, List.mem_singleton] at hc
  rcases hc with rfl | rfl | rfl
  · decide
  · exact hdigit _ (by omega)
  · exact hdigit _ (by omega)

/-- Decoding undoes an escaping of single bytes when it undoes each of them. -/
theorem percentDecode_flatMap {escape : UInt8 → List Char}
    (h : ∀ b rest, percentDecode (escape b ++ rest) = (percentDecode rest).map (b :: ·))
    (bytes : List UInt8) : percentDecode (bytes.flatMap escape) = some bytes := by
  induction bytes with
  | nil => rfl
  | cons b bytes ih => rw [List.flatMap_cons, h, ih, Option.map_some]

/-! ## UTF-8 text -/

/-- A continuation byte. -/
def isContinuation (b : UInt8) : Bool := 0x80 ≤ b && b ≤ 0xBF

/-- The bytes that may follow a first byte. -/
def secondByteRange (first : UInt8) : UInt8 × UInt8 :=
  if first = 0xE0 then (0xA0, 0xBF)
  else if first = 0xED then (0x80, 0x9F)
  else if first = 0xF0 then (0x90, 0xBF)
  else if first = 0xF4 then (0x80, 0x8F)
  else (0x80, 0xBF)

/-- The length of an encoding, by its first byte; 0 for a byte that begins none. -/
def encodingLength (first : UInt8) : ℕ :=
  if first < 0x80 then 1
  else if first < 0xC2 then 0
  else if first ≤ 0xDF then 2
  else if first ≤ 0xEF then 3
  else if first ≤ 0xF4 then 4
  else 0

/-- The length of the encoded character a text begins with; 0 where it begins
with none. -/
def leadingLength : List UInt8 → ℕ
  | [] => 0
  | first :: rest =>
      match encodingLength first, rest with
      | 0, _ => 0
      | 1, _ => 1
      | n + 2, second :: others =>
          if (secondByteRange first).1 ≤ second ∧ second ≤ (secondByteRange first).2 ∧
            n ≤ others.length ∧ (others.take n).all isContinuation then n + 2
          else 0
      | _ + 2, [] => 0

/-- Replace from a place on: the first bytes belong to a character already
read. -/
def repairFrom : ℕ → List UInt8 → List UInt8
  | _, [] => []
  | n + 1, b :: rest => b :: repairFrom n rest
  | 0, b :: rest =>
      match leadingLength (b :: rest) with
      | 0 => 0xEF :: 0xBF :: 0xBD :: repairFrom 0 rest
      | n + 1 => b :: repairFrom n rest

/-- UTF-8 text: a byte that belongs to no encoded character becomes the
replacement character. -/
def repair (text : List UInt8) : List UInt8 := repairFrom 0 text

/-- ASCII text needs no replacement. -/
theorem repair_of_ascii {text : List UInt8} (h : ∀ b ∈ text, b < 0x80) : repair text = text := by
  induction text with
  | nil => rfl
  | cons b text ih =>
      rw [List.forall_mem_cons] at h
      have hlength : leadingLength (b :: text) = 1 := by
        simp [leadingLength, encodingLength, h.1]
      rw [repair, repairFrom, hlength]
      exact congrArg (b :: ·) (ih h.2)

/-- Mark from a place on, as `repairFrom` replaces. -/
def markFrom : ℕ → List UInt8 → List (Option UInt8)
  | _, [] => []
  | n + 1, b :: rest => some b :: markFrom n rest
  | 0, b :: rest =>
      match leadingLength (b :: rest) with
      | 0 => none :: markFrom 0 rest
      | n + 1 => some b :: markFrom n rest

/-- A text with a mark in place of each byte that belongs to no encoded character: unlike the
replacement character, the mark is not to be mistaken for text. -/
def mark (text : List UInt8) : List (Option UInt8) := markFrom 0 text

/-- Where nothing is marked nothing is replaced, and replacing makes a text longer. -/
theorem markFrom_or_lt (n : ℕ) (text : List UInt8) : text.length ≤ (repairFrom n text).length ∧
    (markFrom n text = text.map some ∨ text.length < (repairFrom n text).length) := by
  induction text generalizing n with
  | nil => exact ⟨Nat.zero_le _, .inl (by cases n <;> rfl)⟩
  | cons b rest ih =>
      have hkept : ∀ n, (b :: rest).length ≤ (b :: repairFrom n rest).length ∧
          (some b :: markFrom n rest = (b :: rest).map some ∨
            (b :: rest).length < (b :: repairFrom n rest).length) := by
        intro n
        rw [List.length_cons, List.length_cons]
        refine ⟨Nat.succ_le_succ (ih n).1, ?_⟩
        rcases (ih n).2 with hmarks | hlonger
        · exact .inl (congrArg (some b :: ·) hmarks)
        · exact .inr (Nat.succ_lt_succ hlonger)
      cases n with
      | succ n => exact hkept n
      | zero =>
          rw [repairFrom, markFrom]
          cases leadingLength (b :: rest) with
          | succ n => exact hkept n
          | zero =>
              have hlength := (ih 0).1
              simp only [List.length_cons]
              omega

/-- UTF-8 text is not marked. -/
theorem mark_eq_map {text : List UInt8} (h : repair text = text) : mark text = text.map some := by
  rcases (markFrom_or_lt 0 text).2 with hmarks | hlonger
  · exact hmarks
  · rw [← repair, h] at hlonger
    exact absurd hlonger (Nat.lt_irrefl _)

/-! ## Reading with replacement characters -/

/-- How many bytes, the first one included, go as far as a character can go that is not there
in the end; they are replaced together. -/
def brokenLength : List UInt8 → ℕ
  | first :: second :: others =>
      if 2 ≤ encodingLength first ∧ (secondByteRange first).1 ≤ second ∧
          second ≤ (secondByteRange first).2 then
        ((others.take (encodingLength first - 2)).takeWhile isContinuation).length + 2
      else 1
  | _ => 1

/-- The character of the bytes it is encoded in. -/
def decodeChar : List UInt8 → Char
  | [a] => Char.ofNat a.toNat
  | [a, b] => Char.ofNat (a.toNat % 32 * 64 + b.toNat % 64)
  | [a, b, c] => Char.ofNat ((a.toNat % 16 * 64 + b.toNat % 64) * 64 + c.toNat % 64)
  | [a, b, c, d] =>
      Char.ofNat (((a.toNat % 8 * 64 + b.toNat % 64) * 64 + c.toNat % 64) * 64 + d.toNat % 64)
  | _ => '\uFFFD'

/-- Read from a place on: the first bytes were read before. -/
def decodeFrom : ℕ → List UInt8 → List Char
  | _, [] => []
  | n + 1, _ :: rest => decodeFrom n rest
  | 0, b :: rest =>
      match leadingLength (b :: rest) with
      | 0 => '\uFFFD' :: decodeFrom (brokenLength (b :: rest) - 1) rest
      | n + 1 => decodeChar (b :: rest.take n) :: decodeFrom n rest

/-- Read UTF-8 text: what goes only a part of the way to a character is replaced as a
whole. -/
def decodeReplacing (text : List UInt8) : List Char := decodeFrom 0 text

/-- A text has no more characters than bytes. -/
theorem length_decodeFrom_le (n : ℕ) (text : List UInt8) :
    (decodeFrom n text).length ≤ text.length := by
  induction text generalizing n with
  | nil => exact Nat.le_of_eq (congrArg List.length (decodeFrom.eq_1 n))
  | cons b rest ih =>
      cases n with
      | succ n => exact (ih n).trans (Nat.le_succ _)
      | zero =>
          rw [decodeFrom]
          split
          · exact Nat.succ_le_succ (ih _)
          · exact Nat.succ_le_succ (ih _)

/-- A character takes a byte or more. -/
theorem length_decodeReplacing_le (text : List UInt8) :
    (decodeReplacing text).length ≤ text.length :=
  length_decodeFrom_le 0 text

/-- ASCII text is read byte by byte. -/
theorem decodeReplacing_of_ascii {text : List UInt8} (h : ∀ b ∈ text, b < 0x80) :
    decodeReplacing text = text.map fun b => Char.ofNat b.toNat := by
  induction text with
  | nil => rfl
  | cons b text ih =>
      rw [List.forall_mem_cons] at h
      have hlength : leadingLength (b :: text) = 1 := by
        simp [leadingLength, encodingLength, h.1]
      rw [decodeReplacing, decodeFrom, hlength]
      exact congrArg (Char.ofNat b.toNat :: ·) (ih h.2)

/-- A second byte is none of ASCII. -/
theorem le_secondByteRange (first : UInt8) : 0x80 ≤ (secondByteRange first).1 := by
  unfold secondByteRange
  split_ifs <;> decide

/-- A continuation byte is not ASCII. -/
theorem le_of_isContinuation {b : UInt8} (h : isContinuation b = true) : 0x80 ≤ b := by
  rw [isContinuation, Bool.and_eq_true, decide_eq_true_eq] at h
  exact h.1

/-- Behind the first byte of a character there are no bytes of ASCII in it. -/
theorem le_of_leadingLength {b : UInt8} {rest : List UInt8} {n : ℕ}
    (h : leadingLength (b :: rest) = n + 1) : ∀ x ∈ rest.take n, 0x80 ≤ x := by
  unfold leadingLength at h
  dsimp only at h
  split at h
  · cases h
  · obtain rfl : n = 0 := (Nat.succ.inj h).symm
    exact List.forall_mem_nil _
  · rename_i k second others _
    split at h
    · rename_i hcontinued
      obtain rfl : n = k + 1 := (Nat.succ.inj h).symm
      rw [List.take_succ_cons, List.forall_mem_cons]
      refine ⟨UInt8.le_trans (le_secondByteRange b) hcontinued.1, ?_⟩
      intro x hx
      exact le_of_isContinuation (List.all_eq_true.mp hcontinued.2.2.2 x hx)
    · cases h
  · cases h

/-- Nor are there any in what is replaced together. -/
theorem le_of_brokenLength (b : UInt8) (rest : List UInt8) :
    ∀ x ∈ rest.take (brokenLength (b :: rest) - 1), 0x80 ≤ x := by
  cases rest with
  | nil =>
      rw [List.take_nil]
      exact List.forall_mem_nil _
  | cons second others =>
      rw [brokenLength]
      split
      · rename_i hsecond
        have hprefix : (others.take (encodingLength b - 2)).takeWhile isContinuation <+: others :=
          (List.takeWhile_prefix _).trans (List.take_prefix _ _)
        rw [Nat.add_sub_cancel_right (m := 1), List.take_succ_cons,
          ← List.prefix_iff_eq_take.mp hprefix, List.forall_mem_cons]
        refine ⟨UInt8.le_trans (le_secondByteRange b) hsecond.2.1, ?_⟩
        intro x hx
        exact le_of_isContinuation (List.mem_takeWhile_imp hx)
      · exact List.forall_mem_nil _

/-- A byte of ASCII is read as its character. -/
theorem mem_decodeFrom {b : UInt8} (hb : b < 0x80) {n : ℕ} {text : List UInt8}
    (hskipped : ∀ x ∈ text.take n, 0x80 ≤ x) (hmem : b ∈ text) :
    Char.ofNat b.toNat ∈ decodeFrom n text := by
  induction text generalizing n with
  | nil => cases hmem
  | cons first rest ih =>
      cases n with
      | succ n =>
          rw [List.take_succ_cons, List.forall_mem_cons] at hskipped
          rw [decodeFrom]
          refine ih hskipped.2 ((List.mem_cons.mp hmem).resolve_left ?_)
          rintro rfl
          exact absurd hb (UInt8.not_lt.mpr hskipped.1)
      | zero =>
          rw [decodeFrom]
          rcases List.mem_cons.mp hmem with rfl | hrest
          · have hlength : leadingLength (b :: rest) = 1 := by
              simp [leadingLength, encodingLength, hb]
            rw [hlength]
            exact List.mem_cons_self
          · split
            · exact List.mem_cons_of_mem _ (ih (le_of_brokenLength first rest) hrest)
            · rename_i k hlength
              exact List.mem_cons_of_mem _ (ih (le_of_leadingLength hlength) hrest)

/-! ## The bytes of a string -/

/-- What the loop behind the list of a byte array returns. -/
theorem toList_loop (bytes : ByteArray) (i : ℕ) (front : List UInt8) :
    ByteArray.toList.loop bytes i front = front.reverse ++ bytes.data.toList.drop i := by
  fun_induction ByteArray.toList.loop bytes i front with
  | case1 i front hlt ih =>
      have hsize : i < bytes.data.toList.length := hlt
      have hget : bytes.get! i = bytes.data.toList[i] := getElem!_pos bytes.data i hlt
      rw [ih, hget, List.reverse_cons, List.append_assoc, List.singleton_append,
        List.getElem_cons_drop]
  | case2 i front hge =>
      have hsize : bytes.data.toList.length ≤ i := Nat.not_lt.mp hge
      rw [List.drop_eq_nil_of_le hsize, List.append_nil]

/-- The bytes of an array as a list. -/
theorem toList_eq (bytes : ByteArray) : bytes.toList = bytes.data.toList := by
  rw [ByteArray.toList, toList_loop]
  rfl

/-- A string has as many bytes as its size says. -/
theorem length_toUTF8 (s : String) : s.toUTF8.toList.length = s.utf8ByteSize := by
  rw [toList_eq]
  rfl

/-- The bytes of a string determine it. -/
theorem toUTF8_inj {s t : String} : s.toUTF8.toList = t.toUTF8.toList ↔ s = t := by
  constructor
  · intro h
    rw [toList_eq, toList_eq] at h
    exact String.toByteArray_inj.mp (ByteArray.ext (Array.toList_inj.mp h))
  · rintro rfl
    rfl

/-- Bytes of a character already read stay. -/
theorem repairFrom_append (front rest : List UInt8) :
    repairFrom front.length (front ++ rest) = front ++ repairFrom 0 rest := by
  induction front with
  | nil => rfl
  | cons b front ih => exact congrArg (b :: ·) ih

/-- The bytes that follow a lead byte. -/
theorem isContinuation_ofNat (n : ℕ) : isContinuation (UInt8.ofNat (n % 64 + 128)) = true := by
  simp [isContinuation, UInt8.le_iff_toNat_le]
  omega

/-- What a second byte must be, in numbers. -/
theorem second_ofNat {first n : ℕ} (hfirst : first < 256) (hlow : first = 0xE0 → 32 ≤ n % 64)
    (hhigh : first = 0xED → n % 64 < 32) (hlow' : first = 0xF0 → 16 ≤ n % 64)
    (hhigh' : first = 0xF4 → n % 64 < 16) :
    (secondByteRange (UInt8.ofNat first)).1 ≤ UInt8.ofNat (n % 64 + 128) ∧
      UInt8.ofNat (n % 64 + 128) ≤ (secondByteRange (UInt8.ofNat first)).2 := by
  have hnat : ∀ k < 256, UInt8.ofNat first = UInt8.ofNat k ↔ first = k := by
    intro k hk
    rw [← UInt8.toNat_inj, UInt8.toNat_ofNat', UInt8.toNat_ofNat']
    omega
  have hE0 := hnat 0xE0 (by decide)
  have hED := hnat 0xED (by decide)
  have hF0 := hnat 0xF0 (by decide)
  have hF4 := hnat 0xF4 (by decide)
  unfold secondByteRange
  simp only [UInt8.le_iff_toNat_le, UInt8.toNat_ofNat']
  split_ifs with h1 h2 h3 h4 <;> simp <;> grind

/-- A lead byte announces its length. -/
theorem encodingLength_ofNat {n : ℕ} (hlow : 0xC2 ≤ n) (hhigh : n ≤ 0xF4) :
    encodingLength (UInt8.ofNat n) = if n ≤ 0xDF then 2 else if n ≤ 0xEF then 3 else 4 := by
  interval_cases n <;> rfl

/-- A lead byte and the bytes it announces. -/
theorem leadingLength_of_lead {first second : UInt8} {others : List UInt8} {n : ℕ}
    (hfirst : encodingLength first = n + 2)
    (hsecond : (secondByteRange first).1 ≤ second ∧ second ≤ (secondByteRange first).2)
    (hlength : n ≤ others.length) (hothers : (others.take n).all isContinuation = true) :
    leadingLength (first :: second :: others) = n + 2 := by
  simp only [leadingLength, hfirst]
  exact if_pos ⟨hsecond.1, hsecond.2, hlength, hothers⟩

/-- An encoded character is read as such. -/
theorem leadingLength_utf8EncodeChar (c : Char) (rest : List UInt8) :
    leadingLength (String.utf8EncodeChar c ++ rest) = (String.utf8EncodeChar c).length := by
  have hvalid : c.val.toNat < 0xd800 ∨ 0xdfff < c.val.toNat ∧ c.val.toNat < 0x110000 := c.valid
  unfold String.utf8EncodeChar
  generalize c.val.toNat = v at hvalid
  dsimp only
  split
  · have hfirst : encodingLength (UInt8.ofNat v) = 1 := by
      simp [encodingLength, UInt8.lt_iff_toNat_lt]
      omega
    simp [leadingLength, hfirst]
  · split
    · apply leadingLength_of_lead (n := 0)
      · rw [encodingLength_ofNat (by omega) (by omega), if_pos (by omega)]
      · exact second_ofNat (by omega) (by omega) (by omega) (by omega) (by omega)
      · exact Nat.zero_le _
      · rfl
    · split
      · apply leadingLength_of_lead (n := 1)
        · rw [encodingLength_ofNat (by omega) (by omega), if_neg (by omega), if_pos (by omega)]
        · exact second_ofNat (by omega) (by omega) (by omega) (by omega) (by omega)
        · exact Nat.succ_pos _
        · change (isContinuation _ && true) = true
          rw [isContinuation_ofNat, Bool.and_true]
      · apply leadingLength_of_lead (n := 2)
        · rw [encodingLength_ofNat (by omega) (by omega), if_neg (by omega), if_neg (by omega)]
        · exact second_ofNat (by omega) (by omega) (by omega) (by omega) (by omega)
        · simp
        · change (isContinuation _ && (isContinuation _ && true)) = true
          rw [isContinuation_ofNat, isContinuation_ofNat, Bool.and_true, Bool.and_true]

/-- An encoded character stays. -/
theorem repair_utf8EncodeChar (c : Char) (rest : List UInt8) :
    repair (String.utf8EncodeChar c ++ rest) = String.utf8EncodeChar c ++ repair rest := by
  have hlength := leadingLength_utf8EncodeChar c rest
  cases hbytes : String.utf8EncodeChar c with
  | nil => exact absurd hbytes (by simp)
  | cons b front =>
      rw [hbytes] at hlength
      have hrepair : repair (b :: front ++ rest) =
          b :: repairFrom front.length (front ++ rest) := by
        rw [List.cons_append] at hlength ⊢
        rw [repair, repairFrom, hlength]
        rfl
      rw [hrepair, repairFrom_append]
      rfl

/-- The bytes of a string are those of its characters. -/
theorem toUTF8_eq (s : String) : s.toUTF8.toList = s.toList.flatMap String.utf8EncodeChar := by
  rw [toList_eq]
  have h := String.utf8Encode_toList (b := s)
  have h2 := congrArg (fun b => b.data.toList) h
  simpa [List.utf8Encode] using h2.symm

/-- The bytes of a string need no replacement. -/
theorem repair_toUTF8 (s : String) : repair s.toUTF8.toList = s.toUTF8.toList := by
  rw [toUTF8_eq]
  induction s.toList with
  | nil => rfl
  | cons c chars ih => rw [List.flatMap_cons, repair_utf8EncodeChar, ih]

end Bytes
