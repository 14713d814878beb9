import MizanSDK.Library.Bytes
import Mathlib.Data.List.Basic
import Mathlib.Tactic

/-!
# Queries of URLs

A query is a list of fields, the way HTML forms are sent: `&` stands between the fields,
`=` between the name of a field and its value, `+` for a space, and other bytes may be
percent escapes.

Main results:

- Theorem `formDecode_encode`: a component is decoded to what was encoded.
- Theorem `fields_encodeFields`: a query is decoded to the fields that were encoded.
- Theorem `formDecode_formEscape`: the encoder of forms can be decoded.
- Theorems `queryOf_append`, `queryOf_queryless` and `queryOf_cons`: where the query of a URL
  stands.
-/

namespace FormQuery

open Bytes

/-! ## Decoding -/

/-- A plus sign is a space. -/
def plusToSpace (c : Char) : Char := if c = '+' then ' ' else c

/-- Decode a name or a value. -/
def formDecode (text : List Char) : Option (List UInt8) := percentDecode (text.map plusToSpace)

/-- What stands before and behind the first `=`; without one there is no value. -/
def cutField (field : List Char) : List Char × List Char :=
  (field.takeWhile (· ≠ '='), (field.dropWhile (· ≠ '=')).drop 1)

/-- A field of a query. -/
def decodeField (field : List Char) : Option (List UInt8 × List UInt8) := do
  let name ← formDecode (cutField field).1
  let value ← formDecode (cutField field).2
  return (name, value)

/-- The fields of a query; an empty one has none. -/
def fields (query : List Char) : Option (List (List UInt8 × List UInt8)) :=
  if query = [] then some [] else (query.splitOn '&').mapM decodeField

/-- The query of a URL: what stands behind its first question mark, up to the fragment. -/
def queryOf (url : List Char) : List Char :=
  ((url.takeWhile (· ≠ '#')).dropWhile (· ≠ '?')).drop 1

/-! ## Encoders -/

/-- A way of writing the bytes of names and values that can be decoded, and in which the
delimiters of queries do not occur. -/
structure Encoder where
  escape : UInt8 → List Char
  decodes : ∀ b rest, formDecode (escape b ++ rest) = (formDecode rest).map (b :: ·)
  plain : ∀ b, ∀ c ∈ escape b, c ∉ ['&', '=', '?', '#']

section Encoder

variable (e : Encoder)

/-- Encode a name or a value. -/
def Encoder.encode (bytes : List UInt8) : List Char := bytes.flatMap e.escape

/-- Encode a field. -/
def Encoder.encodeField (field : List UInt8 × List UInt8) : List Char :=
  e.encode field.1 ++ '=' :: e.encode field.2

/-- Encode the fields of a query. -/
def Encoder.encodeFields (fields : List (List UInt8 × List UInt8)) : List Char :=
  ['&'].intercalate (fields.map e.encodeField)

/-- A component is decoded to what was encoded. -/
theorem formDecode_encode (bytes : List UInt8) : formDecode (e.encode bytes) = some bytes := by
  induction bytes with
  | nil => rfl
  | cons b bytes ih =>
      rw [Encoder.encode, List.flatMap_cons, e.decodes]
      rw [Encoder.encode] at ih
      rw [ih, Option.map_some]

/-- No delimiter occurs in what is encoded. -/
theorem plain_encode {bytes : List UInt8} {c : Char} (h : c ∈ e.encode bytes) :
    c ∉ ['&', '=', '?', '#'] := by
  rw [Encoder.encode, List.mem_flatMap] at h
  rcases h with ⟨b, -, hc⟩
  exact e.plain b c hc

/-- A field is cut between its name and its value. -/
theorem cutField_append {name : List Char} (hname : ∀ c ∈ name, c ≠ '=') (value : List Char) :
    cutField (name ++ '=' :: value) = (name, value) := by
  have hkeep : ∀ c ∈ name, decide (c ≠ '=') = true := fun c hc => decide_eq_true (hname c hc)
  rw [cutField, List.takeWhile_append_of_pos hkeep, List.dropWhile_append_of_pos hkeep]
  simp

/-- A field is decoded to what was encoded. -/
theorem decodeField_encodeField (field : List UInt8 × List UInt8) :
    decodeField (e.encodeField field) = some field := by
  have hname : ∀ c ∈ e.encode field.1, c ≠ '=' := by
    rintro c hc rfl
    exact plain_encode e hc (by simp)
  rw [decodeField, Encoder.encodeField, cutField_append hname, formDecode_encode,
    formDecode_encode]
  rfl

/-- A field has at least its equals sign. -/
theorem encodeField_ne_nil (field : List UInt8 × List UInt8) : e.encodeField field ≠ [] := by
  rw [Encoder.encodeField]
  exact List.append_ne_nil_of_right_ne_nil _ (List.cons_ne_nil _ _)

/-- The delimiter of fields occurs in none of them. -/
theorem ampersand_notMem_encodeField (field : List UInt8 × List UInt8) :
    '&' ∉ e.encodeField field := by
  rw [Encoder.encodeField, List.mem_append, List.mem_cons]
  rintro (hname | heq | hvalue)
  · exact plain_encode e hname (by simp)
  · revert heq
    decide
  · exact plain_encode e hvalue (by simp)

/-- Text that the encoder leaves alone is its own encoding. -/
theorem encode_kept {s : String}
    (h : ∀ c ∈ s.toList, c.toNat < 128 ∧ e.escape (UInt8.ofNat c.toNat) = [c]) :
    e.encode s.toUTF8.toList = s.toList := by
  rw [toUTF8_eq]
  generalize s.toList = text at h ⊢
  induction text with
  | nil => rfl
  | cons c text ih =>
      have hc := h c List.mem_cons_self
      have hbyte : String.utf8EncodeChar c = [UInt8.ofNat c.toNat] := by
        rw [String.utf8EncodeChar.eq_def, if_pos (by change c.toNat ≤ 127; omega)]
        rfl
      rw [Encoder.encode] at ih
      rw [Encoder.encode, List.flatMap_cons, hbyte, List.singleton_append, List.flatMap_cons,
        hc.2, List.singleton_append, ih fun d hd => h d (List.mem_cons_of_mem _ hd)]

/-- A query is decoded to the fields that were encoded. -/
theorem fields_encodeFields (pairs : List (List UInt8 × List UInt8)) :
    fields (e.encodeFields pairs) = some pairs := by
  cases pairs with
  | nil => rfl
  | cons pair pairs =>
      have hsome : e.encodeFields (pair :: pairs) ≠ [] := by
        rw [Encoder.encodeFields, List.map_cons]
        cases pairs with
        | nil => simpa using encodeField_ne_nil e pair
        | cons other rest =>
            rw [List.map_cons, List.intercalate_cons_cons]
            simp [encodeField_ne_nil e pair]
      have hfields : ∀ field ∈ (pair :: pairs).map e.encodeField, '&' ∉ field := by
        intro field hfield
        rcases List.mem_map.mp hfield with ⟨p, -, rfl⟩
        exact ampersand_notMem_encodeField e p
      rw [fields, if_neg hsome, Encoder.encodeFields,
        List.splitOn_intercalate '&' hfields (by simp)]
      generalize pair :: pairs = all
      induction all with
      | nil => rfl
      | cons p all ih =>
          rw [List.map_cons, List.mapM_cons, decodeField_encodeField, ih]
          rfl

end Encoder

/-! ## The encoder of forms -/

/-- The bytes that stand for themselves. -/
def unreserved (b : UInt8) : Bool :=
  b.toNat < 128 && ((Char.ofNat b.toNat).isAlphanum ||
    "-_.~".toList.contains (Char.ofNat b.toNat))

/-- Write one byte: an unreserved one as it is, a space as a plus sign, and any other one
as an escape. -/
def formEscape (b : UInt8) : List Char :=
  if unreserved b then [Char.ofNat b.toNat]
  else if b = 32 then ['+']
  else ['%', upperDigit (b.toNat / 16), upperDigit (b.toNat % 16)]

/-- What holds of every pair of hexadecimal digits holds of all bytes. -/
theorem forall_byte {p : UInt8 → Prop}
    (h : ∀ high low : Fin 16, p (UInt8.ofNat (16 * high + low))) (b : UInt8) : p b := by
  have hb : b.toNat < 256 := b.toNat_lt
  have hdigits := h ⟨b.toNat / 16, by omega⟩ ⟨b.toNat % 16, by omega⟩
  have hsum : 16 * (b.toNat / 16) + b.toNat % 16 = b.toNat := Nat.div_add_mod _ _
  dsimp only at hdigits
  rwa [hsum, UInt8.ofNat_toNat] at hdigits

/-- An unreserved byte is no percent sign and no plus sign. -/
theorem unreserved_plain (b : UInt8) : unreserved b = true →
    Char.ofNat b.toNat ≠ '%' ∧ plusToSpace (Char.ofNat b.toNat) = Char.ofNat b.toNat := by
  revert b
  exact forall_byte (by decide +kernel)

/-- A digit of an escape is no plus sign. -/
theorem plusToSpace_upperDigit {d : ℕ} (h : d < 16) :
    plusToSpace (upperDigit d) = upperDigit d := by
  interval_cases d <;> decide

/-- Decoding what was written for a byte gives back the byte. -/
theorem formDecode_formEscape (b : UInt8) (rest : List Char) :
    formDecode (formEscape b ++ rest) = (formDecode rest).map (b :: ·) := by
  have hb : b.toNat < 256 := b.toNat_lt
  rw [formDecode, formDecode, formEscape, List.map_append]
  split
  · rename_i hkept
    have hplain := unreserved_plain b hkept
    rw [unreserved, Bool.and_eq_true, decide_eq_true_eq] at hkept
    rw [List.map_singleton, hplain.2]
    exact percentDecode_ascii hkept.1 hplain.1 _
  · split
    · rename_i hspace
      rw [hspace]
      exact percentDecode_cons (by decide) _
    · rw [List.map_cons, List.map_cons, List.map_singleton, plusToSpace_upperDigit (by omega),
        plusToSpace_upperDigit (by omega)]
      exact percentDecode_escape b _

/-- What is written for a byte contains no delimiter. -/
theorem formEscape_plain (b : UInt8) : ∀ c ∈ formEscape b, c ∉ ['&', '=', '?', '#'] := by
  have hall : ∀ b, (formEscape b).all (fun c => decide (c ∉ ['&', '=', '?', '#'])) = true :=
    forall_byte (by decide +kernel)
  intro c hc
  exact of_decide_eq_true (List.all_eq_true.mp (hall b) c hc)

/-- The encoder of forms. -/
def formEncoder : Encoder where
  escape := formEscape
  decodes := formDecode_formEscape
  plain := formEscape_plain

/-- Digits and the minus sign stand for themselves. -/
theorem formEscape_numeral {c : Char} (h : c = '-' ∨ ('0' ≤ c ∧ c ≤ '9')) :
    c.toNat < 128 ∧ formEncoder.escape (UInt8.ofNat c.toNat) = [c] := by
  rcases h with rfl | ⟨hlow, hhigh⟩
  · decide
  · have hchar := Char.ofNat_toNat c
    have hl : 48 ≤ c.toNat := hlow
    have hh : c.toNat ≤ 57 := hhigh
    generalize c.toNat = n at hchar hl hh
    rw [← hchar]
    interval_cases n <;> decide

/-! ## Where a query stands -/

/-- Text in which no query and no fragment begins. -/
def Queryless (text : List Char) : Prop := '?' ∉ text ∧ '#' ∉ text

instance (text : List Char) : Decidable (Queryless text) := inferInstanceAs (Decidable (_ ∧ _))

/-- Two pieces of such text make one. -/
theorem Queryless.append {front back : List Char} (hfront : Queryless front)
    (hback : Queryless back) :
    Queryless (front ++ back) := by
  rw [Queryless, List.mem_append, List.mem_append, not_or, not_or]
  exact ⟨⟨hfront.1, hback.1⟩, ⟨hfront.2, hback.2⟩⟩

/-- Bytes are written in such text if each of them is. -/
theorem queryless_flatMap {escape : UInt8 → List Char} (h : ∀ b, Queryless (escape b))
    (bytes : List UInt8) : Queryless (bytes.flatMap escape) := by
  induction bytes with
  | nil => exact ⟨List.not_mem_nil, List.not_mem_nil⟩
  | cons b bytes ih =>
      rw [List.flatMap_cons]
      exact (h b).append ih

/-- Text without the character at which a URL is cut is kept whole. -/
theorem keeps_of_notMem {c : Char} {text : List Char} (h : c ∉ text) :
    ∀ d ∈ text, decide (d ≠ c) = true := by
  intro d hd
  rw [decide_eq_true_eq]
  rintro rfl
  exact h hd

/-- Such text in front does not matter to the query. -/
theorem queryOf_append {text : List Char} (htext : Queryless text) (rest : List Char) :
    queryOf (text ++ rest) = queryOf rest := by
  rw [queryOf, List.takeWhile_append_of_pos (keeps_of_notMem htext.2),
    List.dropWhile_append_of_pos (keeps_of_notMem htext.1), queryOf]

/-- Such text has no query. -/
theorem queryOf_queryless {text : List Char} (htext : Queryless text) : queryOf text = [] := by
  have hnone := queryOf_append htext []
  rwa [List.append_nil] at hnone

/-- What stands behind the question mark is the query, unless a fragment begins in it. -/
theorem queryOf_cons {query : List Char} (h : '#' ∉ query) : queryOf ('?' :: query) = query := by
  have hkeep : query.takeWhile (· ≠ '#') = query :=
    List.takeWhile_eq_self_iff.mpr (keeps_of_notMem h)
  rw [queryOf, List.takeWhile_cons_of_pos (by decide), hkeep,
    List.dropWhile_cons_of_neg (by decide), List.drop_one, List.tail_cons]

/-- No query and no fragment begins in encoded fields. -/
theorem queryless_encodeFields (e : Encoder) (pairs : List (List UInt8 × List UInt8)) :
    Queryless (e.encodeFields pairs) := by
  have hfield : ∀ pair, Queryless (e.encodeField pair) := by
    intro pair
    have hencode : ∀ bytes, Queryless (e.encode bytes) := fun bytes =>
      ⟨fun h => plain_encode e h (by simp), fun h => plain_encode e h (by simp)⟩
    have hequals : Queryless ['='] := by decide
    exact (hencode _).append (hequals.append (hencode _))
  rw [Encoder.encodeFields]
  induction pairs with
  | nil => exact ⟨List.not_mem_nil, List.not_mem_nil⟩
  | cons pair pairs ih =>
      cases pairs with
      | nil => simpa using hfield pair
      | cons other rest =>
          rw [List.map_cons, List.map_cons, List.intercalate_cons_cons]
          exact ((hfield pair).append (by decide)).append ih

end FormQuery
