import MizanSDK.Library.JsonText
import MizanSDK.Library.Bytes
import Mathlib.Data.List.AList
import Mathlib.Tactic

/-!
# The Go standard library as the SDK uses it

Headers, response bodies, path escaping, identifiers and the untyped side of
`encoding/json`, each as the SDK's client and webhook receiver call it.

Main results:

- Theorem `Header.get?_set`: reading a header after setting one compares the
  canonical spellings of the two names.
- Theorem `newID_ne_empty`: a generated identifier is never empty.
- Theorem `readAll_complete`: a body that ends properly is read up to the bound.
-/

namespace MizanSDK.Go

open JsonText Bytes

/-- A Go `error` value the SDK does not look into, known by its text. -/
structure GoError where
  message : String
deriving DecidableEq

/-! ## Headers -/

/-- `http.Header`: canonical or foreign spellings of names, each with its values. -/
abbrev Header := AList fun _ : String => List String

/-- The bytes `net/textproto` admits in a field name. -/
def validHeaderFieldByte (c : Char) : Bool :=
  c.isAlphanum || "!#$%&'*+-.^_`|~".toList.contains c

/-- Upper-case the first letter and every letter after a hyphen, lower-case the
rest. -/
def canonicalLetters (upper : Bool) : List Char → List Char
  | [] => []
  | c :: rest => (if upper then c.toUpper else c.toLower) :: canonicalLetters (c == '-') rest

/-- `textproto.CanonicalMIMEHeaderKey`: names with a byte that no field name
may contain are left as they are. -/
def canonicalMIMEHeaderKey (name : String) : String :=
  if name.toList.all validHeaderFieldByte then
    String.ofList (canonicalLetters true name.toList)
  else name

/-- The first value stored under a name, if any. -/
def Header.get? (h : Header) (name : String) : Option String :=
  (h.lookup (canonicalMIMEHeaderKey name)).bind List.head?

/-- `Header.Get`: the first value stored under a name, or the empty string. -/
def Header.get (h : Header) (name : String) : String := (h.get? name).getD ""

/-- `Header.Set`: replace all values of a name. -/
def Header.set (h : Header) (name value : String) : Header :=
  h.insert (canonicalMIMEHeaderKey name) [value]

/-- `Header.Del`: remove all values of a name. -/
def Header.del (h : Header) (name : String) : Header :=
  h.erase (canonicalMIMEHeaderKey name)

/-- Reading after `Header.Set` compares canonical names. -/
theorem Header.get?_set (h : Header) (name value other : String) :
    (h.set name value).get? other =
      if canonicalMIMEHeaderKey other = canonicalMIMEHeaderKey name then some value
      else h.get? other := by
  unfold Header.get? Header.set
  split <;> rename_i hname
  · rw [hname]
    simp
  · rw [AList.lookup_insert_ne hname]

/-- A header that was just set reads back. -/
theorem Header.get?_set_self (h : Header) (name value : String) :
    (h.set name value).get? name = some value := by
  simp [Header.get?_set]

/-- Setting a header leaves the headers with another canonical name alone. -/
theorem Header.get?_set_of_ne {name other : String}
    (hne : canonicalMIMEHeaderKey other ≠ canonicalMIMEHeaderKey name)
    (h : Header) (value : String) : (h.set name value).get? other = h.get? other := by
  simp [Header.get?_set, hne]

/-! ## Response bodies -/

/-- A body as the network delivers it: its bytes, and the error that cuts it
off unless it ends properly. -/
structure BodyStream where
  bytes : List UInt8
  failure : Option GoError

/-- `io.ReadAll(io.LimitReader(body, limit))`: a failure behind the limit is
never met. -/
def readAll (limit : ℕ) (body : BodyStream) : Except GoError (List UInt8) :=
  if limit ≤ body.bytes.length then .ok (body.bytes.take limit)
  else
    match body.failure with
    | some err => .error err
    | none => .ok body.bytes

/-- A body that ends properly is read in full, or up to the bound. -/
@[simp] theorem readAll_complete (limit : ℕ) (bytes : List UInt8) :
    readAll limit ⟨bytes, none⟩ = .ok (bytes.take limit) := by
  unfold readAll
  split
  · rfl
  · rename_i hlt
    simp [List.take_of_length_le (Nat.le_of_lt (Nat.lt_of_not_le hlt))]

/-! ## Untyped JSON values -/

/-- A value `encoding/json` stores in an `any`.  A number is the float64
nearest to its literal; in a map a later entry of a name replaces the earlier
ones. -/
inductive GoAny where
  | nil
  | bool (b : Bool)
  | float64 (literal : Number)
  | string (s : String)
  | slice (items : List GoAny)
  | map (entries : List (String × GoAny))

/-- A decoded `map[string]any`. -/
abbrev GoMap := List (String × GoAny)

mutual

/-- Decode a document into an `any`.  A number beyond the float64 range is an
`UnmarshalTypeError`, and the decoder reports it for the whole document. -/
def decodeAny : Json → Option GoAny
  | .null => some .nil
  | .bool b => some (.bool b)
  | .number n => if n.overflowsBinary64 then none else some (.float64 n)
  | .string t => some (.string t.toScalars)
  | .array items => (decodeItems items).map .slice
  | .object members => (decodeMembers members).map .map

/-- Decode the items of an array. -/
def decodeItems : List Json → Option (List GoAny)
  | [] => some []
  | item :: rest =>
      match decodeAny item, decodeItems rest with
      | some v, some vs => some (v :: vs)
      | _, _ => none

/-- Decode the members of an object. -/
def decodeMembers : List (Text × Json) → Option GoMap
  | [] => some []
  | (name, value) :: rest =>
      match decodeAny value, decodeMembers rest with
      | some v, some vs => some ((name.toScalars, v) :: vs)
      | _, _ => none

end

/-- The parser of `encoding/json`: the document a byte string spells, if it is
valid JSON. -/
abbrev JsonParser := List UInt8 → Option Json

/-- `json.Unmarshal(raw, &result)` for a nil `result map[string]any`.  `none`
is an error or a map that is still nil, as it is after the document `null`. -/
def unmarshalMap (parse : JsonParser) (raw : List UInt8) : Option GoMap :=
  match parse raw with
  | some (.object members) => decodeMembers members
  | _ => none

/-- Every member of an object that decodes does. -/
theorem decodeAny_of_mem {members : List (Text × Json)} {result : GoMap}
    (hdecode : decodeMembers members = some result) {name : Text} {value : Json}
    (hmem : (name, value) ∈ members) : (decodeAny value).isSome = true := by
  induction members generalizing result with
  | nil => simp at hmem
  | cons head rest ih =>
      obtain ⟨key, value'⟩ := head
      rw [decodeMembers] at hdecode
      cases hvalue : decodeAny value' with
      | none => simp [hvalue] at hdecode
      | some v =>
          cases hrest : decodeMembers rest with
          | none => simp [hvalue, hrest] at hdecode
          | some vs =>
              rcases List.mem_cons.mp hmem with hhead | htail
              · obtain ⟨rfl, rfl⟩ : name = key ∧ value = value' := by simpa using hhead
                simp [hvalue]
              · exact ih hrest htail

/-- Decoding keeps every member, and a later one of a name still hides the
earlier ones. -/
theorem lookupLast_decodeMembers {members : List (Text × Json)} {result : GoMap}
    (hdecode : decodeMembers members = some result) {name : String}
    (hname : '\uFFFD' ∉ name.toList) :
    lookupLast result name = (lookupLast members (Text.ofString name)).bind decodeAny := by
  induction members generalizing result with
  | nil =>
      obtain rfl : [] = result := by simpa [decodeMembers] using hdecode
      rfl
  | cons head rest ih =>
      obtain ⟨key, value⟩ := head
      rw [decodeMembers] at hdecode
      cases hvalue : decodeAny value with
      | none => simp [hvalue] at hdecode
      | some v =>
          cases hrest : decodeMembers rest with
          | none => simp [hvalue, hrest] at hdecode
          | some vs =>
              obtain rfl : (key.toScalars, v) :: vs = result := by
                simpa [hvalue, hrest] using hdecode
              rw [lookupLast_cons, lookupLast_cons, ih hrest]
              have hkey : key.toScalars = name ↔ _ := Text.toScalars_eq_iff hname
              cases hfound : lookupLast rest (Text.ofString name) with
              | none =>
                  by_cases hsame : key = Text.ofString name
                  · simp [hsame, hvalue]
                  · simp [mt hkey.mp hsame, hsame]
              | some later =>
                  -- The later member decodes, so it hides this one on both sides.
                  have hlater : (decodeAny later).isSome = true :=
                    decodeAny_of_mem hrest (mem_of_lookupLast hfound)
                  obtain ⟨w, hw⟩ := Option.isSome_iff_exists.mp hlater
                  simp [hw]

/-! ## Identifiers and escaping -/

/-- What one call of `newID` takes from the clock and the random source. -/
structure IDSeed where
  unixNano : ℤ
  random : UInt64

/-- The hexadecimal digits of a number, padded to a width. -/
def paddedHex (width value : ℕ) : List Char := (Nat.toDigits 16 value).leftpad width '0'

/-- `fmt.Sprintf("%016x", value)`. -/
def hex16 (value : UInt64) : String := String.ofList (paddedHex 16 value.toNat)

/-- `newID`: wall-clock nanoseconds and a random word. -/
def newID (seed : IDSeed) : String := toString seed.unixNano ++ "-" ++ hex16 seed.random

/-- A generated identifier is never empty. -/
theorem newID_ne_empty (seed : IDSeed) : newID seed ≠ "" := by
  simp [newID]

/-- The bytes `url.PathEscape` keeps: the unreserved ones and `$ & + : = @`. -/
def pathSegmentByte (b : UInt8) : Bool :=
  let c := Char.ofNat b.toNat
  b.toNat < 128 && (c.isAlphanum || "-_.~$&+:=@".toList.contains c)

/-- Write one byte of a path segment. -/
def escapeByte (b : UInt8) : List Char :=
  if pathSegmentByte b then [Char.ofNat b.toNat]
  else ['%', upperDigit (b.toNat / 16), upperDigit (b.toNat % 16)]

/-- `url.PathEscape`. -/
def pathEscape (s : String) : String :=
  String.ofList (s.toUTF8.toList.flatMap escapeByte)

/-- Write one byte of a query component: a space becomes a plus sign. -/
def queryEscapeByte (b : UInt8) : List Char :=
  let c := Char.ofNat b.toNat
  if b.toNat < 128 && (c.isAlphanum || "-_.~".toList.contains c) then [c]
  else if c == ' ' then ['+']
  else ['%', upperDigit (b.toNat / 16), upperDigit (b.toNat % 16)]

/-- `url.QueryEscape`. -/
def queryEscape (s : String) : String :=
  String.ofList (s.toUTF8.toList.flatMap queryEscapeByte)

/-- `url.Values.Encode` for single-valued keys that are given in sorted order. -/
def encodeValues (values : List (String × String)) : String :=
  "&".intercalate (values.map fun kv => queryEscape kv.1 ++ "=" ++ queryEscape kv.2)

/-! ## Text -/

/-- The characters below U+0020 that have an escape of their own. -/
def namedEscapes : List (Char × Char) :=
  [('\u0007', 'a'), ('\u0008', 'b'), ('\u000C', 'f'), ('\n', 'n'), ('\r', 'r'), ('\t', 't'),
    ('\u000B', 'v')]

/-- Write one character as `%q` of `fmt` does, for the table of `strconv.IsPrint`. -/
def quoteRune (isPrint : Char → Bool) (r : Char) : List Char :=
  if r = '\u0022' ∨ r = '\\' then ['\\', r]
  else if isPrint r then [r]
  else
    match namedEscapes.lookup r with
    | some letter => ['\\', letter]
    | none =>
        if r.toNat < 32 ∨ r.toNat = 127 then '\\' :: 'x' :: paddedHex 2 r.toNat
        else if r.toNat < 65536 then '\\' :: 'u' :: paddedHex 4 r.toNat
        else '\\' :: 'U' :: paddedHex 8 r.toNat

/-- `fmt.Sprintf("%q", s)`. -/
def quote (isPrint : Char → Bool) (s : String) : String :=
  String.ofList ('\u0022' :: s.toList.flatMap (quoteRune isPrint) ++ ['\u0022'])

example : quote Char.isAlphanum "shop\t\u00AD" = "\"shop\\t\\u00ad\"" := by decide +kernel

/-- `unicode.IsSpace`. -/
def isSpace (c : Char) : Bool :=
  let n := c.toNat
  (9 ≤ n && n ≤ 13) || n == 0x20 || n == 0x85 || n == 0xA0 || n == 0x1680 ||
    (0x2000 ≤ n && n ≤ 0x200A) || n == 0x2028 || n == 0x2029 || n == 0x202F ||
    n == 0x205F || n == 0x3000

/-- `strings.TrimSpace`. -/
def trimSpace (s : String) : String :=
  String.ofList (((s.toList.dropWhile isSpace).reverse.dropWhile isSpace).reverse)

end MizanSDK.Go
