import MizanSDK.Library.JsonText
import MizanSDK.Library.Bytes

/-!
# Python values as the SDK meets them

The values `json.loads` returns, with the operations of the language the SDK
applies to values of any type: truth, hashing, the conversion `dict(x or {})`,
UTF-8 encoding and URL quoting.

Main results:

- Theorem `dictOf_isOk_iff`: which values `dict(x or {})` accepts.
- Theorem `PyValue.get_ofJson`: reading a member of a decoded object.
- Theorem `overflowsFloat_pow_iff`: which powers of two are too large for a float.
-/

namespace MizanSDK.Python

open JsonText Bytes

/-! ## Values -/

/-- A `str`: its code points, lone surrogates included. -/
abbrev PyStr := Text

/-- A `float` as `json.loads` makes it: the double nearest to a literal, or one
of the constants that are no JSON. -/
inductive PyFloat where
  | nearest (literal : Number)
  | nan
  | infinity (negative : Bool)

/-- A Python value.  A `dict` is given by its assignments in order; a later one
replaces an earlier one of the same key. -/
inductive PyValue where
  | none
  | bool (b : Bool)
  | int (n : ℤ)
  | float (f : PyFloat)
  | str (s : PyStr)
  | list (items : List PyValue)
  | dict (entries : List (PyStr × PyValue))

/-- A `dict` with string keys. -/
abbrev PyDict := List (PyStr × PyValue)

/-- `d.get(name)`, with no value for a missing key. -/
def PyDict.get (d : PyDict) (name : String) : Option PyValue :=
  lookupLast d (Text.ofString name)

/-- `name in d`. -/
def PyDict.has (d : PyDict) (name : String) : Bool := (d.get name).isSome

/-- A part of a message: literal text, or the `repr` of a string. -/
inductive Fragment where
  | text (s : String)
  | repr (s : PyStr)
deriving DecidableEq

/-- The exceptions of the language that the SDK raises or lets through. -/
inductive PyError where
  | typeError
  | valueError (message : List Fragment)
  | keyError (name : String)
  | overflowError
  | unicodeEncodeError
deriving DecidableEq

mutual

/-- The value `json.loads` returns for a document. -/
def PyValue.ofJson : Json → PyValue
  | .null => .none
  | .bool b => .bool b
  | .number (.integer negative digits) => .int (signed negative digits)
  | .number literal => .float (.nearest literal)
  | .string t => .str t
  | .array items => .list (PyValue.ofItems items)
  | .object members => .dict (PyValue.ofMembers members)

/-- The list of an array. -/
def PyValue.ofItems : List Json → List PyValue
  | [] => []
  | item :: rest => PyValue.ofJson item :: PyValue.ofItems rest

/-- The dictionary of an object. -/
def PyValue.ofMembers : List (Text × Json) → PyDict
  | [] => []
  | (name, value) :: rest => (name, PyValue.ofJson value) :: PyValue.ofMembers rest

end

theorem PyValue.ofMembers_eq_map (members : List (Text × Json)) :
    PyValue.ofMembers members = members.map fun m => (m.1, PyValue.ofJson m.2) := by
  induction members with
  | nil => rfl
  | cons head rest ih => simp [PyValue.ofMembers, ih]

theorem PyValue.ofItems_eq_map (items : List Json) :
    PyValue.ofItems items = items.map PyValue.ofJson := by
  induction items with
  | nil => rfl
  | cons head rest ih => simp [PyValue.ofItems, ih]

/-- A member of a decoded object is the decoded member. -/
theorem PyValue.get_ofJson (members : List (Text × Json)) (name : String) :
    PyDict.get (PyValue.ofMembers members) name =
      (lookupLast members (Text.ofString name)).map PyValue.ofJson := by
  rw [PyValue.ofMembers_eq_map]
  exact lookupLast_map PyValue.ofJson members (Text.ofString name)

/-! ## The kind of a decoded value -/

/-- Only text is decoded to text. -/
theorem PyValue.ofJson_eq_str_iff (json : Json) (t : Text) :
    PyValue.ofJson json = .str t ↔ json = .string t := by
  cases json with
  | number literal => cases literal <;> simp [PyValue.ofJson]
  | _ => simp [PyValue.ofJson]

theorem PyValue.ofJson_eq_dict_iff (json : Json) (d : PyDict) :
    PyValue.ofJson json = .dict d ↔
      ∃ inner, json = .object inner ∧ PyValue.ofMembers inner = d := by
  cases json with
  | number literal => cases literal <;> simp [PyValue.ofJson]
  | _ => simp [PyValue.ofJson]

theorem PyValue.ofJson_eq_list_iff (json : Json) (items : List PyValue) :
    PyValue.ofJson json = .list items ↔
      ∃ inner, json = .array inner ∧ PyValue.ofItems inner = items := by
  cases json with
  | number literal => cases literal <;> simp [PyValue.ofJson]
  | _ => simp [PyValue.ofJson]

theorem PyValue.ofJson_eq_int_iff (json : Json) (n : ℤ) :
    PyValue.ofJson json = .int n ↔
      ∃ negative digits, json = .number (.integer negative digits) ∧
        signed negative digits = n := by
  cases json with
  | number literal => cases literal <;> simp [PyValue.ofJson]
  | _ => simp [PyValue.ofJson]

/-! ## Truth and hashing -/

/-- `bool(x)` of a float: everything but a zero. -/
def PyFloat.truthy : PyFloat → Bool
  | .nearest literal => !literal.vanishesBinary64
  | .nan => true
  | .infinity _ => true

/-- `bool(x)`. -/
def PyValue.truthy : PyValue → Bool
  | .none => false
  | .bool b => b
  | .int n => n != 0
  | .float f => f.truthy
  | .str s => !s.isEmpty
  | .list items => !items.isEmpty
  | .dict entries => !entries.isEmpty

/-- Whether `hash(x)` returns: lists and dictionaries have no hash. -/
def PyValue.hashable : PyValue → Bool
  | .list _ => false
  | .dict _ => false
  | _ => true

/-! ## `dict(x or {})` -/

/-- The keys of a dictionary in the order of their first assignment. -/
def PyDict.keys (d : PyDict) : List PyStr := (d.map Prod.fst).reverse.dedup.reverse

/-- The items iteration over a value yields; `none` for values that are not
iterable. -/
def PyValue.iterate : PyValue → Option (List PyValue)
  | .str s => some (s.map fun c => .str [c])
  | .list items => some items
  | .dict entries => some ((PyDict.keys entries).map .str)
  | _ => Option.none

/-- Element `index` of an update sequence: a pair whose first half is a key. -/
def pairOf (index : ℕ) (element : PyValue) : Except PyError (PyValue × PyValue) :=
  match element.iterate with
  | some [key, value] => if key.hashable then .ok (key, value) else .error .typeError
  | some parts =>
      .error (.valueError [.text ("dictionary update sequence element #" ++ toString index ++
        " has length " ++ toString parts.length ++ "; 2 is required")])
  | Option.none => .error .typeError

/-- The elements of an update sequence from element `index` on. -/
def pairsOf (index : ℕ) : List PyValue → Except PyError (List (PyValue × PyValue))
  | [] => .ok []
  | element :: rest => do
      let pair ← pairOf index element
      let pairs ← pairsOf (index + 1) rest
      return pair :: pairs

/-- `dict(x or {})`.  The keys of the result may be of any hashable type. -/
def dictOf (v : PyValue) : Except PyError (List (PyValue × PyValue)) :=
  if v.truthy then
    match v with
    | .dict entries => .ok (entries.map fun e => (.str e.1, e.2))
    | _ =>
        match v.iterate with
        | some elements => pairsOf 0 elements
        | Option.none => .error .typeError
  else .ok []

/-- An element `dict` accepts: it has two parts, and the first can be a key. -/
def PyValue.IsPair (element : PyValue) : Prop :=
  ∃ key value, element.iterate = some [key, value] ∧ key.hashable = true

theorem pairOf_isOk_iff (index : ℕ) (element : PyValue) :
    (∃ pair, pairOf index element = .ok pair) ↔ element.IsPair := by
  unfold pairOf PyValue.IsPair
  -- Of the possible numbers of parts only two can make a pair.
  rcases element.iterate with _ | _ | ⟨key, _ | ⟨value, _ | ⟨third, rest⟩⟩⟩
  · simp
  · simp
  · simp
  · by_cases hhash : key.hashable = true
    · simp [hhash]
    · simp [hhash]
  · simp

theorem pairsOf_isOk_iff (index : ℕ) (elements : List PyValue) :
    (∃ pairs, pairsOf index elements = .ok pairs) ↔
      ∀ element ∈ elements, element.IsPair := by
  induction elements generalizing index with
  | nil => simp [pairsOf]
  | cons element rest ih =>
      rw [List.forall_mem_cons, ← ih (index + 1), ← pairOf_isOk_iff index]
      simp only [pairsOf]
      cases pairOf index element with
      | error err => simp [bind, Except.bind]
      | ok pair =>
          cases pairsOf (index + 1) rest <;> simp [bind, Except.bind, pure, Except.pure]

/-- `dict(x or {})` accepts what is false, dictionaries, and lists and strings
that consist of pairs. -/
theorem dictOf_isOk_iff (v : PyValue) :
    (∃ pairs, dictOf v = .ok pairs) ↔
      v.truthy = false ∨ (∃ entries, v = .dict entries) ∨
        ∃ elements, v.iterate = some elements ∧ ∀ element ∈ elements, element.IsPair := by
  unfold dictOf
  cases htruthy : v.truthy with
  | false => simp
  | true =>
      simp only [if_true, Bool.true_eq_false, false_or]
      cases v with
      | dict entries => simp
      | list items => simp [PyValue.iterate, pairsOf_isOk_iff]
      | str s => simp [PyValue.iterate, ← pairsOf_isOk_iff 0]
      | _ => simp [PyValue.iterate]

/-! ## Numbers -/

/-- The exponent of the largest finite floats. -/
def maxExponent : ℕ := 1023

/-- Arithmetic of an integer with a float first converts the integer; it
overflows from half a unit beyond the largest finite float. -/
def overflowsFloat (n : ℕ) : Bool :=
  decide (2 ^ (maxExponent + 1) - 2 ^ (maxExponent - 53) ≤ n)

theorem lt_of_two_pow_sub_le {a b k : ℕ} (hab : a < b)
    (h : 2 ^ (b + 1) - 2 ^ a ≤ 2 ^ k) : b < k := by
  by_contra hle
  have hpow : 2 ^ k ≤ 2 ^ b := Nat.pow_le_pow_right (by decide) (by omega)
  have hlt : 2 ^ a < 2 ^ b := Nat.pow_lt_pow_right (by decide) hab
  rw [pow_succ] at h
  omega

/-- The powers of two beyond `maxExponent` are too large for a float. -/
theorem overflowsFloat_pow_iff (k : ℕ) : overflowsFloat (2 ^ k) = true ↔ maxExponent < k := by
  unfold overflowsFloat
  rw [decide_eq_true_iff]
  constructor
  · exact lt_of_two_pow_sub_le (by decide)
  · intro h
    have hpow : 2 ^ (maxExponent + 1) ≤ 2 ^ k := Nat.pow_le_pow_right (by decide) h
    exact le_trans (Nat.sub_le _ _) hpow

/-! ## Text -/

/-- A Unicode string literal of the source. -/
abbrev str (s : String) : PyStr := Text.ofString s

/-- The characters `str.strip()` removes. -/
def isSpace : CodePoint → Bool
  | .scalar c =>
      let n := c.toNat
      (9 ≤ n && n ≤ 13) || (0x1C ≤ n && n ≤ 0x20) || n == 0x85 || n == 0xA0 || n == 0x1680 ||
        (0x2000 ≤ n && n ≤ 0x200A) || n == 0x2028 || n == 0x2029 || n == 0x202F ||
        n == 0x205F || n == 0x3000
  | .surrogate _ => false

/-- `s.strip()`. -/
def strip (s : PyStr) : PyStr := ((s.dropWhile isSpace).reverse.dropWhile isSpace).reverse

/-- `s.encode("utf-8")`; a lone surrogate cannot be encoded. -/
def encodeUtf8 (s : PyStr) : Except PyError (List UInt8) :=
  if s.isScalar then .ok s.toScalars.toUTF8.toList else .error .unicodeEncodeError

/-- The lower-case form of a code point as far as names in ASCII can tell: apart
from the ASCII letters only the Kelvin sign has an ASCII one. -/
def lowerCodePoint : CodePoint → CodePoint
  | .scalar c => .scalar (if c = '\u212A' then 'k' else c.toLower)
  | .surrogate i => .surrogate i

/-- `s.lower()`. -/
def lower (s : PyStr) : PyStr := s.map lowerCodePoint

/-- `_header`: the first value whose name matches case-insensitively. -/
def header (headers : List (PyStr × PyStr)) (name : String) : Option PyStr :=
  (headers.find? fun kv => lower kv.1 == lower (Text.ofString name)).map Prod.snd

/-- Write one byte as `urllib.parse.quote(_, safe="")` does. -/
def quoteByte (b : UInt8) : List Char :=
  let c := Char.ofNat b.toNat
  if b.toNat < 128 && (c.isAlphanum || "_.-~".toList.contains c) then [c]
  else ['%', upperDigit (b.toNat / 16), upperDigit (b.toNat % 16)]

/-- `urllib.parse.quote(s, safe="")`. -/
def quote (s : PyStr) : Except PyError PyStr := do
  let bytes ← encodeUtf8 s
  return str (String.ofList (bytes.flatMap quoteByte))

/-- Write one byte as `urllib.parse.quote_plus` does. -/
def quotePlusByte (b : UInt8) : List Char :=
  if b = 32 then ['+'] else quoteByte b

/-- `urllib.parse.quote_plus(s)`. -/
def quotePlus (s : PyStr) : Except PyError PyStr := do
  let bytes ← encodeUtf8 s
  return str (String.ofList (bytes.flatMap quotePlusByte))

/-- `str(n)`. -/
def strInt (n : ℤ) : PyStr := str (toString n)

end MizanSDK.Python
