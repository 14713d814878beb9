import Mathlib.Data.List.Basic
import Mathlib.Data.Rat.Defs
import Mathlib.Algebra.Order.Ring.Rat
import Mathlib.Tactic

/-!
# JSON texts and their strings

The abstract syntax of a JSON text, kept as close to the text as two decoders
with different rules need it: members stay in document order with their
duplicates, a number stays the literal that spells it, and a string is a
sequence of code points in which an escape such as `\ud800` may leave a
surrogate that is half of no pair.

Main results:

- Theorem `Text.ofString_inj`: Unicode text determines its code points.
- Theorem `Text.toScalars_ofString`: replacing lone surrogates changes nothing
  in Unicode text.
- Theorem `lookupLast_append`: a later member of a name hides the earlier ones.
-/

namespace JsonText

/-! ## Strings -/

/-- A code point that a JSON string can spell: a Unicode scalar value, or one
of the 2048 surrogates when its escape is not part of a pair. -/
inductive CodePoint where
  | scalar (c : Char)
  | surrogate (index : Fin 2048)
deriving DecidableEq

/-- The contents of a JSON string. -/
abbrev Text := List CodePoint

/-- Unicode text as the code points it consists of. -/
def Text.ofString (s : String) : Text := s.toList.map .scalar

/-- Two strings of Unicode text with the same code points are equal. -/
@[simp] theorem Text.ofString_inj {s t : String} :
    Text.ofString s = Text.ofString t ↔ s = t := by
  constructor
  · intro h
    have hinj : Function.Injective CodePoint.scalar := by
      intro a b hab
      simpa using hab
    exact String.toList_inj.mp (hinj.list_map h)
  · rintro rfl
    rfl

/-- Only the empty string is empty text. -/
@[simp] theorem Text.ofString_eq_nil {s : String} : Text.ofString s = [] ↔ s = "" := by
  simp [Text.ofString]

/-- The scalar value that stands for a code point where surrogates are not
allowed: a lone surrogate becomes the replacement character. -/
def CodePoint.toScalar : CodePoint → Char
  | .scalar c => c
  | .surrogate _ => '\uFFFD'

/-- Text for a decoder that replaces lone surrogates. -/
def Text.toScalars (t : Text) : String := String.ofList (t.map CodePoint.toScalar)

/-- Unicode text survives the replacement of lone surrogates. -/
@[simp] theorem Text.toScalars_ofString (s : String) :
    (Text.ofString s).toScalars = s := by
  simp [Text.toScalars, Text.ofString, CodePoint.toScalar, Function.comp_def]

/-- Whether a text is Unicode text, with no lone surrogate in it. -/
def Text.isScalar (t : Text) : Bool :=
  t.all fun
    | .scalar _ => true
    | .surrogate _ => false

/-- A text without lone surrogates is the text of its replacement. -/
theorem Text.ofString_toScalars {t : Text} (h : t.isScalar = true) :
    Text.ofString t.toScalars = t := by
  induction t with
  | nil => rfl
  | cons c t ih =>
      simp only [Text.isScalar, List.all_cons, Bool.and_eq_true] at h
      have htail := ih h.2
      simp only [Text.ofString, Text.toScalars, String.toList_ofList, List.map_map,
        List.map_cons] at htail ⊢
      cases c with
      | scalar c => simpa [CodePoint.toScalar] using htail
      | surrogate i => simp at h

/-- A string is Unicode text. -/
@[simp] theorem Text.isScalar_ofString (s : String) :
    (Text.ofString s).isScalar = true := by
  simp [Text.isScalar, Text.ofString]

/-- A text without replacement characters is the replacement of nothing but
itself. -/
theorem Text.toScalars_eq_iff {t : Text} {s : String} (h : '\uFFFD' ∉ s.toList) :
    t.toScalars = s ↔ t = Text.ofString s := by
  constructor
  · rintro rfl
    have hscalar : t.isScalar = true := by
      rw [Text.isScalar, List.all_eq_true]
      intro c hc
      cases c with
      | scalar c => rfl
      | surrogate i =>
          refine absurd ?_ h
          rw [Text.toScalars, String.toList_ofList]
          exact List.mem_map_of_mem hc
    exact (Text.ofString_toScalars hscalar).symm
  · rintro rfl
    exact Text.toScalars_ofString s

/-! ## Numbers -/

/-- A number literal.  `integer` is a literal without fraction and exponent;
`decimal` is any other one, read as `± mantissa * 10 ^ exponent`. -/
inductive Number where
  | integer (negative : Bool) (digits : ℕ)
  | decimal (negative : Bool) (mantissa : ℕ) (exponent : ℤ)
deriving DecidableEq

/-- The size of the number a literal denotes. -/
def Number.magnitude : Number → ℚ
  | .integer _ digits => digits
  | .decimal _ mantissa exponent => mantissa * (10 : ℚ) ^ exponent

/-- Whether a literal has a minus sign. -/
def Number.isNegative : Number → Bool
  | .integer negative _ => negative
  | .decimal negative _ _ => negative

/-- The integer an integer literal denotes. -/
def signed (negative : Bool) (digits : ℕ) : ℤ :=
  if negative then -digits else digits

/-- The literal of an integer. -/
def integerLiteral (n : ℤ) : Number := .integer (decide (n < 0)) n.natAbs

/-- An integer is read from its literal. -/
theorem signed_natAbs (n : ℤ) : signed (decide (n < 0)) n.natAbs = n := by
  unfold signed
  by_cases hnegative : n < 0
  · rw [if_pos (decide_eq_true hnegative)]
    omega
  · rw [if_neg (by simpa using hnegative)]
    omega

/-- Rounding to the nearest binary64 value yields an infinity: the literal is
at least half a unit beyond the largest finite value. -/
def Number.overflowsBinary64 (n : Number) : Bool :=
  decide ((2 : ℚ) ^ 1024 - 2 ^ 970 ≤ n.magnitude)

/-- Rounding to the nearest binary64 value yields a zero: the literal is at
most half the smallest positive value. -/
def Number.vanishesBinary64 (n : Number) : Bool :=
  decide (n.magnitude * 2 ^ 1075 ≤ 1)

/-! ## Documents -/

/-- The abstract syntax of a JSON text. -/
inductive Json where
  | null
  | bool (b : Bool)
  | number (n : Number)
  | string (t : Text)
  | array (items : List Json)
  | object (members : List (Text × Json))

mutual

/-- A property holds of a document and of all its parts. -/
def Json.Everywhere (p : Json → Prop) : Json → Prop
  | .array items => p (.array items) ∧ Json.everyItem p items
  | .object members => p (.object members) ∧ Json.everyMember p members
  | leaf => p leaf

/-- A property holds throughout the items of an array. -/
def Json.everyItem (p : Json → Prop) : List Json → Prop
  | [] => True
  | item :: rest => Json.Everywhere p item ∧ Json.everyItem p rest

/-- A property holds throughout the members of an object. -/
def Json.everyMember (p : Json → Prop) : List (Text × Json) → Prop
  | [] => True
  | (_, value) :: rest => Json.Everywhere p value ∧ Json.everyMember p rest

end

section Everywhere

variable {p : Json → Prop}

/-- A property that holds throughout an array holds throughout each item. -/
theorem Json.everyItem_iff (items : List Json) :
    Json.everyItem p items ↔ ∀ item ∈ items, item.Everywhere p := by
  induction items with
  | nil => simp [Json.everyItem]
  | cons item rest ih => simp [Json.everyItem, ih]

/-- One that holds throughout an object holds throughout each member. -/
theorem Json.everyMember_iff (members : List (Text × Json)) :
    Json.everyMember p members ↔ ∀ m ∈ members, m.2.Everywhere p := by
  induction members with
  | nil => simp [Json.everyMember]
  | cons m rest ih => simp [Json.everyMember, ih]

/-- What holds everywhere holds of the document itself. -/
theorem Json.Everywhere.self {json : Json} (h : json.Everywhere p) : p json := by
  cases json with
  | array items =>
      rw [Json.Everywhere] at h
      exact h.1
  | object members =>
      rw [Json.Everywhere] at h
      exact h.1
  | _ => simpa [Json.Everywhere] using h

/-- What holds everywhere holds throughout each item. -/
theorem Json.Everywhere.item {items : List Json} (h : (Json.array items).Everywhere p)
    {item : Json} (hitem : item ∈ items) : item.Everywhere p := by
  rw [Json.Everywhere, Json.everyItem_iff] at h
  exact h.2 item hitem

/-- What holds everywhere holds throughout each member. -/
theorem Json.Everywhere.member {members : List (Text × Json)}
    (h : (Json.object members).Everywhere p) {m : Text × Json} (hm : m ∈ members) :
    m.2.Everywhere p := by
  rw [Json.Everywhere, Json.everyMember_iff] at h
  exact h.2 m hm

end Everywhere

mutual

/-- The document with its number literals replaced. -/
def Json.mapNumbers (f : Number → Number) : Json → Json
  | .null => .null
  | .bool b => .bool b
  | .number n => .number (f n)
  | .string t => .string t
  | .array items => .array (Json.mapItems f items)
  | .object members => .object (Json.mapMembers f members)

/-- The items of an array with their number literals replaced. -/
def Json.mapItems (f : Number → Number) : List Json → List Json
  | [] => []
  | item :: rest => Json.mapNumbers f item :: Json.mapItems f rest

/-- The members of an object with their number literals replaced. -/
def Json.mapMembers (f : Number → Number) : List (Text × Json) → List (Text × Json)
  | [] => []
  | (name, value) :: rest => (name, Json.mapNumbers f value) :: Json.mapMembers f rest

end

/-- Number literals are replaced item by item. -/
theorem Json.mapItems_eq_map (f : Number → Number) (items : List Json) :
    Json.mapItems f items = items.map (Json.mapNumbers f) := by
  induction items with
  | nil => rfl
  | cons item rest ih => rw [Json.mapItems, ih, List.map_cons]

/-- They are replaced member by member. -/
theorem Json.mapMembers_eq_map (f : Number → Number) (members : List (Text × Json)) :
    Json.mapMembers f members = members.map fun m => (m.1, m.2.mapNumbers f) := by
  induction members with
  | nil => rfl
  | cons m rest ih => rw [Json.mapMembers, ih, List.map_cons]

/-- The bytes of an ASCII text. -/
def asciiBytes (text : String) : List UInt8 := text.toList.map fun c => UInt8.ofNat c.toNat

/-! ## Members by name -/

section Lookup

variable {κ υ ω : Type*} [DecidableEq κ]

/-- The value of the last member with a name. -/
def lookupLast (members : List (κ × υ)) (name : κ) : Option υ :=
  match members with
  | [] => none
  | (key, value) :: rest =>
      match lookupLast rest name with
      | some later => some later
      | none => if key = name then some value else none

/-- Without members nothing is found. -/
@[simp] theorem lookupLast_nil (name : κ) : lookupLast ([] : List (κ × υ)) name = none := rfl

/-- The first member is found if no later one is. -/
theorem lookupLast_cons (key : κ) (value : υ) (rest : List (κ × υ)) (name : κ) :
    lookupLast ((key, value) :: rest) name =
      (lookupLast rest name).or (if key = name then some value else none) := by
  cases h : lookupLast rest name <;> simp [lookupLast, h]

/-- A later member of a name hides the earlier ones. -/
theorem lookupLast_append (front back : List (κ × υ)) (name : κ) :
    lookupLast (front ++ back) name = (lookupLast back name).or (lookupLast front name) := by
  induction front with
  | nil => simp
  | cons head front ih =>
      obtain ⟨key, value⟩ := head
      simp [lookupLast_cons, ih, Option.or_assoc]

/-- A found value belongs to a member of that name. -/
theorem mem_of_lookupLast {members : List (κ × υ)} {name : κ} {value : υ}
    (h : lookupLast members name = some value) : (name, value) ∈ members := by
  induction members with
  | nil => simp at h
  | cons head rest ih =>
      obtain ⟨key, value'⟩ := head
      rw [lookupLast_cons] at h
      cases hrest : lookupLast rest name with
      | some later =>
          rw [hrest] at h
          simp only [Option.some_or, Option.some.injEq] at h
          subst h
          exact List.mem_cons_of_mem _ (ih hrest)
      | none =>
          rw [hrest] at h
          simp only [Option.none_or] at h
          split at h
          · rename_i hkey
            simp only [Option.some.injEq] at h
            simp [hkey, h]
          · simp at h

/-- No member has a name that is not found. -/
theorem lookupLast_eq_none_iff {members : List (κ × υ)} {name : κ} :
    lookupLast members name = none ↔ ∀ m ∈ members, m.1 ≠ name := by
  induction members with
  | nil => simp
  | cons head rest ih =>
      obtain ⟨key, value⟩ := head
      rw [lookupLast_cons, Option.or_eq_none_iff, ih, List.forall_mem_cons]
      by_cases hkey : key = name <;> simp [hkey]

/-- The members around the last one of a name. -/
theorem split_of_lookupLast {members : List (κ × υ)} {name : κ} {value : υ}
    (h : lookupLast members name = some value) :
    ∃ front back, members = front ++ (name, value) :: back ∧ ∀ m ∈ back, m.1 ≠ name := by
  induction members with
  | nil => cases h
  | cons head rest ih =>
      cases hrest : lookupLast rest name with
      | some later =>
          rw [lookupLast, hrest] at h
          rcases ih (hrest.trans h) with ⟨front, back, rfl, hback⟩
          exact ⟨head :: front, back, rfl, hback⟩
      | none =>
          rw [lookupLast, hrest] at h
          by_cases hkey : head.1 = name
          · rw [if_pos hkey, Option.some.injEq] at h
            exact ⟨[], rest, by rw [List.nil_append, ← hkey, ← h],
              lookupLast_eq_none_iff.mp hrest⟩
          · rw [if_neg hkey] at h
            cases h

/-- Looking up in members whose values were translated one by one. -/
theorem lookupLast_map (f : υ → ω) (members : List (κ × υ)) (name : κ) :
    lookupLast (members.map fun m => (m.1, f m.2)) name =
      (lookupLast members name).map f := by
  induction members with
  | nil => rfl
  | cons head rest ih =>
      obtain ⟨key, value⟩ := head
      simp only [List.map_cons, lookupLast_cons, ih]
      cases lookupLast rest name <;> split <;> simp

end Lookup

end JsonText
