import Mathlib.Data.String.Basic
import MizanSDK.Go.TypedJson
import MizanSDK.Library.Assignments
import MizanSDK.Library.Binary64

/-!
# Typed values and their numbers

A number that is decoded into an untyped value becomes a float64, and is encoded again as the
shortest decimal of it.  This file says what becomes of a value on this way, and when two
values are the same to a Go program: maps have no order, and a slice ends at its length.

Main results:

- Theorem `nearest_floatEncoder`: what is written is read as the same float64.
- Theorem `GoType.same_throughFloat64_iff`: of a value that goes through float64 only the
  integers may change.
- Theorem `GoType.same_mapLeaves_iff`: when other integers make the same value.
-/

namespace MizanSDK.Go

open JsonText Binary64 Slices Assignments

/-! ## Numbers through float64 -/

/-- What `json.Marshal` writes for the float64 nearest to a literal: the shortest decimal,
without an exponent below `1e21`. -/
def floatEncoder (n : Number) : Number :=
  let value := nearest n.magnitude
  let decimal := shortest value
  if 0 ≤ decimal.2 ∧ value < 10 ^ 21 then
    .integer n.isNegative (decimal.1 * 10 ^ decimal.2.toNat)
  else .decimal n.isNegative decimal.1 decimal.2

/-- The sign is kept. -/
theorem isNegative_floatEncoder (n : Number) : (floatEncoder n).isNegative = n.isNegative := by
  simp only [floatEncoder]
  split
  · rfl
  · rfl

/-- The size of a number has no sign. -/
theorem magnitude_nonneg (n : Number) : 0 ≤ n.magnitude := by
  cases n with
  | integer negative digits => exact Nat.cast_nonneg digits
  | decimal negative mantissa exponent =>
      exact mul_nonneg (Nat.cast_nonneg mantissa) (zpow_nonneg (by norm_num) exponent)

/-- What is written is the shortest decimal of the nearest float64. -/
theorem magnitude_floatEncoder (n : Number) :
    (floatEncoder n).magnitude = decimalValue (shortest (nearest n.magnitude)) := by
  simp only [floatEncoder]
  split
  · rename_i h
    generalize shortest (nearest n.magnitude) = decimal at h ⊢
    unfold Number.magnitude decimalValue
    push_cast
    rw [← zpow_natCast, Int.toNat_of_nonneg h.1]
  · rfl

/-- What is written is read as the same float64. -/
theorem nearest_floatEncoder (n : Number) :
    nearest (floatEncoder n).magnitude = nearest n.magnitude := by
  rw [magnitude_floatEncoder]
  exact nearest_shortest (nearest_representable _)

/-- A literal that was written is written again as it is. -/
theorem floatEncoder_floatEncoder (n : Number) :
    floatEncoder (floatEncoder n) = floatEncoder n := by
  rw [floatEncoder, nearest_floatEncoder, isNegative_floatEncoder]
  rfl

/-- It overflows only if the literal does. -/
theorem overflowsBinary64_floatEncoder (n : Number) :
    (floatEncoder n).overflowsBinary64 = n.overflowsBinary64 := by
  have hiff : ∀ m : Number, m.overflowsBinary64 = true ↔ ¬ nearest m.magnitude < 2 ^ 1024 := by
    intro m
    rw [nearest_lt_iff (magnitude_nonneg m), Number.overflowsBinary64, decide_eq_true_eq, not_lt]
  rw [Bool.eq_iff_iff, hiff, hiff, nearest_floatEncoder]

/-- An integer literal in the range of `int64` stays an integer literal. -/
theorem floatEncoder_integer (negative : Bool) {digits : ℕ} (h : digits ≤ 2 ^ 63) :
    floatEncoder (.integer negative digits) = .integer negative (throughNat digits) := by
  have hpower : nearest ((2 ^ 63 : ℕ) : ℚ) = (2 ^ 63 : ℕ) := by
    apply nearest_eq_self
    exact ⟨2 ^ 52, 11, by norm_num, by norm_num, by norm_num⟩
  have hmono : nearest (digits : ℚ) ≤ nearest ((2 ^ 63 : ℕ) : ℚ) :=
    nearest_mono (Nat.cast_nonneg _) (by exact_mod_cast h)
  have hbound : nearest (digits : ℚ) < 10 ^ 21 := by
    rw [hpower] at hmono
    exact lt_of_le_of_lt hmono (by norm_num)
  exact if_pos ⟨(decimalValue_natCast digits).1, hbound⟩

/-- What becomes of an integer. -/
def throughInt (n : ℤ) : ℤ := signed (decide (n < 0)) (throughNat n.natAbs)

/-- An integer goes through float64 as its size does. -/
theorem throughInt_signed (negative : Bool) (digits : ℕ) :
    throughInt (signed negative digits) = signed negative (throughNat digits) := by
  have hzero : throughNat 0 = 0 := throughNat_of_lt (by norm_num)
  unfold throughInt signed
  cases negative with
  | false => simp
  | true =>
      rcases Nat.eq_zero_or_pos digits with rfl | hpos
      · simp [hzero]
      · simp [hpos]

/-- Integers of less than 54 bits survive. -/
theorem throughInt_of_lt {n : ℤ} (h : n.natAbs < 2 ^ 53) : throughInt n = n := by
  unfold throughInt signed
  rw [throughNat_of_lt h]
  split
  · rename_i hnegative
    rw [decide_eq_true_eq] at hnegative
    omega
  · rename_i hnonneg
    rw [decide_eq_true_eq] at hnonneg
    omega

/-! ## Untyped values -/

mutual

/-- An untyped value with other literals for its numbers. -/
def GoAny.mapNumbers (f : Number → Number) : GoAny → GoAny
  | .nil => .nil
  | .bool b => .bool b
  | .float64 literal => .float64 (f literal)
  | .string s => .string s
  | .slice items => .slice (GoAny.mapItems f items)
  | .map entries => .map (GoAny.mapEntries f entries)

/-- The items of a slice with other literals. -/
def GoAny.mapItems (f : Number → Number) : List GoAny → List GoAny
  | [] => []
  | item :: rest => GoAny.mapNumbers f item :: GoAny.mapItems f rest

/-- The entries of a map with other literals. -/
def GoAny.mapEntries (f : Number → Number) : GoMap → GoMap
  | [] => []
  | (key, value) :: rest => (key, GoAny.mapNumbers f value) :: GoAny.mapEntries f rest

end

mutual

/-- Other literals are decoded in place of the first ones if they overflow alike. -/
theorem decodeAny_mapNumbers {f : Number → Number}
    (hf : ∀ n, (f n).overflowsBinary64 = n.overflowsBinary64) (json : Json) :
    decodeAny (json.mapNumbers f) = (decodeAny json).map (GoAny.mapNumbers f) := by
  cases json with
  | null => rfl
  | bool b => rfl
  | string t => rfl
  | number n =>
      rw [Json.mapNumbers, decodeAny, decodeAny, hf]
      split
      · rfl
      · rfl
  | array items =>
      rw [Json.mapNumbers, decodeAny, decodeAny, decodeItems_mapItems hf items]
      cases decodeItems items with
      | none => rfl
      | some vs => rfl
  | object members =>
      rw [Json.mapNumbers, decodeAny, decodeAny, decodeMembers_mapMembers hf members]
      cases decodeMembers members with
      | none => rfl
      | some vs => rfl

/-- The same of the items of an array. -/
theorem decodeItems_mapItems {f : Number → Number}
    (hf : ∀ n, (f n).overflowsBinary64 = n.overflowsBinary64) (items : List Json) :
    decodeItems (Json.mapItems f items) = (decodeItems items).map (GoAny.mapItems f) := by
  cases items with
  | nil => rfl
  | cons item rest =>
      rw [Json.mapItems, decodeItems, decodeItems, decodeAny_mapNumbers hf item,
        decodeItems_mapItems hf rest]
      cases decodeAny item with
      | none => rfl
      | some v =>
          cases decodeItems rest with
          | none => rfl
          | some vs => rfl

/-- The same of the members of an object. -/
theorem decodeMembers_mapMembers {f : Number → Number}
    (hf : ∀ n, (f n).overflowsBinary64 = n.overflowsBinary64)
    (members : List (Text × Json)) :
    decodeMembers (Json.mapMembers f members) =
      (decodeMembers members).map (GoAny.mapEntries f) := by
  cases members with
  | nil => rfl
  | cons m rest =>
      rw [Json.mapMembers, decodeMembers, decodeMembers, decodeAny_mapNumbers hf m.2,
        decodeMembers_mapMembers hf rest]
      cases decodeAny m.2 with
      | none => rfl
      | some v =>
          cases decodeMembers rest with
          | none => rfl
          | some vs => rfl

end

mutual

/-- Replacing literals twice is replacing them once. -/
theorem GoAny.mapNumbers_mapNumbers {f : Number → Number} (hf : ∀ n, f (f n) = f n) (a : GoAny) :
    (a.mapNumbers f).mapNumbers f = a.mapNumbers f := by
  cases a with
  | nil => rfl
  | bool b => rfl
  | string s => rfl
  | float64 literal => exact congrArg GoAny.float64 (hf literal)
  | slice items => exact congrArg GoAny.slice (GoAny.mapItems_mapItems hf items)
  | map entries => exact congrArg GoAny.map (GoAny.mapEntries_mapEntries hf entries)

/-- The same of items. -/
theorem GoAny.mapItems_mapItems {f : Number → Number} (hf : ∀ n, f (f n) = f n)
    (items : List GoAny) :
    GoAny.mapItems f (GoAny.mapItems f items) = GoAny.mapItems f items := by
  cases items with
  | nil => rfl
  | cons item rest =>
      exact congrArg₂ List.cons (GoAny.mapNumbers_mapNumbers hf item)
        (GoAny.mapItems_mapItems hf rest)

/-- The same of entries. -/
theorem GoAny.mapEntries_mapEntries {f : Number → Number} (hf : ∀ n, f (f n) = f n)
    (entries : GoMap) :
    GoAny.mapEntries f (GoAny.mapEntries f entries) = GoAny.mapEntries f entries := by
  cases entries with
  | nil => rfl
  | cons entry rest =>
      exact congrArg₂ List.cons
        (congrArg (Prod.mk entry.1) (GoAny.mapNumbers_mapNumbers hf entry.2))
        (GoAny.mapEntries_mapEntries hf rest)

end

mutual

/-- An untyped value with the maps in it as they are: each key once, in the order of the
keys. -/
def GoAny.ordered : GoAny → GoAny
  | .nil => .nil
  | .bool b => .bool b
  | .float64 literal => .float64 literal
  | .string s => .string s
  | .slice items => .slice (GoAny.orderedItems items)
  | .map entries => .map (sortedEntries (GoAny.orderedEntries entries))

/-- The items of a slice with their maps ordered. -/
def GoAny.orderedItems : List GoAny → List GoAny
  | [] => []
  | item :: rest => GoAny.ordered item :: GoAny.orderedItems rest

/-- The entries of a map with the maps in them ordered. -/
def GoAny.orderedEntries : GoMap → GoMap
  | [] => []
  | (key, value) :: rest => (key, GoAny.ordered value) :: GoAny.orderedEntries rest

end

/-- The numbers are replaced entry by entry. -/
theorem GoAny.mapEntries_eq_map (f : Number → Number) (entries : GoMap) :
    GoAny.mapEntries f entries = entries.map fun e => (e.1, GoAny.mapNumbers f e.2) := by
  induction entries with
  | nil => rfl
  | cons e rest ih => rw [GoAny.mapEntries, ih, List.map_cons]

/-- The maps are ordered entry by entry. -/
theorem GoAny.orderedEntries_eq_map (entries : GoMap) :
    GoAny.orderedEntries entries = entries.map fun e => (e.1, GoAny.ordered e.2) := by
  induction entries with
  | nil => rfl
  | cons e rest ih => rw [GoAny.orderedEntries, ih, List.map_cons]

/-- The maps are ordered item by item. -/
theorem GoAny.orderedItems_eq_map (items : List GoAny) :
    GoAny.orderedItems items = items.map GoAny.ordered := by
  induction items with
  | nil => rfl
  | cons item rest ih => rw [GoAny.orderedItems, ih, List.map_cons]

mutual

/-- Other literals leave the order alone. -/
theorem GoAny.ordered_mapNumbers (f : Number → Number) (a : GoAny) :
    (a.mapNumbers f).ordered = a.ordered.mapNumbers f := by
  cases a with
  | nil | bool | string | float64 => rfl
  | slice items => exact congrArg GoAny.slice (GoAny.orderedItems_mapItems f items)
  | map entries =>
      rw [GoAny.mapNumbers, GoAny.ordered, GoAny.ordered, GoAny.mapNumbers,
        GoAny.orderedEntries_mapEntries f entries, GoAny.mapEntries_eq_map,
        GoAny.mapEntries_eq_map, sortedEntries_map]

/-- The same of items. -/
theorem GoAny.orderedItems_mapItems (f : Number → Number) (items : List GoAny) :
    GoAny.orderedItems (GoAny.mapItems f items) = GoAny.mapItems f (GoAny.orderedItems items) := by
  cases items with
  | nil => rfl
  | cons item rest =>
      exact congrArg₂ List.cons (GoAny.ordered_mapNumbers f item)
        (GoAny.orderedItems_mapItems f rest)

/-- The same of entries. -/
theorem GoAny.orderedEntries_mapEntries (f : Number → Number) (entries : GoMap) :
    GoAny.orderedEntries (GoAny.mapEntries f entries) =
      GoAny.mapEntries f (GoAny.orderedEntries entries) := by
  cases entries with
  | nil => rfl
  | cons e rest =>
      exact congrArg₂ List.cons (congrArg (Prod.mk e.1) (GoAny.ordered_mapNumbers f e.2))
        (GoAny.orderedEntries_mapEntries f rest)

end

mutual

/-- Ordering again changes nothing. -/
theorem GoAny.ordered_ordered (a : GoAny) : a.ordered.ordered = a.ordered := by
  cases a with
  | nil | bool | string | float64 => rfl
  | slice items => exact congrArg GoAny.slice (GoAny.orderedItems_orderedItems items)
  | map entries =>
      have hentries := GoAny.orderedEntries_orderedEntries entries
      rw [GoAny.orderedEntries_eq_map (GoAny.orderedEntries entries)] at hentries
      rw [GoAny.ordered, GoAny.ordered, GoAny.orderedEntries_eq_map (sortedEntries _),
        ← sortedEntries_map GoAny.ordered, hentries, sortedEntries_sortedEntries]

/-- The same of items. -/
theorem GoAny.orderedItems_orderedItems (items : List GoAny) :
    GoAny.orderedItems (GoAny.orderedItems items) = GoAny.orderedItems items := by
  cases items with
  | nil => rfl
  | cons item rest =>
      exact congrArg₂ List.cons (GoAny.ordered_ordered item) (GoAny.orderedItems_orderedItems rest)

/-- The same of entries. -/
theorem GoAny.orderedEntries_orderedEntries (entries : GoMap) :
    GoAny.orderedEntries (GoAny.orderedEntries entries) = GoAny.orderedEntries entries := by
  cases entries with
  | nil => rfl
  | cons e rest =>
      exact congrArg₂ List.cons (congrArg (Prod.mk e.1) (GoAny.ordered_ordered e.2))
        (GoAny.orderedEntries_orderedEntries rest)

end

/-! ## The leaves of a value -/

mutual

/-- A value with its integers and its untyped parts replaced. -/
def GoType.mapLeaves (onInt : ℤ → ℤ) (onAny : GoAny → GoAny) : (t : GoType) → t.Value → t.Value
  | .string, value => value
  | .bool, value => value
  | .int64, value => onInt value
  | .time, value => value
  | .any, value => onAny value
  | .map element, value =>
      Option.map (List.map fun entry : String × element.Value =>
        (entry.1, element.mapLeaves onInt onAny entry.2)) value
  | .slice element, value => Option.map (Slice.map (element.mapLeaves onInt onAny)) value
  | .pointer element, value => Option.map (element.mapLeaves onInt onAny) value
  | .struct fields, value => fields.mapLeaves onInt onAny value

/-- The fields of a struct with their leaves replaced. -/
def GoFields.mapLeaves (onInt : ℤ → ℤ) (onAny : GoAny → GoAny) :
    (fields : GoFields) → fields.Values → fields.Values
  | .nil, values => values
  | .field _ type rest, (value, values) =>
      (type.mapLeaves onInt onAny value, rest.mapLeaves onInt onAny values)

end

mutual

/-- A property holds of every integer in a value. -/
def GoType.EveryInteger (p : ℤ → Prop) : (t : GoType) → t.Value → Prop
  | .int64, value => p value
  | .map element, value => ∀ entries : List (String × element.Value), value = some entries →
      ∀ entry ∈ entries, element.EveryInteger p entry.2
  | .slice element, value => ∀ items : Slice element.Value, value = some items →
      ∀ item ∈ items.memory, element.EveryInteger p item
  | .pointer element, value => ∀ target : element.Value, value = some target →
      element.EveryInteger p target
  | .struct fields, value => fields.EveryInteger p value
  | _, _ => True

/-- A property holds of every integer in the fields of a struct. -/
def GoFields.EveryInteger (p : ℤ → Prop) : (fields : GoFields) → fields.Values → Prop
  | .nil, _ => True
  | .field _ type rest, (value, values) =>
      type.EveryInteger p value ∧ rest.EveryInteger p values

end

mutual

/-- Replacing leaves twice is replacing them by what both make of them. -/
theorem GoType.mapLeaves_mapLeaves (f f' : ℤ → ℤ) (g g' : GoAny → GoAny) (t : GoType)
    (value : t.Value) :
    t.mapLeaves f' g' (t.mapLeaves f g value) = t.mapLeaves (f' ∘ f) (g' ∘ g) value := by
  cases t with
  | string | bool | int64 | time | any => rfl
  | map element =>
      cases value with
      | none => rfl
      | some entries =>
          apply congrArg some
          rw [List.map_map]
          apply List.map_congr_left
          intro entry _
          exact congrArg (Prod.mk entry.1)
            (GoType.mapLeaves_mapLeaves f f' g g' element entry.2)
  | slice element =>
      cases value with
      | none => rfl
      | some items =>
          apply congrArg some
          rw [Slice.map_map]
          apply Slice.map_congr
          intro item _
          exact GoType.mapLeaves_mapLeaves f f' g g' element item
  | pointer element =>
      cases value with
      | none => rfl
      | some target =>
          exact congrArg some (GoType.mapLeaves_mapLeaves f f' g g' element target)
  | struct fields => exact GoFields.mapLeaves_mapLeaves f f' g g' fields value

/-- The same of the fields of a struct. -/
theorem GoFields.mapLeaves_mapLeaves (f f' : ℤ → ℤ) (g g' : GoAny → GoAny) (fields : GoFields)
    (values : fields.Values) :
    fields.mapLeaves f' g' (fields.mapLeaves f g values) =
      fields.mapLeaves (f' ∘ f) (g' ∘ g) values := by
  cases fields with
  | nil => rfl
  | field name type rest =>
      exact congrArg₂ Prod.mk (GoType.mapLeaves_mapLeaves f f' g g' type values.1)
        (GoFields.mapLeaves_mapLeaves f f' g g' rest values.2)

end

/-- Two functions agree on what is there. -/
theorem optionMap_eq_iff {α β : Type} {f g : α → β} {p : α → Prop} (h : ∀ a, f a = g a ↔ p a)
    (o : Option α) : o.map f = o.map g ↔ ∀ a, o = some a → p a := by
  cases o with
  | none => exact iff_of_true rfl fun a ha => nomatch ha
  | some a =>
      rw [Option.map_some, Option.map_some, Option.some.injEq, h a]
      simp only [Option.some.injEq, forall_eq']

/-- Two functions make the same list if they agree on its members. -/
theorem listMap_eq_iff {α β : Type} {f g : α → β} {p : α → Prop} (h : ∀ a, f a = g a ↔ p a)
    (xs : List α) : xs.map f = xs.map g ↔ ∀ a ∈ xs, p a :=
  List.map_inj_left.trans (forall₂_congr fun a _ => h a)

mutual

/-- Two replacements of the integers agree on a value if and only if they agree on every
integer in it. -/
theorem GoType.mapLeaves_eq_iff (f f' : ℤ → ℤ) (g : GoAny → GoAny) (t : GoType)
    (value : t.Value) :
    t.mapLeaves f g value = t.mapLeaves f' g value ↔
      t.EveryInteger (fun n => f n = f' n) value := by
  cases t with
  | string | bool | time | any => exact iff_of_true rfl trivial
  | int64 => exact Iff.rfl
  | map element =>
      refine optionMap_eq_iff (fun entries => ?_) value
      refine listMap_eq_iff (fun entry => ?_) entries
      rw [Prod.mk.injEq, GoType.mapLeaves_eq_iff f f' g element entry.2]
      exact and_iff_right rfl
  | slice element =>
      refine optionMap_eq_iff (fun items => ?_) value
      refine Slice.map_eq_iff.trans ?_
      exact forall₂_congr fun item _ => GoType.mapLeaves_eq_iff f f' g element item
  | pointer element =>
      exact optionMap_eq_iff (fun target => GoType.mapLeaves_eq_iff f f' g element target) value
  | struct fields => exact GoFields.mapLeaves_eq_iff f f' g fields value

/-- The same of the fields of a struct. -/
theorem GoFields.mapLeaves_eq_iff (f f' : ℤ → ℤ) (g : GoAny → GoAny) (fields : GoFields)
    (values : fields.Values) :
    fields.mapLeaves f g values = fields.mapLeaves f' g values ↔
      fields.EveryInteger (fun n => f n = f' n) values := by
  cases fields with
  | nil => exact iff_of_true rfl trivial
  | field name type rest =>
      apply (Prod.mk.injEq _ _ _ _).to_iff.trans
      exact and_congr (GoType.mapLeaves_eq_iff f f' g type values.1)
        (GoFields.mapLeaves_eq_iff f f' g rest values.2)

end

mutual

/-- The zero value has no other leaves than zeros and nils. -/
theorem GoType.mapLeaves_zero {f : ℤ → ℤ} {g : GoAny → GoAny} (hf : f 0 = 0)
    (hg : g .nil = .nil) (t : GoType) : t.mapLeaves f g t.zero = t.zero := by
  cases t with
  | string | bool | time | map | slice | pointer => rfl
  | int64 => exact hf
  | any => exact hg
  | struct fields => exact GoFields.mapLeaves_zero hf hg fields

/-- The same of the fields of a struct. -/
theorem GoFields.mapLeaves_zero {f : ℤ → ℤ} {g : GoAny → GoAny} (hf : f 0 = 0)
    (hg : g .nil = .nil) (fields : GoFields) : fields.mapLeaves f g fields.zero = fields.zero := by
  cases fields with
  | nil => rfl
  | field name type rest =>
      exact congrArg₂ Prod.mk (GoType.mapLeaves_zero hf hg type)
        (GoFields.mapLeaves_zero hf hg rest)

end

/-! ## What can be seen of a value -/

mutual

/-- What can be seen of a value: maps with each key once, in the order of the keys, and slices
within their length. -/
def GoType.visible : (t : GoType) → t.Value → t.Value
  | .string, value => value
  | .bool, value => value
  | .int64, value => value
  | .time, value => value
  | .any, value => GoAny.ordered value
  | .map element, value =>
      Option.map (fun entries : List (String × element.Value) =>
        sortedEntries (entries.map fun entry => (entry.1, element.visible entry.2))) value
  | .slice element, value =>
      Option.map (fun items : Slice element.Value => ⟨items.elems.map element.visible, []⟩) value
  | .pointer element, value => Option.map element.visible value
  | .struct fields, value => fields.visible value

/-- What can be seen of the fields of a struct. -/
def GoFields.visible : (fields : GoFields) → fields.Values → fields.Values
  | .nil, values => values
  | .field _ type rest, (value, values) => (type.visible value, rest.visible values)

end

mutual

/-- Other leaves are seen in the same places. -/
theorem GoType.visible_mapLeaves {f : ℤ → ℤ} {g : GoAny → GoAny}
    (hg : ∀ a, (g a).ordered = g a.ordered) (t : GoType) (value : t.Value) :
    t.visible (t.mapLeaves f g value) = t.mapLeaves f g (t.visible value) := by
  cases t with
  | string | bool | int64 | time => rfl
  | any => exact hg value
  | map element =>
      cases value with
      | none => rfl
      | some entries =>
          apply congrArg some
          beta_reduce
          rw [List.map_map, ← sortedEntries_map, List.map_map]
          apply congrArg sortedEntries
          apply List.map_congr_left
          intro entry _
          exact congrArg (Prod.mk entry.1) (GoType.visible_mapLeaves hg element entry.2)
  | slice element =>
      cases value with
      | none => rfl
      | some items =>
          apply congrArg some
          refine congrArg₂ Slice.mk ?_ rfl
          rw [Slice.map, List.map_map, List.map_map]
          apply List.map_congr_left
          intro item _
          exact GoType.visible_mapLeaves hg element item
  | pointer element =>
      cases value with
      | none => rfl
      | some target => exact congrArg some (GoType.visible_mapLeaves hg element target)
  | struct fields => exact GoFields.visible_mapLeaves hg fields value

/-- The same of the fields of a struct. -/
theorem GoFields.visible_mapLeaves {f : ℤ → ℤ} {g : GoAny → GoAny}
    (hg : ∀ a, (g a).ordered = g a.ordered) (fields : GoFields) (values : fields.Values) :
    fields.visible (fields.mapLeaves f g values) =
      fields.mapLeaves f g (fields.visible values) := by
  cases fields with
  | nil => rfl
  | field name type rest =>
      exact congrArg₂ Prod.mk (GoType.visible_mapLeaves hg type values.1)
        (GoFields.visible_mapLeaves hg rest values.2)

end

/-- Equality of Go values: what can be seen of them, where an untyped number is a float64,
however it was spelled. -/
def GoType.Same (t : GoType) (value value' : t.Value) : Prop :=
  t.mapLeaves id (GoAny.mapNumbers floatEncoder) (t.visible value) =
    t.mapLeaves id (GoAny.mapNumbers floatEncoder) (t.visible value')

/-- Two replacements of the integers make the same value of what is seen if and only if they
agree on the integers that are seen. -/
theorem GoType.same_mapLeaves_iff {t : GoType} {value value' : t.Value}
    (h : t.Same value value') (f : ℤ → ℤ) :
    t.Same (t.mapLeaves f id value) value' ↔
      t.EveryInteger (fun n => f n = n) (t.visible value') := by
  have hid : ∀ a : GoAny, (id a).ordered = id a.ordered := fun _ => rfl
  have hfirst : t.mapLeaves id (GoAny.mapNumbers floatEncoder)
      (t.visible (t.mapLeaves f id value)) =
        t.mapLeaves f id (t.mapLeaves id (GoAny.mapNumbers floatEncoder) (t.visible value)) := by
    rw [GoType.visible_mapLeaves hid, GoType.mapLeaves_mapLeaves, GoType.mapLeaves_mapLeaves]
    rfl
  unfold GoType.Same at h ⊢
  rw [hfirst, h, GoType.mapLeaves_mapLeaves]
  exact GoType.mapLeaves_eq_iff f id (GoAny.mapNumbers floatEncoder) t (t.visible value')

/-- What becomes of a value whose numbers go through float64. -/
def GoType.throughFloat64 (t : GoType) (value : t.Value) : t.Value :=
  t.mapLeaves throughInt (GoAny.mapNumbers floatEncoder) value

/-- The zero value goes through float64 unchanged. -/
theorem GoType.throughFloat64_zero (t : GoType) : t.throughFloat64 t.zero = t.zero :=
  GoType.mapLeaves_zero (throughInt_of_lt (by decide)) rfl t

/-- Of a value that goes through float64 the integers may change. -/
theorem GoType.same_throughFloat64_iff (t : GoType) (value value' : t.Value) :
    t.Same (t.throughFloat64 value) value' ↔ t.Same (t.mapLeaves throughInt id value) value' := by
  have hid : ∀ a : GoAny, (id a).ordered = id a.ordered := fun _ => rfl
  have hany : GoAny.mapNumbers floatEncoder ∘ GoAny.mapNumbers floatEncoder =
      GoAny.mapNumbers floatEncoder :=
    funext (GoAny.mapNumbers_mapNumbers floatEncoder_floatEncoder)
  unfold GoType.Same GoType.throughFloat64
  rw [GoType.visible_mapLeaves (GoAny.ordered_mapNumbers floatEncoder),
    GoType.visible_mapLeaves hid, GoType.mapLeaves_mapLeaves, GoType.mapLeaves_mapLeaves, hany]
  rfl

end MizanSDK.Go
