import MizanSDK.Go.Requests
import MizanSDK.Go.Webhooks

/-!
# Decoding into typed values

`json.Unmarshal` follows the type of the value it decodes into.  The types of the SDK's
results are described here as the decoder sees them, by the names in their field tags,
and a value of such a type is built from Lean's own.  Decoding starts from a value, the
zero value at first, and changes only what the document speaks of.

Main results:

- Theorem `GoType.unmarshal_isSome_iff`: which documents are decoded, whatever value they
  find.
-/

namespace MizanSDK.Go

open JsonText LastWins Slices

/-! ## Types -/

mutual

/-- A type as `encoding/json` sees it.  `string` is every type whose kind is a string,
and `int64` also the type `int`. -/
inductive GoType where
  | string
  | bool
  | int64
  | time
  | any
  | map (element : GoType)
  | slice (element : GoType)
  | pointer (element : GoType)
  | struct (fields : GoFields)

/-- The fields of a struct with the names in their tags. -/
inductive GoFields where
  | nil
  | field (name : String) (type : GoType) (rest : GoFields)

end

mutual

/-- The values of a type; a map is given by its assignments in order, and a slice comes with
its memory.  Maps, slices and pointers may be nil. -/
def GoType.Value : GoType → Type
  | .string => String
  | .bool => Bool
  | .int64 => ℤ
  | .time => GoTime
  | .any => GoAny
  | .map element => Option (List (String × element.Value))
  | .slice element => Option (Slice element.Value)
  | .pointer element => Option element.Value
  | .struct fields => fields.Values

/-- The values of the fields of a struct. -/
def GoFields.Values : GoFields → Type
  | .nil => Unit
  | .field _ type rest => type.Value × rest.Values

end

mutual

/-- The zero value. -/
def GoType.zero : (t : GoType) → t.Value
  | .string => ""
  | .bool => false
  | .int64 => (0 : ℤ)
  | .time => (⟨true, "0001-01-01T00:00:00Z"⟩ : GoTime)
  | .any => GoAny.nil
  | .map _ => none
  | .slice _ => none
  | .pointer _ => none
  | .struct fields => fields.zero

/-- The zero values of fields. -/
def GoFields.zero : (fields : GoFields) → fields.Values
  | .nil => ()
  | .field _ type rest => (type.zero, rest.zero)

end

/-! ## Decoding -/

/-- Decode into a `bool`; `null` leaves it alone. -/
def decodeBool : Json → Bool → Option Bool
  | .null, value => some value
  | .bool b, _ => some b
  | _, _ => none

/-- `(*time.Time).UnmarshalJSON` with this parser of RFC 3339.  It reads the literal, so times
are taken to be written without escapes. -/
def decodeTime (parseTime : String → Option GoTime) : Json → GoTime → Option GoTime
  | .null, value => some value
  | .string t, _ => parseTime t.toScalars
  | _, _ => none

mutual

/-- `json.Unmarshal` into a value of a type: the value afterwards, or `none` for an
`UnmarshalTypeError` or an error of a time. -/
def GoType.unmarshal (parseTime : String → Option GoTime) :
    (t : GoType) → Json → t.Value → Option t.Value
  | .string, json, value => decodeString json value
  | .bool, json, value => decodeBool json value
  | .int64, json, value => decodeInt64 json value
  | .time, json, value => decodeTime parseTime json value
  | .any, json, _ => decodeAny json
  | .map _, .null, _ => some none
  | .map element, .object members, value => do
      -- Assignments add to a map that is there.
      let assigned ← members.mapM fun m =>
        (element.unmarshal parseTime m.2 element.zero).map fun v => (m.1.toScalars, v)
      return some (value.getD [] ++ assigned)
  | .slice _, .null, _ => some none
  | .slice element, .array items, value =>
      -- The items go to the elements that are there, up to the end of the memory.
      (refill (element.unmarshal parseTime) element.zero items (value.getD .empty)).map some
  | .pointer _, .null, _ => some none
  | .pointer element, json, value =>
      (element.unmarshal parseTime json (value.getD element.zero)).map some
  | .struct _, .null, value => some value
  | .struct fields, .object members, value => fields.unmarshal parseTime members value
  | _, _, _ => none

/-- Each field receives the members whose names equal its own up to case. -/
def GoFields.unmarshal (parseTime : String → Option GoTime) :
    (fields : GoFields) → List (Text × Json) → fields.Values → Option fields.Values
  | .nil, _, values => some values
  | .field name type rest, members, (value, values) => do
      let value ← receive (type.unmarshal parseTime) value (matching members name)
      let values ← rest.unmarshal parseTime members values
      return (value, values)

end

/-- Anything but `null` is decoded into what a pointer points to. -/
theorem GoType.unmarshal_pointer {parseTime : String → Option GoTime} {element : GoType}
    {json : Json} (h : json ≠ .null) (value : (GoType.pointer element).Value) :
    (GoType.pointer element).unmarshal parseTime json value =
      (element.unmarshal parseTime json (Option.getD value element.zero)).map some := by
  cases json with
  | null => exact absurd rfl h
  | _ => rfl

/-- An object is decoded into a map member by member. -/
theorem GoType.unmarshal_map {parseTime : String → Option GoTime} (element : GoType)
    (members : List (Text × Json)) (value : (GoType.map element).Value) :
    (GoType.map element).unmarshal parseTime (.object members) value =
      (members.mapM fun m => (element.unmarshal parseTime m.2 element.zero).map
        fun v => (m.1.toScalars, v)).bind
          fun assigned => some (some (Option.getD value [] ++ assigned)) :=
  rfl

/-- An array is decoded into the memory of a slice. -/
theorem GoType.unmarshal_slice {parseTime : String → Option GoTime} (element : GoType)
    (items : List Json) (value : (GoType.slice element).Value) :
    (GoType.slice element).unmarshal parseTime (.array items) value =
      (refill (element.unmarshal parseTime) element.zero items (Option.getD value .empty)).map
        some :=
  rfl

/-- A struct is decoded field by field. -/
theorem GoFields.unmarshal_field {parseTime : String → Option GoTime} (name : String)
    (type : GoType) (rest : GoFields) (members : List (Text × Json))
    (values : (GoFields.field name type rest).Values) :
    (GoFields.field name type rest).unmarshal parseTime members values =
      (receive (type.unmarshal parseTime) values.1 (matching members name)).bind fun value =>
        (rest.unmarshal parseTime members values.2).bind fun others => some (value, others) :=
  rfl

/-! ## What is decoded -/

mutual

/-- The documents that are decoded into a type. -/
def GoType.Accepts (parseTime : String → Option GoTime) : GoType → Json → Prop
  | .string, json => (decodeString json "").isSome = true
  | .bool, json => (decodeBool json false).isSome = true
  | .int64, json => (decodeInt64 json 0).isSome = true
  | .time, .string t => (parseTime t.toScalars).isSome = true
  | .any, json => (decodeAny json).isSome = true
  | .map element, .object members => ∀ m ∈ members, element.Accepts parseTime m.2
  | .slice element, .array items => ∀ item ∈ items, element.Accepts parseTime item
  | .pointer element, json => json = .null ∨ element.Accepts parseTime json
  | .struct fields, .object members => fields.Accepts parseTime members
  | _, json => json = .null

/-- The members that are decoded into the fields of a struct. -/
def GoFields.Accepts (parseTime : String → Option GoTime) :
    GoFields → List (Text × Json) → Prop
  | .nil, _ => True
  | .field name type rest, members =>
      (∀ json ∈ matching members name, type.Accepts parseTime json) ∧
        rest.Accepts parseTime members

end

/-- Items are collected if each of them is there. -/
theorem isSome_mapM_iff {α β : Type} {f : α → Option β} {p : α → Prop} {xs : List α}
    (h : ∀ x ∈ xs, (f x).isSome = true ↔ p x) :
    (xs.mapM f).isSome = true ↔ ∀ x ∈ xs, p x := by
  induction xs with
  | nil => exact iff_of_true rfl (List.forall_mem_nil p)
  | cons x rest ih =>
      rw [List.forall_mem_cons] at h ⊢
      rw [List.mapM_cons, ← h.1, ← ih h.2]
      cases f x with
      | none => simp
      | some y => cases rest.mapM f <;> simp

mutual

/-- Whether a document is decoded does not depend on the value it finds. -/
theorem GoType.unmarshal_isSome_iff {parseTime : String → Option GoTime} (t : GoType)
    (json : Json) (value : t.Value) :
    (t.unmarshal parseTime json value).isSome = true ↔ t.Accepts parseTime json := by
  cases t with
  | string => cases json <;> exact Iff.rfl
  | bool => cases json <;> exact Iff.rfl
  | int64 =>
      cases json with
      | number literal => cases literal <;> exact Iff.rfl
      | _ => exact Iff.rfl
  | time =>
      cases json with
      | null => exact iff_of_true rfl rfl
      | string t => exact Iff.rfl
      | bool | number | array | object => exact iff_of_false Bool.false_ne_true Json.noConfusion
  | any => exact Iff.rfl
  | map element =>
      cases json with
      | null => exact iff_of_true rfl rfl
      | object members =>
          have hmembers := isSome_mapM_iff
            (f := fun m : Text × Json => (element.unmarshal parseTime m.2 element.zero).map
              fun v => (m.1.toScalars, v)) (p := fun m => element.Accepts parseTime m.2)
            fun m (_ : m ∈ members) => by
              rw [Option.isSome_map]
              exact element.unmarshal_isSome_iff m.2 element.zero
          refine Iff.trans ?_ hmembers
          rw [GoType.unmarshal_map]
          cases members.mapM fun m => (element.unmarshal parseTime m.2 element.zero).map
            fun v => (m.1.toScalars, v) with
          | none => exact Iff.rfl
          | some assigned => exact Iff.rfl
      | bool | number | string | array => exact iff_of_false Bool.false_ne_true Json.noConfusion
  | slice element =>
      cases json with
      | null => exact iff_of_true rfl rfl
      | array items =>
          have hitems : (refill (element.unmarshal parseTime) element.zero items
              (Option.getD value .empty)).isSome = true ↔
                ∀ item ∈ items, element.Accepts parseTime item :=
            refill_isSome_iff (fun item _ v => element.unmarshal_isSome_iff item v) _
          rw [GoType.unmarshal_slice]
          refine Iff.trans ?_ hitems
          exact iff_of_eq (congrArg (· = true) Option.isSome_map)
      | bool | number | string | object => exact iff_of_false Bool.false_ne_true Json.noConfusion
  | pointer element =>
      by_cases hnull : json = .null
      · rw [hnull]
        exact iff_of_true rfl (.inl rfl)
      · refine Iff.trans ?_ (or_iff_right hnull).symm
        rw [GoType.unmarshal_pointer hnull value]
        refine Iff.trans ?_ (element.unmarshal_isSome_iff json (Option.getD value element.zero))
        exact iff_of_eq (congrArg (· = true) Option.isSome_map)
  | struct fields =>
      cases json with
      | null => exact iff_of_true rfl rfl
      | object members => exact fields.unmarshal_isSome_iff members value
      | bool | number | string | array => exact iff_of_false Bool.false_ne_true Json.noConfusion

/-- The same of the fields of a struct. -/
theorem GoFields.unmarshal_isSome_iff {parseTime : String → Option GoTime} (fields : GoFields)
    (members : List (Text × Json)) (values : fields.Values) :
    (fields.unmarshal parseTime members values).isSome = true ↔
      fields.Accepts parseTime members := by
  cases fields with
  | nil => exact iff_of_true rfl trivial
  | field name type rest =>
      have hfirst : (receive (type.unmarshal parseTime) values.1
          (matching members name)).isSome = true ↔
            ∀ json ∈ matching members name, type.Accepts parseTime json :=
        receive_isSome_iff (fun json _ v => type.unmarshal_isSome_iff json v) values.1
      have hrest : (rest.unmarshal parseTime members values.2).isSome = true ↔
          rest.Accepts parseTime members := rest.unmarshal_isSome_iff members values.2
      rw [GoFields.unmarshal_field, GoFields.Accepts, ← hfirst, ← hrest]
      cases receive (type.unmarshal parseTime) values.1 (matching members name) with
      | none => exact iff_of_false Bool.false_ne_true fun h => Bool.false_ne_true h.1
      | some value =>
          cases rest.unmarshal parseTime members values.2 with
          | none => exact iff_of_false Bool.false_ne_true fun h => Bool.false_ne_true h.2
          | some others => exact iff_of_true rfl ⟨rfl, rfl⟩

end

/-- A document that is decoded from one value is from any other. -/
theorem GoType.exists_unmarshal {parseTime : String → Option GoTime} {t : GoType} {json : Json}
    (h : t.Accepts parseTime json) (value : t.Value) :
    ∃ result, t.unmarshal parseTime json value = some result :=
  Option.isSome_iff_exists.mp ((t.unmarshal_isSome_iff json value).mpr h)

/-- What was decoded is accepted. -/
theorem GoType.accepts_of_unmarshal {parseTime : String → Option GoTime} {t : GoType}
    {json : Json} {value result : t.Value} (h : t.unmarshal parseTime json value = some result) :
    t.Accepts parseTime json :=
  (t.unmarshal_isSome_iff json value).mp (Option.isSome_of_eq_some h)

end MizanSDK.Go
