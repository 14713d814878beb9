import MizanSDK.Go.Results

/-!
# Encoding typed values

`json.Marshal` follows the type of the value it encodes, and leaves out the fields whose
tag says `omitempty` and whose value is empty.  The values of attributes are of any scalar
type; a reader of the document gets float64s for their numbers.

Main results:

- Theorem `TaggedType.unmarshal_marshal`: decoding into the same type gives the value back.

Current gaps: the values of attributes that are no scalars, and the years `time.Time` does
not write.
-/

namespace MizanSDK.Go

open JsonText Binary64 LastWins Slices Assignments

/-! ## Types with tags -/

mutual

/-- A type with the tags of its fields.  `scalar` is the type `any` of an attribute. -/
inductive TaggedType where
  | string
  | bool
  | int64
  | time
  | scalar
  | map (element : TaggedType)
  | slice (element : TaggedType)
  | pointer (element : TaggedType)
  | struct (fields : TaggedFields)

/-- The fields of a struct with the names in their tags, and whether these say
`omitempty`. -/
inductive TaggedFields where
  | nil
  | field (name : String) (omitEmpty : Bool) (type : TaggedType) (rest : TaggedFields)

end

mutual

/-- The type as the decoder sees it. -/
def TaggedType.erase : TaggedType → GoType
  | .string => .string
  | .bool => .bool
  | .int64 => .int64
  | .time => .time
  | .scalar => .any
  | .map element => .map element.erase
  | .slice element => .slice element.erase
  | .pointer element => .pointer element.erase
  | .struct fields => .struct fields.erase

/-- The fields as the decoder sees them. -/
def TaggedFields.erase : TaggedFields → GoFields
  | .nil => .nil
  | .field name _ type rest => .field name type.erase rest.erase

end

mutual

/-- The values of a type, as they are before they are encoded. -/
def TaggedType.Value : TaggedType → Type
  | .string => String
  | .bool => Bool
  | .int64 => ℤ
  | .time => GoTime
  | .scalar => AttributeValue
  | .map element => Option (List (String × element.Value))
  | .slice element => Option (List element.Value)
  | .pointer element => Option element.Value
  | .struct fields => fields.Values

/-- The values of the fields of a struct. -/
def TaggedFields.Values : TaggedFields → Type
  | .nil => Unit
  | .field _ _ type rest => type.Value × rest.Values

end

/-! ## Attributes -/

/-- The literal `fmt.Sprint` writes for a finite float64. -/
def floatLiteral (text : String) : Option Number :=
  let negative := text.toList.head? = some '-'
  let unsigned := if negative then text.toList.drop 1 else text.toList
  let mantissa := unsigned.takeWhile (· ≠ 'e')
  let exponent := (unsigned.dropWhile (· ≠ 'e')).drop 1
  let whole := mantissa.takeWhile (· ≠ '.')
  let fraction := (mantissa.dropWhile (· ≠ '.')).drop 1
  let digits := exponent.drop 1
  if Decimal.isDigits (whole ++ fraction) && (exponent.isEmpty || Decimal.isDigits digits) then
    let power : ℤ :=
      if exponent.head? = some '-' then -Decimal.digitsValue digits
      else Decimal.digitsValue digits
    some (.decimal negative (Decimal.digitsValue (whole ++ fraction)) (power - fraction.length))
  else none

/-- What a reader decodes an attribute to: the numbers are float64s then. -/
def AttributeValue.read : AttributeValue → Option GoAny
  | .nil => some .nil
  | .string s => some (.string s)
  | .bool b => some (.bool b)
  | .integer n => some (.float64 (integerLiteral n))
  | .float true text => (floatLiteral text).map fun literal => .float64 (floatEncoder literal)
  | .float false _ => none
  | .composite => none

/-- `json.Marshal` of an attribute: integers are written as they are. -/
def AttributeValue.marshal : AttributeValue → Option Json
  | .nil => some .null
  | .string s => some (.string (Text.ofString s))
  | .bool b => some (.bool b)
  | .integer n => some (.number (integerLiteral n))
  | .float true text => (floatLiteral text).map fun literal => .number (floatEncoder literal)
  | .float false _ => none
  | .composite => none

/-! ## Encoding -/

/-- Whether an integer is zero. -/
def isZero (n : ℤ) : Bool := n == 0

theorem isZero_iff {n : ℤ} : isZero n = true ↔ n = 0 := beq_iff_eq

/-- Whether an attribute has no value. -/
def AttributeValue.isNil (a : AttributeValue) : Bool := a == .nil

/-- Whether `omitempty` leaves a value out; a struct or a time is never empty. -/
def TaggedType.isEmpty : (t : TaggedType) → t.Value → Bool
  | .string, s => String.isEmpty s
  | .bool, b => Bool.not b
  | .int64, n => isZero n
  | .time, _ => false
  | .scalar, a => AttributeValue.isNil a
  | .map element, entries => ((entries : Option (List (String × element.Value))).getD []).isEmpty
  | .slice element, items => ((items : Option (List element.Value)).getD []).isEmpty
  | .pointer element, target => (target : Option element.Value).isNone
  | .struct _, _ => false

mutual

/-- `json.Marshal`: the document of a value. -/
def TaggedType.marshal : (t : TaggedType) → t.Value → Option Json
  | .string, s => some (.string (Text.ofString s))
  | .bool, b => some (.bool b)
  | .int64, n => some (.number (integerLiteral n))
  | .time, t => some (.string (Text.ofString (GoTime.rfc3339Nano t)))
  | .scalar, a => AttributeValue.marshal a
  | .map _, none => some .null
  | .map element, some entries =>
      -- The keys of a map are written in their order.
      ((sortedEntries entries).mapM fun e =>
        (element.marshal e.2).map fun json => (Text.ofString e.1, json)).map .object
  | .slice _, none => some .null
  | .slice element, some items => (items.mapM element.marshal).map .array
  | .pointer _, none => some .null
  | .pointer element, some target => element.marshal target
  | .struct fields, values => (fields.marshal values).map .object

/-- The members that are written for the fields of a struct. -/
def TaggedFields.marshal : (fields : TaggedFields) → fields.Values →
    Option (List (Text × Json))
  | .nil, _ => some []
  | .field name omitEmpty type rest, (value, values) =>
      if omitEmpty && type.isEmpty value then rest.marshal values
      else do
        let json ← type.marshal value
        let members ← rest.marshal values
        return (Text.ofString name, json) :: members

end

/-! ## What a reader gets -/

mutual

/-- The value a reader of the document decodes. -/
def TaggedType.read : (t : TaggedType) → t.Value → t.erase.Value
  | .string, s => s
  | .bool, b => b
  | .int64, n => n
  | .time, t => t
  | .scalar, a => (AttributeValue.read a).getD .nil
  | .map element, entries =>
      (entries : Option (List (String × element.Value))).map
        (List.map fun e => (e.1, element.read e.2))
  | .slice element, items =>
      (items : Option (List element.Value)).map fun elems => ⟨elems.map element.read, []⟩
  | .pointer element, target => (target : Option element.Value).map element.read
  | .struct fields, values => fields.read values

/-- The values of the fields a reader decodes. -/
def TaggedFields.read : (fields : TaggedFields) → fields.Values → fields.erase.Values
  | .nil, _ => ()
  | .field _ _ type rest, (value, values) => (type.read value, rest.read values)

end

/-! ## Values that are kept -/

/-- An attribute is a scalar that JSON can hold. -/
def AttributeValue.IsScalar : AttributeValue → Prop
  | .integer n => n.natAbs < 2 ^ 64
  | .float true text =>
      ∃ literal, floatLiteral text = some literal ∧ literal.overflowsBinary64 = false
  | .float false _ => False
  | .composite => False
  | _ => True

mutual

/-- The encoding keeps a value: its integers are in range, its times can be parsed again,
its maps are given in the order of their keys, its attributes are scalars, and what is left
out is zero. -/
def TaggedType.Kept (parseTime : String → Option GoTime) : (t : TaggedType) → t.Value → Prop
  | .string, _ => True
  | .bool, _ => True
  | .int64, n => isInt64 n = true
  | .time, t => parseTime (GoTime.rfc3339Nano t) = some t
  | .scalar, a => AttributeValue.IsScalar a
  | .map _, none => True
  | .map element, some entries =>
      sortedEntries entries = entries ∧ ∀ e ∈ entries, element.Kept parseTime e.2
  | .slice _, none => True
  | .slice element, some items => ∀ x ∈ items, element.Kept parseTime x
  | .pointer _, none => True
  | .pointer element, some target => element.Kept parseTime target
  | .struct fields, values => fields.Kept parseTime values

/-- The encoding keeps the values of fields. -/
def TaggedFields.Kept (parseTime : String → Option GoTime) :
    (fields : TaggedFields) → fields.Values → Prop
  | .nil, _ => True
  | .field _ omitEmpty type rest, (value, values) =>
      (if omitEmpty && type.isEmpty value then type.read value = type.erase.zero
        else type.Kept parseTime value) ∧ rest.Kept parseTime values

end

/-! ## Well-tagged types -/

/-- Encoded values of these types are never `null`. -/
def TaggedType.spoken : TaggedType → Bool
  | .string | .bool | .int64 | .time | .struct _ => true
  | .scalar | .map _ | .slice _ | .pointer _ => false

/-- The names of fields. -/
def TaggedFields.names : TaggedFields → List String
  | .nil => []
  | .field name _ _ rest => name :: rest.names

mutual

/-- No two fields of a struct have names that are equal up to case, and no pointer leads to
what may be `null`. -/
def TaggedType.wellTagged : TaggedType → Bool
  | .map element => element.wellTagged
  | .slice element => element.wellTagged
  | .pointer element => element.spoken && element.wellTagged
  | .struct fields => fields.wellTagged
  | _ => true

/-- The same for fields. -/
def TaggedFields.wellTagged : TaggedFields → Bool
  | .nil => true
  | .field name _ type rest =>
      type.wellTagged && rest.wellTagged &&
        rest.names.all fun other =>
          foldName (Text.ofString other) != foldName (Text.ofString name)

end

/-! ## Round trips -/

/-- What is read of what was written for the elements of a list. -/
theorem mapM_roundTrip {α β γ : Type} {f : α → Option β} {g : β → Option γ} {h : α → γ}
    (xs : List α) (hround : ∀ x ∈ xs, ∃ y, f x = some y ∧ g y = some (h x)) :
    ∃ ys, xs.mapM f = some ys ∧ ys.mapM g = some (xs.map h) := by
  induction xs with
  | nil => exact ⟨[], rfl, rfl⟩
  | cons x xs ih =>
      rw [List.forall_mem_cons] at hround
      rcases hround.1 with ⟨y, hy, hx⟩
      rcases ih hround.2 with ⟨ys, hys, hxs⟩
      refine ⟨y :: ys, ?_, ?_⟩
      · rw [List.mapM_cons, hy, hys]
        rfl
      · rw [List.mapM_cons, hx, hxs]
        rfl

/-- An integer in range is decoded from its literal. -/
theorem decodeInt64_integerLiteral {n : ℤ} (h : isInt64 n = true) (v : ℤ) :
    decodeInt64 (.number (integerLiteral n)) v = some n := by
  rw [integerLiteral, decodeInt64, signed_natAbs, if_pos h]

/-- A scalar attribute is read as the same scalar. -/
theorem AttributeValue.marshal_read {a : AttributeValue} (h : a.IsScalar) :
    ∃ json, a.marshal = some json ∧ decodeAny json = some (a.read.getD .nil) := by
  cases a with
  | nil => exact ⟨_, rfl, rfl⟩
  | string s => exact ⟨_, rfl, by simp [decodeAny, read]⟩
  | bool b => exact ⟨_, rfl, rfl⟩
  | integer n =>
      have hfinite : (integerLiteral n).overflowsBinary64 = false := by
        have hsmall : (n.natAbs : ℚ) < 2 ^ 64 := by exact_mod_cast h
        have hbound : (2 : ℚ) ^ 64 ≤ 2 ^ 1024 - 2 ^ 970 := by
          have hlow : (2 : ℚ) ^ 64 ≤ 2 ^ 970 := pow_le_pow_right₀ (by norm_num) (by norm_num)
          have hhigh : (2 : ℚ) ^ 1024 = 2 ^ 54 * 2 ^ 970 := by rw [← pow_add]
          rw [hhigh]
          generalize (2 : ℚ) ^ 970 = power at hlow
          norm_num at hlow ⊢
          linarith
        rw [integerLiteral, Number.overflowsBinary64, decide_eq_false_iff_not, not_le]
        exact lt_of_lt_of_le hsmall hbound
      exact ⟨_, rfl, by simp [decodeAny, read, hfinite]⟩
  | float finite text =>
      cases finite with
      | false => exact h.elim
      | true =>
          rcases h with ⟨literal, hliteral, hfinite⟩
          have hencoded := overflowsBinary64_floatEncoder literal
          rw [hfinite] at hencoded
          refine ⟨.number (floatEncoder literal), by simp [marshal, hliteral], ?_⟩
          simp [decodeAny, read, hliteral, hencoded]
  | composite => exact h.elim

/-- What is written for a value of a spoken type is not `null`. -/
theorem TaggedType.marshal_ne_null {t : TaggedType} (ht : t.spoken = true) {v : t.Value}
    {json : Json} (h : t.marshal v = some json) : json ≠ .null := by
  cases t with
  | string | bool | int64 | time =>
      rw [← Option.some.inj h]
      simp
  | struct fields =>
      rcases Option.map_eq_some_iff.mp h with ⟨members, -, rfl⟩
      simp
  | scalar | map | slice | pointer => simp [spoken] at ht

/-- A map is written in the order of its keys. -/
theorem TaggedType.marshal_map (element : TaggedType) (entries : List (String × element.Value)) :
    (TaggedType.map element).marshal (some entries) =
      ((sortedEntries entries).mapM fun e =>
        (element.marshal e.2).map fun json => (Text.ofString e.1, json)).map .object :=
  rfl

theorem matching_eq_nil {members : List (Text × Json)} {name : String}
    (h : ∀ m ∈ members, foldName m.1 ≠ foldName (Text.ofString name)) :
    matching members name = [] := by
  rw [matching, List.map_eq_nil_iff, List.filter_eq_nil_iff]
  intro m hm
  simpa using h m hm

/-- A field that is written receives what was written for it. -/
theorem matching_written (before members : List (Text × Json)) {name : String} {json : Json}
    (hbefore : ∀ m ∈ before, foldName m.1 ≠ foldName (Text.ofString name))
    (hmembers : ∀ m ∈ members, foldName m.1 ≠ foldName (Text.ofString name)) :
    matching (before ++ (Text.ofString name, json) :: members) name = [json] := by
  have hfirst := matching_eq_nil hbefore
  have hlast := matching_eq_nil hmembers
  rw [matching, List.map_eq_nil_iff] at hfirst hlast
  rw [matching, List.filter_append, List.filter_cons_of_pos (by simp), hfirst, hlast]
  rfl

mutual

/-- Decoding what was written for a value gives what a reader gets of it. -/
theorem TaggedType.unmarshal_marshal {parseTime : String → Option GoTime} (t : TaggedType)
    (ht : t.wellTagged = true) {v : t.Value} (hv : t.Kept parseTime v) :
    ∃ json, t.marshal v = some json ∧
      t.erase.unmarshal parseTime json t.erase.zero = some (t.read v) := by
  cases t with
  | string =>
      refine ⟨_, rfl, ?_⟩
      exact congrArg some (Text.toScalars_ofString v)
  | bool => exact ⟨_, rfl, rfl⟩
  | int64 => exact ⟨_, rfl, decodeInt64_integerLiteral hv _⟩
  | time =>
      refine ⟨_, rfl, ?_⟩
      change parseTime (Text.ofString (GoTime.rfc3339Nano v)).toScalars = some v
      rw [Text.toScalars_ofString]
      exact hv
  | scalar => exact AttributeValue.marshal_read hv
  | map element =>
      cases v with
      | none => exact ⟨_, rfl, rfl⟩
      | some assigned =>
          rcases hv with ⟨hsorted, hkept⟩
          have hround := mapM_roundTrip assigned
            (f := fun e : String × element.Value =>
              (element.marshal e.2).map fun json => (Text.ofString e.1, json))
            (g := fun m : Text × Json =>
              (element.erase.unmarshal parseTime m.2 element.erase.zero).map
                fun v => (m.1.toScalars, v))
            (h := fun e : String × element.Value => (e.1, element.read e.2)) ?_
          · rcases hround with ⟨members, hmembers, hread⟩
            refine ⟨.object members, ?_, ?_⟩
            · rw [TaggedType.marshal_map, hsorted, hmembers]
              rfl
            · refine (GoType.unmarshal_map element.erase members _).trans ?_
              rw [hread]
              rfl
          · intro e he
            rcases element.unmarshal_marshal ht (hkept e he) with ⟨json, hjson, hread⟩
            refine ⟨(Text.ofString e.1, json), by rw [hjson]; rfl, ?_⟩
            dsimp only
            rw [hread, Option.map_some, Text.toScalars_ofString]
  | slice element =>
      cases v with
      | none => exact ⟨_, rfl, rfl⟩
      | some elements =>
          rcases mapM_roundTrip (h := element.read) elements fun x hx =>
            element.unmarshal_marshal ht (hv x hx) with ⟨items, hitems, hread⟩
          refine ⟨.array items, ?_, ?_⟩
          · exact congrArg (Option.map Json.array) hitems
          · have hitems :
                refill (element.erase.unmarshal parseTime) element.erase.zero items .empty =
                  some ⟨elements.map element.read, []⟩ := by
              rw [refill_empty, hread]
              rfl
            exact congrArg (Option.map some) hitems
  | pointer element =>
      rw [TaggedType.wellTagged, Bool.and_eq_true] at ht
      cases v with
      | none => exact ⟨_, rfl, rfl⟩
      | some target =>
          rcases element.unmarshal_marshal ht.2 hv with ⟨json, hjson, hread⟩
          refine ⟨json, hjson, ?_⟩
          have hspoken := TaggedType.marshal_ne_null ht.1 hjson
          exact (GoType.unmarshal_pointer hspoken _).trans (congrArg (Option.map some) hread)
  | struct fields =>
      rcases fields.unmarshal_marshal ht hv with ⟨members, hmembers, -, hread⟩
      refine ⟨.object members, congrArg (Option.map Json.object) hmembers, ?_⟩
      exact hread [] (List.forall_mem_nil _)

/-- Members that no field takes do not matter. -/
theorem TaggedFields.unmarshal_marshal {parseTime : String → Option GoTime}
    (fields : TaggedFields) (ht : fields.wellTagged = true) {vs : fields.Values}
    (hvs : fields.Kept parseTime vs) :
    ∃ members, fields.marshal vs = some members ∧
      (∀ m ∈ members, ∃ name ∈ fields.names, m.1 = Text.ofString name) ∧
      ∀ before : List (Text × Json), (∀ m ∈ before, ∀ name ∈ fields.names,
          foldName m.1 ≠ foldName (Text.ofString name)) →
        fields.erase.unmarshal parseTime (before ++ members) fields.erase.zero =
          some (fields.read vs) := by
  cases fields with
  | nil => exact ⟨[], rfl, List.forall_mem_nil _, fun _ _ => rfl⟩
  | field name omitEmpty type rest =>
      rcases vs with ⟨value, values⟩
      rw [TaggedFields.wellTagged, Bool.and_eq_true, Bool.and_eq_true, List.all_eq_true] at ht
      rcases ht with ⟨⟨htype, hrest⟩, hnames⟩
      have hfresh : ∀ other ∈ rest.names,
          foldName (Text.ofString other) ≠ foldName (Text.ofString name) := by
        intro other hother
        simpa using hnames other hother
      rcases hvs with ⟨hvalue, hvalues⟩
      rcases rest.unmarshal_marshal hrest hvalues with ⟨members, hmembers, hnamed, hread⟩
      have hapart : ∀ m ∈ members, foldName m.1 ≠ foldName (Text.ofString name) := by
        intro m hm
        rcases hnamed m hm with ⟨other, hother, hm'⟩
        rw [hm']
        exact hfresh other hother
      by_cases hempty : (omitEmpty && type.isEmpty value) = true
      · rw [if_pos hempty] at hvalue
        refine ⟨members, ?_, ?_, ?_⟩
        · exact (if_pos hempty).trans hmembers
        · intro m hm
          rcases hnamed m hm with ⟨other, hother, hm'⟩
          exact ⟨other, List.mem_cons_of_mem _ hother, hm'⟩
        · intro before hbefore
          have hmissed : matching (before ++ members) name = [] := by
            refine matching_eq_nil fun m hm => ?_
            rcases List.mem_append.mp hm with hm | hm
            · exact hbefore m hm name List.mem_cons_self
            · exact hapart m hm
          have hothers := hread before fun m hm other hother =>
            hbefore m hm other (List.mem_cons_of_mem _ hother)
          refine (GoFields.unmarshal_field name type.erase rest.erase _ _).trans ?_
          rw [hmissed]
          refine (congrArg (Option.bind · _) hothers).trans ?_
          exact congrArg (fun v => some (v, rest.read values)) hvalue.symm
      · rw [if_neg hempty] at hvalue
        rcases type.unmarshal_marshal htype hvalue with ⟨json, hjson, hdecoded⟩
        refine ⟨(Text.ofString name, json) :: members, ?_, ?_, ?_⟩
        · refine (if_neg hempty).trans ?_
          rw [hjson, hmembers]
          rfl
        · intro m hm
          rcases List.mem_cons.mp hm with rfl | hm
          · exact ⟨name, List.mem_cons_self, rfl⟩
          · rcases hnamed m hm with ⟨other, hother, hm'⟩
            exact ⟨other, List.mem_cons_of_mem _ hother, hm'⟩
        · intro before hbefore
          have htaken :
              matching (before ++ (Text.ofString name, json) :: members) name = [json] :=
            matching_written before members
              (fun m hm => hbefore m hm name List.mem_cons_self) hapart
          have hothers := hread (before ++ [(Text.ofString name, json)]) ?_
          · rw [List.append_assoc, List.singleton_append] at hothers
            refine (GoFields.unmarshal_field name type.erase rest.erase _ _).trans ?_
            rw [htaken]
            refine (congrArg (Option.bind · _) (receive_single hdecoded)).trans ?_
            refine (congrArg (Option.bind · _) hothers).trans ?_
            rfl
          · intro m hm other hother
            rcases List.mem_append.mp hm with hm | hm
            · exact hbefore m hm other (List.mem_cons_of_mem _ hother)
            · rw [List.mem_singleton.mp hm]
              exact (hfresh other hother).symm

end

end MizanSDK.Go
