import MizanSDK.Go.TypedValues

/-!
# Documents whose numbers went through float64

What becomes of the decoding of a document when each of its numbers is replaced by the
shortest decimal of its float64.

Main results:

- Theorem `GoType.accepts_floatEncoder_iff`: the document is still decoded if the integers
  stay in the range of `int64`.
- Theorem `GoType.unmarshal_reformat`: and it is decoded to a value that went through float64.
-/

namespace MizanSDK.Go

open JsonText Binary64 LastWins Slices

mutual

/-- Every integer that is read into a value of a type stays in the range of `int64` when it
goes through float64. -/
def GoType.InRange : GoType → Json → Prop
  | .int64, .number (.integer negative digits) =>
      isInt64 (throughInt (signed negative digits)) = true
  | .map element, .object members => ∀ m ∈ members, element.InRange m.2
  | .slice element, .array items => ∀ item ∈ items, element.InRange item
  | .pointer element, json => element.InRange json
  | .struct fields, .object members => fields.InRange members
  | _, _ => True

/-- The same of what is read into the fields of a struct. -/
def GoFields.InRange : GoFields → List (Text × Json) → Prop
  | .nil, _ => True
  | .field name type rest, members =>
      (∀ json ∈ matching members name, type.InRange json) ∧ rest.InRange members

end

/-- Members match by their names alone. -/
theorem matching_mapMembers (f : Number → Number) (members : List (Text × Json)) (name : String) :
    matching (Json.mapMembers f members) name =
      (matching members name).map (Json.mapNumbers f) := by
  rw [Json.mapMembers_eq_map]
  induction members with
  | nil => rfl
  | cons m rest ih =>
      simp only [matching, List.map_cons, List.filter_cons] at ih ⊢
      split
      · rw [List.map_cons, List.map_cons, List.map_cons, ih]
      · exact ih

/-- The digits of an integer in range. -/
theorem digits_le_of_isInt64 {negative : Bool} {digits : ℕ}
    (h : isInt64 (signed negative digits) = true) : digits ≤ 2 ^ 63 := by
  rw [isInt64, Bool.and_eq_true, decide_eq_true_eq, decide_eq_true_eq] at h
  cases negative with
  | false =>
      have hsigned : signed false digits = digits := rfl
      rw [hsigned] at h
      omega
  | true =>
      have hsigned : signed true digits = -digits := rfl
      rw [hsigned] at h
      omega

/-- Integers in the range of `int64` are read alike if they stay in it. -/
theorem decodeInt64_floatEncoder {negative : Bool} {digits : ℕ}
    (h : isInt64 (signed negative digits) = true) (value : ℤ) :
    decodeInt64 ((Json.number (.integer negative digits)).mapNumbers floatEncoder) value =
      if isInt64 (throughInt (signed negative digits)) = true then
        some (throughInt (signed negative digits)) else none := by
  rw [Json.mapNumbers, floatEncoder_integer negative (digits_le_of_isInt64 h), decodeInt64,
    throughInt_signed]

/-- An integer is decoded from an integer literal in range, or from `null`. -/
theorem decodeInt64_cases {json : Json} {value result : ℤ}
    (h : decodeInt64 json value = some result) :
    json = .null ∧ result = value ∨ ∃ negative digits, json = .number (.integer negative digits) ∧
      isInt64 (signed negative digits) = true ∧ result = signed negative digits := by
  cases json with
  | null => exact .inl ⟨rfl, (Option.some.inj h).symm⟩
  | number literal =>
      cases literal with
      | decimal negative mantissa exponent => cases h
      | integer negative digits =>
          rw [decodeInt64] at h
          split at h
          · rename_i hrange
            exact .inr ⟨negative, digits, rfl, hrange, (Option.some.inj h).symm⟩
          · cases h
  | bool | string | array | object => cases h

/-- No integer is read from `null`. -/
theorem GoType.inRange_null (t : GoType) : t.InRange .null := by
  cases t with
  | pointer element => exact GoType.inRange_null element
  | _ => trivial

/-- Replacing numbers makes no `null`. -/
theorem mapNumbers_ne_null {json : Json} (h : json ≠ .null) (f : Number → Number) :
    json.mapNumbers f ≠ .null := by
  cases json with
  | null => exact absurd rfl h
  | _ => exact Json.noConfusion

mutual

/-- A document is still decoded with its numbers through float64 if the integers stay in
range. -/
theorem GoType.accepts_floatEncoder_iff {parseTime : String → Option GoTime} {t : GoType}
    {json : Json} (h : t.Accepts parseTime json) :
    t.Accepts parseTime (json.mapNumbers floatEncoder) ↔ t.InRange json := by
  cases t with
  | string =>
      cases json with
      | null | string => exact iff_of_true rfl trivial
      | bool | number | array | object => cases h
  | bool =>
      cases json with
      | null | bool => exact iff_of_true rfl trivial
      | string | number | array | object => cases h
  | int64 =>
      rcases Option.isSome_iff_exists.mp h with ⟨result, hresult⟩
      rcases decodeInt64_cases hresult with ⟨rfl, -⟩ | ⟨negative, digits, rfl, hrange, -⟩
      · exact iff_of_true rfl trivial
      · rw [GoType.Accepts, decodeInt64_floatEncoder hrange, GoType.InRange]
        split
        · rename_i hstays
          exact iff_of_true rfl hstays
        · rename_i hleaves
          exact iff_of_false Bool.false_ne_true hleaves
  | time =>
      cases json with
      | null => exact iff_of_true rfl trivial
      | string => exact iff_of_true h trivial
      | bool | number | array | object => cases h
  | any =>
      have hdecoded : (decodeAny (json.mapNumbers floatEncoder)).isSome = true := by
        rw [decodeAny_mapNumbers overflowsBinary64_floatEncoder, Option.isSome_map]
        exact h
      have hrange : GoType.any.InRange json := by
        cases json <;> trivial
      exact iff_of_true hdecoded hrange
  | map element =>
      cases json with
      | null => exact iff_of_true rfl trivial
      | object members =>
          rw [Json.mapNumbers, Json.mapMembers_eq_map, GoType.Accepts, List.forall_mem_map]
          exact forall₂_congr fun m hm => GoType.accepts_floatEncoder_iff (h m hm)
      | bool | number | string | array => cases h
  | slice element =>
      cases json with
      | null => exact iff_of_true rfl trivial
      | array items =>
          rw [Json.mapNumbers, Json.mapItems_eq_map, GoType.Accepts, List.forall_mem_map]
          exact forall₂_congr fun item hitem => GoType.accepts_floatEncoder_iff (h item hitem)
      | bool | number | string | object => cases h
  | pointer element =>
      rcases h with rfl | h
      · exact iff_of_true (.inl rfl) (GoType.inRange_null _)
      · by_cases hnull : json = .null
        · rw [hnull]
          exact iff_of_true (.inl rfl) (GoType.inRange_null _)
        · exact (or_iff_right (mapNumbers_ne_null hnull floatEncoder)).trans
            (GoType.accepts_floatEncoder_iff h)
  | struct fields =>
      cases json with
      | null => exact iff_of_true rfl trivial
      | object members => exact GoFields.accepts_floatEncoder_iff h
      | bool | number | string | array => cases h

/-- The same of the fields of a struct. -/
theorem GoFields.accepts_floatEncoder_iff {parseTime : String → Option GoTime} {fields : GoFields}
    {members : List (Text × Json)} (h : fields.Accepts parseTime members) :
    fields.Accepts parseTime (Json.mapMembers floatEncoder members) ↔ fields.InRange members := by
  cases fields with
  | nil => exact Iff.rfl
  | field name type rest =>
      rw [GoFields.Accepts, GoFields.InRange, matching_mapMembers, List.forall_mem_map]
      refine and_congr ?_ (GoFields.accepts_floatEncoder_iff h.2)
      exact forall₂_congr fun json hjson => GoType.accepts_floatEncoder_iff (h.1 json hjson)

end

/-- Items that are translated alike. -/
theorem mapM_translated {α β γ δ : Type} {f : α → Option β} (f' : γ → Option δ) {g : α → γ}
    {h : β → δ} {xs : List α} {ys : List β} (hread : xs.mapM f = some ys)
    (hitem : ∀ x ∈ xs, ∀ y, f x = some y → f' (g x) = some (h y)) :
    (xs.map g).mapM f' = some (ys.map h) := by
  induction xs generalizing ys with
  | nil =>
      cases hread
      rfl
  | cons x xs ih =>
      rw [List.mapM_cons] at hread
      rcases Option.bind_eq_some_iff.mp hread with ⟨y, hy, hread⟩
      rcases Option.bind_eq_some_iff.mp hread with ⟨zs, hzs, hread⟩
      rw [List.forall_mem_cons] at hitem
      rw [← Option.some.inj hread, List.map_cons, List.mapM_cons, hitem.1 y hy, ih hzs hitem.2]
      rfl

/-- The members of a map whose values are translated alike. -/
theorem GoType.reformat_members {parseTime : String → Option GoTime} {element : GoType}
    {members : List (Text × Json)} {assigned : List (String × element.Value)}
    (h : (members.mapM fun m => (element.unmarshal parseTime m.2 element.zero).map
      fun v => (m.1.toScalars, v)) = some assigned)
    (hvalue : ∀ m ∈ members, ∀ v, element.unmarshal parseTime m.2 element.zero = some v →
      element.unmarshal parseTime (m.2.mapNumbers floatEncoder)
        (element.throughFloat64 element.zero) = some (element.throughFloat64 v)) :
    ((Json.mapMembers floatEncoder members).mapM fun m =>
        (element.unmarshal parseTime m.2 element.zero).map fun v => (m.1.toScalars, v)) =
      some (assigned.map fun entry => (entry.1, element.throughFloat64 entry.2)) := by
  rw [Json.mapMembers_eq_map]
  apply mapM_translated _ h
  intro m hm entry hentry
  rcases Option.map_eq_some_iff.mp hentry with ⟨v, hv, rfl⟩
  have hread := hvalue m hm v hv
  rw [element.throughFloat64_zero] at hread
  rw [hread]
  rfl

/-- What a pointer points to goes through float64 with it. -/
theorem GoType.throughFloat64_pointee (element : GoType) (value : (GoType.pointer element).Value) :
    Option.getD ((GoType.pointer element).throughFloat64 value) element.zero =
      element.throughFloat64 (Option.getD value element.zero) := by
  cases value with
  | none => exact element.throughFloat64_zero.symm
  | some pointee => rfl

mutual

/-- A document whose integers stay in range is decoded with its numbers through float64 to a
value that went through float64. -/
theorem GoType.unmarshal_reformat {parseTime : String → Option GoTime} {t : GoType} {json : Json}
    {value result : t.Value} (h : t.unmarshal parseTime json value = some result)
    (hrange : t.InRange json) :
    t.unmarshal parseTime (json.mapNumbers floatEncoder) (t.throughFloat64 value) =
      some (t.throughFloat64 result) := by
  cases t with
  | string =>
      cases json with
      | null | string => exact h
      | bool | number | array | object => cases h
  | bool =>
      cases json with
      | null | bool => exact h
      | string | number | array | object => cases h
  | time =>
      cases json with
      | null | string => exact h
      | bool | number | array | object => cases h
  | int64 =>
      rcases decodeInt64_cases h with ⟨rfl, rfl⟩ | ⟨negative, digits, rfl, hliteral, rfl⟩
      · rfl
      · exact (decodeInt64_floatEncoder hliteral _).trans (if_pos hrange)
  | any =>
      change decodeAny (json.mapNumbers floatEncoder) = some (GoAny.mapNumbers floatEncoder result)
      rw [decodeAny_mapNumbers overflowsBinary64_floatEncoder]
      exact congrArg _ h
  | map element =>
      cases json with
      | null =>
          cases h
          rfl
      | object members =>
          rw [GoType.unmarshal_map] at h
          rcases Option.bind_eq_some_iff.mp h with ⟨assigned, hassigned, hresult⟩
          rw [← Option.some.inj hresult]
          have hmembers := GoType.reformat_members hassigned
            fun m hm v hv => GoType.unmarshal_reformat hv (hrange m hm)
          rw [Json.mapNumbers, GoType.unmarshal_map, hmembers]
          cases value with
          | none => rfl
          | some entries => exact congrArg (some ∘ some) List.map_append.symm
      | bool | number | string | array => cases h
  | slice element =>
      cases json with
      | null =>
          cases h
          rfl
      | array items =>
          rw [GoType.unmarshal_slice] at h
          rcases Option.map_eq_some_iff.mp h with ⟨elements, helements, rfl⟩
          have hitems := refill_map (element.unmarshal parseTime)
            (g := Json.mapNumbers floatEncoder) (f := element.throughFloat64)
            (fun item hitem v w hread => GoType.unmarshal_reformat hread (hrange item hitem))
            helements
          rw [element.throughFloat64_zero] at hitems
          rw [Json.mapNumbers, Json.mapItems_eq_map, GoType.unmarshal_slice]
          cases value with
          | none => exact congrArg (Option.map some) hitems
          | some memory => exact congrArg (Option.map some) hitems
      | bool | number | string | object => cases h
  | pointer element =>
      by_cases hnull : json = .null
      · rw [hnull] at h ⊢
        cases h
        rfl
      · rw [GoType.unmarshal_pointer hnull] at h
        rcases Option.map_eq_some_iff.mp h with ⟨target, htarget, rfl⟩
        have hread := GoType.unmarshal_reformat htarget hrange
        rw [GoType.unmarshal_pointer (mapNumbers_ne_null hnull floatEncoder)]
        rw [GoType.throughFloat64_pointee, hread]
        rfl
  | struct fields =>
      cases json with
      | null =>
          cases h
          rfl
      | object members => exact GoFields.unmarshal_reformat h hrange
      | bool | number | string | array => cases h

/-- The same of the fields of a struct. -/
theorem GoFields.unmarshal_reformat {parseTime : String → Option GoTime} {fields : GoFields}
    {members : List (Text × Json)} {values results : fields.Values}
    (h : fields.unmarshal parseTime members values = some results)
    (hrange : fields.InRange members) :
    fields.unmarshal parseTime (Json.mapMembers floatEncoder members)
        (fields.mapLeaves throughInt (GoAny.mapNumbers floatEncoder) values) =
      some (fields.mapLeaves throughInt (GoAny.mapNumbers floatEncoder) results) := by
  cases fields with
  | nil => exact congrArg _ (Option.some.inj h)
  | field name type rest =>
      rw [GoFields.unmarshal_field] at h
      rcases Option.bind_eq_some_iff.mp h with ⟨value, hvalue, h⟩
      rcases Option.bind_eq_some_iff.mp h with ⟨others, hothers, h⟩
      have hfirst := receive_map (type.unmarshal parseTime)
        (g := Json.mapNumbers floatEncoder) (f := type.throughFloat64)
        (fun json hjson v w hread => GoType.unmarshal_reformat hread (hrange.1 json hjson)) hvalue
      rw [← matching_mapMembers] at hfirst
      have hrest := GoFields.unmarshal_reformat hothers hrange.2
      rw [GoFields.unmarshal_field, ← Option.some.inj h]
      refine (congrArg (Option.bind · _) hfirst).trans ?_
      refine (congrArg (Option.bind · _) hrest).trans ?_
      rfl

end

end MizanSDK.Go
