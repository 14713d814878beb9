import MizanSDK.Go.Reformatting

/-!
# Documents that went through a map

An untyped document is a map with the last of several members of a name, and it is written
again in the order of the names.  A struct, which takes a name in any letter case and the
members one after the other, may be read otherwise from the one document than from the other.

Main results:

- Theorem `encodeAny_decodeAny`: what is written is the document that was read, its members
  as a map has them and its numbers in the form of their float64.
- Theorem `GoType.accepts_asWritten`: it is decoded wherever the first one is.
- Theorem `GoType.Unrepeated.same`: to the same value if no field of a struct is spoken of
  twice.
-/

namespace MizanSDK.Go

open JsonText LastWins Slices Assignments

/-! ## Writing an untyped value -/

mutual

/-- `json.Marshal` of an untyped value.  A float64 that is not finite is an
`UnsupportedValueError`. -/
def encodeAny : GoAny → Option Json
  | .nil => some .null
  | .bool b => some (.bool b)
  | .float64 literal =>
      if literal.overflowsBinary64 then none else some (.number (floatEncoder literal))
  | .string s => some (.string (Text.ofString s))
  | .slice items => (encodeItems items).map .array
  | .map entries =>
      ((sortedEntries (encodeEntries entries)).mapM fun e : String × Option Json =>
        e.2.map fun value => (Text.ofString e.1, value)).map .object

/-- The items of a slice. -/
def encodeItems : List GoAny → Option (List Json)
  | [] => some []
  | item :: rest =>
      match encodeAny item, encodeItems rest with
      | some json, some jsons => some (json :: jsons)
      | _, _ => none

/-- What each entry of a map would be written as. -/
def encodeEntries : GoMap → List (String × Option Json)
  | [] => []
  | (key, value) :: rest => (key, encodeAny value) :: encodeEntries rest

end

mutual

/-- A document after it was read into maps: of several members of a name the last one is
there, and the members are in the order of their names. -/
def asWritten : Json → Json
  | .null => .null
  | .bool b => .bool b
  | .number n => .number n
  | .string t => .string (Text.ofString t.toScalars)
  | .array items => .array (asWrittenItems items)
  | .object members =>
      .object ((sortedEntries (asWrittenMembers members)).map fun e => (Text.ofString e.1, e.2))

/-- The items of an array. -/
def asWrittenItems : List Json → List Json
  | [] => []
  | item :: rest => asWritten item :: asWrittenItems rest

/-- The members of an object. -/
def asWrittenMembers : List (Text × Json) → List (String × Json)
  | [] => []
  | (name, value) :: rest => (name.toScalars, asWritten value) :: asWrittenMembers rest

end

/-- Items that are all there are collected. -/
theorem mapM_eq_some_map {α β : Type} {f : α → Option β} {g : α → β} {xs : List α}
    (hf : ∀ x ∈ xs, f x = some (g x)) : xs.mapM f = some (xs.map g) := by
  induction xs with
  | nil => rfl
  | cons x xs ih =>
      rw [List.forall_mem_cons] at hf
      rw [List.mapM_cons, hf.1, ih hf.2]
      rfl

mutual

/-- Writing what was read gives the document again, with the numbers of its float64s. -/
theorem encodeAny_decodeAny {json : Json} {a : GoAny} (h : decodeAny json = some a) :
    encodeAny a = some ((asWritten json).mapNumbers floatEncoder) := by
  cases json with
  | null =>
      rw [← Option.some.inj h]
      rfl
  | bool b =>
      rw [← Option.some.inj h]
      rfl
  | string t =>
      rw [← Option.some.inj h]
      rfl
  | number n =>
      rw [decodeAny] at h
      split at h
      · cases h
      · rename_i hfinite
        rw [← Option.some.inj h]
        exact if_neg hfinite
  | array items =>
      rcases Option.map_eq_some_iff.mp h with ⟨values, hvalues, rfl⟩
      rw [encodeAny, encodeItems_decodeItems hvalues]
      rfl
  | object members =>
      rcases Option.map_eq_some_iff.mp h with ⟨entries, hentries, rfl⟩
      have hitems : ((sortedEntries (asWrittenMembers members)).map
          fun e => (e.1, some (e.2.mapNumbers floatEncoder))).mapM
            (fun e : String × Option Json => e.2.map fun value => (Text.ofString e.1, value)) =
          some ((sortedEntries (asWrittenMembers members)).map
            fun e => (Text.ofString e.1, e.2.mapNumbers floatEncoder)) := by
        rw [List.mapM_map]
        exact mapM_eq_some_map fun _ _ => rfl
      rw [encodeAny, encodeEntries_decodeMembers hentries, sortedEntries_map
        (fun json : Json => some (json.mapNumbers floatEncoder)), hitems, asWritten,
        Json.mapNumbers, Json.mapMembers_eq_map, List.map_map]
      rfl

/-- The same of the items of an array. -/
theorem encodeItems_decodeItems {items : List Json} {values : List GoAny}
    (h : decodeItems items = some values) :
    encodeItems values = some (Json.mapItems floatEncoder (asWrittenItems items)) := by
  cases items with
  | nil =>
      rw [← Option.some.inj h]
      rfl
  | cons item rest =>
      rw [decodeItems] at h
      split at h
      · rename_i v vs hitem hrest
        rw [← Option.some.inj h, encodeItems, encodeAny_decodeAny hitem,
          encodeItems_decodeItems hrest]
        rfl
      · cases h

/-- The same of the members of an object, each on its own. -/
theorem encodeEntries_decodeMembers {members : List (Text × Json)} {entries : GoMap}
    (h : decodeMembers members = some entries) :
    encodeEntries entries =
      (asWrittenMembers members).map fun e => (e.1, some (e.2.mapNumbers floatEncoder)) := by
  cases members with
  | nil =>
      rw [← Option.some.inj h]
      rfl
  | cons m rest =>
      rw [decodeMembers] at h
      split at h
      · rename_i v vs hvalue hrest
        rw [← Option.some.inj h, encodeEntries, encodeAny_decodeAny hvalue,
          encodeEntries_decodeMembers hrest]
        rfl
      · cases h

end

/-! ## Reading what a map has -/

/-- An array is rewritten item by item. -/
theorem asWrittenItems_eq_map (items : List Json) : asWrittenItems items = items.map asWritten := by
  induction items with
  | nil => rfl
  | cons item rest ih => rw [asWrittenItems, ih, List.map_cons]

/-- An object is rewritten member by member. -/
theorem asWrittenMembers_eq_map (members : List (Text × Json)) :
    asWrittenMembers members = members.map fun m => (m.1.toScalars, asWritten m.2) := by
  induction members with
  | nil => rfl
  | cons m rest ih => rw [asWrittenMembers, ih, List.map_cons]

/-- The members of an object as a map has them. -/
def writtenMembers (members : List (Text × Json)) : List (Text × Json) :=
  (sortedEntries (asWrittenMembers members)).map fun e => (Text.ofString e.1, e.2)

/-- A member that is written was there. -/
theorem exists_of_mem_writtenMembers {members : List (Text × Json)} {m' : Text × Json}
    (h : m' ∈ writtenMembers members) :
    ∃ m ∈ members, m' = (Text.ofString m.1.toScalars, asWritten m.2) := by
  rcases List.mem_map.mp h with ⟨e, he, rfl⟩
  have hmem := mem_of_mem_sortedEntries he
  rw [asWrittenMembers_eq_map] at hmem
  rcases List.mem_map.mp hmem with ⟨m, hm, rfl⟩
  exact ⟨m, hm, rfl⟩

/-- The members of a map are read in the order of their names. -/
theorem mapM_writtenMembers {α : Type} {f : Json → Option α} {g : Json → α}
    {members : List (Text × Json)} (h : ∀ m ∈ members, f (asWritten m.2) = some (g m.2)) :
    ((writtenMembers members).mapM fun m => (f m.2).map fun v => (m.1.toScalars, v)) =
      some (sortedEntries (members.map fun m => (m.1.toScalars, g m.2))) := by
  have hnamed : asWrittenMembers members =
      (members.map fun m => (m.1.toScalars, m.2)).map fun e => (e.1, asWritten e.2) := by
    rw [asWrittenMembers_eq_map, List.map_map]
    rfl
  have hvalues : (members.map fun m => (m.1.toScalars, g m.2)) =
      (members.map fun m => (m.1.toScalars, m.2)).map fun e => (e.1, g e.2) := by
    rw [List.map_map]
    rfl
  rw [writtenMembers, hnamed, hvalues, sortedEntries_map, sortedEntries_map, List.map_map,
    List.mapM_map]
  apply mapM_eq_some_map
  intro e he
  rcases List.mem_map.mp (mem_of_mem_sortedEntries he) with ⟨m, hm, rfl⟩
  simp only [Function.comp_apply, h m hm, Option.map_some, Text.toScalars_ofString]

/-- An array is decoded item by item. -/
theorem decodeItems_eq_mapM (items : List Json) : decodeItems items = items.mapM decodeAny := by
  induction items with
  | nil => rfl
  | cons item rest ih =>
      rw [decodeItems, List.mapM_cons, ← ih]
      cases decodeAny item with
      | none => rfl
      | some v => cases decodeItems rest <;> rfl

/-- An object is decoded member by member. -/
theorem decodeMembers_eq_mapM (members : List (Text × Json)) : decodeMembers members =
    members.mapM fun m => (decodeAny m.2).map fun v => (m.1.toScalars, v) := by
  induction members with
  | nil => rfl
  | cons m rest ih =>
      rw [decodeMembers, List.mapM_cons, ← ih]
      cases decodeAny m.2 with
      | none => rfl
      | some v => cases decodeMembers rest <;> rfl

/-- Items decode if each of them does. -/
theorem decodeItems_isSome_iff (items : List Json) :
    (decodeItems items).isSome = true ↔ ∀ item ∈ items, (decodeAny item).isSome = true := by
  rw [decodeItems_eq_mapM]
  exact isSome_mapM_iff fun _ _ => Iff.rfl

/-- Members decode if their values do. -/
theorem decodeMembers_isSome_iff (members : List (Text × Json)) :
    (decodeMembers members).isSome = true ↔ ∀ m ∈ members, (decodeAny m.2).isSome = true := by
  rw [decodeMembers_eq_mapM]
  apply isSome_mapM_iff
  intro m _
  rw [Option.isSome_map]

mutual

/-- What a map has of a document is read as the value that the document is read as, its maps in
order. -/
theorem decodeAny_asWritten {json : Json} {a : GoAny} (h : decodeAny json = some a) :
    decodeAny (asWritten json) = some a.ordered := by
  cases json with
  | null | bool =>
      cases h
      rfl
  | string t =>
      cases h
      exact congrArg (some ∘ GoAny.string) (Text.toScalars_ofString t.toScalars)
  | number n =>
      rw [decodeAny] at h
      split at h
      · cases h
      · rename_i hfinite
        rw [← Option.some.inj h]
        exact if_neg hfinite
  | array items =>
      rcases Option.map_eq_some_iff.mp h with ⟨values, hvalues, rfl⟩
      rw [decodeItems_eq_mapM] at hvalues
      have hitems := mapM_translated decodeAny (g := asWritten) (h := GoAny.ordered)
        hvalues (decodeAny_asWrittenItems items)
      rw [asWritten, decodeAny, decodeItems_eq_mapM, asWrittenItems_eq_map, hitems, GoAny.ordered,
        GoAny.orderedItems_eq_map]
      rfl
  | object members =>
      rcases Option.map_eq_some_iff.mp h with ⟨entries, hentries, rfl⟩
      have hsome := (decodeMembers_isSome_iff members).mp (Option.isSome_of_eq_some hentries)
      have hvalue : ∀ m ∈ members, decodeAny m.2 = some ((decodeAny m.2).getD .nil) := by
        intro m hm
        rcases Option.isSome_iff_exists.mp (hsome m hm) with ⟨v, hv⟩
        rw [hv, Option.getD_some]
      have hread : entries = members.map fun m => (m.1.toScalars, (decodeAny m.2).getD .nil) := by
        rw [decodeMembers_eq_mapM, mapM_eq_some_map
          (g := fun m => (m.1.toScalars, (decodeAny m.2).getD .nil)) fun m hm => by
            rw [hvalue m hm]
            rfl] at hentries
        exact (Option.some.inj hentries).symm
      have hwritten := mapM_writtenMembers (f := decodeAny)
        (g := fun json => ((decodeAny json).getD .nil).ordered)
        fun m hm => decodeAny_asWrittenMembers members m hm _ (hvalue m hm)
      change (decodeMembers (writtenMembers members)).map GoAny.map = _
      rw [decodeMembers_eq_mapM, hwritten, GoAny.ordered, GoAny.orderedEntries_eq_map, hread,
        List.map_map]
      rfl

/-- The same of the items of an array. -/
theorem decodeAny_asWrittenItems (items : List Json) :
    ∀ item ∈ items, ∀ v, decodeAny item = some v → decodeAny (asWritten item) = some v.ordered := by
  cases items with
  | nil => exact List.forall_mem_nil _
  | cons item rest =>
      rw [List.forall_mem_cons]
      exact ⟨fun v hv => decodeAny_asWritten hv, decodeAny_asWrittenItems rest⟩

/-- The same of the members of an object. -/
theorem decodeAny_asWrittenMembers (members : List (Text × Json)) :
    ∀ m ∈ members, ∀ v, decodeAny m.2 = some v → decodeAny (asWritten m.2) = some v.ordered := by
  cases members with
  | nil => exact List.forall_mem_nil _
  | cons m rest =>
      rw [List.forall_mem_cons]
      exact ⟨fun v hv => decodeAny_asWritten hv, decodeAny_asWrittenMembers rest⟩

end

/-- Replaced surrogates do not matter to the letter case of a name. -/
theorem foldName_ofString_toScalars (t : Text) :
    foldName (Text.ofString t.toScalars) = foldName t := by
  simp [foldName, Text.ofString, Text.toScalars, CodePoint.toScalar]

/-- The values a field receives from a map are values it received from the document. -/
theorem exists_of_mem_matching {members : List (Text × Json)} {name : String} {json' : Json}
    (h : json' ∈ matching (writtenMembers members) name) :
    ∃ json ∈ matching members name, json' = asWritten json := by
  rcases List.mem_map.mp h with ⟨m', hm', rfl⟩
  rw [List.mem_filter] at hm'
  rcases exists_of_mem_writtenMembers hm'.1 with ⟨m, hm, rfl⟩
  refine ⟨m.2, List.mem_map.mpr ⟨m, ?_, rfl⟩, rfl⟩
  rw [List.mem_filter]
  refine ⟨hm, ?_⟩
  have hname := hm'.2
  rw [foldName_ofString_toScalars] at hname
  exact hname

mutual

/-- What is decoded is decoded as well the way a map has it. -/
theorem GoType.accepts_asWritten {parseTime : String → Option GoTime} {t : GoType} {json : Json}
    (h : t.Accepts parseTime json) : t.Accepts parseTime (asWritten json) := by
  cases t with
  | string =>
      cases json with
      | null | string => rfl
      | bool | number | array | object => cases h
  | bool =>
      cases json with
      | null | bool => rfl
      | string | number | array | object => cases h
  | int64 =>
      cases json with
      | null => rfl
      | number => exact h
      | bool | string | array | object => cases h
  | time =>
      cases json with
      | null => rfl
      | string t =>
          rw [asWritten, GoType.Accepts, Text.toScalars_ofString]
          exact h
      | bool | number | array | object => cases h
  | any =>
      rcases Option.isSome_iff_exists.mp h with ⟨a, ha⟩
      exact Option.isSome_of_eq_some (decodeAny_asWritten ha)
  | map element =>
      cases json with
      | null => rfl
      | object members =>
          change ∀ m ∈ writtenMembers members, element.Accepts parseTime m.2
          intro m' hm'
          rcases exists_of_mem_writtenMembers hm' with ⟨m, hm, rfl⟩
          exact GoType.accepts_asWritten (h m hm)
      | bool | number | string | array => cases h
  | slice element =>
      cases json with
      | null => rfl
      | array items =>
          rw [asWritten, asWrittenItems_eq_map, GoType.Accepts, List.forall_mem_map]
          exact fun item hitem => GoType.accepts_asWritten (h item hitem)
      | bool | number | string | object => cases h
  | pointer element =>
      rcases h with rfl | h
      · exact .inl rfl
      · exact .inr (GoType.accepts_asWritten h)
  | struct fields =>
      cases json with
      | null => rfl
      | object members => exact GoFields.accepts_writtenMembers h
      | bool | number | string | array => cases h

/-- The same of the fields of a struct. -/
theorem GoFields.accepts_writtenMembers {parseTime : String → Option GoTime} {fields : GoFields}
    {members : List (Text × Json)} (h : fields.Accepts parseTime members) :
    fields.Accepts parseTime (writtenMembers members) := by
  cases fields with
  | nil => trivial
  | field name type rest =>
      refine ⟨?_, GoFields.accepts_writtenMembers h.2⟩
      intro json' hjson'
      rcases exists_of_mem_matching hjson' with ⟨json, hjson, rfl⟩
      exact GoType.accepts_asWritten (h.1 json hjson)

end

/-! ## Data that speaks of each field once -/

mutual

/-- No field of a struct is spoken of twice, up to letter case. -/
def GoType.Unrepeated : GoType → Json → Prop
  | .map element, .object members => ∀ m ∈ members, element.Unrepeated m.2
  | .slice element, .array items => ∀ item ∈ items, element.Unrepeated item
  | .pointer element, json => element.Unrepeated json
  | .struct fields, .object members => fields.Unrepeated members
  | _, _ => True

/-- The same of the fields of one struct. -/
def GoFields.Unrepeated : GoFields → List (Text × Json) → Prop
  | .nil, _ => True
  | .field name type rest, members =>
      (matching members name).length ≤ 1 ∧ (∀ json ∈ matching members name, type.Unrepeated json) ∧
        rest.Unrepeated members

end

/-- What a document is decoded to; zero if it is not. -/
def GoType.decoded (parseTime : String → Option GoTime) (t : GoType) (json : Json) : t.Value :=
  (t.unmarshal parseTime json t.zero).getD t.zero

/-- What can be decoded is decoded to its value. -/
theorem GoType.unmarshal_eq_decoded {parseTime : String → Option GoTime} {t : GoType} {json : Json}
    (h : t.Accepts parseTime json) :
    t.unmarshal parseTime json t.zero = some (t.decoded parseTime json) := by
  rcases GoType.exists_unmarshal h t.zero with ⟨result, hresult⟩
  rw [GoType.decoded, hresult, Option.getD_some]

section Decoded

variable {parseTime : String → Option GoTime} {element : GoType}

/-- A map is decoded entry by entry. -/
theorem GoType.decoded_map {members : List (Text × Json)}
    (h : ∀ m ∈ members, element.Accepts parseTime m.2) :
    (GoType.map element).decoded parseTime (.object members) =
      some (members.map fun m => (m.1.toScalars, element.decoded parseTime m.2)) := by
  rw [GoType.decoded, GoType.unmarshal_map, mapM_eq_some_map
    (g := fun m => (m.1.toScalars, element.decoded parseTime m.2)) fun m hm => by
      rw [GoType.unmarshal_eq_decoded (h m hm)]
      rfl]
  rfl

/-- The members a map has are decoded to sorted entries. -/
theorem GoType.decoded_writtenMembers {members : List (Text × Json)}
    (h : ∀ m ∈ members, element.Accepts parseTime m.2) :
    (GoType.map element).decoded parseTime (.object (writtenMembers members)) =
      some (sortedEntries (members.map fun m =>
        (m.1.toScalars, element.decoded parseTime (asWritten m.2)))) := by
  have hwritten := mapM_writtenMembers
    (f := fun json => element.unmarshal parseTime json element.zero)
    (g := fun json => element.decoded parseTime (asWritten json))
    fun m hm => GoType.unmarshal_eq_decoded (GoType.accepts_asWritten (h m hm))
  rw [GoType.decoded, GoType.unmarshal_map, hwritten]
  rfl

/-- A slice is decoded item by item. -/
theorem GoType.decoded_slice {items : List Json}
    (h : ∀ item ∈ items, element.Accepts parseTime item) :
    (GoType.slice element).decoded parseTime (.array items) =
      some ⟨items.map (element.decoded parseTime), []⟩ := by
  have hitems : refill (element.unmarshal parseTime) element.zero items .empty =
      some ⟨items.map (element.decoded parseTime), []⟩ := by
    rw [refill_empty, mapM_eq_some_map (g := element.decoded parseTime)
      fun item hitem => GoType.unmarshal_eq_decoded (h item hitem)]
    rfl
  rw [GoType.decoded, GoType.unmarshal_slice]
  refine (congrArg (fun o => Option.getD (Option.map some o) _) hitems).trans ?_
  rfl

/-- A pointer is decoded to what it points to. -/
theorem GoType.decoded_pointer {json : Json} (hnull : json ≠ .null)
    (h : element.Accepts parseTime json) :
    (GoType.pointer element).decoded parseTime json = some (element.decoded parseTime json) := by
  rw [GoType.decoded, GoType.unmarshal_pointer hnull]
  refine (congrArg (fun o => Option.getD (Option.map some o) _)
    (GoType.unmarshal_eq_decoded h)).trans ?_
  rfl

end Decoded

/-- What members are decoded to; zeros if they are not. -/
def GoFields.decoded (parseTime : String → Option GoTime) (fields : GoFields)
    (members : List (Text × Json)) : fields.Values :=
  (fields.unmarshal parseTime members fields.zero).getD fields.zero

/-- The first field of a struct receives the values under its name. -/
theorem GoFields.decoded_field {parseTime : String → Option GoTime} {name : String}
    {type : GoType} {rest : GoFields} {members : List (Text × Json)}
    (h : (GoFields.field name type rest).Accepts parseTime members) :
    (GoFields.field name type rest).decoded parseTime members =
      ((receive (type.unmarshal parseTime) type.zero (matching members name)).getD type.zero,
        rest.decoded parseTime members) := by
  have hfirst : (receive (type.unmarshal parseTime) type.zero
      (matching members name)).isSome = true :=
    (receive_isSome_iff (fun json _ v => type.unmarshal_isSome_iff json v) type.zero).mpr h.1
  have hrest := (rest.unmarshal_isSome_iff members rest.zero).mpr h.2
  rcases Option.isSome_iff_exists.mp hfirst with ⟨value, hvalue⟩
  rcases Option.isSome_iff_exists.mp hrest with ⟨others, hothers⟩
  rw [GoFields.decoded, GoFields.unmarshal_field, GoFields.decoded, hothers, Option.getD_some]
  refine (congrArg (fun o => Option.getD (Option.bind o _) _) hvalue).trans ?_
  refine (congrArg (fun o => Option.getD (Option.bind o _) _) hothers).trans ?_
  rw [hvalue]
  rfl

/-- One value is received as it is decoded. -/
theorem receive_single {V A : Type} {decode : V → A → Option A} {v : V} {content a : A}
    (h : decode v content = some a) : receive decode content [v] = some a := by
  rw [receive_cons, h]
  rfl

/-- Rewriting makes no `null`. -/
theorem asWritten_ne_null {json : Json} (h : json ≠ .null) : asWritten json ≠ .null := by
  cases json with
  | null => exact absurd rfl h
  | _ => exact Json.noConfusion

/-- A field that is spoken of once at most receives the same from a map. -/
theorem matching_writtenMembers {members : List (Text × Json)} {name : String}
    (h : (matching members name).length ≤ 1) :
    matching (writtenMembers members) name = (matching members name).map asWritten := by
  let q : String → Bool := fun key =>
    foldName (Text.ofString key) == foldName (Text.ofString name)
  have hnamed : (asWrittenMembers members).filter (fun e => q e.1) =
      (members.filter fun m => foldName m.1 == foldName (Text.ofString name)).map
        fun m => (m.1.toScalars, asWritten m.2) := by
    rw [asWrittenMembers_eq_map, List.filter_map]
    apply congrArg
    apply List.filter_congr
    intro m _
    simp only [q, Function.comp_apply, foldName_ofString_toScalars]
  have honce : ((asWrittenMembers members).filter fun e => q e.1).length ≤ 1 := by
    rw [hnamed, List.length_map]
    rw [matching, List.length_map] at h
    exact h
  have hwritten : (writtenMembers members).filter
      (fun m => foldName m.1 == foldName (Text.ofString name)) =
        ((sortedEntries (asWrittenMembers members)).filter fun e => q e.1).map
          fun e => (Text.ofString e.1, e.2) := List.filter_map
  rw [matching, hwritten, filter_sortedEntries q honce, hnamed, matching]
  simp only [List.map_map]
  rfl

/-- A map is seen alike the way it is written if its values are. -/
theorem GoType.visible_writtenMap {parseTime : String → Option GoTime} {element : GoType}
    {members : List (Text × Json)} (h : ∀ m ∈ members, element.Accepts parseTime m.2)
    (hvalue : ∀ m ∈ members, element.visible (element.decoded parseTime (asWritten m.2)) =
      element.visible (element.decoded parseTime m.2)) :
    (GoType.map element).visible
        ((GoType.map element).decoded parseTime (.object (writtenMembers members))) =
      (GoType.map element).visible
        ((GoType.map element).decoded parseTime (.object members)) := by
  have hsame : (members.map fun m =>
      (m.1.toScalars, element.visible (element.decoded parseTime (asWritten m.2)))) =
        members.map fun m => (m.1.toScalars, element.visible (element.decoded parseTime m.2)) := by
    apply List.map_congr_left
    intro m hm
    rw [hvalue m hm]
  rw [GoType.decoded_map h, GoType.decoded_writtenMembers h]
  apply congrArg some
  beta_reduce
  rw [← sortedEntries_map, sortedEntries_sortedEntries, List.map_map, List.map_map]
  exact congrArg sortedEntries hsame

/-- So is a slice if its items are. -/
theorem GoType.visible_writtenItems {parseTime : String → Option GoTime} {element : GoType}
    {items : List Json} (h : ∀ item ∈ items, element.Accepts parseTime item)
    (hitem : ∀ item ∈ items, element.visible (element.decoded parseTime (asWritten item)) =
      element.visible (element.decoded parseTime item)) :
    (GoType.slice element).visible
        ((GoType.slice element).decoded parseTime (asWritten (.array items))) =
      (GoType.slice element).visible ((GoType.slice element).decoded parseTime (.array items)) := by
  have hwritten : ∀ item ∈ items.map asWritten, element.Accepts parseTime item := by
    rw [List.forall_mem_map]
    exact fun item hmem => GoType.accepts_asWritten (h item hmem)
  rw [asWritten, asWrittenItems_eq_map, GoType.decoded_slice h, GoType.decoded_slice hwritten]
  apply congrArg some
  refine congrArg₂ Slice.mk ?_ rfl
  rw [List.map_map, List.map_map, List.map_map]
  exact List.map_congr_left hitem

mutual

/-- Data that speaks of each field once is seen alike the way a map has it. -/
theorem GoType.visible_asWritten {parseTime : String → Option GoTime} {t : GoType} {json : Json}
    (h : t.Accepts parseTime json) (honce : t.Unrepeated json) :
    t.visible (t.decoded parseTime (asWritten json)) = t.visible (t.decoded parseTime json) := by
  cases t with
  | string =>
      cases json with
      | null => rfl
      | string t => exact Text.toScalars_ofString t.toScalars
      | bool | number | array | object => cases h
  | bool =>
      cases json with
      | null | bool => rfl
      | string | number | array | object => cases h
  | int64 =>
      cases json with
      | null | number => rfl
      | bool | string | array | object => cases h
  | time =>
      cases json with
      | null => rfl
      | string t =>
          have hsame : decodeTime parseTime (asWritten (.string t)) =
              decodeTime parseTime (.string t) := by
            funext value
            rw [asWritten, decodeTime, decodeTime, Text.toScalars_ofString]
          exact congrArg (fun f => Option.getD (f GoType.time.zero) GoType.time.zero) hsame
      | bool | number | array | object => cases h
  | any =>
      rcases Option.isSome_iff_exists.mp h with ⟨a, ha⟩
      have hread : GoType.any.decoded parseTime json = a := congrArg (Option.getD · _) ha
      have hwritten : GoType.any.decoded parseTime (asWritten json) = a.ordered :=
        congrArg (Option.getD · _) (decodeAny_asWritten ha)
      rw [hread, hwritten]
      exact GoAny.ordered_ordered a
  | map element =>
      cases json with
      | null => rfl
      | object members =>
          exact GoType.visible_writtenMap h fun m hm =>
            GoType.visible_asWritten (h m hm) (honce m hm)
      | bool | number | string | array => cases h
  | slice element =>
      cases json with
      | null => rfl
      | array items =>
          exact GoType.visible_writtenItems h fun item hitem =>
            GoType.visible_asWritten (h item hitem) (honce item hitem)
      | bool | number | string | object => cases h
  | pointer element =>
      by_cases hnull : json = .null
      · rw [hnull]
        rfl
      · have haccepts : element.Accepts parseTime json := h.resolve_left hnull
        have hread := GoType.decoded_pointer hnull haccepts
        have hwritten := GoType.decoded_pointer (asWritten_ne_null hnull)
          (GoType.accepts_asWritten haccepts)
        rw [hread, hwritten]
        exact congrArg some (GoType.visible_asWritten haccepts honce)
  | struct fields =>
      cases json with
      | null => rfl
      | object members => exact GoFields.visible_writtenMembers h honce
      | bool | number | string | array => cases h

/-- The same of the fields of a struct. -/
theorem GoFields.visible_writtenMembers {parseTime : String → Option GoTime} {fields : GoFields}
    {members : List (Text × Json)} (h : fields.Accepts parseTime members)
    (honce : fields.Unrepeated members) :
    fields.visible (fields.decoded parseTime (writtenMembers members)) =
      fields.visible (fields.decoded parseTime members) := by
  cases fields with
  | nil => rfl
  | field name type rest =>
      have hrest := GoFields.visible_writtenMembers h.2 honce.2.2
      rw [GoFields.decoded_field h, GoFields.decoded_field (GoFields.accepts_writtenMembers h),
        matching_writtenMembers honce.1]
      refine congrArg₂ Prod.mk ?_ hrest
      cases hvalues : matching members name with
      | nil => rfl
      | cons json others =>
          have hlength := honce.1
          rw [hvalues, List.length_cons] at hlength
          obtain rfl : others = [] := List.length_eq_zero_iff.mp (by omega)
          have hmem : json ∈ matching members name := by
            rw [hvalues]
            exact List.mem_cons_self
          have hjson := h.1 json hmem
          have hread := receive_single (GoType.unmarshal_eq_decoded hjson)
          have hwritten :=
            receive_single (GoType.unmarshal_eq_decoded (GoType.accepts_asWritten hjson))
          rw [List.map_cons, List.map_nil, hread, hwritten, Option.getD_some, Option.getD_some]
          exact GoType.visible_asWritten hjson (honce.2.1 json hmem)

end

/-- The order of members matters only where a field of a struct is spoken of twice. -/
theorem GoType.Unrepeated.same {parseTime : String → Option GoTime} {t : GoType} {json : Json}
    (honce : t.Unrepeated json) {written merged : t.Value}
    (hwritten : t.unmarshal parseTime json t.zero = some written)
    (hmerged : t.unmarshal parseTime (asWritten json) t.zero = some merged) :
    t.Same merged written := by
  have hvisible := GoType.visible_asWritten (GoType.accepts_of_unmarshal hwritten) honce
  rw [GoType.decoded, GoType.decoded, hwritten, hmerged, Option.getD_some,
    Option.getD_some] at hvisible
  rw [GoType.Same, hvisible]

end MizanSDK.Go
