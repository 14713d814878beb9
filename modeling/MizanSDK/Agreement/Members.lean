import MizanSDK.Go.Webhooks
import MizanSDK.Python.Webhooks

/-!
# One document in both receivers

Go decodes an object into struct fields, which take members whose names differ
in letter case as well; Python looks names up as they are spelled.  In a document
whose names are distinct up to case, both read the same members but for the
spelling of their names.

Main results:

- Theorem `field_eq_decoded`: what a struct field receives.
- Theorem `member_of_spelled`: what Python finds, Go finds.
-/

namespace MizanSDK.Agreement

open JsonText Go Python

/-- The members of an object. -/
abbrev Members := List (Text × Json)

/-! ## Plain documents -/

/-- The names of the members differ in more than letter case. -/
def DistinctNames (members : Members) : Prop :=
  (members.map fun m => foldName m.1).Nodup

/-- An object with distinct names, or a string without lone surrogates. -/
def Plain : Json → Prop
  | .object members => DistinctNames members
  | .string t => t.isScalar = true
  | _ => True

/-! ## Members by name -/

/-- The member a struct field of this name receives. -/
def member (members : Members) (name : String) : Option Json :=
  (matching members name).head?

/-- The member of exactly this name. -/
def spelled (members : Members) (name : String) : Option Json :=
  lookupLast members (Text.ofString name)

/-- The first member is a value of the field if its name matches. -/
theorem matching_cons (m : Text × Json) (rest : Members) (name : String) :
    matching (m :: rest) name =
      if foldName m.1 = foldName (Text.ofString name) then m.2 :: matching rest name
      else matching rest name := by
  unfold matching
  by_cases hname : foldName m.1 = foldName (Text.ofString name)
  · simp [hname]
  · rw [if_neg hname, List.filter_cons_of_neg]
    simpa using hname

/-- The values of a field are those of the members whose names match. -/
theorem mem_matching_iff (members : Members) (name : String) (json : Json) :
    json ∈ matching members name ↔
      ∃ m ∈ members, foldName m.1 = foldName (Text.ofString name) ∧ m.2 = json := by
  simp only [matching, List.mem_map, List.mem_filter, beq_iff_eq]
  constructor
  · rintro ⟨m, ⟨hm, hname⟩, hjson⟩
    exact ⟨m, hm, hname, hjson⟩
  · rintro ⟨m, hm, hname, hjson⟩
    exact ⟨m, ⟨hm, hname⟩, hjson⟩

section Distinct

variable {members : Members} (h : DistinctNames members)
include h

/-- At most one member matches a name. -/
theorem matching_eq (name : String) :
    matching members name = (member members name).toList := by
  unfold member
  induction members with
  | nil => rfl
  | cons m rest ih =>
      rw [DistinctNames, List.map_cons, List.nodup_cons] at h
      rw [matching_cons]
      by_cases hname : foldName m.1 = foldName (Text.ofString name)
      · have hrest : matching rest name = [] := by
          rw [List.eq_nil_iff_forall_not_mem]
          intro json hjson
          obtain ⟨m', hm', hname', -⟩ := (mem_matching_iff rest name json).mp hjson
          refine h.1 (List.mem_map.mpr ⟨m', hm', ?_⟩)
          rw [hname, hname']
        rw [if_pos hname, hrest]
        rfl
      · rw [if_neg hname]
        exact ih h.2

/-- What Python finds, Go finds. -/
theorem member_of_spelled {name : String} {json : Json}
    (hspelled : spelled members name = some json) : member members name = some json := by
  have hmem : json ∈ matching members name :=
    (mem_matching_iff members name json).mpr ⟨_, mem_of_lookupLast hspelled, rfl, rfl⟩
  rw [matching_eq h] at hmem
  exact Option.mem_toList.mp hmem

/-- A name whose member Python finds is spelled as it should. -/
theorem spelled_eq_member {name : String} (hsome : (spelled members name).isSome = true) :
    spelled members name = member members name := by
  obtain ⟨json, hjson⟩ := Option.isSome_iff_exists.mp hsome
  rw [hjson, member_of_spelled h hjson]

/-- A name under which Python finds a member is spelled as it should. -/
theorem spelled_eq_member_of_some {name : String} {json : Json}
    (hspelled : spelled members name = some json) :
    spelled members name = member members name :=
  hspelled.trans (member_of_spelled h hspelled).symm

end Distinct

/-- A member is part of the document. -/
theorem mem_of_member {members : Members} {name : String} {json : Json}
    (h : member members name = some json) : ∃ m ∈ members, m.2 = json := by
  have hmem : json ∈ matching members name := List.mem_of_mem_head? h
  obtain ⟨m, hm, -, hjson⟩ := (mem_matching_iff members name json).mp hmem
  exact ⟨m, hm, hjson⟩

/-- The members of a value, if it is an object. -/
def membersOf : Option Json → Members
  | some (.object members) => members
  | _ => []

/-- Only an object has members. -/
theorem eq_object_of_member {v : Option Json} {name : String} {json : Json}
    (h : member (membersOf v) name = some json) : v = some (.object (membersOf v)) := by
  unfold membersOf at h ⊢
  split at h
  · rfl
  · simp [member, matching] at h

/-- The items of a value, if it is an array. -/
def itemsOf : Option Json → List Json
  | some (.array items) => items
  | _ => []

section PlainParts

variable {members : Members} (h : (Json.object members).Everywhere Plain)
include h

/-- A plain body has distinct names. -/
theorem distinctNames_of_plain : DistinctNames members := h.self

/-- A member of a plain document is plain. -/
theorem plain_member {name : String} {json : Json} (hjson : member members name = some json) :
    json.Everywhere Plain := by
  obtain ⟨m, hm, rfl⟩ := mem_of_member hjson
  exact h.member hm

/-- The object under a name is plain. -/
theorem plain_membersOf (name : String) :
    (Json.object (membersOf (member members name))).Everywhere Plain := by
  unfold membersOf
  split
  · rename_i inner hinner
    exact plain_member h hinner
  · exact ⟨List.nodup_nil, trivial⟩

/-- The items under a name are plain. -/
theorem plain_itemsOf (name : String) {item : Json}
    (hitem : item ∈ itemsOf (member members name)) : item.Everywhere Plain := by
  unfold itemsOf at hitem
  split at hitem
  · rename_i items hitems
    exact (plain_member h hitems).item hitem
  · simp at hitem

end PlainParts

/-- The object an item is, if it is one, is plain. -/
theorem plain_membersOf_some {item : Json} (h : item.Everywhere Plain) :
    (Json.object (membersOf (some item))).Everywhere Plain := by
  unfold membersOf
  split
  · rename_i members hmembers
    obtain rfl := Option.some.inj hmembers
    exact h
  · exact ⟨List.nodup_nil, trivial⟩

/-! ## Values of members -/

/-- A non-empty text. -/
def Filled (v : Option Json) : Prop := ∃ t, v = some (.string t) ∧ t ≠ []

/-- A text, `null` or nothing. -/
def OptionalText (v : Option Json) : Prop :=
  v = none ∨ v = some .null ∨ ∃ t, v = some (.string t)

/-- A filled member is a text. -/
theorem Filled.optionalText {v : Option Json} (h : Filled v) : OptionalText v := by
  obtain ⟨t, ht, -⟩ := h
  exact .inr (.inr ⟨t, ht⟩)

/-! ## Struct fields -/

section Fields

variable {α : Type*}

/-- What a struct field receives from its member: its zero value if there is
none. -/
def decoded (decode : Json → α → Option α) (zero : α) (v : Option Json) : Option α :=
  v.elim (some zero) fun json => decode json zero

/-- With distinct names a field is decoded from one member at most. -/
theorem field_eq_decoded {members : Members} (h : DistinctNames members)
    (decode : Json → α → Option α) (zero : α) (name : String) :
    field decode zero members name = decoded decode zero (member members name) := by
  unfold field decoded
  rw [matching_eq h]
  cases member members name with
  | none => rfl
  | some json =>
      change (decode json zero >>= fun value => some value) = decode json zero
      cases decode json zero <;> rfl

end Fields

/-- Only the empty text is read as the empty string. -/
theorem toScalars_eq_empty_iff (t : Text) : t.toScalars = "" ↔ t = [] := by
  have hempty : '\uFFFD' ∉ "".toList := by decide
  rw [Text.toScalars_eq_iff hempty]
  rfl

/-- What a `string` field receives. -/
theorem decoded_string_eq_some_iff (v : Option Json) (s : String) :
    decoded decodeString "" v = some s ↔
      (v = none ∨ v = some .null) ∧ s = "" ∨ ∃ t, v = some (.string t) ∧ t.toScalars = s := by
  cases v with
  | none => simp [decoded, eq_comm]
  | some json => cases json <;> simp [decoded, decodeString, eq_comm]

/-- A `string` field can be filled from a text, `null` or nothing. -/
theorem optionalText_iff_decoded (v : Option Json) :
    OptionalText v ↔ ∃ s, decoded decodeString "" v = some s := by
  simp only [decoded_string_eq_some_iff]
  constructor
  · rintro (hnone | hnull | ⟨t, ht⟩)
    · exact ⟨"", .inl ⟨.inl hnone, rfl⟩⟩
    · exact ⟨"", .inl ⟨.inr hnull, rfl⟩⟩
    · exact ⟨_, .inr ⟨t, ht, rfl⟩⟩
  · rintro ⟨s, ⟨hnone | hnull, -⟩ | ⟨t, ht, -⟩⟩
    · exact .inl hnone
    · exact .inr (.inl hnull)
    · exact .inr (.inr ⟨t, ht⟩)

/-- The same holds of a `*string` field. -/
theorem optionalText_iff_decoded_pointer (v : Option Json) :
    OptionalText v ↔ ∃ p, decoded decodePointer none v = some p := by
  unfold OptionalText
  cases v with
  | none => simp [decoded]
  | some json => cases json <;> simp [decoded, decodePointer]

/-- A `string` field that is not empty comes from a non-empty text. -/
theorem decoded_filled_iff {v : Option Json} {s : String}
    (h : decoded decodeString "" v = some s) : s ≠ "" ↔ Filled v := by
  rcases (decoded_string_eq_some_iff v s).mp h with ⟨hv, rfl⟩ | ⟨t, rfl, rfl⟩
  · rcases hv with rfl | rfl <;> simp [Filled]
  · rw [Ne, toScalars_eq_empty_iff]
    simp [Filled]

/-- A `string` field with a given content. -/
theorem decoded_eq_iff {s : String} (hne : s ≠ "") (hplain : '\uFFFD' ∉ s.toList)
    (v : Option Json) :
    decoded decodeString "" v = some s ↔ v = some (.string (Text.ofString s)) := by
  rw [decoded_string_eq_some_iff]
  constructor
  · rintro (⟨-, hempty⟩ | ⟨t, ht, hs⟩)
    · exact absurd hempty hne
    · rw [ht, (Text.toScalars_eq_iff hplain).mp hs]
  · intro hv
    exact .inr ⟨_, hv, Text.toScalars_ofString s⟩

/-- A member whose value is plain and is read as a non-empty string is determined
by that string. -/
theorem eq_of_decoded_string {v w : Option Json} {s : String}
    (hv : ∀ json, v = some json → json.Everywhere Plain)
    (hw : ∀ json, w = some json → json.Everywhere Plain) (hs : s ≠ "")
    (hvs : decoded decodeString "" v = some s) (hws : decoded decodeString "" w = some s) :
    v = w := by
  obtain ⟨t, rfl, -⟩ := (decoded_filled_iff hvs).mp hs
  obtain ⟨u, rfl, -⟩ := (decoded_filled_iff hws).mp hs
  have ht : t.isScalar = true := (hv _ rfl).self
  have hu : u.isScalar = true := (hw _ rfl).self
  have hts : t.toScalars = s := Option.some.inj hvs
  have hus : u.toScalars = s := Option.some.inj hws
  rw [← Text.ofString_toScalars ht, hts, ← hus, Text.ofString_toScalars hu]

/-- A `json.RawMessage` field holds its member. -/
theorem decoded_raw (v : Option Json) : decoded decodeRaw none v = some v := by
  cases v <;> rfl

/-- What an `int64` field receives. -/
theorem decoded_int64_eq_some_iff (v : Option Json) (n : ℤ) :
    decoded decodeInt64 0 v = some n ↔
      (v = none ∨ v = some .null) ∧ n = 0 ∨
        ∃ negative digits, v = some (.number (.integer negative digits)) ∧
          signed negative digits = n ∧ isInt64 n = true := by
  have habsent : ∀ v : Option Json, v = none ∨ v = some .null →
      (decoded decodeInt64 0 v = some n ↔ n = 0) := by
    rintro v (rfl | rfl) <;> exact Option.some_inj.trans eq_comm
  cases v with
  | none =>
      rw [habsent none (.inl rfl)]
      simp
  | some json =>
      cases json with
      | number literal =>
          cases literal with
          | integer negative digits =>
              simp only [decoded, Option.elim, decodeInt64]
              constructor
              · intro h
                split at h
                · rename_i hrange
                  obtain rfl := Option.some.inj h
                  exact .inr ⟨negative, digits, rfl, rfl, hrange⟩
                · simp at h
              · rintro (⟨hnone | hnull, -⟩ | ⟨negative', digits', hsame, rfl, hrange⟩)
                · simp at hnone
                · simp at hnull
                · obtain ⟨rfl, rfl⟩ : negative = negative' ∧ digits = digits' := by
                    simpa using hsame
                  rw [if_pos hrange]
          | decimal negative mantissa exponent => simp [decoded, decodeInt64]
      | null =>
          rw [habsent (some .null) (.inr rfl)]
          simp
      | _ => simp [decoded, decodeInt64]

/-- What a struct field receives: the members of an object. -/
theorem decoded_struct_eq_some_iff (v : Option Json) (members : Members) :
    decoded decodeStruct [] v = some members ↔
      (v = none ∨ v = some .null ∨ ∃ inner, v = some (.object inner)) ∧
        members = membersOf v := by
  cases v with
  | none => simp [decoded, membersOf, eq_comm]
  | some json => cases json <;> simp [decoded, decodeStruct, membersOf, eq_comm]

/-! ## Dictionary lookups -/

section Lookups

variable (members : Members) (name : String)

/-- Python finds the last member of the exact name. -/
theorem get_ofMembers :
    PyDict.get (PyValue.ofMembers members) name = (spelled members name).map PyValue.ofJson :=
  PyValue.get_ofJson members name

/-- It is there if one is spelled. -/
theorem has_ofMembers :
    PyDict.has (PyValue.ofMembers members) name = (spelled members name).isSome := by
  rw [PyDict.has, get_ofMembers, Option.isSome_map]

/-- It is a text if the document has one there. -/
theorem get_eq_str_iff (t : Text) :
    PyDict.get (PyValue.ofMembers members) name = some (.str t) ↔
      spelled members name = some (.string t) := by
  simp [get_ofMembers, Option.map_eq_some_iff, PyValue.ofJson_eq_str_iff]

/-- It is a dictionary if the document has an object there. -/
theorem get_eq_dict_iff (d : PyDict) :
    PyDict.get (PyValue.ofMembers members) name = some (.dict d) ↔
      ∃ inner, spelled members name = some (.object inner) ∧ PyValue.ofMembers inner = d := by
  simp only [get_ofMembers, Option.map_eq_some_iff, PyValue.ofJson_eq_dict_iff]
  constructor
  · rintro ⟨json, hjson, inner, rfl, hd⟩
    exact ⟨inner, hjson, hd⟩
  · rintro ⟨inner, hinner, hd⟩
    exact ⟨_, hinner, inner, rfl, hd⟩

/-- It is a list if the document has an array there. -/
theorem get_eq_list_iff (items : List PyValue) :
    PyDict.get (PyValue.ofMembers members) name = some (.list items) ↔
      ∃ inner, spelled members name = some (.array inner) ∧ PyValue.ofItems inner = items := by
  simp only [get_ofMembers, Option.map_eq_some_iff, PyValue.ofJson_eq_list_iff]
  constructor
  · rintro ⟨json, hjson, inner, rfl, hitems⟩
    exact ⟨inner, hjson, hitems⟩
  · rintro ⟨inner, hinner, hitems⟩
    exact ⟨_, hinner, inner, rfl, hitems⟩

/-- It is an `int` if the document has an integer there. -/
theorem get_eq_int_iff (n : ℤ) :
    PyDict.get (PyValue.ofMembers members) name = some (.int n) ↔
      ∃ negative digits, spelled members name = some (.number (.integer negative digits)) ∧
        signed negative digits = n := by
  simp only [get_ofMembers, Option.map_eq_some_iff, PyValue.ofJson_eq_int_iff]
  constructor
  · rintro ⟨json, hjson, negative, digits, rfl, hn⟩
    exact ⟨negative, digits, hjson, hn⟩
  · rintro ⟨negative, digits, hjson, hn⟩
    exact ⟨_, hjson, negative, digits, rfl, hn⟩

/-- It is filled if the text is not empty. -/
theorem filled_ofMembers_iff :
    PyDict.filled (PyValue.ofMembers members) name = true ↔ Filled (spelled members name) := by
  rw [PyDict.filled_iff]
  simp only [get_eq_str_iff, Filled]

end Lookups

end MizanSDK.Agreement
