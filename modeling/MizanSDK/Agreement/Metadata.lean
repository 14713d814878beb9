import MizanSDK.Agreement.UsageFacts

/-!
# Usage metadata in both SDKs

The metadata of a Go caller as a Python caller writes it: a dictionary of the fields
that are not empty, which is also what Go sends of it.  Attributes are strings here.

Main results:

- Theorem `withinContract_toDict_iff`: on ASCII text, metadata passes in Python when
  it passes in Go and its amount is short enough for `int`.
- Theorem `sameObject_toDict_iff`: a dictionary is the object Go sends when they
  agree on the known keys.
-/

namespace MizanSDK.Agreement

open JsonText Decimal Trim Checks

/-! ## Maps -/

section Maps

variable {α : Type} (f : α → Python.PyValue)

/-- The entries of a map as those of a dictionary. -/
def dictOf (entries : List (Sigma fun _ : String => α)) : Python.PyDict :=
  entries.map fun entry => (Python.str entry.1, f entry.2)

theorem get_dictOf_entries {entries : List (Sigma fun _ : String => α)}
    (h : entries.NodupKeys) (name : String) :
    (dictOf f entries).get name = (entries.dlookup name).map f := by
  induction entries with
  | nil => rfl
  | cons entry entries ih =>
      rw [List.nodupKeys_cons] at h
      have hcons : (dictOf f (entry :: entries)).get name =
          ((dictOf f entries).get name).or
            (if Python.str entry.1 = Python.str name then some (f entry.2) else none) :=
        lookupLast_cons _ _ _ _
      rw [hcons, ih h.2]
      by_cases hname : entry.1 = name
      · have hfresh : entries.dlookup name = none := by
          rw [List.dlookup_eq_none, ← hname]
          exact h.1
        rw [hfresh, if_pos (congrArg Python.str hname), ← hname]
        rw [List.dlookup_cons_eq]
        rfl
      · rw [if_neg fun hstr => hname (Text.ofString_inj.mp hstr), Option.or_none,
          List.dlookup_cons_ne _ _ (Ne.symm hname)]

/-- Reading such a dictionary is reading the map. -/
theorem get_dictOf (m : AList fun _ : String => α) (name : String) :
    (dictOf f m.entries).get name = (m.lookup name).map f :=
  get_dictOf_entries f m.nodupKeys name

/-- It has the keys of the map. -/
theorem keys_dictOf (m : AList fun _ : String => α) :
    Python.PyDict.keys (dictOf f m.entries) = m.keys.map Python.str := by
  have hfst : (dictOf f m.entries).map Prod.fst = m.keys.map Python.str := by
    simp [dictOf, AList.keys, List.keys, Function.comp_def]
  have hnodup : (m.keys.map Python.str).Nodup :=
    m.keys_nodup.map fun _ _ h => Text.ofString_inj.mp h
  rw [Python.PyDict.keys, hfst, List.dedup_eq_self.mpr (List.nodup_reverse.mpr hnodup),
    List.reverse_reverse]

/-- Its items are its entries. -/
theorem items_dictOf (m : AList fun _ : String => α) :
    Python.PyDict.items (dictOf f m.entries) = dictOf f m.entries := by
  rw [Python.PyDict.items, keys_dictOf, AList.keys, List.keys, List.map_map, List.map_map]
  refine List.map_congr_left fun entry hentry => ?_
  have hlookup : m.lookup entry.1 = some entry.2 :=
    AList.mem_lookup_iff.mpr hentry
  have hget : lookupLast (dictOf f m.entries) (Python.str entry.1) = some (f entry.2) := by
    have hread := get_dictOf f m entry.1
    rwa [hlookup] at hread
  simp only [Function.comp_apply, hget, Option.getD_some]

end Maps

/-! ## Members -/

/-- A text that Go leaves out when it is empty. -/
def present (s : String) : Option Python.PyValue := if s = "" then none else some (text s)

/-- An actor that Go leaves out when it is empty. -/
def presentActor (actor : AList fun _ : String => String) : Option Python.PyValue :=
  if actor.keys.length = 0 then none else some (.dict (dictOf text actor.entries))

/-- The value of an attribute that is a string. -/
def attributeText : Go.AttributeValue → Python.PyValue
  | .string s => text s
  | _ => .none

/-- Attributes that Go leaves out when there are none. -/
def presentAttributes (attributes : AList fun _ : String => Go.AttributeValue) :
    Option Python.PyValue :=
  if attributes.keys.length = 0 then none
  else some (.dict (dictOf attributeText attributes.entries))

/-- The member of a name in the object Go sends. -/
def metadataMember (m : Go.UsageMetadata) (name : String) : Option Python.PyValue :=
  match name with
  | "actor" => presentActor m.actor
  | "channel" => present m.channel
  | "channel_account_id" => present m.channelAccountID
  | "provider" => present m.provider
  | "provider_event_id" => present m.providerEventID
  | "conversation_id" => present m.conversationID
  | "campaign_id" => present m.campaignID
  | "raw_quantity" => present m.rawQuantity
  | "billable_quantity" => present m.billableQuantity
  | "provider_invoice_id" => present m.providerInvoiceID
  | "original_amount_minor" => present m.originalAmountMinor
  | "original_currency" => present m.originalCurrency
  | "fx_rule" => present m.fxRule
  | "tariff_version" => present m.tariffVersion
  | "attributes" => presentAttributes m.attributes
  | _ => none

/-- The fields of metadata that are not empty. -/
def toDict (m : Go.UsageMetadata) : Python.PyDict :=
  Python.metadataKeys.filterMap fun name =>
    (metadataMember m name).map fun v => (Python.str name, v)

/-- Reading a dictionary that lists a function. -/
theorem get_filterMap (f : String → Option Python.PyValue) {names : List String}
    (h : names.Nodup) (name : String) :
    Python.PyDict.get (names.filterMap fun n => (f n).map fun v => (Python.str n, v)) name =
      if name ∈ names then f name else none := by
  induction names with
  | nil => rfl
  | cons n names ih =>
      rw [List.nodup_cons] at h
      cases hn : f n with
      | none =>
          rw [List.filterMap_cons_none (by rw [hn]; rfl), ih h.2]
          by_cases hname : name = n
          · rw [hname, if_neg h.1, if_pos List.mem_cons_self, hn]
          · simp [hname]
      | some v =>
          rw [List.filterMap_cons_some (by rw [hn]; rfl), Python.PyDict.get, lookupLast_cons]
          have hrest := ih h.2
          rw [Python.PyDict.get] at hrest
          rw [hrest]
          by_cases hname : name = n
          · subst hname
            rw [if_neg h.1, if_pos List.mem_cons_self, hn, if_pos rfl, Option.none_or]
          · rw [if_neg fun hstr => hname (Text.ofString_inj.mp hstr).symm, Option.or_none]
            simp [hname]

theorem metadataKeys_nodup : Python.metadataKeys.Nodup := by decide

/-- The dictionary has the members of the object. -/
theorem get_toDict (m : Go.UsageMetadata) {name : String} (h : name ∈ Python.metadataKeys) :
    (toDict m).get name = metadataMember m name := by
  rw [toDict, get_filterMap (metadataMember m) metadataKeys_nodup, if_pos h]

/-- It has no other keys. -/
theorem keys_toDict (m : Go.UsageMetadata) :
    ∀ entry ∈ toDict m, ∃ key ∈ Python.metadataKeys, entry.1 = Python.str key := by
  intro entry hentry
  rcases List.mem_filterMap.mp hentry with ⟨name, hname, hvalue⟩
  rcases Option.map_eq_some_iff.mp hvalue with ⟨v, -, rfl⟩
  exact ⟨name, hname, rfl⟩

/-- Dictionaries that are the same object. -/
def SameObject (d d' : Python.PyDict) : Prop :=
  ∀ key, lookupLast d key = lookupLast d' key

/-- A dictionary with known keys is the object Go sends when they agree on them. -/
theorem sameObject_toDict_iff {d : Python.PyDict}
    (hkeys : ∀ entry ∈ d, ∃ key ∈ Python.metadataKeys, entry.1 = Python.str key)
    (m : Go.UsageMetadata) :
    SameObject d (toDict m) ↔
      ∀ name ∈ Python.metadataKeys, d.get name = metadataMember m name := by
  constructor
  · intro h name hname
    rw [← get_toDict m hname]
    exact h (Python.str name)
  · intro h key
    by_cases hknown : ∃ name ∈ Python.metadataKeys, key = Python.str name
    · rcases hknown with ⟨name, hname, rfl⟩
      exact (h name hname).trans (get_toDict m hname).symm
    · have hnone : ∀ {d : Python.PyDict},
          (∀ entry ∈ d, ∃ name ∈ Python.metadataKeys, entry.1 = Python.str name) →
            lookupLast d key = none := by
        intro d hd
        refine lookupLast_eq_none_iff.mpr fun entry hentry heq => hknown ?_
        rw [← heq]
        exact hd entry hentry
      rw [hnone hkeys, hnone (keys_toDict m)]

/-! ## Checks -/

section Checks

variable (py : Python.BuilderInterpreter)

theorem fitsInt_empty : FitsInt py "" := withinDigits_of_le py (by decide)

/-- A bounded text passes when it does in Go. -/
theorem checkField_present {s : String} (h : Ascii s) (field : String) :
    Python.checkField field (present s) = .ok () ↔ s.utf8ByteSize ≤ 512 := by
  unfold present
  by_cases hempty : s = ""
  · rw [if_pos hempty, hempty]
    simp [Python.checkField]
  · have hpos : 1 ≤ (Python.str s).length :=
      List.length_pos_iff.mpr fun hnil => hempty (Text.ofString_eq_nil.mp hnil)
    rw [if_neg hempty, ← length_str_of_ascii h]
    simp [Python.checkField, text, hpos]

theorem isChannel_str (channel : String) :
    Python.isChannel (Python.str channel) = true ↔ channel ∈ Go.channels := by
  rw [Python.isChannel, List.any_eq_true]
  constructor
  · rintro ⟨known, hknown, hsame⟩
    rwa [← Text.ofString_inj.mp (beq_iff_eq.mp hsame)]
  · intro hchannel
    exact ⟨channel, hchannel, beq_self_eq_true _⟩

/-- The channel passes when it does in Go. -/
theorem checkChannel_present (channel : String) :
    Python.checkChannel py (present channel) = .ok () ↔
      channel = "" ∨ channel ∈ Go.channels := by
  unfold present
  by_cases hempty : channel = ""
  · rw [if_pos hempty]
    simp [hempty, Python.checkChannel]
  · have hcheck : Python.checkChannel py (some (text channel)) =
        require (Python.isChannel (Python.str channel))
          (Python.refuse "metadata.channel is not a supported channel") := rfl
    rw [if_neg hempty, hcheck, require_eq_ok_iff, isChannel_str]
    simp [hempty]

/-- The amount passes when it does in Go and is short enough. -/
theorem checkOriginalAmount_present {amount : String} (h : Ascii amount) :
    Python.checkOriginalAmount py (present amount) = .ok () ↔
      Go.checkOriginalAmount amount = none ∧ FitsInt py amount := by
  unfold present Go.checkOriginalAmount
  by_cases hempty : amount = ""
  · rw [if_pos hempty, if_pos hempty, hempty]
    simp [Python.checkOriginalAmount, fitsInt_empty]
  · rw [if_neg hempty, if_neg hempty]
    exact checkInteger_iff py h "metadata.original_amount_minor" "metadata original amount minor"
      true

/-- What the check of an actor asks of a dictionary. -/
theorem checkActor_dict_iff (d : Python.PyDict) :
    Python.checkActor (some (.dict d)) = .ok () ↔
      (∀ entry ∈ d, entry.1 = Python.str "type" ∨ entry.1 = Python.str "id") ∧
        (∃ type ∈ Go.actorTypes, d.get "type" = some (text type)) ∧
        ∃ id, d.get "id" = some (.str id) ∧ 1 ≤ id.length ∧ id.length ≤ 128 := by
  have hid : (((d.get "id").getD .none).isTextWith fun s => 1 ≤ s.length && s.length ≤ 128) =
      true ↔ ∃ id, d.get "id" = some (.str id) ∧ 1 ≤ id.length ∧ id.length ≤ 128 := by
    cases d.get "id" with
    | none => simp [Python.PyValue.isTextWith]
    | some v => simp
  have htypes : ["user", "system", "campaign"] = Go.actorTypes := rfl
  rw [Python.checkActor, ← hid]
  · simp only [bind_eq_ok_iff, Python.asDict_eq_ok_iff, require_eq_ok_iff, Option.some.injEq,
      Python.PyValue.dict.injEq, exists_eq_left', List.all_eq_true, Bool.or_eq_true, beq_iff_eq,
      htypes]
    constructor
    · rintro ⟨_, hkeys, known, hknown, _, rfl, hbounded⟩
      exact ⟨hkeys, (Python.isIn_eq_true_iff _ _).mp hknown, hbounded⟩
    · rintro ⟨hkeys, htype, hbounded⟩
      exact ⟨(), hkeys, true, (Python.isIn_eq_true_iff _ _).mpr htype, (), rfl, hbounded⟩
  · rintro ⟨⟩

/-- Two distinct keys are all of a map that has two keys. -/
theorem keys_perm_iff (actor : AList fun _ : String => String)
    (htype : "type" ∈ actor.keys) (hid : "id" ∈ actor.keys) :
    actor.keys.length = 2 ↔ ∀ key ∈ actor.keys, key = "type" ∨ key = "id" := by
  have hboth : ["type", "id"].Nodup := by decide
  have hsub : ["type", "id"] ⊆ actor.keys := by
    simp [htype, hid]
  constructor
  · intro hlength key hkey
    have hperm := (List.subperm_of_subset hboth hsub).perm_of_length_le (Nat.le_of_eq hlength)
    simpa using hperm.mem_iff.mpr hkey
  · intro hkeys
    have hsub' : actor.keys ⊆ ["type", "id"] := by
      intro key hkey
      simpa using hkeys key hkey
    have hge := (List.subperm_of_subset hboth hsub).length_le
    have hle := (List.subperm_of_subset actor.keys_nodup hsub').length_le
    exact Nat.le_antisymm hle hge

theorem text_inj {s t : String} : text s = text t ↔ s = t := by
  rw [text, text, Python.PyValue.str.injEq]
  exact Text.ofString_inj

theorem mem_keys_of_lookup {α : Type} {m : AList fun _ : String => α} {key : String} {v : α}
    (h : m.lookup key = some v) : key ∈ m.keys := by
  rw [← AList.mem_keys, ← AList.lookup_isSome, h]
  rfl

/-- An actor with a supported type, a bounded ID and nothing else. -/
theorem validActor_iff (actor : AList fun _ : String => String) :
    Go.ValidActor actor ↔
      (∀ key ∈ actor.keys, key = "type" ∨ key = "id") ∧
        (∃ type ∈ Go.actorTypes, actor.lookup "type" = some type) ∧
        ∃ id, actor.lookup "id" = some id ∧ id ≠ "" ∧ id.utf8ByteSize ≤ 128 := by
  constructor
  · rintro ⟨hkeys, hid, hlength, htype⟩
    have hsome : ∀ {key : String}, (actor.lookup key).getD "" ≠ "" →
        actor.lookup key = some ((actor.lookup key).getD "") := by
      intro key hne
      cases hlookup : actor.lookup key with
      | none => simp [hlookup] at hne
      | some v => rfl
    have htyped : (actor.lookup "type").getD "" ≠ "" := by
      intro hempty
      rw [hempty] at htype
      exact absurd htype (by decide)
    exact ⟨(keys_perm_iff actor (mem_keys_of_lookup (hsome htyped))
      (mem_keys_of_lookup (hsome hid))).mp hkeys, ⟨_, htype, hsome htyped⟩, _, hsome hid, hid,
      hlength⟩
  · rintro ⟨hkeys, ⟨type, htype, hlookup⟩, id, hid, hne, hlength⟩
    refine ⟨(keys_perm_iff actor (mem_keys_of_lookup hlookup) (mem_keys_of_lookup hid)).mpr hkeys,
      ?_, ?_, ?_⟩
    · simpa [hid] using hne
    · simpa [hid] using hlength
    · simpa [hlookup] using htype

/-- An actor passes when it does in Go. -/
theorem checkActor_presentActor {actor : AList fun _ : String => String}
    (h : ∀ entry ∈ actor.entries, Ascii entry.2) :
    Python.checkActor (presentActor actor) = .ok () ↔ Go.checkActor actor = none := by
  rw [Go.checkActor_eq_none_iff, presentActor]
  by_cases hempty : actor.keys.length = 0
  · rw [if_pos hempty]
    simp [Python.checkActor, hempty]
  · have hkeys : (∀ entry ∈ dictOf text actor.entries,
        entry.1 = Python.str "type" ∨ entry.1 = Python.str "id") ↔
          ∀ key ∈ actor.keys, key = "type" ∨ key = "id" := by
      rw [dictOf, List.forall_mem_map, AList.keys, List.keys, List.forall_mem_map]
      exact forall₂_congr fun entry _ => or_congr Text.ofString_inj Text.ofString_inj
    have htype : (∃ type ∈ Go.actorTypes, (actor.lookup "type").map text = some (text type)) ↔
        ∃ type ∈ Go.actorTypes, actor.lookup "type" = some type := by
      simp [text_inj]
    have hid : (∃ id, (actor.lookup "id").map text = some (.str id) ∧ 1 ≤ id.length ∧
        id.length ≤ 128) ↔
          ∃ id, actor.lookup "id" = some id ∧ id ≠ "" ∧ id.utf8ByteSize ≤ 128 := by
      cases hlookup : actor.lookup "id" with
      | none => simp
      | some id =>
          have hascii : Ascii id := h ⟨"id", id⟩ (AList.mem_lookup_iff.mp hlookup)
          have hpos : 1 ≤ id.utf8ByteSize ↔ id ≠ "" := by
            rw [← length_str_of_ascii hascii, Nat.one_le_iff_ne_zero, ne_eq,
              List.length_eq_zero_iff]
            exact not_congr Text.ofString_eq_nil
          simp [text, length_str_of_ascii hascii, ← hpos]
    rw [if_neg hempty, checkActor_dict_iff, get_dictOf, get_dictOf, hkeys, htype, hid,
      validActor_iff]
    simp [hempty]

/-- Attributes that are ASCII strings. -/
def StringAttributes (attributes : AList fun _ : String => Go.AttributeValue) : Prop :=
  ∀ entry ∈ attributes.entries, Ascii entry.1 ∧ ∃ s, entry.2 = .string s ∧ Ascii s

/-- An attribute passes when it does in Go. -/
theorem checkAttribute_attributeText {entry : Sigma fun _ : String => Go.AttributeValue}
    (hkey : Ascii entry.1) {s : String} (hs : entry.2 = .string s) (h : Ascii s) :
    Python.checkAttribute py (Python.str entry.1) (attributeText entry.2) = .ok () ↔
      Go.ValidAttribute entry := by
  have hvalid : Go.ValidAttribute entry ↔ entry.1.utf8ByteSize ≤ 64 ∧ s.utf8ByteSize ≤ 512 := by
    constructor
    · rintro ⟨hlength, -, hvalue⟩
      rw [hs] at hvalue
      exact ⟨hlength, hvalue.resolve_left nofun⟩
    · rintro ⟨hlength, hvalue⟩
      refine ⟨hlength, ?_, .inr ?_⟩
      · rw [hs]
        rfl
      · rwa [hs]
  rw [hvalid, hs, ← length_str_of_ascii hkey, ← length_str_of_ascii h]
  have hstr : py.str (text s) = .ok (Python.str s) := rfl
  have hcheck : Python.checkAttribute py (Python.str entry.1) (text s) = (do
      require ((Python.str entry.1).length ≤ 64 && true)
        (Python.refuse "metadata.attributes contains an invalid key or scalar value")
      require ((Python.str s).length ≤ 512)
        (Python.refuse "metadata attribute values must be at most 512 characters")
      require true (Python.refuse "metadata attribute numbers must be finite")) := rfl
  rw [attributeText, hcheck]
  simp [bind_eq_ok_iff]

/-- Attributes pass when they do in Go. -/
theorem checkAttributes_presentAttributes
    {attributes : AList fun _ : String => Go.AttributeValue} (h : StringAttributes attributes) :
    Python.checkAttributes py (presentAttributes attributes) = .ok () ↔
      attributes.keys.length ≤ 32 ∧
        ∀ entry ∈ attributes.entries, Go.ValidAttribute entry := by
  unfold presentAttributes
  by_cases hempty : attributes.keys.length = 0
  · have hnone : attributes.entries = [] := by
      rwa [AList.keys, List.keys, List.length_map, List.length_eq_zero_iff] at hempty
    rw [if_pos hempty, hempty, hnone]
    simp [Python.checkAttributes]
  · have hkeys : (Python.PyDict.keys (dictOf attributeText attributes.entries)).length =
        attributes.keys.length := by
      rw [keys_dictOf, List.length_map]
    have hitems : (∀ item ∈ Python.PyDict.items (dictOf attributeText attributes.entries),
        Python.checkAttribute py item.1 item.2 = .ok ()) ↔
          ∀ entry ∈ attributes.entries, Go.ValidAttribute entry := by
      rw [items_dictOf, dictOf, List.forall_mem_map]
      refine forall₂_congr fun entry hentry => ?_
      rcases h entry hentry with ⟨hkey, s, hs, hascii⟩
      exact checkAttribute_attributeText py hkey hs hascii
    rw [if_neg hempty, ← hitems, ← hkeys]
    simp only [Python.checkAttributes, bind_eq_ok_iff, Python.asDict_eq_ok_iff,
      require_eq_ok_iff, forM_eq_ok_iff, Option.some.injEq, Python.PyValue.dict.injEq,
      exists_eq_left', decide_eq_true_eq, exists_const]

/-- Metadata of ASCII strings. -/
structure AsciiMetadata (m : Go.UsageMetadata) : Prop where
  fields : ∀ field ∈ m.boundedFields, Ascii field.2
  amount : Ascii m.originalAmountMinor
  actor : ∀ entry ∈ m.actor.entries, Ascii entry.2
  attributes : StringAttributes m.attributes

/-- The bounded texts pass when they do in Go. -/
theorem checkFields_iff {m : Go.UsageMetadata} (h : AsciiMetadata m) :
    (∀ field ∈ Python.boundedFields,
      Python.checkField field (metadataMember m field) = .ok ()) ↔
      ∀ field ∈ m.boundedFields, field.2.utf8ByteSize ≤ 512 := by
  have hmembers : Python.boundedFields.map (metadataMember m) =
      m.boundedFields.map fun field => present field.2 := rfl
  have hname : ∀ (field : String) (v : Option Python.PyValue),
      Python.checkField field v = .ok () ↔ Python.checkField "" v = .ok () := by
    intro field v
    cases v with
    | none => rfl
    | some v => cases v <;> simp [Python.checkField]
  simp only [hname]
  rw [← List.forall_mem_map (P := fun v => Python.checkField "" v = .ok ()), hmembers,
    List.forall_mem_map]
  exact forall₂_congr fun field hfield => checkField_present (h.fields field hfield) ""

/-- Metadata passes in Python when it does in Go and its amount is short enough. -/
theorem withinContract_toDict_iff {m : Go.UsageMetadata} (h : AsciiMetadata m) :
    Python.WithinContract py (toDict m) ↔ m.Valid ∧ FitsInt py m.originalAmountMinor := by
  have hmembers := Python.forall_metadataKeys_iff fun key =>
    Python.checkMember py key (metadataMember m key) = .ok ()
  have hfields : (∀ field ∈ Python.boundedFields,
      Python.checkMember py field (metadataMember m field) = .ok ()) ↔
        ∀ field ∈ m.boundedFields, field.2.utf8ByteSize ≤ 512 := by
    rw [← checkFields_iff h]
    exact forall₂_congr fun field hfield => by rw [Python.checkMember_field py hfield]
  have hchannel := checkChannel_present py m.channel
  have hactor := checkActor_presentActor h.actor
  have hamount := checkOriginalAmount_present py h.amount
  have hattributes := checkAttributes_presentAttributes py h.attributes
  rw [Go.checkActor_eq_none_iff] at hactor
  have hpasses : (∀ key ∈ Python.metadataKeys,
      Python.checkMember py key ((toDict m).get key) = .ok ()) ↔
        (m.channel = "" ∨ m.channel ∈ Go.channels) ∧
          (m.actor.keys.length = 0 ∨ Go.ValidActor m.actor) ∧
          (∀ field ∈ m.boundedFields, field.2.utf8ByteSize ≤ 512) ∧
          (Go.checkOriginalAmount m.originalAmountMinor = none ∧
            FitsInt py m.originalAmountMinor) ∧
          m.attributes.keys.length ≤ 32 ∧
          ∀ entry ∈ m.attributes.entries, Go.ValidAttribute entry := by
    rw [← hchannel, ← hactor, ← hfields, ← hamount, ← hattributes]
    rw [forall₂_congr fun key hkey => by rw [get_toDict m hkey]]
    exact hmembers
  constructor
  · intro hwithin
    rcases hpasses.mp hwithin.members with ⟨hc, ha, hf, ⟨ho, hfits⟩, hl, he⟩
    exact ⟨⟨hc, ha, hf, ho, hl, he⟩, hfits⟩
  · rintro ⟨hvalid, hfits⟩
    exact ⟨keys_toDict m, hpasses.mpr ⟨hvalid.channel, hvalid.actor, hvalid.fields,
      ⟨hvalid.amount, hfits⟩, hvalid.attributes_length, hvalid.attributes⟩⟩

/-- Metadata, if there is any. -/
theorem validateMetadata_toDict_iff {m : Option Go.UsageMetadata}
    (h : ∀ n, m = some n → AsciiMetadata n) :
    Python.validateMetadata py (m.map toDict) = .ok () ↔
      Go.validateMetadata m = none ∧ FitsInt py (m.getD .zero).originalAmountMinor := by
  cases m with
  | none =>
      have hempty : FitsInt py (Go.UsageMetadata.zero).originalAmountMinor := fitsInt_empty py
      simp [Python.validateMetadata, Go.validateMetadata, hempty]
  | some m =>
      rw [Option.map_some, Python.validateMetadata_eq_ok_iff, Go.validateMetadata_eq_none_iff]
      exact withinContract_toDict_iff py (h m rfl)

end Checks

end MizanSDK.Agreement
