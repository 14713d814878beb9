import Mathlib.Data.Bool.AllAny
import Mathlib.Data.Set.Finite.Range
import MizanSDK.Library.Bindings
import MizanSDK.Library.Bytes
import MizanSDK.Library.CompactJson
import MizanSDK.Library.JsonText
import MizanSDK.Go.Requests

/-!
# The file inbox of the Go webhook receiver

`examples/webhook_receiver/main.go`: events and outbox aliases are files that are
written once, under names that are digests.  A call of `persist` may stop at an
I/O error or a crash before any of its reads and on either side of the publication
of a file.  A Go string is the bytes it consists of, and the file of an event is the
record its JSON text spells: text that is not UTF-8 is replaced and the payload is
compacted.

Main results:

- Theorem `FileInbox.persist_effect`: everything a call of `persist` can do.
- Theorem `FileInbox.persist_retry_iff`: once an event is published, its retries
  are accepted exactly when its file holds the record as it came and its outbox ID
  has not gone to another event.
-/

namespace MizanSDK.Go

open Bytes Bindings

/-- A Go string. -/
abbrev GoString := List UInt8

/-- `inboxRecord`. -/
structure InboxRecord where
  outboxID : GoString
  stream : GoString
  eventID : GoString
  businessID : GoString
  businessSequence : ℤ
  payload : List UInt8
  receivedAt : GoTime
deriving DecidableEq

/-- `outboxAlias`, as its JSON text spells it: a byte that is no UTF-8 is the escape of
U+FFFD, which the character itself is not written with. -/
structure OutboxAlias where
  stream : List (Option UInt8)
  eventID : List (Option UInt8)
  businessID : List (Option UInt8)
  businessSequence : ℤ
  payloadSHA256 : String
deriving DecidableEq

/-- What the inbox takes from the standard library: SHA-256, taken as injective,
and the complaint of the JSON scanner about a text inside so many others, if it
has one. -/
structure InboxRuntime where
  sum256 : List UInt8 → List UInt8
  sum256_injective : Function.Injective sum256
  syntaxError : (depth : ℕ) → List UInt8 → Option String

/-- `digestBytes`; `digest` is the same on the bytes of a string. -/
def InboxRuntime.digest (rt : InboxRuntime) (value : List UInt8) : String :=
  String.ofList (hexEncode (rt.sum256 value))

/-- The digest of bytes determines them. -/
theorem InboxRuntime.digest_injective (rt : InboxRuntime) : Function.Injective rt.digest := by
  intro a b h
  exact rt.sum256_injective (hexEncode_injective (String.ofList_injective h))

/-! ## Encoding -/

/-- `json.RawMessage.MarshalJSON` and the compaction of its result; a payload
without bytes is nil. -/
def marshalRawMessage (rt : InboxRuntime) (payload : List UInt8) :
    Except String (List UInt8) :=
  if payload = [] then .ok (JsonText.asciiBytes "null")
  else match rt.syntaxError 0 payload with
    | some err =>
        .error ("json: error calling MarshalJSON for type json.RawMessage: " ++ err)
    | none => .ok (CompactJson.compact .between payload)

/-- `json.Marshal(record)`, as the record that the text spells. -/
def marshalRecord (rt : InboxRuntime) (record : InboxRecord) : Except String InboxRecord :=
  (marshalRawMessage rt record.payload).map fun payload =>
    { record with
      outboxID := repair record.outboxID, stream := repair record.stream,
      eventID := repair record.eventID, businessID := repair record.businessID,
      payload := payload }

/-- `json.Marshal(alias)` for the alias of a record; only its text is ever compared. -/
def marshalAlias (rt : InboxRuntime) (record : InboxRecord) : OutboxAlias where
  stream := mark record.stream
  eventID := mark record.eventID
  businessID := mark record.businessID
  businessSequence := record.businessSequence
  payloadSHA256 := rt.digest record.payload

/-! ## Files -/

/-- The files of one directory, by their names. -/
abbrev Directory (contents : Type) := AList fun _ : String => contents

/-- `fileInbox`, as the files under its root. -/
structure FileInbox where
  events : Directory InboxRecord
  outbox : Directory OutboxAlias

/-- An inbox without files. -/
def FileInbox.empty : FileInbox := ⟨∅, ∅⟩

/-- What stops a call. -/
inductive Interruption where
  | ioError (text : String)
  | crash
deriving DecidableEq

/-- What stops a publication, and whether the file has its name by then. -/
structure WriteFault where
  interruption : Interruption
  published : Bool
deriving DecidableEq

/-- Where a call of `persist` is stopped, if anywhere. -/
structure Faults where
  readAlias : Option Interruption := none
  readEvent : Option Interruption := none
  writeEvent : Option WriteFault := none
  writeAlias : Option WriteFault := none
deriving DecidableEq

/-- How a call ends. -/
inductive Ending where
  | nil
  | error (message : String)
  | crashed
deriving DecidableEq

/-- The end of a call that is stopped. -/
def Interruption.ending : Interruption → Ending
  | .ioError text => .error text
  | .crash => .crashed

/-- `fmt.Errorf` with a context before `%w`. -/
def Ending.wrap (context : String) : Ending → Ending
  | .error message => .error (context ++ message)
  | ending => ending

@[simp] theorem Interruption.ending_ne_nil (interruption : Interruption) :
    interruption.ending ≠ .nil := by
  cases interruption <;> simp [Interruption.ending]

@[simp] theorem Ending.wrap_eq_nil_iff {context : String} {ending : Ending} :
    ending.wrap context = .nil ↔ ending = .nil := by
  cases ending <;> simp [Ending.wrap]

/-- `writeOnce`: a file that has its name already must hold the same contents. -/
def writeOnce {contents : Type} [DecidableEq contents] (files : Directory contents)
    (path : String) (content : contents) (fault : Option WriteFault) :
    Directory contents × Ending :=
  match fault with
  | some ⟨interruption, false⟩ => (files, interruption.ending)
  | _ =>
      match files.lookup path with
      | some existing => (files, if existing = content then .nil else .error "file exists")
      | none =>
          (files.insert path content,
            match fault with
            | some stop => stop.interruption.ending
            | none => .nil)

/-- A publication under a free name fails with nothing written, or writes the
file. -/
theorem writeOnce_cases {contents : Type} [DecidableEq contents]
    {files : Directory contents} {path : String} (h : files.lookup path = none)
    (content : contents) (fault : Option WriteFault) :
    (∃ ending, ending ≠ .nil ∧ writeOnce files path content fault = (files, ending)) ∨
      ∃ ending, writeOnce files path content fault = (files.insert path content, ending) := by
  match fault with
  | some ⟨interruption, false⟩ =>
      exact .inl ⟨_, interruption.ending_ne_nil, rfl⟩
  | some ⟨interruption, true⟩ =>
      right
      simp [writeOnce, h]
  | none =>
      right
      simp [writeOnce, h]

/-- An undisturbed publication under a free name succeeds. -/
theorem writeOnce_of_absent {contents : Type} [DecidableEq contents]
    {files : Directory contents} {path : String} (h : files.lookup path = none)
    (content : contents) :
    writeOnce files path content none = (files.insert path content, .nil) := by
  simp [writeOnce, h]

/-! ## Persisting -/

namespace FileInbox

variable (rt : InboxRuntime)

/-- `aliasPath`. -/
def aliasPath (outboxID : GoString) : String := rt.digest outboxID ++ ".json"

/-- Different outbox IDs have different alias files. -/
theorem aliasPath_injective : Function.Injective (aliasPath rt) := by
  intro a b h
  exact rt.digest_injective ((String.append_left_inj ".json").mp h)

/-- `eventPath`. -/
def eventPath (stream eventID : GoString) : String :=
  rt.digest (stream ++ JsonText.asciiBytes ":" ++ eventID) ++ ".json"

/-- The comparison of a stored record with one that shares its event file. -/
def sameEvent (original record : InboxRecord) : Bool :=
  original.stream == record.stream && original.eventID == record.eventID &&
    original.businessID == record.businessID &&
    original.businessSequence == record.businessSequence && original.payload == record.payload

/-- `persist` from the read of the event file on. -/
def persistEvent (faults : Faults) (inbox : FileInbox) (record encoded : InboxRecord) :
    FileInbox × Ending :=
  let aliasFile := aliasPath rt record.outboxID
  let eventFile := eventPath rt record.stream record.eventID
  let encodedAlias := marshalAlias rt record
  match faults.readEvent with
  | some interruption => (inbox, interruption.ending.wrap "read event index: ")
  | none =>
      match inbox.events.lookup eventFile with
      | some original =>
          match rt.syntaxError 1 original.payload with
          | some err => (inbox, .error ("decode existing inbox record: " ++ err))
          | none =>
              if sameEvent original record then
                let write := writeOnce inbox.outbox aliasFile encodedAlias faults.writeAlias
                ({ inbox with outbox := write.1 }, write.2)
              else (inbox, .error "event ID was reused for a different event")
      | none =>
          let write := writeOnce inbox.events eventFile encoded faults.writeEvent
          match write.2 with
          | .nil =>
              let writeAlias := writeOnce inbox.outbox aliasFile encodedAlias faults.writeAlias
              (⟨write.1, writeAlias.1⟩, writeAlias.2.wrap "persist outbox index: ")
          | ending => ({ inbox with events := write.1 }, ending.wrap "persist event: ")

/-- A record without one of its identities. -/
abbrev Incomplete (record : InboxRecord) : Prop :=
  record.outboxID = [] ∨ record.stream = [] ∨ record.eventID = [] ∨ record.businessID = []

/-- `fileInbox.persist`. -/
def persist (faults : Faults) (inbox : FileInbox) (record : InboxRecord) :
    FileInbox × Ending :=
  if Incomplete record then (inbox, .error "inbox record identity is incomplete")
  else match marshalRecord rt record with
    | .error err => (inbox, .error ("encode inbox record: " ++ err))
    | .ok encoded =>
        match faults.readAlias with
        | some interruption => (inbox, interruption.ending.wrap "read outbox index: ")
        | none =>
            match inbox.outbox.lookup (aliasPath rt record.outboxID) with
            | some existing =>
                -- Stable outbox retry: already durably accepted.
                if existing = marshalAlias rt record then (inbox, .nil)
                else (inbox, .error "outbox ID was reused for a different event")
            | none => persistEvent rt faults inbox record encoded

/-! ## What a call can do -/

/-- Everything a call of `persist` can do to an inbox, and how it may end. -/
inductive Effect (inbox : FileInbox) (record : InboxRecord) : FileInbox × Ending → Prop where
  /-- Nothing is written; only a known alias is accepted. -/
  | untouched (ending : Ending)
      (known : ending = .nil → inbox.outbox.lookup (aliasPath rt record.outboxID) =
        some (marshalAlias rt record)) : Effect inbox record (inbox, ending)
  /-- The call stops between its two files. -/
  | publishes (encoded : InboxRecord) (ending : Ending)
      (encodes : marshalRecord rt record = .ok encoded)
      (newEvent : inbox.events.lookup (eventPath rt record.stream record.eventID) = none)
      (stopped : ending ≠ .nil) :
      Effect inbox record ({ inbox with
        events := inbox.events.insert (eventPath rt record.stream record.eventID) encoded },
        ending)
  /-- A known event gets another alias. -/
  | aliases (original : InboxRecord) (ending : Ending)
      (newAlias : inbox.outbox.lookup (aliasPath rt record.outboxID) = none)
      (stored : inbox.events.lookup (eventPath rt record.stream record.eventID) =
        some original)
      (same : sameEvent original record = true) :
      Effect inbox record ({ inbox with
        outbox := inbox.outbox.insert (aliasPath rt record.outboxID) (marshalAlias rt record) },
        ending)
  /-- Both files are written. -/
  | completes (encoded : InboxRecord) (ending : Ending)
      (encodes : marshalRecord rt record = .ok encoded)
      (newEvent : inbox.events.lookup (eventPath rt record.stream record.eventID) = none)
      (newAlias : inbox.outbox.lookup (aliasPath rt record.outboxID) = none) :
      Effect inbox record
        (⟨inbox.events.insert (eventPath rt record.stream record.eventID) encoded,
          inbox.outbox.insert (aliasPath rt record.outboxID) (marshalAlias rt record)⟩, ending)

/-- What a call can do once the outbox ID is known to be new. -/
theorem persistEvent_effect (faults : Faults) {inbox : FileInbox} {record encoded : InboxRecord}
    (hencoded : marshalRecord rt record = .ok encoded)
    (halias : inbox.outbox.lookup (aliasPath rt record.outboxID) = none) :
    Effect rt inbox record (persistEvent rt faults inbox record encoded) := by
  unfold persistEvent
  dsimp only
  cases faults.readEvent with
  | some interruption => exact .untouched _ (by simp)
  | none =>
      cases hevent : inbox.events.lookup (eventPath rt record.stream record.eventID) with
      | some original =>
          dsimp only
          split
          · exact .untouched _ (by simp)
          · split
            · rename_i hsame
              rcases writeOnce_cases halias (marshalAlias rt record) faults.writeAlias with
                ⟨ending, hending, hwrite⟩ | ⟨ending, hwrite⟩
              · rw [hwrite]
                exact .untouched ending (fun hnil => absurd hnil hending)
              · rw [hwrite]
                exact .aliases original ending halias hevent hsame
            · exact .untouched _ (by simp)
      | none =>
          dsimp only
          rcases writeOnce_cases hevent encoded faults.writeEvent with
            ⟨ending, hending, hwrite⟩ | ⟨ending, hwrite⟩
          · rw [hwrite]
            cases ending with
            | nil => exact absurd rfl hending
            | error message => exact .untouched _ (by simp)
            | crashed => exact .untouched _ (by simp)
          · rw [hwrite]
            cases ending with
            | nil =>
                dsimp only
                rcases writeOnce_cases halias (marshalAlias rt record) faults.writeAlias with
                  ⟨ending, hending, hwrite⟩ | ⟨ending, hwrite⟩
                · rw [hwrite]
                  exact .publishes encoded _ hencoded hevent (by simpa using hending)
                · rw [hwrite]
                  exact .completes encoded _ hencoded hevent halias
            | error message => exact .publishes encoded _ hencoded hevent (by simp)
            | crashed => exact .publishes encoded _ hencoded hevent (by simp)

/-- What a call can do. -/
theorem persist_effect (faults : Faults) (inbox : FileInbox) (record : InboxRecord) :
    Effect rt inbox record (persist rt faults inbox record) := by
  unfold persist
  split
  · exact .untouched _ (by simp)
  · cases hencoded : marshalRecord rt record with
    | error err => exact .untouched _ (by simp)
    | ok encoded =>
        dsimp only
        cases faults.readAlias with
        | some interruption => exact .untouched _ (by simp)
        | none =>
            cases halias : inbox.outbox.lookup (aliasPath rt record.outboxID) with
            | some existing =>
                dsimp only
                split
                · rename_i hsame
                  exact .untouched _ (fun _ => by rw [halias, hsame])
                · exact .untouched _ (by simp)
            | none => exact persistEvent_effect rt faults hencoded halias

/-! ## Runs of calls -/

/-- The inbox as a store: a delivery is a record and where its call is stopped. -/
def store : Store FileInbox (InboxRecord × Faults) where
  next inbox delivery := (persist rt delivery.2 inbox delivery.1).1
  accepts inbox delivery := (persist rt delivery.2 inbox delivery.1).2 = .nil

variable {rt}

/-- A new file leaves the other ones alone. -/
theorem lookup_insert_of_absent {contents : Type} {files : Directory contents}
    {path other : String} {content : contents} (habsent : files.lookup path = none)
    {old : contents} (hold : files.lookup other = some old) :
    (files.insert path content).lookup other = some old := by
  have hne : other ≠ path := by
    rintro rfl
    rw [habsent] at hold
    cases hold
  rw [AList.lookup_insert_ne hne, hold]

/-- An event file stays as it is. -/
theorem Effect.event_lasts {inbox : FileInbox} {record : InboxRecord} {out : FileInbox × Ending}
    (h : Effect rt inbox record out) {path : String} {original : InboxRecord}
    (hpath : inbox.events.lookup path = some original) :
    out.1.events.lookup path = some original := by
  cases h with
  | untouched => exact hpath
  | publishes encoded ending hencodes hnew => exact lookup_insert_of_absent hnew hpath
  | aliases => exact hpath
  | completes encoded ending hencodes hnew => exact lookup_insert_of_absent hnew hpath

/-- An alias stays as it is. -/
theorem Effect.alias_lasts {inbox : FileInbox} {record : InboxRecord} {out : FileInbox × Ending}
    (h : Effect rt inbox record out) {path : String} {known : OutboxAlias}
    (hpath : inbox.outbox.lookup path = some known) :
    out.1.outbox.lookup path = some known := by
  cases h with
  | untouched => exact hpath
  | publishes => exact hpath
  | aliases original ending hnew => exact lookup_insert_of_absent hnew hpath
  | completes encoded ending hencodes hevent hnew => exact lookup_insert_of_absent hnew hpath

/-- An event file stays as it is over a run. -/
theorem event_lasts_run {inbox : FileInbox} {path : String} {original : InboxRecord}
    (hpath : inbox.events.lookup path = some original)
    (deliveries : List (InboxRecord × Faults)) :
    ((store rt).run inbox deliveries).events.lookup path = some original := by
  have hstep : ∀ s d, s.events.lookup path = some original → True →
      ((store rt).next s d).events.lookup path = some original := by
    intro s d hs _
    exact (persist_effect rt d.2 s d.1).event_lasts hs
  apply (store rt).run_preserves hstep hpath
  exact (store rt).always_of_forall (fun _ _ _ => trivial) inbox

/-! ## Retries -/

/-- A call that publishes the event file of its record. -/
def Publishes (rt : InboxRuntime) (faults : Faults) (inbox : FileInbox) (record : InboxRecord) :
    Prop :=
  inbox.events.lookup (eventPath rt record.stream record.eventID) = none ∧
    (persist rt faults inbox record).1.events.lookup
      (eventPath rt record.stream record.eventID) ≠ none

/-- A record whose file holds it as it came: its texts are UTF-8, its payload is
compact JSON without the characters that are escaped, and it can be read inside
the record. -/
structure StoredAsIs (rt : InboxRuntime) (record : InboxRecord) : Prop where
  stream : repair record.stream = record.stream
  eventID : repair record.eventID = record.eventID
  businessID : repair record.businessID = record.businessID
  payload : record.payload ≠ []
  compact : CompactJson.settled .between record.payload = true
  nested : rt.syntaxError 1 record.payload = none

/-- A stored payload is the payload, or a compact form that differs from it. -/
theorem marshalRawMessage_eq_self_iff {payload stored : List UInt8}
    (h : marshalRawMessage rt payload = .ok stored) :
    stored = payload ↔ payload ≠ [] ∧ CompactJson.settled .between payload = true := by
  unfold marshalRawMessage at h
  split at h
  · rename_i hempty
    rw [Except.ok.injEq] at h
    rw [← h, hempty]
    simp [JsonText.asciiBytes]
  · rename_i hpayload
    split at h
    · cases h
    · rw [Except.ok.injEq] at h
      rw [← h, CompactJson.compact_eq_self_iff]
      simp [hpayload]

/-- A record is found again in its own file exactly when it is stored as it
came. -/
theorem sameEvent_stored_iff {record encoded : InboxRecord}
    (h : marshalRecord rt record = .ok encoded) :
    rt.syntaxError 1 encoded.payload = none ∧ sameEvent encoded record = true ↔
      StoredAsIs rt record := by
  unfold marshalRecord at h
  cases hraw : marshalRawMessage rt record.payload with
  | error err => simp [hraw, Except.map] at h
  | ok payload =>
      rw [hraw, Except.map, Except.ok.injEq] at h
      subst h
      have hpayload := marshalRawMessage_eq_self_iff hraw
      simp only [sameEvent, Bool.and_eq_true, beq_iff_eq]
      constructor
      · rintro ⟨hnested, ⟨⟨⟨hstream, hevent⟩, hbusiness⟩, -⟩, hsame⟩
        rw [hsame] at hnested
        rw [hpayload] at hsame
        exact ⟨hstream, hevent, hbusiness, hsame.1, hsame.2, hnested⟩
      · intro hstored
        have hsame := hpayload.mpr ⟨hstored.payload, hstored.compact⟩
        rw [hsame]
        exact ⟨hstored.nested, ⟨⟨⟨hstored.stream, hstored.eventID⟩, hstored.businessID⟩,
          trivial⟩, rfl⟩

/-- A publishing call has a complete record that it encodes, and the file holds
the encoded record. -/
theorem Publishes.stored {faults : Faults} {inbox : FileInbox} {record : InboxRecord}
    (h : Publishes rt faults inbox record) :
    ¬ Incomplete record ∧ ∃ encoded, marshalRecord rt record = .ok encoded ∧
      (persist rt faults inbox record).1.events.lookup
        (eventPath rt record.stream record.eventID) = some encoded := by
  rcases h with ⟨habsent, hpresent⟩
  constructor
  · intro hincomplete
    rw [persist, if_pos hincomplete] at hpresent
    exact hpresent habsent
  · have heffect := persist_effect rt faults inbox record
    generalize persist rt faults inbox record = out at heffect hpresent ⊢
    cases heffect with
    | untouched => exact absurd habsent hpresent
    | publishes encoded ending hencodes => exact ⟨encoded, hencodes, AList.lookup_insert _⟩
    | aliases => exact absurd habsent hpresent
    | completes encoded ending hencodes => exact ⟨encoded, hencodes, AList.lookup_insert _⟩

/-- An undisturbed call for a stored event is accepted when its outbox ID stands
for the record already, or is new and the event file holds the record. -/
theorem persist_of_stored {inbox : FileInbox} {record encoded original : InboxRecord}
    (hcomplete : ¬ Incomplete record) (hencoded : marshalRecord rt record = .ok encoded)
    (hstored : inbox.events.lookup (eventPath rt record.stream record.eventID) =
      some original) :
    (persist rt {} inbox record).2 = .nil ↔
      inbox.outbox.lookup (aliasPath rt record.outboxID) = some (marshalAlias rt record) ∨
        inbox.outbox.lookup (aliasPath rt record.outboxID) = none ∧
          rt.syntaxError 1 original.payload = none ∧ sameEvent original record = true := by
  rw [persist, if_neg hcomplete, hencoded]
  dsimp only
  cases halias : inbox.outbox.lookup (aliasPath rt record.outboxID) with
  | some existing =>
      dsimp only
      split
      · rename_i hsame
        simp [hsame]
      · rename_i hother
        simp [hother]
  | none =>
      rw [persistEvent, hstored]
      dsimp only
      cases hnested : rt.syntaxError 1 original.payload with
      | some err => simp
      | none =>
          dsimp only
          split
          · rename_i hsame
            simp [writeOnce_of_absent halias, hsame]
          · rename_i hother
            simp [hother]

/-- The outbox ID and the receipt time are encoded on their own. -/
theorem marshalRecord_with {record encoded : InboxRecord}
    (h : marshalRecord rt record = .ok encoded) (outboxID : GoString) (receivedAt : GoTime) :
    marshalRecord rt { record with outboxID := outboxID, receivedAt := receivedAt } =
      .ok { encoded with outboxID := repair outboxID, receivedAt := receivedAt } := by
  unfold marshalRecord at h ⊢
  cases hraw : marshalRawMessage rt record.payload with
  | error err => simp [hraw, Except.map] at h
  | ok payload =>
      rw [hraw, Except.map, Except.ok.injEq] at h
      subst h
      rfl

/-- A retry of a stored record is accepted when its outbox ID stands for the
record already, or is new and the record is stored as it came. -/
theorem retry_iff {inbox : FileInbox} {record encoded : InboxRecord}
    (hcomplete : ¬ Incomplete record) (hencoded : marshalRecord rt record = .ok encoded)
    (hstored : inbox.events.lookup (eventPath rt record.stream record.eventID) = some encoded)
    {outboxID : GoString} (houtbox : outboxID ≠ []) (receivedAt : GoTime) :
    (persist rt {} inbox
        { record with outboxID := outboxID, receivedAt := receivedAt }).2 = .nil ↔
      inbox.outbox.lookup (aliasPath rt outboxID) = some (marshalAlias rt record) ∨
        inbox.outbox.lookup (aliasPath rt outboxID) = none ∧ StoredAsIs rt record := by
  have hagain : ¬ Incomplete { record with outboxID := outboxID, receivedAt := receivedAt } := by
    intro h
    exact hcomplete (.inr (h.resolve_left houtbox))
  rw [persist_of_stored hagain (marshalRecord_with hencoded outboxID receivedAt) hstored,
    ← sameEvent_stored_iff hencoded]
  rfl

/-- An undisturbed call for a new record writes both files. -/
theorem persist_new (inbox : FileInbox) {record encoded : InboxRecord}
    (hcomplete : ¬ Incomplete record) (hencoded : marshalRecord rt record = .ok encoded)
    (hevent : inbox.events.lookup (eventPath rt record.stream record.eventID) = none)
    (halias : inbox.outbox.lookup (aliasPath rt record.outboxID) = none) :
    persist rt {} inbox record =
      (⟨inbox.events.insert (eventPath rt record.stream record.eventID) encoded,
        inbox.outbox.insert (aliasPath rt record.outboxID) (marshalAlias rt record)⟩, .nil) := by
  rw [persist, if_neg hcomplete, hencoded]
  dsimp only
  rw [halias]
  dsimp only
  rw [persistEvent]
  dsimp only
  rw [hevent]
  dsimp only
  rw [writeOnce_of_absent hevent, writeOnce_of_absent halias]
  rfl

/-- A new record whose call stops before its alias has its event file and no
alias. -/
theorem persist_stopped (inbox : FileInbox) {record encoded : InboxRecord}
    (hcomplete : ¬ Incomplete record) (hencoded : marshalRecord rt record = .ok encoded)
    (hevent : inbox.events.lookup (eventPath rt record.stream record.eventID) = none)
    (halias : inbox.outbox.lookup (aliasPath rt record.outboxID) = none)
    (interruption : Interruption) :
    persist rt { writeAlias := some ⟨interruption, false⟩ } inbox record =
      ({ inbox with
        events := inbox.events.insert (eventPath rt record.stream record.eventID) encoded },
        interruption.ending.wrap "persist outbox index: ") := by
  rw [persist, if_neg hcomplete, hencoded]
  dsimp only
  rw [halias]
  dsimp only
  rw [persistEvent]
  dsimp only
  rw [hevent]
  dsimp only
  rw [writeOnce_of_absent hevent]
  rfl

/-- An inbox has a free outbox ID. -/
theorem exists_free_outboxID (rt : InboxRuntime) (inbox : FileInbox) :
    ∃ outboxID, outboxID ≠ [] ∧ inbox.outbox.lookup (aliasPath rt outboxID) = none := by
  have hinjective : Function.Injective fun n : ℕ => aliasPath rt (List.replicate (n + 1) 0) := by
    intro m n h
    simpa using congrArg List.length (aliasPath_injective rt h)
  rcases (Set.infinite_range_of_injective hinjective).exists_notMem_finset
    inbox.outbox.keys.toFinset with ⟨path, ⟨n, rfl⟩, hfree⟩
  refine ⟨List.replicate (n + 1) 0, by simp, ?_⟩
  rw [AList.lookup_eq_none, AList.mem_keys]
  simpa using hfree

/-- Retries of a published event.  Whatever happened before and after the call
that published it, a retry with any receipt time under its own or a free outbox
ID succeeds and leaves the event file alone, exactly when the record is stored as
it came and its outbox ID has not gone to another event. -/
theorem persist_retry_iff (rt : InboxRuntime) (before after : List (InboxRecord × Faults))
    (record : InboxRecord) (faults : Faults)
    (hpublishes : Publishes rt faults ((store rt).run empty before) record)
    (receivedAt : GoTime) :
    let inbox := (store rt).run empty (before ++ (record, faults) :: after)
    let again := { record with receivedAt := receivedAt }
    let eventFile := eventPath rt record.stream record.eventID
    let stored := ((store rt).run empty (before ++ [(record, faults)])).events.lookup eventFile
    ((persist rt {} inbox again).2 = .nil ∧
        (persist rt {} inbox again).1.events.lookup eventFile = stored ∧
        ∀ outboxID, outboxID ≠ [] → inbox.outbox.lookup (aliasPath rt outboxID) = none →
          (persist rt {} inbox { again with outboxID := outboxID }).2 = .nil ∧
          (persist rt {} inbox { again with outboxID := outboxID }).1.events.lookup eventFile =
            stored) ↔
      StoredAsIs rt record ∧
        (inbox.outbox.lookup (aliasPath rt record.outboxID) = none ∨
          inbox.outbox.lookup (aliasPath rt record.outboxID) =
            some (marshalAlias rt record)) := by
  intro inbox again eventFile stored
  rcases hpublishes.stored with ⟨hcomplete, encoded, hencoded, hfile⟩
  have hstored : stored = some encoded := by
    simp only [stored, Store.run_append]
    exact hfile
  have hevent : inbox.events.lookup eventFile = some encoded := by
    simp only [inbox, Store.run_append, Store.run_cons]
    exact event_lasts_run hfile after
  -- No call changes the event file, so only the verdicts are left to compare.
  have hkept : ∀ retried, (persist rt {} inbox retried).1.events.lookup eventFile = stored := by
    intro retried
    rw [hstored]
    exact (persist_effect rt {} inbox retried).event_lasts hevent
  have hown := retry_iff hcomplete hencoded hevent (fun h => hcomplete (.inl h)) receivedAt
  have hfree : (∀ outboxID, outboxID ≠ [] →
      inbox.outbox.lookup (aliasPath rt outboxID) = none →
      (persist rt {} inbox { again with outboxID := outboxID }).2 = .nil) ↔
      StoredAsIs rt record := by
    constructor
    · intro h
      rcases exists_free_outboxID rt inbox with ⟨outboxID, houtbox, hnone⟩
      have hretry := retry_iff hcomplete hencoded hevent houtbox receivedAt
      simpa [hnone] using hretry.mp (h outboxID houtbox hnone)
    · intro h outboxID houtbox hnone
      exact (retry_iff hcomplete hencoded hevent houtbox receivedAt).mpr (.inr ⟨hnone, h⟩)
  simp only [hkept, true_and, and_true]
  rw [hfree]
  have hagain : (persist rt {} inbox again).2 = .nil ↔ _ := hown
  rw [hagain]
  tauto

/-! ## Identities -/

/-- A record whose texts are UTF-8. -/
structure HasText (record : InboxRecord) : Prop where
  stream : repair record.stream = record.stream
  eventID : repair record.eventID = record.eventID
  businessID : repair record.businessID = record.businessID

/-- ASCII texts are UTF-8. -/
theorem HasText.of_ascii {record : InboxRecord} (hstream : ∀ b ∈ record.stream, b < 0x80)
    (hevent : ∀ b ∈ record.eventID, b < 0x80) (hbusiness : ∀ b ∈ record.businessID, b < 0x80) :
    HasText record :=
  ⟨repair_of_ascii hstream, repair_of_ascii hevent, repair_of_ascii hbusiness⟩

theorem StoredAsIs.hasText {record : InboxRecord} (h : StoredAsIs rt record) : HasText record :=
  ⟨h.stream, h.eventID, h.businessID⟩

/-- What an outbox ID is accepted for. -/
structure Identity where
  stream : GoString
  eventID : GoString
  businessID : GoString
  businessSequence : ℤ
  payload : List UInt8
deriving DecidableEq

/-- The identity of a record. -/
def identity (record : InboxRecord) : Identity :=
  ⟨record.stream, record.eventID, record.businessID, record.businessSequence, record.payload⟩

/-- The alias of a record determines its identity. -/
theorem identity_eq_of_marshalAlias_eq {a b : InboxRecord} (ha : HasText a) (hb : HasText b)
    (h : marshalAlias rt a = marshalAlias rt b) : identity a = identity b := by
  have htext : ∀ {s t : GoString}, repair s = s → repair t = t → mark s = mark t → s = t := by
    intro s t hs ht hmark
    rw [mark_eq_map hs, mark_eq_map ht] at hmark
    exact List.map_injective_iff.mpr (Option.some_injective _) hmark
  rw [marshalAlias, marshalAlias, OutboxAlias.mk.injEq] at h
  rcases h with ⟨hstream, hevent, hbusiness, hsequence, hdigest⟩
  have hstream := htext ha.stream hb.stream hstream
  have hevent := htext ha.eventID hb.eventID hevent
  have hbusiness := htext ha.businessID hb.businessID hbusiness
  have hpayload := rt.digest_injective hdigest
  simp only [identity, hstream, hevent, hbusiness, hsequence, hpayload]

/-- Outbox IDs are bound to aliases, whatever stops the calls. -/
theorem alias_keeps (rt : InboxRuntime) :
    Keeps (store rt) (fun _ => True) (fun _ _ => True)
      (fun inbox outboxID => inbox.outbox.lookup (aliasPath rt outboxID))
      (fun d => d.1.outboxID) (fun d => marshalAlias rt d.1) where
  invariant _ _ _ _ := trivial
  lasts inbox d outboxID known _ _ hknown :=
    (persist_effect rt d.2 inbox d.1).alias_lasts hknown
  binds inbox d _ _ haccepts := by
    have heffect := persist_effect rt d.2 inbox d.1
    change (persist rt d.2 inbox d.1).2 = .nil at haccepts
    change (persist rt d.2 inbox d.1).1.outbox.lookup _ = _
    generalize persist rt d.2 inbox d.1 = out at heffect haccepts ⊢
    cases heffect with
    | untouched ending known => exact known haccepts
    | publishes encoded ending hencodes hnew stopped => exact absurd haccepts stopped
    | aliases => exact AList.lookup_insert _
    | completes => exact AList.lookup_insert _

/-- An outbox ID that was accepted is never accepted for another identity, as long
as the texts are UTF-8. -/
theorem outbox_neverRebound {deliveries : List (InboxRecord × Faults)}
    (htext : ∀ d ∈ deliveries, HasText d.1) :
    (store rt).NeverRebound (fun d => d.1.outboxID) (fun d => identity d.1) empty
      deliveries := by
  have hkept : (store rt).NeverRebound (fun d => d.1.outboxID) (fun d => marshalAlias rt d.1)
      empty deliveries := by
    apply (alias_keeps rt).neverRebound trivial
    exact (store rt).always_of_forall (fun _ _ _ => trivial) empty
  apply hkept.of_identity
  intro d hd e he halias
  exact identity_eq_of_marshalAlias_eq (htext d hd) (htext e he) halias

/-- What an event is accepted with. -/
def eventContents (record : InboxRecord) : GoString × ℤ × List UInt8 :=
  (record.businessID, record.businessSequence, record.payload)

/-- What the event file of an event says of it. -/
def boundEvent (rt : InboxRuntime) (inbox : FileInbox) (event : GoString × GoString) :
    Option (GoString × ℤ × List UInt8) :=
  (inbox.events.lookup (eventPath rt event.1 event.2)).bind fun original =>
    if original.stream = event.1 ∧ original.eventID = event.2 then
      some (eventContents original)
    else none

/-- An event file in which a record is found says what the record does. -/
theorem boundEvent_of_sameEvent {inbox : FileInbox} {record original : InboxRecord}
    (hstored : inbox.events.lookup (eventPath rt record.stream record.eventID) = some original)
    (hsame : sameEvent original record = true) :
    boundEvent rt inbox (record.stream, record.eventID) = some (eventContents record) := by
  simp only [sameEvent, Bool.and_eq_true, beq_iff_eq] at hsame
  rcases hsame with ⟨⟨⟨⟨hstream, hevent⟩, hbusiness⟩, hsequence⟩, hpayload⟩
  simp [boundEvent, hstored, hstream, hevent, eventContents, hbusiness, hsequence, hpayload]

/-- Every alias belongs to a record that is found in its event file. -/
def AliasesHaveEvents (rt : InboxRuntime) (inbox : FileInbox) : Prop :=
  ∀ path known, inbox.outbox.lookup path = some known →
    ∃ record original, StoredAsIs rt record ∧ marshalAlias rt record = known ∧
      inbox.events.lookup (eventPath rt record.stream record.eventID) = some original ∧
      sameEvent original record = true

/-- A new alias of a record found in its event file keeps the invariant. -/
theorem AliasesHaveEvents.insert {inbox : FileInbox} (h : AliasesHaveEvents rt inbox)
    {record original : InboxRecord} {path : String} (hrecord : StoredAsIs rt record)
    (hstored : inbox.events.lookup (eventPath rt record.stream record.eventID) = some original)
    (hsame : sameEvent original record = true) :
    AliasesHaveEvents rt
      { inbox with outbox := inbox.outbox.insert path (marshalAlias rt record) } := by
  intro other known hknown
  by_cases hother : other = path
  · subst hother
    rw [AList.lookup_insert, Option.some.injEq] at hknown
    exact ⟨record, original, hrecord, hknown, hstored, hsame⟩
  · rw [AList.lookup_insert_ne hother] at hknown
    exact h other known hknown

/-- A new event file keeps the invariant. -/
theorem AliasesHaveEvents.publish {inbox : FileInbox} (h : AliasesHaveEvents rt inbox)
    {path : String} {content : InboxRecord} (hnew : inbox.events.lookup path = none) :
    AliasesHaveEvents rt { inbox with events := inbox.events.insert path content } := by
  intro other known hknown
  rcases h other known hknown with ⟨record, original, hrecord, hmarshal, hstored, hsame⟩
  exact ⟨record, original, hrecord, hmarshal, lookup_insert_of_absent hnew hstored, hsame⟩

/-- Events are bound to their contents while every record is stored as it came. -/
theorem event_keeps (rt : InboxRuntime) :
    Keeps (store rt) (AliasesHaveEvents rt) (fun _ d => StoredAsIs rt d.1) (boundEvent rt)
      (fun d => (d.1.stream, d.1.eventID)) (fun d => eventContents d.1) where
  invariant inbox d hinv hstored := by
    have heffect := persist_effect rt d.2 inbox d.1
    change AliasesHaveEvents rt (persist rt d.2 inbox d.1).1
    generalize persist rt d.2 inbox d.1 = out at heffect ⊢
    cases heffect with
    | untouched => exact hinv
    | publishes encoded ending hencodes hnew => exact hinv.publish hnew
    | aliases original ending hnew horiginal hsame => exact hinv.insert hstored horiginal hsame
    | completes encoded ending hencodes hnew =>
        have hsame := ((sameEvent_stored_iff hencodes).mpr hstored).2
        exact (hinv.publish hnew).insert hstored (AList.lookup_insert _) hsame
  lasts inbox d event contents _ _ hbound := by
    rw [boundEvent, Option.bind_eq_some_iff] at hbound
    rcases hbound with ⟨original, horiginal, hcontents⟩
    have hlasts := (persist_effect rt d.2 inbox d.1).event_lasts horiginal
    exact Option.bind_eq_some_iff.mpr ⟨original, hlasts, hcontents⟩
  binds inbox d hinv hstored haccepts := by
    have heffect := persist_effect rt d.2 inbox d.1
    change (persist rt d.2 inbox d.1).2 = .nil at haccepts
    change boundEvent rt (persist rt d.2 inbox d.1).1 _ = _
    generalize persist rt d.2 inbox d.1 = out at heffect haccepts ⊢
    cases heffect with
    | untouched ending known =>
        -- The alias is that of a stored record, which has the identity of this one.
        rcases hinv _ _ (known haccepts) with
          ⟨record, original, hrecord, hmarshal, horiginal, hsame⟩
        have hidentity := identity_eq_of_marshalAlias_eq hrecord.hasText hstored.hasText hmarshal
        have hbound := boundEvent_of_sameEvent horiginal hsame
        simp only [identity, Identity.mk.injEq] at hidentity
        simpa [eventContents, hidentity] using hbound
    | publishes encoded ending hencodes hnew stopped => exact absurd haccepts stopped
    | aliases original ending hnew horiginal hsame =>
        exact boundEvent_of_sameEvent horiginal hsame
    | completes encoded ending hencodes =>
        have hsame := ((sameEvent_stored_iff hencodes).mpr hstored).2
        exact boundEvent_of_sameEvent (AList.lookup_insert _) hsame

/-- An event that was accepted is never accepted with other contents, as long as
every record is stored as it came. -/
theorem event_neverRebound {deliveries : List (InboxRecord × Faults)}
    (hstored : ∀ d ∈ deliveries, StoredAsIs rt d.1) :
    (store rt).NeverRebound (fun d => (d.1.stream, d.1.eventID)) (fun d => eventContents d.1)
      empty deliveries := by
  have hempty : AliasesHaveEvents rt empty := by
    intro path known hknown
    cases hknown
  apply (event_keeps rt).neverRebound hempty
  exact (store rt).always_of_forall (fun d hd _ => hstored d hd) empty

section Example

/-- A runtime whose scanner accepts every text. -/
def acceptingRuntime : InboxRuntime := ⟨id, Function.injective_id, fun _ _ => none⟩

/-- A ledger event with a payload. -/
def ledgerRecord (payload : String) : InboxRecord where
  outboxID := JsonText.asciiBytes "outbox-1"
  stream := JsonText.asciiBytes "ledger"
  eventID := JsonText.asciiBytes "event-1"
  businessID := JsonText.asciiBytes "business-1"
  businessSequence := 1
  payload := JsonText.asciiBytes payload
  receivedAt := ⟨false, "2026-01-01T00:00:00Z"⟩

/-- The call that crashes between the two files. -/
def crashBetween : Faults := { writeAlias := some ⟨.crash, false⟩ }

theorem ledgerRecord_complete (payload : String) : ¬ Incomplete (ledgerRecord payload) := by
  simp [Incomplete, ledgerRecord, JsonText.asciiBytes]

/-- The example's runtime compacts the payload and keeps the texts. -/
theorem marshalRecord_ledgerRecord {payload : String}
    (h : JsonText.asciiBytes payload ≠ []) :
    marshalRecord acceptingRuntime (ledgerRecord payload) =
      .ok { ledgerRecord payload with
        payload := CompactJson.compact .between (JsonText.asciiBytes payload) } := by
  have hraw : marshalRawMessage acceptingRuntime (ledgerRecord payload).payload =
      .ok (CompactJson.compact .between (JsonText.asciiBytes payload)) := by
    rw [marshalRawMessage, if_neg (by exact h)]
    rfl
  rw [marshalRecord, hraw]
  rfl

/-- The crashed call publishes its event. -/
theorem ledgerRecord_publishes {payload : String} (h : JsonText.asciiBytes payload ≠ []) :
    Publishes acceptingRuntime crashBetween empty (ledgerRecord payload) := by
  have hstopped := persist_stopped empty (ledgerRecord_complete payload)
    (marshalRecord_ledgerRecord h) rfl rfl .crash
  constructor
  · rfl
  · rw [crashBetween, hstopped]
    simp

/-- After the crash the event has its file and its outbox ID is free. -/
theorem crashed_inbox {payload : String} (h : JsonText.asciiBytes payload ≠ []) :
    ((store acceptingRuntime).run empty [(ledgerRecord payload, crashBetween)]).outbox = ∅ := by
  have hstopped := persist_stopped empty (ledgerRecord_complete payload)
    (marshalRecord_ledgerRecord h) rfl rfl .crash
  rw [Store.run_cons, Store.run_nil]
  exact congrArg (fun out => out.1.outbox) hstopped

/-- A compact payload is stored as it is. -/
theorem ledgerRecord_storedAsIs {payload : String} (h : JsonText.asciiBytes payload ≠ [])
    (hcompact : CompactJson.settled .between (JsonText.asciiBytes payload) = true) :
    StoredAsIs acceptingRuntime (ledgerRecord payload) := by
  have hstream : ∀ b ∈ (ledgerRecord "").stream, b < 0x80 :=
    List.all_iff_forall_prop.mp (by decide)
  have hevent : ∀ b ∈ (ledgerRecord "").eventID, b < 0x80 :=
    List.all_iff_forall_prop.mp (by decide)
  have hbusiness : ∀ b ∈ (ledgerRecord "").businessID, b < 0x80 :=
    List.all_iff_forall_prop.mp (by decide)
  have htext : HasText (ledgerRecord payload) := .of_ascii hstream hevent hbusiness
  exact ⟨htext.stream, htext.eventID, htext.businessID, h, hcompact, rfl⟩

/-- A compact payload survives the crash: its retry is accepted. -/
theorem compact_payload_retried :
    (persist acceptingRuntime {}
      ((store acceptingRuntime).run empty [(ledgerRecord "[1]", crashBetween)])
      (ledgerRecord "[1]")).2 = .nil := by
  have hpayload : JsonText.asciiBytes "[1]" ≠ [] := by decide
  have hstored := ledgerRecord_storedAsIs hpayload (by decide)
  have hretry := persist_retry_iff acceptingRuntime [] [] (ledgerRecord "[1]") crashBetween
    (ledgerRecord_publishes hpayload) (ledgerRecord "[1]").receivedAt
  have hfree : ((store acceptingRuntime).run empty
      [(ledgerRecord "[1]", crashBetween)]).outbox.lookup
        (aliasPath acceptingRuntime (ledgerRecord "[1]").outboxID) = none := by
    rw [crashed_inbox hpayload]
    rfl
  exact (hretry.mpr ⟨hstored, .inl hfree⟩).1

/-- A payload with a space between its tokens does not: its event is taken for a
different one. -/
theorem spaced_payload_refused :
    Publishes acceptingRuntime crashBetween empty (ledgerRecord "\x7b\"amount\": 1\x7d") ∧
      (persist acceptingRuntime {}
        ((store acceptingRuntime).run empty
          [(ledgerRecord "\x7b\"amount\": 1\x7d", crashBetween)])
        (ledgerRecord "\x7b\"amount\": 1\x7d")).2 ≠ .nil := by
  have hpayload : JsonText.asciiBytes "\x7b\"amount\": 1\x7d" ≠ [] := by decide
  have hpublishes := ledgerRecord_publishes hpayload
  rcases hpublishes.stored with ⟨hcomplete, encoded, hencoded, hfile⟩
  refine ⟨hpublishes, ?_⟩
  intro hretried
  have hretry := (retry_iff hcomplete hencoded hfile (fun h => hcomplete (.inl h)) _).mp hretried
  have houtbox : (persist acceptingRuntime crashBetween empty
      (ledgerRecord "\x7b\"amount\": 1\x7d")).1.outbox = ∅ := crashed_inbox hpayload
  rw [houtbox, AList.lookup_empty] at hretry
  have hstored : StoredAsIs acceptingRuntime (ledgerRecord "\x7b\"amount\": 1\x7d") := by
    simpa using hretry
  exact absurd hstored.compact (by decide)

end Example

end FileInbox

end MizanSDK.Go
