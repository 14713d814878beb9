import MizanSDK.Library.Bindings
import MizanSDK.Python.Runtime

/-!
# The SQLite inbox of the Python webhook receiver

`examples/webhook_receiver.py`: one table with a row for each outbox ID and, by
its unique index, at most one row for each event.  A call of `persist` inserts a
row, or finds out from the rows in its way whether it is a repeat.

Main results:

- Theorem `event_neverRebound`: an event that was accepted is never accepted with
  other contents.
- Theorem `outbox_neverRebound`: the same holds of outbox IDs, as long as no known
  event comes under a new outbox ID.
-/

namespace MizanSDK.Python

open JsonText Bindings

/-- The arguments of `SQLiteInbox.persist`, which are also the columns of a row. -/
structure InboxDelivery where
  outboxID : PyStr
  stream : PyStr
  eventID : PyStr
  businessID : PyStr
  businessSequence : Option ℤ
  payload : List UInt8
deriving DecidableEq

/-- The rows of `mizan_webhook_inbox` in the order of their insertion. -/
abbrev SQLiteInbox := List InboxDelivery

/-- What `persist` raises. -/
inductive PersistError where
  | python (err : PyError)
  | runtimeError (message : String)
deriving DecidableEq

/-- Bind a text parameter of a statement: it is sent as UTF-8. -/
def bindText (s : PyStr) : Except PyError Unit := do
  let _ ← encodeUtf8 s
  return ()

/-- Bind an integer parameter of a statement: it is sent as 64 bits. -/
def bindInteger : Option ℤ → Except PyError Unit
  | some n => if -(2 ^ 63) ≤ n ∧ n < 2 ^ 63 then .ok () else .error .overflowError
  | none => .ok ()

/-- Bind the parameters of the `INSERT`. -/
def bindDelivery (d : InboxDelivery) : Except PyError Unit := do
  bindText d.outboxID
  bindText d.stream
  bindText d.eventID
  bindText d.businessID
  bindInteger d.businessSequence

/-- The columns `(stream, event_id)`. -/
def InboxDelivery.event (d : InboxDelivery) : PyStr × PyStr := (d.stream, d.eventID)

/-- The other columns of an event. -/
def InboxDelivery.contents (d : InboxDelivery) : PyStr × Option ℤ × List UInt8 :=
  (d.businessID, d.businessSequence, d.payload)

/-- The tuple `identity`. -/
def InboxDelivery.identity (d : InboxDelivery) :
    (PyStr × PyStr) × (PyStr × Option ℤ × List UInt8) := (d.event, d.contents)

namespace SQLiteInbox

/-- `WHERE outbox_id = ?`, the first row. -/
def selectOutbox (rows : SQLiteInbox) (outboxID : PyStr) : Option InboxDelivery :=
  rows.find? fun row => row.outboxID == outboxID

/-- `WHERE stream = ? AND event_id = ?`, the first row. -/
def selectEvent (rows : SQLiteInbox) (event : PyStr × PyStr) : Option InboxDelivery :=
  rows.find? fun row => row.event == event

/-- `sqlite3.IntegrityError` of the `INSERT`: the primary key or the unique index
is taken. -/
def violates (rows : SQLiteInbox) (d : InboxDelivery) : Bool :=
  (selectOutbox rows d.outboxID).isSome || (selectEvent rows d.event).isSome

/-- `SQLiteInbox.persist`: the rows after the commit, or what is raised after the
rollback. -/
def persist (rows : SQLiteInbox) (d : InboxDelivery) : Except PersistError SQLiteInbox :=
  match bindDelivery d with
  | .error err => .error (.python err)
  | .ok () =>
      if violates rows d then
        match selectOutbox rows d.outboxID with
        | some existing =>
            if existing.identity = d.identity then .ok rows
            else .error (.runtimeError "webhook identity was reused for a different event")
        | none =>
            if (selectEvent rows d.event).map InboxDelivery.identity = some d.identity then
              .ok rows
            else .error (.runtimeError "webhook identity was reused for a different event")
      else .ok (rows ++ [d])

/-- The table as a store. -/
def store : Store SQLiteInbox InboxDelivery where
  next rows d :=
    match persist rows d with
    | .ok rows' => rows'
    | .error _ => rows
  accepts rows d := ∃ rows', persist rows d = .ok rows'

/-! ## What a call can do -/

/-- Everything an accepted call can find and do. -/
inductive Accepted (rows : SQLiteInbox) (d : InboxDelivery) : SQLiteInbox → Prop where
  /-- The row is new. -/
  | inserts (newOutbox : selectOutbox rows d.outboxID = none)
      (newEvent : selectEvent rows d.event = none) : Accepted rows d (rows ++ [d])
  /-- The outbox ID has a row of the same identity. -/
  | retries (existing : InboxDelivery)
      (known : selectOutbox rows d.outboxID = some existing)
      (same : existing.identity = d.identity) : Accepted rows d rows
  /-- The event has a row of the same identity under another outbox ID. -/
  | repeats (existing : InboxDelivery) (newOutbox : selectOutbox rows d.outboxID = none)
      (known : selectEvent rows d.event = some existing)
      (same : existing.identity = d.identity) : Accepted rows d rows

theorem accepted_of_persist {rows rows' : SQLiteInbox} {d : InboxDelivery}
    (h : persist rows d = .ok rows') : Accepted rows d rows' := by
  unfold persist at h
  split at h
  · cases h
  · cases houtbox : selectOutbox rows d.outboxID with
    | some existing =>
        rw [violates, houtbox, Option.isSome_some, Bool.true_or, if_pos rfl] at h
        dsimp only at h
        split at h
        · rename_i hsame
          cases h
          exact .retries existing houtbox hsame
        · cases h
    | none =>
        cases hevent : selectEvent rows d.event with
        | some existing =>
            rw [violates, houtbox, hevent, Option.isSome_some, Bool.or_true, if_pos rfl] at h
            dsimp only at h
            split at h
            · rename_i hsame
              cases h
              exact .repeats existing houtbox hevent (by simpa using hsame)
            · cases h
        | none =>
            rw [violates, houtbox, hevent] at h
            cases h
            exact .inserts houtbox hevent

/-- A call leaves the rows alone or is accepted. -/
theorem next_cases (rows : SQLiteInbox) (d : InboxDelivery) :
    store.next rows d = rows ∨ Accepted rows d (store.next rows d) := by
  simp only [store]
  cases hpersist : persist rows d with
  | error err => exact .inl rfl
  | ok rows' => exact .inr (accepted_of_persist hpersist)

/-- The rows after an accepted call. -/
theorem accepted_next {rows : SQLiteInbox} {d : InboxDelivery} (h : store.accepts rows d) :
    Accepted rows d (store.next rows d) := by
  rcases h with ⟨rows', hpersist⟩
  simp only [store, hpersist]
  exact accepted_of_persist hpersist

/-- A call keeps the rows it finds and may add one. -/
theorem next_eq_append (rows : SQLiteInbox) (d : InboxDelivery) :
    ∃ new, store.next rows d = rows ++ new := by
  rcases next_cases rows d with hsame | haccepted
  · exact ⟨[], by rw [hsame, List.append_nil]⟩
  · generalize store.next rows d = out at haccepted ⊢
    cases haccepted with
    | inserts => exact ⟨[d], rfl⟩
    | retries => exact ⟨[], (List.append_nil rows).symm⟩
    | repeats => exact ⟨[], (List.append_nil rows).symm⟩

/-- A row that is found is found again after a call. -/
theorem find_next {rows : SQLiteInbox} {p : InboxDelivery → Bool} {row : InboxDelivery}
    (h : rows.find? p = some row) (d : InboxDelivery) :
    (store.next rows d).find? p = some row := by
  rcases next_eq_append rows d with ⟨new, hnew⟩
  rw [hnew, List.find?_append, h, Option.some_or]

/-- A row is found under what it is new for. -/
theorem find_append_new {rows : SQLiteInbox} {p : InboxDelivery → Bool} {d : InboxDelivery}
    (habsent : rows.find? p = none) (hd : p d = true) : (rows ++ [d]).find? p = some d := by
  rw [List.find?_append, habsent, Option.none_or, List.find?_singleton, if_pos hd]

/-! ## Identities -/

/-- `UNIQUE (stream, event_id)`. -/
def UniqueEvents (rows : SQLiteInbox) : Prop :=
  ∀ a ∈ rows, ∀ b ∈ rows, a.event = b.event → a = b

/-- A call keeps the unique index. -/
theorem UniqueEvents.next {rows : SQLiteInbox} (h : UniqueEvents rows) (d : InboxDelivery) :
    UniqueEvents (store.next rows d) := by
  rcases next_cases rows d with hsame | haccepted
  · rwa [hsame]
  · generalize store.next rows d = out at haccepted ⊢
    cases haccepted with
    | retries => exact h
    | repeats => exact h
    | inserts newOutbox newEvent =>
        rw [selectEvent, List.find?_eq_none] at newEvent
        intro a ha b hb hevent
        rw [List.mem_append, List.mem_singleton] at ha hb
        rcases ha with ha | rfl
        · rcases hb with hb | rfl
          · exact h a ha b hb hevent
          · exact absurd (by simpa using hevent) (newEvent a ha)
        · rcases hb with hb | rfl
          · exact absurd (by simpa using hevent.symm) (newEvent b hb)
          · rfl

/-- What the table says of an event. -/
def boundEvent (rows : SQLiteInbox) (event : PyStr × PyStr) :
    Option (PyStr × Option ℤ × List UInt8) :=
  (selectEvent rows event).map InboxDelivery.contents

/-- A row of the identity of a delivery says of its event what the delivery
does. -/
theorem boundEvent_of_identity {rows : SQLiteInbox} {d existing : InboxDelivery}
    (hknown : selectEvent rows d.event = some existing)
    (hsame : existing.identity = d.identity) : boundEvent rows d.event = some d.contents := by
  rw [boundEvent, hknown, Option.map_some]
  exact congrArg (fun identity => some identity.2) hsame

/-- Events are bound to their contents by the unique index. -/
theorem event_keeps :
    Keeps store UniqueEvents (fun _ _ => True) boundEvent InboxDelivery.event
      InboxDelivery.contents where
  invariant rows d h _ := h.next d
  lasts rows d event contents _ _ hbound := by
    rw [boundEvent, Option.map_eq_some_iff] at hbound ⊢
    rcases hbound with ⟨row, hrow, hcontents⟩
    exact ⟨row, find_next hrow d, hcontents⟩
  binds rows d hunique _ haccepts := by
    have haccepted := accepted_next haccepts
    generalize store.next rows d = out at haccepted ⊢
    cases haccepted with
    | inserts newOutbox newEvent =>
        have hfound := find_append_new newEvent (beq_self_eq_true d.event)
        exact boundEvent_of_identity hfound rfl
    | repeats existing newOutbox known same => exact boundEvent_of_identity known same
    | retries existing known same =>
        -- The row of the outbox ID is the one row of its event.
        have hevent : existing.event = d.event := congrArg Prod.fst same
        have hmem : existing ∈ rows := List.mem_of_find?_eq_some known
        cases hselect : selectEvent rows d.event with
        | none =>
            rw [selectEvent, List.find?_eq_none] at hselect
            exact absurd (by simpa using hevent) (hselect existing hmem)
        | some row =>
            have hrow : row.event = d.event := by
              simpa using List.find?_some hselect
            have heq := hunique existing hmem row (List.mem_of_find?_eq_some hselect)
              (hevent.trans hrow.symm)
            rw [← heq] at hselect
            exact boundEvent_of_identity hselect same

/-- An event that was accepted is never accepted with other contents. -/
theorem event_neverRebound (deliveries : List InboxDelivery) :
    store.NeverRebound InboxDelivery.event InboxDelivery.contents [] deliveries := by
  have hempty : UniqueEvents [] := by
    intro a ha
    cases ha
  apply event_keeps.neverRebound hempty
  exact store.always_of_forall (fun _ _ _ => trivial) []

/-- A known event under an outbox ID that has no row. -/
def IsRepeat (rows : SQLiteInbox) (d : InboxDelivery) : Prop :=
  (∀ row ∈ rows, row.outboxID ≠ d.outboxID) ∧ ∃ row ∈ rows, row.identity = d.identity

/-- What the table says of an outbox ID. -/
def boundOutbox (rows : SQLiteInbox) (outboxID : PyStr) :
    Option ((PyStr × PyStr) × (PyStr × Option ℤ × List UInt8)) :=
  (selectOutbox rows outboxID).map InboxDelivery.identity

/-- Outbox IDs are bound to identities while no repeat comes under a new one. -/
theorem outbox_keeps :
    Keeps store (fun _ => True) (fun rows d => ¬ IsRepeat rows d) boundOutbox
      InboxDelivery.outboxID InboxDelivery.identity where
  invariant _ _ _ _ := trivial
  lasts rows d outboxID identity _ _ hbound := by
    rw [boundOutbox, Option.map_eq_some_iff] at hbound ⊢
    rcases hbound with ⟨row, hrow, hidentity⟩
    exact ⟨row, find_next hrow d, hidentity⟩
  binds rows d _ hfresh haccepts := by
    have haccepted := accepted_next haccepts
    generalize store.next rows d = out at haccepted ⊢
    cases haccepted with
    | inserts newOutbox newEvent =>
        have hfound := find_append_new newOutbox (beq_self_eq_true d.outboxID)
        rw [boundOutbox, selectOutbox, hfound, Option.map_some]
    | retries existing known same => rw [boundOutbox, known, Option.map_some, same]
    | repeats existing newOutbox known same =>
        refine absurd ⟨?_, existing, List.mem_of_find?_eq_some known, same⟩ hfresh
        intro row hrow houtbox
        rw [selectOutbox, List.find?_eq_none] at newOutbox
        exact newOutbox row hrow (by simpa using houtbox)

/-- An outbox ID that was accepted is never accepted for another identity, as
long as no known event comes under a new outbox ID. -/
theorem outbox_neverRebound {deliveries : List InboxDelivery}
    (hfresh : store.Always (fun rows d => ¬ IsRepeat rows d) [] deliveries) :
    store.NeverRebound InboxDelivery.outboxID InboxDelivery.identity [] deliveries :=
  outbox_keeps.neverRebound trivial hfresh

end SQLiteInbox

end MizanSDK.Python
