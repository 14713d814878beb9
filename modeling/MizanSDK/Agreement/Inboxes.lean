import MizanSDK.Go.FileInbox
import MizanSDK.Python.SQLiteInbox

/-!
# The inboxes of both receivers

Both example inboxes deduplicate by outbox ID and by event.  They differ in what
they remember of a repeat: the table keeps one row for an event and so forgets a
second outbox ID, the files keep the second alias but the payload in compact form
only.

Main results:

- Theorem `inbox_identities_kept`: the runs on which neither inbox ever rebinds an
  identity.
-/

namespace MizanSDK.Agreement

open JsonText Bindings MizanSDK.Go MizanSDK.Python

/-- Identities that were accepted stay as they are.  The table never rebinds an
event, and no outbox ID as long as no known event comes under a new one; the
files never rebind an outbox ID of records in UTF-8, and no event of records that
are stored as they came. -/
theorem inbox_identities_kept (rt : InboxRuntime) :
    (∀ deliveries, SQLiteInbox.store.Always (fun rows d => ¬ SQLiteInbox.IsRepeat rows d) []
        deliveries →
      SQLiteInbox.store.NeverRebound InboxDelivery.outboxID InboxDelivery.identity []
        deliveries) ∧
      (∀ deliveries, SQLiteInbox.store.NeverRebound InboxDelivery.event InboxDelivery.contents []
        deliveries) ∧
      (∀ deliveries, (∀ d ∈ deliveries, FileInbox.HasText d.1) →
        (FileInbox.store rt).NeverRebound (fun d => d.1.outboxID)
          (fun d => FileInbox.identity d.1) FileInbox.empty deliveries) ∧
      (∀ deliveries, (∀ d ∈ deliveries, FileInbox.StoredAsIs rt d.1) →
        (FileInbox.store rt).NeverRebound (fun d => (d.1.stream, d.1.eventID))
          (fun d => FileInbox.eventContents d.1) FileInbox.empty deliveries) := by
  refine ⟨?_, ?_, ?_, ?_⟩
  · intro deliveries hfresh
    exact SQLiteInbox.outbox_neverRebound hfresh
  · intro deliveries
    exact SQLiteInbox.event_neverRebound deliveries
  · intro deliveries htext
    exact FileInbox.outbox_neverRebound htext
  · intro deliveries hstored
    exact FileInbox.event_neverRebound hstored

section Example

/-- A notification for the table. -/
def notification (outboxID eventID : String) : InboxDelivery :=
  ⟨str outboxID, str "notification", str eventID, str "b", none, [0x31]⟩

/-- Two events under outbox IDs of their own, the first of them retried, keep
their identities in both inboxes. -/
theorem retried_identities_kept :
    SQLiteInbox.store.NeverRebound InboxDelivery.outboxID InboxDelivery.identity []
        [notification "o" "e", notification "o" "e", notification "p" "f"] ∧
      (FileInbox.store FileInbox.acceptingRuntime).NeverRebound
        (fun d => (d.1.stream, d.1.eventID)) (fun d => FileInbox.eventContents d.1)
        FileInbox.empty [(FileInbox.ledgerRecord "[1]", FileInbox.crashBetween),
          (FileInbox.ledgerRecord "[1]", {})] := by
  have hkept := inbox_identities_kept FileInbox.acceptingRuntime
  have hfresh : SQLiteInbox.store.Always (fun rows d => ¬ SQLiteInbox.IsRepeat rows d) []
      [notification "o" "e", notification "o" "e", notification "p" "f"] := by
    refine ⟨?_, ?_, ?_, trivial⟩
    · rintro ⟨-, row, hrow, -⟩
      cases hrow
    · rintro ⟨houtbox, -⟩
      exact houtbox (notification "o" "e") (List.mem_singleton.mpr rfl) rfl
    · rintro ⟨-, row, hrow, hsame⟩
      rw [List.mem_singleton.mp hrow] at hsame
      revert hsame
      decide
  refine ⟨hkept.1 _ hfresh, hkept.2.2.2 _ ?_⟩
  have hpayload : asciiBytes "[1]" ≠ [] := by decide
  have hstored := FileInbox.ledgerRecord_storedAsIs hpayload (by decide)
  intro d hd
  rw [List.mem_cons, List.mem_singleton] at hd
  rcases hd with rfl | rfl
  · exact hstored
  · exact hstored

/-- The record of `ledgerRecord` under a second outbox ID, with its payload in
compact form. -/
def compactedRepeat : InboxRecord :=
  { FileInbox.ledgerRecord "[1]" with outboxID := asciiBytes "outbox-2" }

/-- The payload is accepted with spaces in it, and then without. -/
theorem spaced_and_compact_accepted :
    (FileInbox.store FileInbox.acceptingRuntime).accepts FileInbox.empty
        (FileInbox.ledgerRecord "[ 1 ]", {}) ∧
      (FileInbox.store FileInbox.acceptingRuntime).accepts
        ((FileInbox.store FileInbox.acceptingRuntime).run FileInbox.empty
          [(FileInbox.ledgerRecord "[ 1 ]", {})]) (compactedRepeat, {}) := by
  have hpayload : asciiBytes "[ 1 ]" ≠ [] := by decide
  have hencoded := FileInbox.marshalRecord_ledgerRecord hpayload
  have hnew := FileInbox.persist_new FileInbox.empty (FileInbox.ledgerRecord_complete "[ 1 ]")
    hencoded rfl rfl
  refine ⟨congrArg Prod.snd hnew, ?_⟩
  have hinbox := congrArg Prod.fst hnew
  have hpaths : FileInbox.aliasPath FileInbox.acceptingRuntime compactedRepeat.outboxID ≠
      FileInbox.aliasPath FileInbox.acceptingRuntime (FileInbox.ledgerRecord "[ 1 ]").outboxID := by
    intro h
    exact absurd (FileInbox.aliasPath_injective _ h) (by decide)
  have hencodedRepeat : ∃ encoded,
      marshalRecord FileInbox.acceptingRuntime compactedRepeat = .ok encoded := ⟨_, rfl⟩
  rcases hencodedRepeat with ⟨encodedRepeat, hencodedRepeat⟩
  change (FileInbox.persist FileInbox.acceptingRuntime {}
    (FileInbox.persist FileInbox.acceptingRuntime {} FileInbox.empty
      (FileInbox.ledgerRecord "[ 1 ]")).1 compactedRepeat).2 = .nil
  rw [hinbox]
  apply (FileInbox.persist_of_stored (by decide) hencodedRepeat (AList.lookup_insert _)).mpr
  right
  refine ⟨?_, rfl, by decide⟩
  rw [AList.lookup_insert_ne hpaths]
  rfl

/-- Both inboxes rebind.  The table accepts a known event under a second outbox ID
without a trace and then another event under it; the files hold the compacted
payload and accept it for an event that was accepted with spaces in it. -/
theorem inboxes_rebind :
    ¬ SQLiteInbox.store.NeverRebound InboxDelivery.outboxID InboxDelivery.identity []
        [notification "o" "e", notification "p" "e", notification "p" "f"] ∧
      ¬ (FileInbox.store FileInbox.acceptingRuntime).NeverRebound
        (fun d => (d.1.stream, d.1.eventID)) (fun d => FileInbox.eventContents d.1)
        FileInbox.empty [(FileInbox.ledgerRecord "[ 1 ]", {}), (compactedRepeat, {})] := by
  constructor
  · intro hkept
    have hsame := hkept [notification "o" "e"] (notification "p" "e") []
      (notification "p" "f") [] rfl ⟨[notification "o" "e"], rfl⟩
      ⟨[notification "o" "e", notification "p" "f"], rfl⟩ rfl
    revert hsame
    decide
  · intro hkept
    have hsame := hkept [] (FileInbox.ledgerRecord "[ 1 ]", {}) [] (compactedRepeat, {}) [] rfl
      spaced_and_compact_accepted.1 spaced_and_compact_accepted.2 rfl
    revert hsame
    decide

end Example

end MizanSDK.Agreement
