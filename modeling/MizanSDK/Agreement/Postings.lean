import MizanSDK.Agreement.Webhooks

/-!
# The double-entry check of both receivers

A ledger event has to balance: under each rail and unit its amounts add up to
zero.  Go keeps the running balances under a concatenated string, Python under a
tuple; both sums are exact integers, so no size of an amount or of a sum matters.

Main results:

- Theorem `ledger_balances_exactly`: on an otherwise valid event, both SDKs
  accept postings that match the contract exactly when they balance per rail and
  unit.
-/

namespace MizanSDK.Agreement

open JsonText Checks Tally Go

/-! ## Go -/

/-- What a posting of Go books: its amount under its rail and unit. -/
def goBooking (posting : LedgerPostingWebhook) : (String × String) × ℤ :=
  ((posting.rail, posting.unit), (postingAmount posting.amount).getD 0)

/-- A posting of Go with a valid rail, unit, account code and amount. -/
def GoPosting (posting : LedgerPostingWebhook) : Prop := ∃ amount, posting.Books amount

theorem GoPosting.booksAs {posting : LedgerPostingWebhook} (h : GoPosting posting) :
    BooksAs posting (goBooking posting) := by
  obtain ⟨amount, hbooks⟩ := h
  have hamount : (goBooking posting).2 = amount := by
    rw [goBooking, hbooks.amount]
    rfl
  exact ⟨hamount ▸ hbooks, rfl⟩

theorem booksAs_goBooking {postings : List LedgerPostingWebhook}
    (h : ∀ posting ∈ postings, GoPosting posting) :
    List.Forall₂ BooksAs postings (postings.map goBooking) := by
  induction postings with
  | nil => exact .nil
  | cons posting postings ih =>
      rw [List.forall_mem_cons] at h
      exact .cons h.1.booksAs (ih h.2)

/-- A posting books one amount under one rail and unit. -/
theorem BooksAs.eq_goBooking {posting : LedgerPostingWebhook} {booking : Booking}
    (h : BooksAs posting booking) : booking = goBooking posting := by
  obtain ⟨hbooks, hkey⟩ := h
  rw [goBooking, hbooks.amount, hkey]
  rfl

theorem eq_map_of_booksAs {postings : List LedgerPostingWebhook} {bookings : List Booking}
    (h : List.Forall₂ BooksAs postings bookings) : bookings = postings.map goBooking := by
  induction h with
  | nil => rfl
  | cons hfirst _ ih => rw [List.map_cons, ih, hfirst.eq_goBooking]

/-- Postings that match the contract on an event that is valid without any. -/
theorem goAccepts_iff {event : LedgerWebhook}
    (hevent : validateLedgerWebhook { event with postings := [] } = none)
    {postings : List LedgerPostingWebhook} (h : ∀ posting ∈ postings, GoPosting posting) :
    validateLedgerWebhook { event with postings := postings } = none ↔
      Balanced (postings.map goBooking) := by
  have hvalid := (validateLedgerWebhook_eq_none_iff _).mp hevent
  rw [validateLedgerWebhook_eq_none_iff]
  have hbalanced : (∃ amounts, Booked postings amounts ∧ Balanced (moves postings amounts)) ↔
      Balanced (postings.map goBooking) := by
    rw [goBalanced_iff]
    constructor
    · rintro ⟨bookings, hbookings, hbalanced⟩
      rw [← eq_map_of_booksAs hbookings]
      exact hbalanced
    · exact fun hbalanced => ⟨_, booksAs_goBooking h, hbalanced⟩
  constructor
  · exact fun hall => hbalanced.mp hall.postings
  · intro hsums
    exact
      { eventID := hvalid.eventID
        entryID := hvalid.entryID
        businessID := hvalid.businessID
        businessSequence := hvalid.businessSequence
        entryType := hvalid.entryType
        sourceCommand := hvalid.sourceCommand
        sourceEventID := hvalid.sourceEventID
        effectiveAt := hvalid.effectiveAt
        catalogVersion := hvalid.catalogVersion
        policyVersion := hvalid.policyVersion
        metadata := hvalid.metadata
        postings := hbalanced.mpr hsums }

/-! ## Python -/

section Python

open Python

/-- The payload with these postings. -/
def withPostings (payload : PyDict) (postings : List PyDict) : PyDict :=
  payload ++ [(str "postings", .list (postings.map .dict))]

/-- What a posting of Python books: its amount under its rail and unit. -/
def pyBooking (py : Interpreter) (posting : PyDict) : Move :=
  ((posting.text "rail", posting.text "unit"),
    match py.int (posting.text "amount") with
    | .ok amount => amount
    | .error _ => 0)

/-- A posting of Python with a valid rail, unit, account code and amount. -/
def PyPosting (py : Interpreter) (posting : PyDict) : Prop :=
  ∃ move, Python.Books py posting move

theorem books_iff_of_pyPosting {py : Interpreter} {posting : PyDict}
    (h : PyPosting py posting) (move : Move) :
    Python.Books py posting move ↔ move = pyBooking py posting := by
  have hunique : ∀ other, Python.Books py posting other → other = pyBooking py posting := by
    intro other hbooks
    refine Prod.ext hbooks.key ?_
    simp only [pyBooking, hbooks.amount]
  constructor
  · exact hunique move
  · rintro rfl
    obtain ⟨other, hbooks⟩ := h
    rw [← hunique other hbooks]
    exact hbooks

theorem booked_iff_of_pyPostings {py : Interpreter} {postings : List PyDict}
    (h : ∀ posting ∈ postings, PyPosting py posting) (moves : List Move) :
    List.Forall₂ (fun posting move => bookPosting py posting = .ok move)
        (postings.map .dict) moves ↔ moves = postings.map (pyBooking py) := by
  induction postings generalizing moves with
  | nil => cases moves <;> simp
  | cons posting postings ih =>
      rw [List.forall_mem_cons] at h
      cases moves with
      | nil => simp
      | cons move moves =>
          rw [List.map_cons, List.forall₂_cons, ih h.2, List.map_cons, List.cons.injEq,
            bookPosting_eq_ok_iff, ← books_iff_of_pyPosting h.1]
          simp

/-- The members outside the postings are those of the payload. -/
theorem get_withPostings {payload : PyDict} (postings : List PyDict) {name : String}
    (hname : Text.ofString name ≠ str "postings") :
    PyDict.get (withPostings payload postings) name = payload.get name := by
  unfold withPostings PyDict.get
  rw [lookupLast_append]
  simp [lookupLast_cons, hname.symm]

theorem get_withPostings_self (payload : PyDict) (postings : List PyDict) :
    PyDict.get (withPostings payload postings) "postings" =
      some (.list (postings.map .dict)) := by
  unfold withPostings PyDict.get
  rw [lookupLast_append]
  rfl

theorem ledgerFields_withPostings_iff (payload entry : PyDict) (postings : List PyDict)
    (listed : List PyValue) :
    LedgerFields (withPostings payload postings) entry listed ↔
      LedgerFields (withPostings payload []) entry [] ∧ listed = postings.map .dict := by
  have hget : ∀ ps : List PyDict, ∀ name : String, Text.ofString name ≠ str "postings" →
      PyDict.get (withPostings payload ps) name = payload.get name :=
    fun ps name hname => get_withPostings ps hname
  have hevent := fun ps => hget ps "event_id" (by decide)
  have hbusiness := fun ps => hget ps "business_id" (by decide)
  have hsequence := fun ps => hget ps "business_sequence" (by decide)
  have hentry := fun ps => hget ps "entry" (by decide)
  constructor
  · intro h
    have hlisted := h.isPostings
    rw [get_withPostings_self] at hlisted
    refine ⟨?_, by simpa using hlisted.symm⟩
    exact
      { eventId := by simpa only [PyDict.filled, hevent] using h.eventId
        businessId := by simpa only [PyDict.filled, hbusiness] using h.businessId
        businessSequence := by simpa only [hsequence] using h.businessSequence
        isEntry := by simpa only [hentry] using h.isEntry
        entryId := by simpa only [PyDict.text, hevent] using h.entryId
        entryStrings := h.entryStrings
        entryType := h.entryType
        metadata := h.metadata
        isPostings := get_withPostings_self payload [] }
  · rintro ⟨h, rfl⟩
    exact
      { eventId := by simpa only [PyDict.filled, hevent] using h.eventId
        businessId := by simpa only [PyDict.filled, hbusiness] using h.businessId
        businessSequence := by simpa only [hsequence] using h.businessSequence
        isEntry := by simpa only [hentry] using h.isEntry
        entryId := by simpa only [PyDict.text, hevent] using h.entryId
        entryStrings := h.entryStrings
        entryType := h.entryType
        metadata := h.metadata
        isPostings := get_withPostings_self payload postings }

/-- Postings that match the contract on a payload that is valid without any. -/
theorem pyAccepts_iff {py : Interpreter} {payload : PyDict}
    (hpayload : validateLedger py (withPostings payload []) = .ok ())
    {postings : List PyDict} (h : ∀ posting ∈ postings, PyPosting py posting) :
    validateLedger py (withPostings payload postings) = .ok () ↔
      Balanced (postings.map (pyBooking py)) := by
  rw [validateLedger_eq_ok_iff] at hpayload ⊢
  obtain ⟨entry, listed, -, hfields, -, -⟩ := hpayload
  obtain ⟨hfields, -⟩ := (ledgerFields_withPostings_iff payload entry [] listed).mp hfields
  constructor
  · rintro ⟨other, listed, moves, hother, hbooked, hbalanced⟩
    obtain ⟨-, rfl⟩ := (ledgerFields_withPostings_iff payload other postings listed).mp hother
    obtain rfl := (booked_iff_of_pyPostings h moves).mp hbooked
    exact hbalanced
  · intro hbalanced
    exact ⟨entry, postings.map .dict, postings.map (pyBooking py),
      (ledgerFields_withPostings_iff payload entry postings _).mpr ⟨hfields, rfl⟩,
      (booked_iff_of_pyPostings h _).mpr rfl, hbalanced⟩

end Python

/-! ## Both receivers -/

/-- On an event that is valid apart from its postings, both SDKs accept postings
that match the contract exactly when the amounts under each rail and unit add up
to zero. -/
theorem ledger_balances_exactly {event : LedgerWebhook} {py : Python.Interpreter}
    {payload : Python.PyDict}
    (hevent : validateLedgerWebhook { event with postings := [] } = none)
    (hpayload : Python.validateLedger py (withPostings payload []) = .ok ()) :
    BalancesExactly
        (fun postings => validateLedgerWebhook { event with postings := postings } = none)
        GoPosting goBooking ∧
      BalancesExactly
        (fun postings => Python.validateLedger py (withPostings payload postings) = .ok ())
        (PyPosting py) (pyBooking py) :=
  ⟨balancesExactly_of_iff fun _ hpostings => goAccepts_iff hevent hpostings,
    balancesExactly_of_iff fun _ hpostings => pyAccepts_iff hpayload hpostings⟩

/-- A rejected usage as Go decodes it. -/
def usageEvent : LedgerWebhook :=
  { eventID := "e"
    businessID := "b"
    businessSequence := 7
    entry :=
      { id := "e"
        entryType := "usage_rejected"
        sourceCommand := "c"
        sourceEventID := "s"
        subscriptionID := none
        featureCode := none
        effectiveAt := "t"
        catalogVersion := "v"
        policyVersion := "p"
        metadata := some (.object []) }
    postings := [] }

/-- Both verdicts are exact for postings of the rejected usage. -/
theorem usage_balances_exactly :
    BalancesExactly
        (fun postings => validateLedgerWebhook { usageEvent with postings := postings } = none)
        GoPosting goBooking ∧
      BalancesExactly
        (fun postings => Python.validateLedger (Python.oneBody [] Python.usageMembers)
          (withPostings (Python.PyValue.ofMembers Python.usageMembers) postings) = .ok ())
        (PyPosting (Python.oneBody [] Python.usageMembers))
        (pyBooking (Python.oneBody [] Python.usageMembers)) :=
  ledger_balances_exactly (by decide) (by rfl)

end MizanSDK.Agreement
