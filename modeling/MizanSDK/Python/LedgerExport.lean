import MizanSDK.Python.Replay
import MizanSDK.Library.Binary64
import MizanSDK.Library.CursorPaging

/-!
# Exporting a ledger with the Python SDK

`export_ledger` of the end-to-end example: it asks for the entries behind its cursor,
counts those of the page, and goes on from the next cursor as long as there is a greater
one.  A page is what a server sent, so each of these steps may raise an exception.

Main results:

- Theorem `MizanClient.getLedger_run`: `get_ledger` raises before it sends anything, or
  sends one request and ends as its reply says.
- Theorem `exportLedger_eq`: an export whose pages show those of a ledger is the exporter of
  these pages, counted.
-/

namespace MizanSDK.Python

open JsonText BoundedRetry

/-! ## One page -/

/-- What `get_ledger` hands to the attempt loop. -/
def Env.ledgerCall (env : Env) (path businessId : PyStr) : Call :=
  env.newCall "GET" path none businessId none false []

/-- The request of `get_ledger`. -/
def MizanClient.ledgerRequest (c : MizanClient) (env : Env) (path businessId : PyStr) : Request :=
  c.buildRequest env (env.ledgerCall path businessId) 1

/-- `get_ledger` raises before it sends anything, or it sends one request and ends as the
reply says. -/
theorem MizanClient.getLedger_run (c : MizanClient) (env : Env) (businessId : PyStr)
    (after limit : ℤ) :
    (∃ exc, c.ledgerPath businessId after limit = .error exc ∧
      c.getLedger env businessId after limit = ⟨[], .raised (.other exc)⟩) ∨
    ∃ path, c.ledgerPath businessId after limit = .ok path ∧
      c.getLedger env businessId after limit =
        ⟨[c.ledgerRequest env path businessId],
          (env.reply 1).terminal (env.ledgerCall path businessId) 1⟩ := by
  unfold MizanClient.getLedger MizanClient.read
  cases hpath : c.ledgerPath businessId after limit with
  | error exc => exact .inl ⟨exc, rfl, rfl⟩
  | ok path =>
      refine .inr ⟨path, rfl, ?_⟩
      obtain ⟨j, r, hdec, hrun⟩ := c.request_decided
        (rfl : env.ledgerCall path businessId = _) (rfl : env.encode none = .ok none)
      -- A read is decided by its first attempt.
      have hverdict := c.attempt_verdict env (env.ledgerCall path businessId) 1
      rw [if_neg (fun h => Bool.false_ne_true h.1)] at hverdict
      obtain ⟨rfl, rfl⟩ := hdec.eq_of_stop le_rfl (Reaches.refl _ 1) hverdict
      exact hrun

/-- A path is computed for a page there can be. -/
theorem MizanClient.ledgerPath_ok {c : MizanClient} {businessId path : PyStr} {after limit : ℤ}
    (h : c.ledgerPath businessId after limit = .ok path) :
    0 ≤ after ∧ 1 ≤ limit ∧ limit ≤ 100 := by
  unfold MizanClient.ledgerPath validatePage at h
  by_cases hpage : after < 0 ∨ limit < 1 ∨ 100 < limit
  · rw [if_pos hpage] at h
    cases h
  · rw [not_or, not_or, not_lt, not_lt, not_lt] at hpage
    exact hpage

/-! ## Reading a page -/

/-- `value[name]`. -/
def PyValue.subscript (value : PyValue) (name : String) : Except PyError PyValue :=
  match value with
  | .dict entries =>
      match PyDict.get entries name with
      | .some item => .ok item
      | .none => .error (.keyError name)
  | _ => .error .typeError

/-- `len(value)`. -/
def PyValue.len : PyValue → Except PyError ℕ
  | .str s => .ok s.length
  | .list items => .ok items.length
  | .dict entries => .ok (entries.map Prod.fst).dedup.length
  | _ => .error .typeError

/-- The number of entries of a page in a response, and its next cursor. -/
def pageOf (response : PyDict) : Except PyError (ℕ × PyValue) := do
  let page ← PyValue.subscript (.dict response) "data"
  let entries ← page.subscript "entries"
  let count ← entries.len
  match page with
  | .dict members => return (count, (PyDict.get members "next_after_sequence").getD .none)
  | _ => throw .typeError

/-- `value <= n` of a float. -/
def PyFloat.le (n : ℤ) : PyFloat → Bool
  | .nearest literal =>
      if literal.overflowsBinary64 then literal.isNegative
      else if literal.isNegative then decide (-Binary64.nearest literal.magnitude ≤ n)
      else decide (Binary64.nearest literal.magnitude ≤ n)
  | .nan => false
  | .infinity negative => negative

/-- What `next_after is None or next_after <= after` makes of the next cursor. -/
inductive NextCursor where
  | stop
  | goOn (after : ℤ)
  | goOnFrom (value : PyValue)

/-- `next_after is None or next_after <= after`. -/
def nextCursor (after : ℤ) : PyValue → Except PyError NextCursor
  | .none => .ok .stop
  | .int n => .ok (if n ≤ after then .stop else .goOn n)
  | .bool b => .ok (if (if b then 1 else 0) ≤ after then .stop else .goOnFrom (.bool b))
  | .float f => .ok (if f.le after then .stop else .goOnFrom (.float f))
  | _ => .error .typeError

/-! ## The export -/

/-- What happens around one request of an export: the world but for the answer, and the
answer to what is sent. -/
structure Exchange where
  env : Env
  answer : Request → TransportOutcome

/-- The world around a request for a page; without a path nothing is sent. -/
def Exchange.around (x : Exchange) (c : MizanClient) (businessId : PyStr) (after limit : ℤ) :
    Env :=
  { x.env with transport := fun _ =>
      match c.ledgerPath businessId after limit with
      | .ok path => x.answer (c.ledgerRequest x.env path businessId)
      | .error _ => x.answer (c.ledgerRequest x.env [] businessId) }

/-- How an export ends.  The model does not follow an export whose cursor becomes a number
that is no plain `int`, a `bool` or a `float`. -/
inductive ExportResult where
  | returned (count : ℕ) (after : ℤ)
  | raised (exc : Raised)
  | otherCursor (value : PyValue)

section Export

variable (c : MizanClient) (exchanges : ℕ → Exchange) (businessId : PyStr)

/-- The first half of a round of `export_ledger`: what the page behind the cursor says. -/
def readPage (i : ℕ) (after : ℤ) : Except Raised (ℕ × PyValue) :=
  match (c.getLedger ((exchanges i).around c businessId after 100) businessId after 100).result
    with
  | .raised exc => .error exc
  | .response response => (pageOf response).mapError .other

/-- `export_ledger` with at most `fuel` more requests, the next of which is request `i`. -/
def exportLedger : (fuel i count : ℕ) → (after : ℤ) → Option ExportResult
  | 0, _, _, _ => none
  | fuel + 1, i, count, after =>
      match readPage c exchanges businessId i after with
      | .error exc => some (.raised exc)
      | .ok page =>
          match nextCursor after page.2 with
          | .error exc => some (.raised (.other exc))
          | .ok .stop => some (.returned (count + page.1) after)
          | .ok (.goOn next) => exportLedger fuel (i + 1) (count + page.1) next
          | .ok (.goOnFrom value) => some (.otherCursor value)

/-- A call raises, or its page is read off the reply to the one request that was sent. -/
theorem readPage_cases (i : ℕ) (after : ℤ) :
    (∃ exc, (c.getLedger ((exchanges i).around c businessId after 100) businessId after
          100).result = .raised exc ∧
        readPage c exchanges businessId i after = .error exc) ∨
      ∃ path response, c.ledgerPath businessId after 100 = .ok path ∧
        ((exchanges i).answer (c.ledgerRequest (exchanges i).env path businessId)).reply
            (exchanges i).env = .success response ∧
          readPage c exchanges businessId i after = (pageOf response).mapError .other := by
  unfold readPage
  rcases c.getLedger_run ((exchanges i).around c businessId after 100) businessId after 100 with
    ⟨exc, -, hrun⟩ | ⟨path, hpath, hrun⟩
  · rw [hrun]
    exact .inl ⟨.other exc, rfl, rfl⟩
  · have hreply : ((exchanges i).around c businessId after 100).reply 1 =
        ((exchanges i).answer (c.ledgerRequest (exchanges i).env path businessId)).reply
          (exchanges i).env := by
      unfold Env.reply Exchange.around
      rw [hpath]
      rfl
    rw [hrun]
    cases houtcome : ((exchanges i).around c businessId after 100).reply 1 with
    | success response => exact .inr ⟨path, response, hpath, hreply ▸ houtcome, rfl⟩
    | rejection status headers error =>
        left
        simp only [Reply.terminal]
        cases apiErrorOf _ status headers error with
        | ok err => exact ⟨_, rfl, rfl⟩
        | error exc => exact ⟨_, rfl, rfl⟩
    | _ => exact .inl ⟨_, rfl, rfl⟩

/-! ## The exporter of pages -/

/-- What an export of pages is as a result of `export_ledger`, which counts; an exception
takes the count along. -/
def ExportResult.ofPages {α : Type} (result : CursorPaging.Result α Raised) : ExportResult :=
  match result.failure with
  | none => .returned result.done.length result.cursor
  | some exc => .raised exc

/-- What a page says is true of a page of a ledger. -/
structure Shows {α : Type} (page : ℕ × PyValue) (shown : CursorPaging.Page α) : Prop where
  entries : page.1 = shown.entries.length
  next : page.2 = shown.next.elim .none .int

/-- If its pages show those of a ledger, `export_ledger` is the exporter of these. -/
theorem exportLedger_eq {α : Type} {pages : ℕ → ℤ → CursorPaging.Page α}
    (hpages : ∀ i after page, readPage c exchanges businessId i after = .ok page →
      Shows page (pages i after))
    (fuel i : ℕ) (after : ℤ) (done : List α) :
    exportLedger c exchanges businessId fuel i done.length after =
      (CursorPaging.exportFrom
        (fun i after => (readPage c exchanges businessId i after).map fun _ => pages i after)
        fuel i after done).map ExportResult.ofPages := by
  induction fuel generalizing i after done with
  | zero => rfl
  | succ fuel ih =>
      rw [exportLedger, CursorPaging.exportFrom]
      cases hpage : readPage c exchanges businessId i after with
      | error exc => rfl
      | ok page =>
          have hshows := hpages i after page hpage
          have hcount : done.length + page.1 = (done ++ (pages i after).entries).length := by
            rw [hshows.entries, List.length_append]
          simp only [Except.map, hcount, hshows.next]
          cases (pages i after).next with
          | none => rfl
          | some next =>
              simp only [Option.elim, nextCursor]
              by_cases hle : next ≤ after
              · rw [if_pos hle, if_pos hle]
                rfl
              · rw [if_neg hle, if_neg hle]
                exact ih (i + 1) next _

end Export

end MizanSDK.Python
