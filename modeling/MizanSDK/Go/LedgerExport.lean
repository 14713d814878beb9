import MizanSDK.Go.Binding
import MizanSDK.Go.Results
import MizanSDK.Library.CursorPaging

/-!
# Exporting a ledger with the Go SDK

`exportLedger` of the end-to-end example reads a ledger page by page: it asks for the
entries behind its cursor, counts those of the page, and goes on from the next cursor as
long as there is a greater one.

Main results:

- Theorem `Client.getLedger_run`: `GetLedger` sends nothing and fails, or sends one request
  and ends as its reply says.
- Theorem `exportLedger_eq`: an export whose pages show those of a ledger is the exporter of
  these pages, counted.
-/

namespace MizanSDK.Go

open JsonText BoundedRetry LastWins Slices

/-! ## One page -/

/-- What `GetLedger` hands to the attempt loop. -/
def Client.ledgerCall (c : Client) (env : Env) (businessID : String) (after limit : ℤ) : Call :=
  c.newCall env "GET"
    (businessPath businessID "ledger" ++ "?after_sequence=" ++ toString after ++ "&limit=" ++
      toString limit) businessID none "" false []

/-- The request of `GetLedger`. -/
def Client.ledgerRequest (c : Client) (env : Env) (businessID : String) (after limit : ℤ) :
    HTTPRequest :=
  c.buildRequest env (c.ledgerCall env businessID after limit) 1

/-- `GetLedger` sends nothing and fails, or its arguments pass their check, it sends one
request and ends as the reply says. -/
theorem Client.getLedger_run (c : Client) (env : Env) (businessID : String) (after limit : ℤ) :
    (∃ err, c.getLedger env businessID after limit = ⟨[], .error err⟩) ∨
      0 ≤ after ∧ 1 ≤ limit ∧ limit ≤ 100 ∧ c.getLedger env businessID after limit =
        ⟨[c.ledgerRequest env businessID after limit],
          (env.reply 1).terminal (c.ledgerCall env businessID after limit)⟩ := by
  unfold Client.getLedger
  by_cases hpage : after < 0 ∨ limit < 1 ∨ 100 < limit
  · rw [if_pos hpage]
    exact .inl ⟨_, rfl⟩
  · rw [if_neg hpage]
    rw [not_or, not_or, not_lt, not_lt, not_lt] at hpage
    unfold Client.request
    cases c.scopeCheck env businessID with
    | some message => exact .inl ⟨_, rfl⟩
    | none =>
        simp only [guarded]
        cases hbuild : env.newRequest "GET" (c.baseURL ++ (businessPath businessID "ledger" ++
            "?after_sequence=" ++ toString after ++ "&limit=" ++ toString limit)) with
        | some err =>
            refine .inl ⟨.plain err, ?_⟩
            unfold Client.requestWithHeaders
            exact Client.loop_unbuilt rfl hbuild _
        | none =>
            refine .inr ⟨hpage.1, hpage.2.1, hpage.2.2, ?_⟩
            obtain ⟨j, r, hdec, hrun⟩ := c.requestWithHeaders_decided
              (rfl : c.ledgerCall env businessID after limit = _)
              (rfl : env.encode none = .ok none) hbuild
            -- A read is decided by its first attempt.
            have hverdict := c.attempt_verdict (c.ledgerCall env businessID after limit) hbuild 1
            rw [if_neg (fun h => Bool.false_ne_true h.1)] at hverdict
            obtain ⟨rfl, rfl⟩ := hdec.eq_of_stop le_rfl (Reaches.refl _ 1) hverdict
            exact hrun

/-! ## Reading what was written -/

/-- `page.Entries`. -/
def pageEntries (page : ledgerResult.Value) : List (GoType.map .any).Value :=
  (page.1.map Slice.elems).getD []

/-- `page.NextAfterSequence`. -/
def nextAfterSequence (page : ledgerResult.Value) : Option ℤ := page.2.1

/-- A page whose entries decode and whose cursor is read as `cursor`. -/
theorem unmarshal_page (parseTime : String → Option GoTime) {entries : List (List (Text × Json))}
    (hentries : ∀ members ∈ entries, ∀ m ∈ members, (decodeAny m.2).isSome = true) {next : Json}
    {cursor : Option ℤ}
    (hnext : (GoType.pointer .int64).unmarshal parseTime next (GoType.pointer .int64).zero =
      some cursor) :
    ∃ page, ledgerResult.unmarshal parseTime (.object
        [(Text.ofString "entries", .array (entries.map .object)),
          (Text.ofString "next_after_sequence", next)]) ledgerResult.zero = some page ∧
      (pageEntries page).length = entries.length ∧ nextAfterSequence page = cursor := by
  have haccepts : (GoType.slice (.map .any)).Accepts parseTime (.array (entries.map .object)) := by
    rw [GoType.Accepts, List.forall_mem_map]
    exact hentries
  rcases GoType.exists_unmarshal haccepts (GoType.slice (.map .any)).zero with
    ⟨items, hitems⟩
  have helements := hitems
  rw [GoType.unmarshal_slice] at helements
  rcases Option.map_eq_some_iff.mp helements with ⟨elements, hrefill, rfl⟩
  have hlength := length_of_refill hrefill
  rw [List.length_map] at hlength
  refine ⟨(some elements, cursor, ()), ?_, hlength, rfl⟩
  have hfirst := receive_single hitems
  have hsecond := receive_single hnext
  refine (GoFields.unmarshal_field _ _ _ _ _).trans ?_
  refine (congrArg (Option.bind · _) hfirst).trans ?_
  refine (congrArg (Option.bind · _) (GoFields.unmarshal_field _ _ _ _ _)).trans ?_
  refine (congrArg (fun o => Option.bind (Option.bind o _) _) hsecond).trans ?_
  rfl

/-! ## The export -/

/-- What happens around one request of an export: the world but for the answer, and the
answer to what is sent. -/
structure Exchange where
  env : Env
  answer : HTTPRequest → SendOutcome

/-- The world around a request for a page. -/
def Exchange.around (x : Exchange) (c : Client) (businessID : String) (after limit : ℤ) : Env :=
  { x.env with send := fun _ => x.answer (c.ledgerRequest x.env businessID after limit) }

/-- The errors of `exportLedger`: one of `GetLedger`, behind what is said of it, or one of
`DecodeData`. -/
inductive ExportError where
  | read (context : String) (err : CallError)
  | decode (err : GoError)

/-- What `exportLedger` returns, or the panic of a call. -/
inductive ExportResult where
  | returned (count : ℕ) (after : ℤ) (err : Option ExportError)
  | panic

section Export

variable (c : Client) (exchanges : ℕ → Exchange) (parseTime : String → Option GoTime)
  (errors : JsonErrors) (businessID : String)

/-- The first half of a round of `exportLedger`: the page behind the cursor, or an error, or
`none` for a panic. -/
def readPage (i : ℕ) (after : ℤ) : Except (Option ExportError) ledgerResult.Value :=
  match (c.getLedger ((exchanges i).around c businessID after 100) businessID after 100).result
    with
  | .panic => .error none
  | .error err =>
      .error (some (.read ("read ledger after sequence " ++ toString after ++ ": ") err))
  | .response response =>
      (decodeData parseTime errors ledgerResult response).mapError (some ∘ .decode)

/-- `exportLedger` with at most `fuel` more requests, the next of which is request `i`. -/
def exportLedger : (fuel i count : ℕ) → (after : ℤ) → Option ExportResult
  | 0, _, _, _ => none
  | fuel + 1, i, count, after =>
      match readPage c exchanges parseTime errors businessID i after with
      | .error none => some .panic
      | .error (some err) => some (.returned count after (some err))
      | .ok page =>
          let count := count + (pageEntries page).length
          match nextAfterSequence page with
          | none => some (.returned count after none)
          | some next =>
              if next ≤ after then some (.returned count after none)
              else exportLedger fuel (i + 1) count next

/-- A call fails, or its page is decoded from the reply to the one request that was sent. -/
theorem readPage_cases (i : ℕ) (after : ℤ) :
    (∃ err, (c.getLedger ((exchanges i).around c businessID after 100) businessID after
          100).result = .error err ∧
        readPage c exchanges parseTime errors businessID i after =
          .error (some (.read ("read ledger after sequence " ++ toString after ++ ": ") err))) ∨
      0 ≤ after ∧ ∃ response,
        ((exchanges i).answer (c.ledgerRequest (exchanges i).env businessID after 100)).reply
            (exchanges i).env.parse = .success response ∧
          readPage c exchanges parseTime errors businessID i after =
            (decodeData parseTime errors ledgerResult response).mapError (some ∘ .decode) := by
  unfold readPage
  rcases c.getLedger_run ((exchanges i).around c businessID after 100) businessID after 100 with
    ⟨err, hrun⟩ | ⟨hafter, -, -, hrun⟩
  · rw [hrun]
    exact .inl ⟨err, rfl, rfl⟩
  · have hreply : ((exchanges i).around c businessID after 100).reply 1 =
        ((exchanges i).answer (c.ledgerRequest (exchanges i).env businessID after 100)).reply
          (exchanges i).env.parse := rfl
    rw [hrun, ← hreply]
    cases ((exchanges i).around c businessID after 100).reply 1 with
    | success response => exact .inr ⟨hafter, response, rfl, rfl⟩
    | _ => exact .inl ⟨_, rfl, rfl⟩

/-! ## The exporter of pages -/

/-- What an export of pages is as a result of `exportLedger`, which counts. -/
def ExportResult.ofPages {α : Type} (result : CursorPaging.Result α (Option ExportError)) :
    ExportResult :=
  match result.failure with
  | none => .returned result.done.length result.cursor none
  | some none => .panic
  | some (some err) => .returned result.done.length result.cursor (some err)

/-- A page of the SDK shows a page of a ledger: as many entries, and the same cursor. -/
structure Shows {α : Type} (page : ledgerResult.Value) (shown : CursorPaging.Page α) : Prop where
  entries : (pageEntries page).length = shown.entries.length
  next : nextAfterSequence page = shown.next

/-- If its pages show those of a ledger, `exportLedger` is the exporter of these, as far as
its cursors stay in a set that no page leads out of. -/
theorem exportLedger_eq {α : Type} {pages : ℕ → ℤ → CursorPaging.Page α} (cursors : Set ℤ)
    (hpages : ∀ i, ∀ after ∈ cursors, ∀ page,
      readPage c exchanges parseTime errors businessID i after = .ok page →
        Shows page (pages i after) ∧ ∀ next, (pages i after).next = some next → next ∈ cursors)
    (fuel i : ℕ) {after : ℤ} (hafter : after ∈ cursors) (done : List α) :
    exportLedger c exchanges parseTime errors businessID fuel i done.length after =
      (CursorPaging.exportFrom
        (fun i after => (readPage c exchanges parseTime errors businessID i after).map
          fun _ => pages i after) fuel i after done).map ExportResult.ofPages := by
  induction fuel generalizing i after done with
  | zero => rfl
  | succ fuel ih =>
      rw [exportLedger, CursorPaging.exportFrom]
      cases hpage : readPage c exchanges parseTime errors businessID i after with
      | error err => cases err <;> rfl
      | ok page =>
          rcases hpages i after hafter page hpage with ⟨hshows, hnext⟩
          have hcount : done.length + (pageEntries page).length =
              (done ++ (pages i after).entries).length := by
            rw [hshows.entries, List.length_append]
          simp only [Except.map, hcount, hshows.next]
          cases hcursor : (pages i after).next with
          | none => rfl
          | some next =>
              dsimp only
              by_cases hle : next ≤ after
              · rw [if_pos hle, if_pos hle]
                rfl
              · rw [if_neg hle, if_neg hle]
                exact ih (i + 1) (hnext next hcursor) _

end Export

end MizanSDK.Go
