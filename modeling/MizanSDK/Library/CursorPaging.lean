import Mathlib.Tactic

/-!
# Exports of a growing log, page by page

A log only grows, and its entries have increasing sequence numbers.  An exporter asks for
the entries behind its cursor, gets some of them on a page together with the next cursor,
and asks again until there is no further one.  Between its requests others may append to
the log.

Main results:

- Theorem `Exported.more`: a page that leads on keeps what is exported a prefix of the log.
- Theorem `exportFrom_exported`: an export that ends has read every entry behind its start
  once and in order, and one that fails has read those up to its cursor.
- Theorem `exportFrom_isSome`: an export of a log that stays within bounds ends.
-/

namespace CursorPaging

variable {α β ε : Type*}

/-! ## Pages -/

/-- A page of entries, and the cursor behind it. -/
structure Page (α : Type*) where
  entries : List α
  next : Option ℤ

/-- A log in the order of its sequence numbers. -/
def Ordered (seq : α → ℤ) (log : List α) : Prop := log.Pairwise fun e e' => seq e < seq e'

/-- The entries of a log behind a cursor, up to another one. -/
def between (seq : α → ℤ) (log : List α) (low high : ℤ) : List α :=
  log.filter fun e => low < seq e ∧ seq e ≤ high

/-- The entries of a log behind a cursor. -/
def behind (seq : α → ℤ) (log : List α) (cursor : ℤ) : List α :=
  log.filter fun e => cursor < seq e

/-- A page of a log: the first entries behind the cursor, however many, but at least one if
there is one.  The next cursor is that of its last entry; there need not be one when the
page holds all entries. -/
structure Serves (seq : α → ℤ) (log : List α) (cursor : ℤ) (page : Page α) : Prop where
  entries : page.entries <+: behind seq log cursor
  some_entry : behind seq log cursor ≠ [] → page.entries ≠ []
  next : ∀ next, page.next = some next → next = (page.entries.getLast?.map seq).getD cursor
  no_next : page.next = none → page.entries = behind seq log cursor

section Ordered

variable {seq : α → ℤ} {log : List α}

/-- What lies behind a cursor is cut in two by another one. -/
theorem filter_cut (h : Ordered seq log) {low middle : ℤ} (hlow : low ≤ middle) {p : α → Bool}
    (hp : ∀ e, seq e ≤ middle → p e = true) :
    between seq log low middle ++ (behind seq log middle).filter p =
      (behind seq log low).filter p := by
  induction log with
  | nil => rfl
  | cons e log ih =>
      rw [Ordered, List.pairwise_cons] at h
      have hrest := ih h.2
      unfold between behind at hrest ⊢
      by_cases hfirst : seq e ≤ middle
      · rw [List.filter_cons_of_neg (a := e) (p := fun e => decide (middle < seq e))
          (by simpa using hfirst)]
        by_cases hlater : low < seq e
        · rw [List.filter_cons_of_pos (by simpa using ⟨hlater, hfirst⟩),
            List.filter_cons_of_pos (by simpa using hlater), List.cons_append, hrest,
            List.filter_cons_of_pos (hp e hfirst)]
        · rw [List.filter_cons_of_neg (by simp; omega),
            List.filter_cons_of_neg (by simpa using hlater), hrest]
      · -- Nothing up to the middle is left.
        have hnone : log.filter (fun e => decide (low < seq e ∧ seq e ≤ middle)) = [] := by
          rw [List.filter_eq_nil_iff]
          intro e' he'
          have := h.1 e' he'
          simp
          omega
        rw [hnone, List.nil_append] at hrest
        have hbehind : middle < seq e := Int.not_le.mp hfirst
        rw [List.filter_cons_of_neg (by simpa using fun _ => hbehind), hnone, List.nil_append,
          List.filter_cons_of_pos (a := e) (p := fun e => decide (middle < seq e))
            (by simpa using hbehind),
          List.filter_cons_of_pos (a := e) (p := fun e => decide (low < seq e))
            (by simpa using hlow.trans_lt hbehind)]
        by_cases he : p e = true
        · rw [List.filter_cons_of_pos he, List.filter_cons_of_pos he, hrest]
        · rw [List.filter_cons_of_neg he, List.filter_cons_of_neg he, hrest]

/-- The entries up to a cursor are among those behind the lower one. -/
theorem between_eq_filter (seq : α → ℤ) (log : List α) (low high : ℤ) :
    between seq log low high = (behind seq log low).filter fun e => seq e ≤ high := by
  rw [behind, List.filter_filter, between]
  apply List.filter_congr
  intro e _
  simp [and_comm]

theorem between_append (h : Ordered seq log) {low middle high : ℤ} (hlow : low ≤ middle)
    (hhigh : middle ≤ high) :
    between seq log low middle ++ between seq log middle high = between seq log low high := by
  rw [between_eq_filter seq log middle high, between_eq_filter seq log low high]
  exact filter_cut h hlow fun e he => decide_eq_true (he.trans hhigh)

theorem between_append_behind (h : Ordered seq log) {low middle : ℤ} (hlow : low ≤ middle) :
    between seq log low middle ++ behind seq log middle = behind seq log low := by
  have hcut := filter_cut (p := fun _ => true) h hlow fun _ _ => rfl
  rwa [List.filter_true, List.filter_true] at hcut

/-- A page of entries behind a cursor that ends with an entry has those up to it. -/
theorem prefix_eq_between (h : Ordered seq log) {cursor : ℤ} {entries : List α} {last : α}
    (hfront : entries <+: behind seq log cursor) (hlast : entries.getLast? = some last) :
    entries = between seq log cursor (seq last) := by
  rcases hfront with ⟨rest, hrest⟩
  have hordered : Ordered seq (entries ++ rest) := by
    rw [hrest]
    exact h.filter _
  rw [Ordered, List.pairwise_append] at hordered
  obtain ⟨front, rfl⟩ := List.getLast?_eq_some_iff.mp hlast
  rw [List.pairwise_append] at hordered
  have hkept : (front ++ [last]).filter (fun e => decide (seq e ≤ seq last)) = front ++ [last] := by
    rw [List.filter_eq_self]
    intro e he
    rw [decide_eq_true_eq]
    rcases List.mem_append.mp he with hfront | hend
    · exact (hordered.1.2.2 e hfront last (List.mem_singleton_self last)).le
    · rw [List.mem_singleton.mp hend]
  have hdropped : rest.filter (fun e => decide (seq e ≤ seq last)) = [] := by
    rw [List.filter_eq_nil_iff]
    intro e he
    have := hordered.2.2 last (by simp) e he
    rw [decide_eq_true_eq]
    omega
  rw [between_eq_filter, ← hrest, List.filter_append, hkept, hdropped, List.append_nil]

end Ordered

/-! ## What an export has read -/

/-- What has been read of a log up to a cursor: the entries from the start to there. -/
structure Exported (seq : α → ℤ) (start : ℤ) (log : List α) (cursor : ℤ) (done : List α) :
    Prop where
  le : start ≤ cursor
  reached : cursor = start ∨ ∃ e ∈ log, seq e = cursor
  entries : done = between seq log start cursor

section Exported

variable {seq : α → ℤ} {start cursor : ℤ} {log log' done : List α} {page : Page α}

theorem exported_start (seq : α → ℤ) (start : ℤ) (log : List α) :
    Exported seq start log start [] := by
  refine ⟨le_rfl, .inl rfl, ?_⟩
  rw [between, eq_comm, List.filter_eq_nil_iff]
  intro e _
  simp

/-- What is appended lies behind the cursor. -/
theorem Exported.grow (h : Exported seq start log cursor done) (hgrow : log <+: log')
    (hordered : Ordered seq log') : Exported seq start log' cursor done := by
  rcases hgrow with ⟨added, rfl⟩
  refine ⟨h.le, ?_, ?_⟩
  · rcases h.reached with hstart | ⟨e, he, hseq⟩
    · exact .inl hstart
    · exact .inr ⟨e, List.mem_append_left _ he, hseq⟩
  · have hnone : between seq added start cursor = [] := by
      rw [between, List.filter_eq_nil_iff]
      intro e he
      rw [Ordered, List.pairwise_append] at hordered
      rcases h.reached with hstart | ⟨e', he', hseq⟩
      · simp
        omega
      · have := hordered.2.2 e' he' e he
        simp
        omega
    have happend : between seq (log ++ added) start cursor =
        between seq log start cursor ++ between seq added start cursor := List.filter_append _ _
    rw [happend, hnone, List.append_nil]
    exact h.entries

/-- A page that leads on is read. -/
theorem Exported.more (h : Exported seq start log cursor done) (hordered : Ordered seq log)
    (hpage : Serves seq log cursor page) {next : ℤ} (hnext : page.next = some next)
    (hmore : cursor < next) : Exported seq start log next (done ++ page.entries) := by
  have hvalue := hpage.next next hnext
  cases hlast : page.entries.getLast? with
  | none =>
      rw [hlast] at hvalue
      exact absurd hvalue hmore.ne'
  | some last =>
      rw [hlast] at hvalue
      obtain rfl : next = seq last := hvalue
      refine ⟨h.le.trans hmore.le, .inr ⟨last, ?_, rfl⟩, ?_⟩
      · exact List.mem_of_mem_filter (hpage.entries.subset (List.mem_of_getLast? hlast))
      · rw [h.entries, prefix_eq_between hordered hpage.entries hlast]
        exact between_append hordered h.le hmore.le

/-- A page that does not lead on holds the rest. -/
theorem Serves.entries_eq_behind (hpage : Serves seq log cursor page)
    (hends : ∀ next, page.next = some next → next ≤ cursor) :
    page.entries = behind seq log cursor := by
  cases hnext : page.next with
  | none => exact hpage.no_next hnext
  | some next =>
      have hvalue := hpage.next next hnext
      have hle := hends next hnext
      cases hlast : page.entries.getLast? with
      | none =>
          have hempty : page.entries = [] := List.getLast?_eq_none_iff.mp hlast
          by_contra hrest
          exact hpage.some_entry (fun hbehind => hrest (hempty.trans hbehind.symm)) hempty
      | some last =>
          rw [hlast] at hvalue
          have hmem := hpage.entries.subset (List.mem_of_getLast? hlast)
          rw [behind, List.mem_filter, decide_eq_true_eq] at hmem
          have hseq : next = seq last := hvalue
          omega

/-- An export that stops there has read everything behind its start. -/
theorem Exported.all (h : Exported seq start log cursor done) (hordered : Ordered seq log)
    (hpage : Serves seq log cursor page)
    (hends : ∀ next, page.next = some next → next ≤ cursor) :
    done ++ page.entries = behind seq log start := by
  rw [hpage.entries_eq_behind hends, h.entries]
  exact between_append_behind hordered h.le

/-- What is read is part of the log. -/
theorem Exported.length_le (h : Exported seq start log cursor done) :
    done.length ≤ log.length := by
  rw [h.entries]
  exact List.length_filter_le _ _

end Exported

/-! ## Exporters -/

/-- How an export ends: with what was read, the last cursor, and why it failed if it did. -/
structure Result (α ε : Type*) where
  done : List α
  cursor : ℤ
  failure : Option ε

/-- Ask for page after page, at most `fuel` times: `fetch i` is the answer to request `i`. -/
def exportFrom (fetch : ℕ → ℤ → Except ε (Page α)) :
    (fuel i : ℕ) → (cursor : ℤ) → (done : List α) → Option (Result α ε)
  | 0, _, _, _ => none
  | fuel + 1, i, cursor, done =>
      match fetch i cursor with
      | .error e => some ⟨done, cursor, some e⟩
      | .ok page =>
          match page.next with
          | none => some ⟨done ++ page.entries, cursor, none⟩
          | some next =>
              if next ≤ cursor then some ⟨done ++ page.entries, cursor, none⟩
              else exportFrom fetch fuel (i + 1) next (done ++ page.entries)

/-- Every page that is fetched is one of the log as it is by then, and the log only grows. -/
structure Honest (seq : α → ℤ) (logs : ℕ → List α) (fetch : ℕ → ℤ → Except ε (Page α)) :
    Prop where
  grows : ∀ i, logs i <+: logs (i + 1)
  ordered : ∀ i, Ordered seq (logs i)
  serves : ∀ i cursor page, fetch i cursor = .ok page → Serves seq (logs i) cursor page

/-- What a result tells of a log, given the answers to the last request: an export that ended
has read all entries behind its start once and in order, those behind the cursor it returns on
its last page; one that failed has read those up to its cursor, and the request for more
failed. -/
def Result.Tells (seq : α → ℤ) (start : ℤ) (log : List α) (answer : ℤ → Except ε (Page α))
    (result : Result α ε) : Prop :=
  match result.failure with
  | none => result.done = behind seq log start ∧
      Exported seq start log result.cursor (between seq log start result.cursor)
  | some e => answer result.cursor = .error e ∧
      Exported seq start log result.cursor result.done

section Exporter

variable {seq : α → ℤ} {logs : ℕ → List α} {fetch : ℕ → ℤ → Except ε (Page α)} {start : ℤ}

/-- The log after one more request. -/
theorem Honest.exported_succ (h : Honest seq logs fetch) {i : ℕ} {cursor : ℤ} {done : List α}
    (hdone : Exported seq start (logs i) cursor done) :
    Exported seq start (logs (i + 1)) cursor done :=
  hdone.grow (h.grows i) (h.ordered (i + 1))

/-- An export that goes on from what was exported tells what it returns of the log at its last
request. -/
theorem exportFrom_exported (h : Honest seq logs fetch) {fuel i : ℕ} {cursor : ℤ}
    {done : List α} (hdone : Exported seq start (logs i) cursor done) {result : Result α ε}
    (hresult : exportFrom fetch fuel i cursor done = some result) :
    ∃ j, i ≤ j ∧ j < i + fuel ∧ result.Tells seq start (logs j) (fetch j) := by
  induction fuel generalizing i cursor done with
  | zero => cases hresult
  | succ fuel ih =>
      rw [exportFrom] at hresult
      cases hfetch : fetch i cursor with
      | error e =>
          rw [hfetch] at hresult
          obtain rfl := Option.some.inj hresult
          exact ⟨i, le_rfl, by omega, hfetch, hdone⟩
      | ok page =>
          have hpage := h.serves i cursor page hfetch
          rw [hfetch] at hresult
          dsimp only at hresult
          have hends : (∀ next, page.next = some next → next ≤ cursor) →
              ∃ j, i ≤ j ∧ j < i + (fuel + 1) ∧ Result.Tells seq start (logs j) (fetch j)
                ⟨done ++ page.entries, cursor, none⟩ := by
            intro hstop
            refine ⟨i, le_rfl, by omega, hdone.all (h.ordered i) hpage hstop, ?_⟩
            exact hdone.entries ▸ hdone
          cases hnext : page.next with
          | none =>
              rw [hnext] at hresult
              obtain rfl := Option.some.inj hresult
              exact hends (by rw [hnext]; exact fun next hsome => nomatch hsome)
          | some next =>
              rw [hnext] at hresult
              dsimp only at hresult
              by_cases hle : next ≤ cursor
              · rw [if_pos hle] at hresult
                obtain rfl := Option.some.inj hresult
                refine hends fun other hother => ?_
                rw [hnext] at hother
                exact Option.some.inj hother ▸ hle
              · rw [if_neg hle] at hresult
                have hmore := hdone.more (h.ordered i) hpage hnext (Int.not_le.mp hle)
                rcases ih (h.exported_succ hmore) hresult with ⟨j, hij, hj, htells⟩
                exact ⟨j, by omega, by omega, htells⟩

/-- An export ends after as many requests as there can be entries, and one. -/
theorem exportFrom_isSome (h : Honest seq logs fetch) {bound : ℕ}
    (hbound : ∀ i, (logs i).length ≤ bound) {fuel i : ℕ} {cursor : ℤ} {done : List α}
    (hdone : Exported seq start (logs i) cursor done) (hfuel : bound < done.length + fuel) :
    (exportFrom fetch fuel i cursor done).isSome = true := by
  induction fuel generalizing i cursor done with
  | zero =>
      have := hdone.length_le.trans (hbound i)
      omega
  | succ fuel ih =>
      rw [exportFrom]
      cases hfetch : fetch i cursor with
      | error e => rfl
      | ok page =>
          dsimp only
          cases hnext : page.next with
          | none => rfl
          | some next =>
              dsimp only
              by_cases hle : next ≤ cursor
              · rw [if_pos hle]
                rfl
              · rw [if_neg hle]
                have hpage := h.serves i cursor page hfetch
                have hmore := hdone.more (h.ordered i) hpage hnext (Int.not_le.mp hle)
                have hsome : page.entries ≠ [] := by
                  intro hempty
                  have hvalue := hpage.next next hnext
                  rw [hempty] at hvalue
                  exact hle hvalue.le
                have hlength := List.length_pos_of_ne_nil hsome
                apply ih (h.exported_succ hmore)
                rw [List.length_append]
                omega

end Exporter

end CursorPaging
