import Mathlib.Tactic

/-!
# Deliveries that are repeated until they are acknowledged

A receiver takes requests under conditions that may make it fail or die, and keeps
what it acknowledges.  A sender works through its items in order: it repeats an item
until it hears the acknowledgement, and only then turns to the next one.  Requests
and answers may be lost, and others may send requests of their own.

Main results:

- Theorem `Durable.kept_run`: what was acknowledged is kept.
- Theorem `Durable.kept_relay`: every item before the cursor of the sender is kept.
- Theorem `Introduces.relay`: what the receiver of a sender that is alone holds comes
  from an item up to the cursor.
- Theorem `Logs.relay`: a receiver that writes a log holds the entries of the first
  items in their order, each once.
- Theorem `Available.progress`: each attempt that meets no fault and is heard moves
  the cursor of a sender that is alone.
-/

namespace Deliveries

/-- A receiver: what it makes of a request under certain conditions, and its answer,
if it lives to give one. -/
structure Receiver (σ ι χ ρ : Type*) where
  receive : σ → ι → χ → σ × Option ρ

variable {σ ι χ ρ κ : Type*} {m : Receiver σ ι χ ρ} {acks : ρ → Bool}

/-- The state after a run of requests. -/
def Receiver.run (m : Receiver σ ι χ ρ) (s : σ) (requests : List (ι × χ)) : σ :=
  requests.foldl (fun s request => (m.receive s request.1 request.2).1) s

theorem Receiver.run_concat (m : Receiver σ ι χ ρ) (s : σ) (requests : List (ι × χ))
    (request : ι) (x : χ) :
    m.run s (requests ++ [(request, x)]) = (m.receive (m.run s requests) request x).1 := by
  simp [run]

/-- A request is answered with an acknowledgement. -/
def Receiver.Acknowledges (m : Receiver σ ι χ ρ) (acks : ρ → Bool) (s : σ) (request : ι)
    (x : χ) : Prop :=
  (m.receive s request x).2.any acks = true

/-! ## Keeping what was acknowledged -/

/-- A receiver keeps what it acknowledges. -/
structure Durable (m : Receiver σ ι χ ρ) (acks : ρ → Bool) (inv : σ → Prop)
    (kept : σ → ι → Prop) : Prop where
  invariant : ∀ s request x, inv s → inv (m.receive s request x).1
  acked : ∀ s request x, inv s → m.Acknowledges acks s request x →
    kept (m.receive s request x).1 request
  lasts : ∀ s request x other, inv s → kept s other → kept (m.receive s request x).1 other

section Durability

variable {inv : σ → Prop} {kept : σ → ι → Prop}

theorem Durable.invariant_run (h : Durable m acks inv kept) {s : σ} (hs : inv s)
    (requests : List (ι × χ)) : inv (m.run s requests) := by
  induction requests generalizing s with
  | nil => exact hs
  | cons request requests ih => exact ih (h.invariant s request.1 request.2 hs)

/-- What is kept is kept over a run. -/
theorem Durable.kept_run (h : Durable m acks inv kept) {s : σ} (hs : inv s) {request : ι}
    (hkept : kept s request) (requests : List (ι × χ)) : kept (m.run s requests) request := by
  induction requests generalizing s with
  | nil => exact hkept
  | cons other requests ih =>
      exact ih (h.invariant s other.1 other.2 hs) (h.lasts s other.1 other.2 request hs hkept)

end Durability

/-! ## A sender that keeps the order -/

/-- A receiver and the cursor of the sender. -/
structure Line (σ : Type*) where
  receiver : σ
  next : ℕ

/-- What can happen next: the sender attempts its item, and hears the answer or not,
or somebody else sends a request. -/
inductive Turn (ι χ : Type*) where
  | attempt (x : χ) (heard : Bool)
  | foreign (request : ι) (x : χ)

/-- One turn; a sender without a further item has nothing to attempt. -/
def turn (m : Receiver σ ι χ ρ) (acks : ρ → Bool) (items : List ι) (line : Line σ) :
    Turn ι χ → Line σ
  | .attempt x heard =>
      match items[line.next]? with
      | none => line
      | some item =>
          let out := m.receive line.receiver item x
          ⟨out.1, if heard && out.2.any acks then line.next + 1 else line.next⟩
  | .foreign request x => ⟨(m.receive line.receiver request x).1, line.next⟩

/-- The line after a run of turns. -/
def relay (m : Receiver σ ι χ ρ) (acks : ρ → Bool) (items : List ι) (line : Line σ)
    (turns : List (Turn ι χ)) : Line σ :=
  turns.foldl (turn m acks items) line

theorem relay_cons (items : List ι) (line : Line σ) (t : Turn ι χ) (turns : List (Turn ι χ)) :
    relay m acks items line (t :: turns) = relay m acks items (turn m acks items line t) turns :=
  rfl

/-- An attempt of an item. -/
theorem turn_attempt {items : List ι} {line : Line σ} {item : ι}
    (h : items[line.next]? = some item) (x : χ) (heard : Bool) :
    turn m acks items line (.attempt x heard) =
      ⟨(m.receive line.receiver item x).1,
        if heard && (m.receive line.receiver item x).2.any acks then line.next + 1
        else line.next⟩ := by
  rw [turn, h]

/-- There is nothing left to attempt. -/
theorem turn_idle {items : List ι} {line : Line σ} (h : items[line.next]? = none) (x : χ)
    (heard : Bool) : turn m acks items line (.attempt x heard) = line := by
  rw [turn, h]

/-- The cursor moves forward. -/
theorem next_le_turn (items : List ι) (line : Line σ) (t : Turn ι χ) :
    line.next ≤ (turn m acks items line t).next := by
  cases t with
  | foreign request x => exact le_rfl
  | attempt x heard =>
      cases hitem : items[line.next]? with
      | none => rw [turn_idle hitem]
      | some item =>
          rw [turn_attempt hitem]
          dsimp only
          split <;> omega

theorem next_le_relay (items : List ι) (line : Line σ) (turns : List (Turn ι χ)) :
    line.next ≤ (relay m acks items line turns).next := by
  induction turns generalizing line with
  | nil => exact le_rfl
  | cons t turns ih => exact (next_le_turn items line t).trans (ih _)

section Order

variable {inv : σ → Prop} {kept : σ → ι → Prop}

/-- The invariant of a line: the receiver keeps every item before the cursor. -/
structure Line.Settled (line : Line σ) (inv : σ → Prop) (kept : σ → ι → Prop)
    (items : List ι) : Prop where
  inv : inv line.receiver
  within : line.next ≤ items.length
  kept : ∀ i item, i < line.next → items[i]? = some item → kept line.receiver item

/-- A turn keeps the invariant of a line. -/
theorem Durable.settled_turn (h : Durable m acks inv kept) {items : List ι} {line : Line σ}
    (hline : line.Settled inv kept items) (t : Turn ι χ) :
    (turn m acks items line t).Settled inv kept items := by
  cases t with
  | foreign request x =>
      refine ⟨h.invariant _ request x hline.inv, hline.within, fun i item hi hitem => ?_⟩
      exact h.lasts _ request x _ hline.inv (hline.kept i item hi hitem)
  | attempt x heard =>
      cases hnext : items[line.next]? with
      | none => rwa [turn_idle hnext]
      | some current =>
          have hwithin : line.next < items.length := (List.getElem?_eq_some_iff.mp hnext).1
          rw [turn_attempt hnext]
          refine ⟨h.invariant _ _ x hline.inv, ?_, fun i item hi hitem => ?_⟩
          · dsimp only
            split <;> omega
          · rcases Nat.lt_or_ge i line.next with hlt | hge
            · exact h.lasts _ _ x _ hline.inv (hline.kept i item hlt hitem)
            · -- The cursor has moved past this item, so it was acknowledged.
              dsimp only at hi
              split at hi
              · rename_i hacked
                obtain rfl : i = line.next := by omega
                obtain rfl : current = item := Option.some.inj (hnext.symm.trans hitem)
                rw [Bool.and_eq_true] at hacked
                exact h.acked _ _ x hline.inv hacked.2
              · omega

/-- Every item before the cursor is kept. -/
theorem Durable.kept_relay (h : Durable m acks inv kept) {items : List ι} {line : Line σ}
    (hline : line.Settled inv kept items) (turns : List (Turn ι χ)) :
    (relay m acks items line turns).Settled inv kept items := by
  induction turns generalizing line with
  | nil => exact hline
  | cons t turns ih => exact ih (h.settled_turn hline t)

end Order

/-! ## Where the contents come from -/

/-- What is stored after a request was stored before, or is of its making. -/
def Introduces (m : Receiver σ ι χ ρ) (stored : σ → κ → Prop) (makes : ι → κ → Prop) : Prop :=
  ∀ s request x k, stored (m.receive s request x).1 k → stored s k ∨ makes request k

section Origin

variable {stored : σ → κ → Prop} {makes : ι → κ → Prop}

theorem Introduces.run (h : Introduces m stored makes) {s : σ} {requests : List (ι × χ)} {k : κ}
    (hk : stored (m.run s requests) k) :
    stored s k ∨ ∃ request ∈ requests, makes request.1 k := by
  induction requests generalizing s with
  | nil => exact .inl hk
  | cons request requests ih =>
      rcases ih hk with hfirst | ⟨other, hother, hmakes⟩
      · rcases h s request.1 request.2 k hfirst with hs | hmakes
        · exact .inl hs
        · exact .inr ⟨request, by simp, hmakes⟩
      · exact .inr ⟨other, List.mem_cons_of_mem _ hother, hmakes⟩

/-- Nobody else sends requests. -/
def Alone (turns : List (Turn ι χ)) : Prop := ∀ request x, .foreign request x ∉ turns

/-- What a line without others stores was stored before, or comes from an item up
to the cursor. -/
theorem Introduces.relay (h : Introduces m stored makes) {items : List ι} {line : Line σ}
    {turns : List (Turn ι χ)} (halone : Alone turns) {k : κ}
    (hk : stored (relay m acks items line turns).receiver k) :
    stored line.receiver k ∨
      ∃ i item, i ≤ (Deliveries.relay m acks items line turns).next ∧
        items[i]? = some item ∧ makes item k := by
  induction turns generalizing line with
  | nil => exact .inl hk
  | cons t turns ih =>
      have hrest : Alone turns := fun request x hmem =>
        halone request x (List.mem_cons_of_mem _ hmem)
      rcases ih hrest hk with hfirst | hitem
      · cases t with
        | foreign request x => exact absurd (by simp) (halone request x)
        | attempt x heard =>
            cases hnext : items[line.next]? with
            | none =>
                rw [turn_idle hnext] at hfirst
                exact .inl hfirst
            | some item =>
                rw [turn_attempt hnext] at hfirst
                rcases h _ _ x k hfirst with hline | hmakes
                · exact .inl hline
                · exact .inr ⟨line.next, item, next_le_relay items line _, hnext, hmakes⟩
      · exact .inr hitem

end Origin

/-! ## A log in order -/

/-- A receiver whose state is read as a log: a request appends its entry or nothing,
never an entry that is there, and an acknowledged request has its entry there. -/
structure Logs (m : Receiver σ ι χ ρ) (acks : ρ → Bool) (log : σ → List κ)
    (entry : ι → κ → Prop) : Prop where
  step : ∀ s request x, log (m.receive s request x).1 = log s ∨
    ∃ k, entry request k ∧ k ∉ log s ∧ log (m.receive s request x).1 = log s ++ [k]
  acked : ∀ s request x, m.Acknowledges acks s request x →
    ∃ k, entry request k ∧ k ∈ log (m.receive s request x).1

/-- The log of a line: the entries before the cursor, and perhaps the one at it. -/
def Line.Logged (line : Line σ) (log : σ → List κ) (entries : List κ) : Prop :=
  ∃ count, line.next ≤ count ∧ count ≤ line.next + 1 ∧ count ≤ entries.length ∧
    log line.receiver = entries.take count

section Logging

variable {log : σ → List κ} {entry : ι → κ → Prop} {items : List ι} {entries : List κ}

/-- An element of a list without repetitions is in its beginnings from its place on. -/
theorem mem_take_iff_of_nodup {l : List κ} (hnodup : l.Nodup) {i : ℕ} {k : κ}
    (h : l[i]? = some k) (count : ℕ) : k ∈ l.take count ↔ i < count := by
  rw [List.getElem?_eq_some_iff] at h
  obtain ⟨hlt, rfl⟩ := h
  rw [List.mem_take_iff_getElem]
  constructor
  · rintro ⟨j, hj, hsame⟩
    obtain rfl : j = i := (hnodup.getElem_inj_iff).mp hsame
    omega
  · intro hi
    exact ⟨i, by omega, rfl⟩

/-- An attempt keeps the log in order. -/
theorem Logs.logged_attempt (h : Logs m acks log entry) (hnodup : entries.Nodup)
    (hentries : ∀ (i : ℕ) item k, items[i]? = some item → entry item k → entries[i]? = some k)
    {line : Line σ} (hline : line.Logged log entries) (x : χ) (heard : Bool) :
    (turn m acks items line (.attempt x heard)).Logged log entries := by
  cases hnext : items[line.next]? with
  | none => rwa [turn_idle hnext]
  | some item =>
      rw [turn_attempt hnext]
      rcases hline with ⟨count, hle, hge, hlength, hlog⟩
      rcases h.step line.receiver item x with hsame | ⟨k, hentry, hnew, happend⟩
      · refine ⟨count, ?_, ?_, hlength, hsame.trans hlog⟩
        · dsimp only
          split
          · rename_i hacked
            rw [Bool.and_eq_true] at hacked
            rcases h.acked line.receiver item x hacked.2 with ⟨k, hentry, hmem⟩
            rw [hsame, hlog, mem_take_iff_of_nodup hnodup (hentries _ _ _ hnext hentry)] at hmem
            exact hmem
          · exact hle
        · dsimp only
          split <;> omega
      · have hk := hentries _ _ _ hnext hentry
        rw [hlog, mem_take_iff_of_nodup hnodup hk] at hnew
        obtain rfl : count = line.next := by omega
        have hlt : line.next < entries.length := (List.getElem?_eq_some_iff.mp hk).1
        refine ⟨line.next + 1, ?_, ?_, hlt, ?_⟩
        · dsimp only
          split <;> omega
        · dsimp only
          split <;> omega
        · rw [happend, hlog, List.take_add_one, hk]
          rfl

/-- A line without others logs the entries of its items in their order, each once. -/
theorem Logs.relay (h : Logs m acks log entry) (hnodup : entries.Nodup)
    (hentries : ∀ (i : ℕ) item k, items[i]? = some item → entry item k → entries[i]? = some k)
    {line : Line σ} (hline : line.Logged log entries) {turns : List (Turn ι χ)}
    (halone : Alone turns) : (Deliveries.relay m acks items line turns).Logged log entries := by
  induction turns generalizing line with
  | nil => exact hline
  | cons t turns ih =>
      have hrest : Alone turns := fun request x hmem =>
        halone request x (List.mem_cons_of_mem _ hmem)
      cases t with
      | foreign request x => exact absurd (by simp) (halone request x)
      | attempt x heard => exact ih (h.logged_attempt hnodup hentries hline x heard) hrest

end Logging

/-! ## Progress -/

/-- A receiver acknowledges what it is ready for unless it meets a fault, and no
fault spoils the readiness for the same request or for independent ones. -/
structure Available (m : Receiver σ ι χ ρ) (acks : ρ → Bool) (sound : χ → Prop)
    (inv : σ → Prop) (ready : σ → ι → Prop) (independent : ι → ι → Prop) : Prop where
  invariant : ∀ s request x, inv s → inv (m.receive s request x).1
  accepts : ∀ s request x, inv s → ready s request → sound x → m.Acknowledges acks s request x
  same : ∀ s request x, inv s → ready s request → ready (m.receive s request x).1 request
  others : ∀ s request x other, inv s → independent request other → ready s other →
    ready (m.receive s request x).1 other

section Progress

variable {sound : χ → Prop} {inv : σ → Prop} {ready : σ → ι → Prop}
  {independent : ι → ι → Prop}

/-- An attempt that meets no fault and is heard. -/
def Turn.Healthy (sound : χ → Prop) : Turn ι χ → Prop
  | .attempt x heard => sound x ∧ heard = true
  | .foreign _ _ => False

instance [DecidablePred sound] : DecidablePred (Turn.Healthy sound : Turn ι χ → Prop)
  | .attempt _ _ => inferInstanceAs (Decidable (_ ∧ _))
  | .foreign _ _ => isFalse id

/-- The receiver is ready for every item from the cursor on. -/
def Line.Expects (line : Line σ) (ready : σ → ι → Prop) (items : List ι) : Prop :=
  ∀ i item, line.next ≤ i → items[i]? = some item → ready line.receiver item

/-- An attempt keeps the receiver ready. -/
theorem Available.expects_attempt (h : Available m acks sound inv ready independent)
    {items : List ι} (hitems : items.Pairwise independent) {line : Line σ}
    (hinv : inv line.receiver) (hready : line.Expects ready items) (x : χ) (heard : Bool) :
    (turn m acks items line (.attempt x heard)).Expects ready items := by
  intro i item hi hitem
  have hi' : line.next ≤ i := (next_le_turn items line _).trans hi
  cases hnext : items[line.next]? with
  | none =>
      rw [turn_idle hnext]
      exact hready i item hi' hitem
  | some current =>
      rw [turn_attempt hnext]
      rcases hi'.eq_or_lt with rfl | hlt
      · obtain rfl : current = item := Option.some.inj (hnext.symm.trans hitem)
        exact h.same _ _ x hinv (hready _ _ le_rfl hnext)
      · rw [List.getElem?_eq_some_iff] at hnext hitem
        obtain ⟨hnextLt, rfl⟩ := hnext
        obtain ⟨hiLt, rfl⟩ := hitem
        have hpair := List.pairwise_iff_getElem.mp hitems line.next i hnextLt hiLt hlt
        exact h.others _ _ x _ hinv hpair (hready i _ hi' (List.getElem?_eq_getElem hiLt))

/-- Each attempt that meets no fault and is heard moves the cursor of a sender that
is alone, until it has passed the last item. -/
theorem Available.progress [DecidablePred sound]
    (h : Available m acks sound inv ready independent) {items : List ι}
    (hitems : items.Pairwise independent) {line : Line σ} (hinv : inv line.receiver)
    (hready : line.Expects ready items) {turns : List (Turn ι χ)} (halone : Alone turns) :
    min items.length (line.next + turns.countP (fun t => t.Healthy sound)) ≤
      (relay m acks items line turns).next := by
  induction turns generalizing line with
  | nil => simp [relay]
  | cons t turns ih =>
      have hrest : Alone turns := fun request x hmem =>
        halone request x (List.mem_cons_of_mem _ hmem)
      cases t with
      | foreign request x => exact absurd (by simp) (halone request x)
      | attempt x heard =>
          have hlater := h.expects_attempt hitems hinv hready x heard
          rw [relay_cons, List.countP_cons]
          cases hnext : items[line.next]? with
          | none =>
              have hlength : items.length ≤ line.next := List.getElem?_eq_none_iff.mp hnext
              have hle : _ ≤ (relay m acks items (turn m acks items line _) turns).next :=
                next_le_relay items (turn m acks items line (.attempt x heard)) turns
              rw [turn_idle hnext] at hle ⊢
              omega
          | some item =>
              have hinvLater : inv (turn m acks items line (.attempt x heard)).receiver := by
                rw [turn_attempt hnext]
                exact h.invariant _ _ x hinv
              have hstep := ih hinvLater hlater hrest
              by_cases hhealthy : (Turn.attempt x heard : Turn ι χ).Healthy sound
              · obtain ⟨hsound, rfl⟩ := hhealthy
                have hacked := h.accepts _ _ x hinv (hready _ _ le_rfl hnext) hsound
                have hmoved : (turn m acks items line (.attempt x true)).next = line.next + 1 := by
                  rw [turn_attempt hnext, Bool.true_and]
                  exact if_pos hacked
                rw [hmoved] at hstep
                split <;> omega
              · have hle : _ ≤ (turn m acks items line _).next :=
                  next_le_turn items line (.attempt x heard)
                simp only [hhealthy, decide_false, Bool.false_eq_true, if_false]
                omega

end Progress

end Deliveries
