import MizanSDK.Library.Idempotency

/-!
# Programs of commands under idempotency keys

A program makes calls one after the other and decides after each of them how to go on.
Some of them are commands under keys and go to the desk; the others only look at the
world.  A program may be killed between two calls, and it may be started again from its
beginning, where it forgets what it saw but finds the desk as it was left.

What a key of the program stands for may depend on the answers to earlier commands,
because these are in the log of the desk.

Main results:

- Theorem `Program.runAll_honoured`: if every command is the one its key stands for, then
  all runs of a program keep the log that way, and no run is ever refused a key.
-/

namespace Idempotency

variable {σ κ β ρ ω χ ι μ τ ε δ : Type*}

/-- A key has one entry in a log. -/
theorem Entry.eq_of_key {log : List (Entry κ β ρ)} (hlog : (log.filterMap Entry.key).Nodup)
    {entry other : Entry κ β ρ} {k : κ} (hentry : entry ∈ log) (hother : other ∈ log)
    (hkey : entry.key = some k) (hsame : other.key = some k) : entry = other :=
  let desk : Desk Unit κ β ρ := ⟨(), log, hlog⟩
  have hentry' : entry ∈ desk.log := hentry
  Desk.eq_of_key hentry' hother hkey hsame

/-! ## What keys stand for -/

/-- The keys of a program and the commands they stand for, as far as the log tells, which
tells more and more. -/
structure Intention (κ β ρ : Type*) where
  keys : Set κ
  Intends : List (Entry κ β ρ) → κ → β → Prop
  mono : ∀ {log log' : List (Entry κ β ρ)} {k b}, log <+: log' → Intends log k b →
    Intends log' k b

namespace Intention

/-- The keys may stand for anything. -/
def unrestricted : Intention κ β ρ where
  keys := Set.univ
  Intends _ _ _ := True
  mono _ _ := trivial

variable (plan : Intention κ β ρ)

/-- A key stands for one command. -/
def Unambiguous : Prop :=
  ∀ {log : List (Entry κ β ρ)} {k b b'}, (log.filterMap Entry.key).Nodup →
    plan.Intends log k b → plan.Intends log k b' → b = b'

/-- What was carried out under the keys is what they stand for. -/
def Consistent (desk : Desk σ κ β ρ) : Prop :=
  ∀ entry ∈ desk.log, ∀ k ∈ plan.keys, entry.key = some k →
    plan.Intends desk.log k entry.command

/-- A request that is none of the program's, or the one its key stands for. -/
def Admits (log : List (Entry κ β ρ)) (request : Request κ β) : Prop :=
  ∀ k ∈ plan.keys, request.key = some k → plan.Intends log k request.command

/-- A request that is so whatever the log says, as one that uses no key of the program. -/
def Harmless (request : Request κ β) : Prop := ∀ log, plan.Admits log request

variable {plan} {desk : Desk σ κ β ρ} {request : Request κ β}

/-- A request that is admitted stays so. -/
theorem Admits.mono {log log' : List (Entry κ β ρ)} (hlog : log <+: log')
    (h : plan.Admits log request) : plan.Admits log' request :=
  fun k hk hkey => plan.mono hlog (h k hk hkey)

/-- Every log is consistent with a plan that restricts nothing. -/
theorem consistent_unrestricted (desk : Desk σ κ β ρ) :
    (unrestricted : Intention κ β ρ).Consistent desk :=
  fun _ _ _ _ _ => trivial

/-- Every request is harmless to it. -/
theorem harmless_unrestricted (request : Request κ β) :
    (unrestricted : Intention κ β ρ).Harmless request :=
  fun _ _ _ _ => trivial

variable [DecidableEq κ]

/-- A desk whose log has none of the keys. -/
theorem consistent_of_new (h : ∀ k ∈ plan.keys, desk.record (some k) = none) :
    plan.Consistent desk := by
  intro entry hentry k hk hkey
  have hnew := (desk.record_eq_none_iff k).mp (h k hk)
  exact absurd (List.mem_filterMap.mpr ⟨entry, hentry, hkey⟩) hnew

variable [DecidableEq β] (service : Service σ β ρ)

/-- An admitted request keeps the log consistent. -/
theorem Consistent.receive (h : plan.Consistent desk) (hrequest : plan.Admits desk.log request) :
    plan.Consistent (desk.receive service request).1 := by
  have hlog := desk.log_receive service request
  intro entry hentry k hk hkey
  cases hrecord : desk.record request.key with
  | some other =>
      rw [Desk.receive_of_record hrecord] at hentry ⊢
      exact h entry hentry k hk hkey
  | none =>
      rw [Desk.receive_of_new hrecord] at hentry hlog ⊢
      rcases List.mem_append.mp hentry with hold | hnew
      · exact plan.mono hlog (h entry hold k hk hkey)
      · obtain rfl := List.mem_singleton.mp hnew
        exact plan.mono hlog (hrequest k hk hkey)

/-- The program is answered with what is in the log for its command. -/
theorem Consistent.answer_receive (h : plan.Consistent desk) (hunique : plan.Unambiguous)
    (hrequest : plan.Admits desk.log request) {k : κ} (hk : k ∈ plan.keys)
    (hkey : request.key = some k) :
    ∃ entry ∈ (desk.receive service request).1.log, entry.key = some k ∧
      entry.command = request.command ∧
        entry.answer = (desk.receive service request).2 := by
  cases hrecord : desk.record request.key with
  | some entry =>
      obtain ⟨hmem, hentry⟩ := Desk.record_eq_some hrecord
      have hsame : entry.command = request.command :=
        hunique desk.unique (h entry hmem k hk (hentry.trans hkey)) (hrequest k hk hkey)
      rw [Desk.receive_of_record hrecord]
      exact ⟨entry, hmem, hentry.trans hkey, hsame, by rw [if_pos hsame]⟩
  | none =>
      rw [Desk.receive_of_new hrecord]
      exact ⟨_, List.mem_append_right _ (List.mem_singleton.mpr rfl), hkey, rfl, rfl⟩

/-- So do harmless ones. -/
theorem Consistent.serveAll (h : plan.Consistent desk) {requests : List (Request κ β)}
    (hharmless : ∀ request ∈ requests, plan.Harmless request) :
    plan.Consistent (desk.serveAll service requests) := by
  induction requests generalizing desk with
  | nil => exact h
  | cons request requests ih =>
      rw [List.forall_mem_cons] at hharmless
      exact ih (h.receive service (hharmless.1 _)) hharmless.2

variable {legs : ℕ → Leg κ β ω ρ}

/-- So does an attempt among them. -/
theorem Consistent.attempt (h : plan.Consistent desk) (hrequest : plan.Admits desk.log request)
    {leg : Leg κ β ω ρ} (hharmless : ∀ request ∈ leg.traffic, plan.Harmless request) :
    plan.Consistent (attempt service leg request desk).1 := by
  have hbusy := h.serveAll service hharmless
  have hadmits := hrequest.mono (desk.log_serveAll service leg.traffic)
  unfold Idempotency.attempt
  cases leg.fate with
  | lost seen => exact hbusy
  | refused answer => exact hbusy
  | unanswered seen => exact hbusy.receive service hadmits
  | answered => exact hbusy.receive service hadmits

/-- So do all attempts of a call. -/
theorem Consistent.after (h : plan.Consistent desk) (hrequest : plan.Admits desk.log request)
    (hharmless : ∀ i, ∀ request ∈ (legs i).traffic, plan.Harmless request) (n : ℕ) :
    plan.Consistent (after service legs request desk n) := by
  induction n with
  | zero => exact h
  | succ n ih =>
      have hadmits := hrequest.mono (log_after service legs request desk n.zero_le)
      exact ih.attempt service hadmits (hharmless (n + 1))

/-- An attempt whose answer arrives shows what is in the log for its command. -/
theorem Consistent.sight_answered (h : plan.Consistent desk) (hunique : plan.Unambiguous)
    (hrequest : plan.Admits desk.log request) {k : κ} (hk : k ∈ plan.keys)
    (hkey : request.key = some k)
    (hharmless : ∀ i, ∀ request ∈ (legs i).traffic, plan.Harmless request) {i n : ℕ}
    (hi : 1 ≤ i) (hn : i ≤ n) (hfate : (legs i).fate = .answered) :
    ∃ entry ∈ (Idempotency.after service legs request desk n).log, entry.key = some k ∧
      entry.command = request.command ∧
        sight service legs request desk i = .answer entry.answer := by
  obtain ⟨m, rfl⟩ : ∃ m, i = m + 1 := ⟨i - 1, by omega⟩
  have hbusy := (h.after service hrequest hharmless m).serveAll service (hharmless (m + 1))
  have hadmits := (hrequest.mono (log_after service legs request desk m.zero_le)).mono
    (Desk.log_serveAll service _ (legs (m + 1)).traffic)
  obtain ⟨entry, hentry, hentryKey, hcommand, hanswer⟩ :=
    hbusy.answer_receive service hunique hadmits hk hkey
  have hlater := log_after service legs request desk hn
  rw [Idempotency.after, Idempotency.attempt, hfate] at hlater
  refine ⟨entry, hlater.subset hentry, hentryKey, hcommand, ?_⟩
  rw [sight, Nat.add_sub_cancel, Idempotency.attempt, hfate, hanswer]

end Intention

/-! ## Programs -/

/-- A program: it ends, looks at the world, or gives a command, and goes on with what it
sees of it. -/
inductive Program (ι μ τ ε : Type*) where
  | done (result : ε)
  | look (call : ι) (next : τ → Program ι μ τ ε)
  | command (call : μ) (next : τ → Program ι μ τ ε)

/-- What a run of a program meets: by the number of the call, whether it is killed before
it, what it sees when it looks, and the circumstances of its command. -/
structure Trial (χ ι τ : Type*) where
  killed : ℕ → Bool
  seen : ℕ → ι → τ
  circumstances : ℕ → χ

/-- A command that was given, and the desk it met. -/
structure Given (σ κ β ρ χ μ : Type*) where
  circumstances : χ
  call : μ
  desk : Desk σ κ β ρ

/-- What a run leaves: the desk, the commands it gave, and its result unless it was
killed. -/
structure Ran (σ κ β ρ χ μ ε : Type*) where
  desk : Desk σ κ β ρ
  given : List (Given σ κ β ρ χ μ)
  result : Option ε

section Runs

variable [DecidableEq κ] [DecidableEq β] (c : Caller χ μ κ β ω ρ τ) (service : Service σ β ρ)

/-- Run a program, the next call of which has number `n`. -/
def Program.run (trial : Trial χ ι τ) :
    Program ι μ τ ε → ℕ → Desk σ κ β ρ → Ran σ κ β ρ χ μ ε
  | .done result, _, desk => ⟨desk, [], some result⟩
  | .look call next, n, desk =>
      if trial.killed n then ⟨desk, [], none⟩
      else run trial (next (trial.seen n call)) (n + 1) desk
  | .command call next, n, desk =>
      if trial.killed n then ⟨desk, [], none⟩
      else
        let session := c.once service (trial.circumstances n) call desk
        let later := run trial (next session.result) (n + 1) session.desk
        { later with given := ⟨trial.circumstances n, call, desk⟩ :: later.given }

/-- Run a program again and again: what is left of every run. -/
def Program.runAll (program : Program ι μ τ ε) :
    List (Trial χ ι τ) → Desk σ κ β ρ → List (Ran σ κ β ρ χ μ ε)
  | [], _ => []
  | trial :: trials, desk =>
      let ran := program.run c service trial 0 desk
      ran :: runAll program trials ran.desk

/-- The desk behind all runs. -/
def Program.deskAfter (program : Program ι μ τ ε) :
    List (Trial χ ι τ) → Desk σ κ β ρ → Desk σ κ β ρ
  | [], desk => desk
  | trial :: trials, desk => deskAfter program trials (program.run c service trial 0 desk).desk

/-- Every answer that arrives for a command is that of the one entry of its key, which is
for this command. -/
def Given.Honoured (plan : Intention κ β ρ) (given : Given σ κ β ρ χ μ)
    (log : List (Entry κ β ρ)) : Prop :=
  ∃ k ∈ plan.keys, (c.request given.circumstances given.call).key = some k ∧
    ∀ i, 1 ≤ i → i ≤ (c.call given.circumstances given.call
        (sight service (c.legs given.circumstances)
          (c.request given.circumstances given.call) given.desk)).1 →
      (c.legs given.circumstances i).fate = .answered →
      ∃ entry ∈ log, entry.key = some k ∧
        entry.command = (c.request given.circumstances given.call).command ∧
        sight service (c.legs given.circumstances)
          (c.request given.circumstances given.call) given.desk i = .answer entry.answer

/-- What was honoured stays so. -/
theorem Given.Honoured.mono {plan : Intention κ β ρ} {given : Given σ κ β ρ χ μ}
    {log log' : List (Entry κ β ρ)} (hlog : log <+: log')
    (h : given.Honoured c service plan log) : given.Honoured c service plan log' := by
  obtain ⟨k, hk, hkey, hall⟩ := h
  refine ⟨k, hk, hkey, ?_⟩
  intro i hi hn hfate
  obtain ⟨entry, hentry, hrest⟩ := hall i hi hn hfate
  exact ⟨entry, hlog.subset hentry, hrest⟩

end Runs

/-! ## Programs that give the commands their keys stand for -/

/-- What a program may take from its calls: what it sees when it looks, and which result
of a command is backed by which answer. -/
structure Reading (ι τ ρ δ : Type*) where
  Shows : ι → τ → Prop
  Settles : δ → τ → Prop
  Backs : δ → ρ → Prop

/-- The result of a command is that of an answer in the log. -/
def Reading.Backed (reading : Reading ι τ ρ δ) (request : Request κ β) (result : τ)
    (log : List (Entry κ β ρ)) : Prop :=
  ∀ d, reading.Settles d result → ∃ entry ∈ log, entry.key = request.key ∧
    entry.command = request.command ∧ reading.Backs d entry.answer

/-- Every command of the program has a key of the program and is what this stands for. -/
def Program.Intended (c : Caller χ μ κ β ω ρ τ) (plan : Intention κ β ρ)
    (reading : Reading ι τ ρ δ) (Ends : ε → List (Entry κ β ρ) → Prop) :
    Program ι μ τ ε → List (Entry κ β ρ) → Prop
  | .done result, log => Ends result log
  | .look call next, log =>
      ∀ seen, reading.Shows call seen → Intended c plan reading Ends (next seen) log
  | .command call next, log =>
      ∀ x, (∃ k ∈ plan.keys, (c.request x call).key = some k ∧
          plan.Intends log k (c.request x call).command) ∧
        ∀ log' : List (Entry κ β ρ), log <+: log' → (log'.filterMap Entry.key).Nodup →
          ∀ result, reading.Backed (c.request x call) result log' →
            Intended c plan reading Ends (next result) log'

section Intended

variable [DecidableEq κ] [DecidableEq β] {c : Caller χ μ κ β ω ρ τ} {service : Service σ β ρ}
  {plan : Intention κ β ρ} {reading : Reading ι τ ρ δ} {Ends : ε → List (Entry κ β ρ) → Prop}

/-- A trial in which the world shows what it may, and nobody else misuses the keys. -/
structure Trial.Proper (c : Caller χ μ κ β ω ρ τ) (plan : Intention κ β ρ)
    (reading : Reading ι τ ρ δ) (trial : Trial χ ι τ) : Prop where
  shows : ∀ n call, reading.Shows call (trial.seen n call)
  harmless : ∀ n i, ∀ request ∈ (c.legs (trial.circumstances n) i).traffic,
    plan.Harmless request

/-- A settled result is backed by one of the answers the caller saw, and nobody but the
desk gives such an answer. -/
structure Reading.Sound (reading : Reading ι τ ρ δ) (c : Caller χ μ κ β ω ρ τ)
    (service : Service σ β ρ) : Prop where
  call : ∀ d x a sights, reading.Settles d (c.call x a sights).2 → ∃ i answer,
    1 ≤ i ∧ i ≤ (c.call x a sights).1 ∧ sights i = .answer answer ∧ reading.Backs d answer
  way : ∀ d x i answer, (c.legs x i).fate = .refused answer → ¬ reading.Backs d answer
  conflict : ∀ d, ¬ reading.Backs d service.conflict

/-- A run is honoured: the log still says what the keys stand for, every command is
answered from it, and the run ends as it may. -/
structure Ran.Honoured (c : Caller χ μ κ β ω ρ τ) (service : Service σ β ρ)
    (plan : Intention κ β ρ) (Ends : ε → List (Entry κ β ρ) → Prop)
    (ran : Ran σ κ β ρ χ μ ε) (log : List (Entry κ β ρ)) : Prop where
  given : plan.Unambiguous → ∀ given ∈ ran.given, given.Honoured c service plan log
  result : ∀ result, ran.result = some result → Ends result log

variable {trial : Trial χ ι τ} {program : Program ι μ τ ε} {desk : Desk σ κ β ρ}

/-- A run that is killed leaves nothing of its own. -/
theorem Ran.honoured_killed (desk : Desk σ κ β ρ) :
    (⟨desk, [], none⟩ : Ran σ κ β ρ χ μ ε).Honoured c service plan Ends desk.log := by
  refine ⟨?_, ?_⟩
  · intro hunique given hgiven
    cases hgiven
  · rintro _ ⟨⟩

section Commands

variable {x : χ} {call : μ} {k : κ}

/-- The result of a keyed command is backed by the log it leaves. -/
theorem Reading.Sound.backed_once (hsound : reading.Sound c service)
    (hkey : (c.request x call).key = some k) (desk : Desk σ κ β ρ) :
    reading.Backed (c.request x call) (c.once service x call desk).result
      (c.once service x call desk).desk.log := by
  intro d hsettles
  rw [hkey]
  exact c.once_backed service (reading.Settles d) (reading.Backs d) (hsound.call d)
    (hsound.way d) (hsound.conflict d) hkey desk hsettles

/-- A command that is the one its key stands for adds to the log, which still says what the
keys stand for, and is answered from it. -/
theorem Intention.Consistent.once (hconsistent : plan.Consistent desk) (hk : k ∈ plan.keys)
    (hkey : (c.request x call).key = some k)
    (hintends : plan.Intends desk.log k (c.request x call).command)
    (hharmless : ∀ i, ∀ request ∈ (c.legs x i).traffic, plan.Harmless request) :
    desk.log <+: (c.once service x call desk).desk.log ∧
      plan.Consistent (c.once service x call desk).desk ∧
      (plan.Unambiguous → (⟨x, call, desk⟩ : Given σ κ β ρ χ μ).Honoured c service plan
        (c.once service x call desk).desk.log) := by
  have hadmits : plan.Admits desk.log (c.request x call) := by
    intro k' _ hkey'
    obtain rfl := Option.some.inj (hkey.symm.trans hkey')
    exact hintends
  refine ⟨log_after service (c.legs x) (c.request x call) desk (Nat.zero_le _),
    hconsistent.after service hadmits hharmless _, ?_⟩
  intro hunique
  refine ⟨k, hk, hkey, ?_⟩
  intro i hi hn hfate
  exact hconsistent.sight_answered service hunique hadmits hk hkey hharmless hi hn hfate

end Commands

/-- One run. -/
theorem Program.run_honoured (hsound : reading.Sound c service)
    (htrial : trial.Proper c plan reading) (hconsistent : plan.Consistent desk)
    (hintended : program.Intended c plan reading Ends desk.log) (n : ℕ) :
    desk.log <+: (program.run c service trial n desk).desk.log ∧
      plan.Consistent (program.run c service trial n desk).desk ∧
      (program.run c service trial n desk).Honoured c service plan Ends
        (program.run c service trial n desk).desk.log := by
  induction program generalizing n desk with
  | done result =>
      refine ⟨List.prefix_refl _, hconsistent, ?_, ?_⟩
      · intro hunique given hgiven
        cases hgiven
      · rintro _ ⟨⟩
        exact hintended
  | look call next ih =>
      rw [run]
      split
      · exact ⟨List.prefix_refl _, hconsistent, Ran.honoured_killed desk⟩
      · exact ih _ hconsistent (hintended _ (htrial.shows n call)) (n + 1)
  | command call next ih =>
      rw [run]
      split
      · exact ⟨List.prefix_refl _, hconsistent, Ran.honoured_killed desk⟩
      · obtain ⟨⟨k, hk, hkey, hintends⟩, hnext⟩ := hintended (trial.circumstances n)
        obtain ⟨hgrown, hconsistent', hanswered⟩ :=
          hconsistent.once hk hkey hintends (htrial.harmless n)
        have hbacked := hsound.backed_once hkey desk
        obtain ⟨hlater, hlast, hran⟩ := ih _ hconsistent'
          (hnext _ hgrown (Desk.unique _) _ hbacked) (n + 1)
        refine ⟨hgrown.trans hlater, hlast, ?_, hran.result⟩
        intro hunique given hgiven
        rcases List.mem_cons.mp hgiven with rfl | hgiven
        · exact (hanswered hunique).mono c service hlater
        · exact hran.given hunique given hgiven

/-- All runs, one after the other. -/
theorem Program.runAll_honoured {trials : List (Trial χ ι τ)} (hsound : reading.Sound c service)
    (htrials : ∀ trial ∈ trials, trial.Proper c plan reading)
    (hends : ∀ result log log', log <+: log' → Ends result log → Ends result log')
    (hconsistent : plan.Consistent desk)
    (hintended : ∀ log : List (Entry κ β ρ), desk.log <+: log →
      (log.filterMap Entry.key).Nodup → program.Intended c plan reading Ends log) :
    desk.log <+: (program.deskAfter c service trials desk).log ∧
      plan.Consistent (program.deskAfter c service trials desk) ∧
      ∀ ran ∈ program.runAll c service trials desk, ran.Honoured c service plan Ends
        (program.deskAfter c service trials desk).log := by
  induction trials generalizing desk with
  | nil =>
      refine ⟨List.prefix_refl _, hconsistent, ?_⟩
      intro ran hran
      cases hran
  | cons trial trials ih =>
      rw [List.forall_mem_cons] at htrials
      obtain ⟨hgrown, hconsistent', hran⟩ := program.run_honoured hsound htrials.1 hconsistent
        (hintended desk.log (List.prefix_refl _) desk.unique) 0
      obtain ⟨hlater, hlast, hothers⟩ := ih htrials.2 hconsistent'
        fun log hlog => hintended log (hgrown.trans hlog)
      refine ⟨hgrown.trans hlater, hlast, ?_⟩
      intro ran hmem
      rcases List.mem_cons.mp hmem with rfl | hmem
      · refine ⟨?_, ?_⟩
        · intro hunique given hgiven
          exact (hran.given hunique given hgiven).mono c service hlater
        · intro result hresult
          exact hends result _ _ hlater (hran.result result hresult)
      · exact hothers ran hmem

end Intended

end Idempotency
