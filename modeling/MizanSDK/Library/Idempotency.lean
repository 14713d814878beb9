import Mathlib.Data.List.Nodup
import Mathlib.Tactic

/-!
# Commands under idempotency keys

A service carries out commands.  In front of it stands a desk with a log of what
was carried out and under which key: a command that comes again under its key is
answered from the log, and another command under that key is refused.  A command
without a key is carried out whenever it arrives.

A client reaches the desk over a network that may lose a request or an answer,
and it may send its request again.  Between its attempts the desk serves others.

Main results:

- Theorem `effects_add_recorded_le`: the attempts of a keyed request carry their
  command out at most once, and not at all if its key was known before.
- Theorem `effects_of_unkeyed`: without a key every attempt that arrives is
  carried out.
- Theorem `answer_from_log`: what the desk answers comes from its log.
- Theorem `Caller.session_effects_le`: a caller that keeps its request carries its
  command out at most once, however often it calls.
- Theorem `Caller.session_backed`: what such a caller takes for success is the
  answer to the one time its command was carried out.
-/

namespace Idempotency

/-! ## The desk -/

/-- A service: what a command makes of its state, what it is answered, and the
answer to a key that stands for another command. -/
structure Service (σ β ρ : Type*) where
  serve : σ → β → σ × ρ
  conflict : ρ

/-- A command and the key it comes under, if it has one. -/
structure Request (κ β : Type*) where
  key : Option κ
  command : β

/-- A command that was carried out. -/
structure Entry (κ β ρ : Type*) where
  key : Option κ
  command : β
  answer : ρ

/-- The state of a service and the log of what was carried out, in which no key
stands twice. -/
structure Desk (σ κ β ρ : Type*) where
  state : σ
  log : List (Entry κ β ρ)
  unique : (log.filterMap Entry.key).Nodup

/-- A key has one entry. -/
theorem Desk.eq_of_key {σ κ β ρ : Type*} {desk : Desk σ κ β ρ} {entry other : Entry κ β ρ} {k : κ}
    (hentry : entry ∈ desk.log) (hother : other ∈ desk.log) (hkey : entry.key = some k)
    (hsame : other.key = some k) : entry = other := by
  have hpairs : desk.log.Pairwise fun first second =>
      ∀ k, first.key = some k → second.key ≠ some k :=
    (List.pairwise_filterMap.mp desk.unique).imp fun h k hfirst hsecond =>
      h k hfirst k hsecond rfl
  have hsymm : desk.log.Pairwise (flip fun first second : Entry κ β ρ =>
      first.key = some k → second.key = some k → first = second) :=
    hpairs.imp fun h hfirst hsecond => absurd hfirst (h k hsecond)
  exact List.Pairwise.forall_of_forall_of_flip (fun _ _ _ _ => rfl)
    (hpairs.imp fun h hfirst hsecond => absurd hsecond (h k hfirst)) hsymm hentry hother hkey hsame

section Records

variable {σ κ β ρ : Type*} [DecidableEq κ]

/-- The entry of a key. -/
def Desk.record (desk : Desk σ κ β ρ) (key : Option κ) : Option (Entry κ β ρ) :=
  key.bind fun k => desk.log.find? fun entry => entry.key == some k

/-- A command without a key has no entry. -/
@[simp] theorem Desk.record_none (desk : Desk σ κ β ρ) : desk.record none = none := rfl

/-- A key without an entry is one that is not in the log. -/
theorem Desk.record_eq_none_iff (desk : Desk σ κ β ρ) (k : κ) :
    desk.record (some k) = none ↔ k ∉ desk.log.filterMap Entry.key := by
  simp [record, List.find?_eq_none]

/-- An entry that is found is one of the log, under its key. -/
theorem Desk.record_eq_some {desk : Desk σ κ β ρ} {key : Option κ} {entry : Entry κ β ρ}
    (h : desk.record key = some entry) : entry ∈ desk.log ∧ entry.key = key := by
  cases key with
  | none => simp at h
  | some k =>
      have hfound : desk.log.find? (fun entry => entry.key == some k) = some entry := h
      exact ⟨List.mem_of_find?_eq_some hfound, by simpa using List.find?_some hfound⟩

/-- A key that has no entry may be entered. -/
theorem Desk.unique_append {desk : Desk σ κ β ρ} {key : Option κ}
    (h : desk.record key = none) (command : β) (answer : ρ) :
    ((desk.log ++ [Entry.mk key command answer]).filterMap Entry.key).Nodup := by
  cases key with
  | none => simpa using desk.unique
  | some k =>
      have hnew := (desk.record_eq_none_iff k).mp h
      rw [List.filterMap_append, List.nodup_append]
      refine ⟨desk.unique, by simp, ?_⟩
      rintro other hother last hlast rfl
      obtain rfl : other = k := by simpa using hlast
      exact hnew hother

/-- An entry of a longer log is found where it was. -/
theorem Desk.record_of_prefix {desk later : Desk σ κ β ρ} (h : desk.log <+: later.log)
    {key : Option κ} (hrecord : (desk.record key).isSome = true) :
    (later.record key).isSome = true := by
  cases key with
  | none => simp at hrecord
  | some k =>
      rcases h with ⟨more, hmore⟩
      rw [← Option.ne_none_iff_isSome, ne_eq, record_eq_none_iff] at hrecord ⊢
      rw [← hmore, List.filterMap_append, List.mem_append]
      exact fun hnot => hrecord fun hmem => hnot (.inl hmem)

/-- Whether a key has an entry, as a number. -/
def recorded (desk : Desk σ κ β ρ) (key : Option κ) : ℕ :=
  if (desk.record key).isSome then 1 else 0

/-- A key is recorded once at most. -/
theorem recorded_le_one (desk : Desk σ κ β ρ) (key : Option κ) : recorded desk key ≤ 1 := by
  unfold recorded
  split <;> omega

/-- It stays recorded. -/
theorem recorded_mono {desk later : Desk σ κ β ρ} (h : desk.log <+: later.log)
    (key : Option κ) : recorded desk key ≤ recorded later key := by
  unfold recorded
  by_cases hrecord : (desk.record key).isSome = true
  · rw [if_pos hrecord, if_pos (Desk.record_of_prefix h hrecord)]
  · rw [if_neg hrecord]
    exact Nat.zero_le _

end Records

section Receive

variable {σ κ β ρ : Type*} [DecidableEq κ] [DecidableEq β]

/-- Serve a request that has no entry. -/
def Desk.carryOut (desk : Desk σ κ β ρ) (service : Service σ β ρ) (request : Request κ β)
    (h : desk.record request.key = none) : Desk σ κ β ρ where
  state := (service.serve desk.state request.command).1
  log := desk.log ++ [⟨request.key, request.command,
    (service.serve desk.state request.command).2⟩]
  unique := desk.unique_append h _ _

/-- Receive a request: answer it from the log, refuse it, or carry it out. -/
def Desk.receive (desk : Desk σ κ β ρ) (service : Service σ β ρ) (request : Request κ β) :
    Desk σ κ β ρ × ρ :=
  match h : desk.record request.key with
  | some entry =>
      (desk, if entry.command = request.command then entry.answer else service.conflict)
  | none =>
      (desk.carryOut service request h, (service.serve desk.state request.command).2)

variable {desk : Desk σ κ β ρ} {service : Service σ β ρ} {request : Request κ β}

/-- A known key is answered from the log. -/
theorem Desk.receive_of_record {entry : Entry κ β ρ} (h : desk.record request.key = some entry) :
    desk.receive service request =
      (desk, if entry.command = request.command then entry.answer else service.conflict) := by
  unfold receive
  split
  · rename_i other hother
    rw [h, Option.some.injEq] at hother
    rw [hother]
  · rename_i hnone
    rw [h] at hnone
    cases hnone

/-- A new one is carried out. -/
theorem Desk.receive_of_new (h : desk.record request.key = none) :
    desk.receive service request =
      (desk.carryOut service request h, (service.serve desk.state request.command).2) := by
  unfold receive
  split
  · rename_i other hother
    rw [h] at hother
    cases hother
  · rfl

/-- A request adds to the log at most. -/
theorem Desk.log_receive (desk : Desk σ κ β ρ) (service : Service σ β ρ)
    (request : Request κ β) : desk.log <+: (desk.receive service request).1.log := by
  cases h : desk.record request.key with
  | some entry => rw [receive_of_record h]
  | none =>
      rw [receive_of_new h]
      exact ⟨_, rfl⟩

variable (desk service) in
/-- After a keyed request its key has an entry. -/
theorem Desk.record_receive {k : κ} (hkey : request.key = some k) :
    ((desk.receive service request).1.record (some k)).isSome = true := by
  cases h : desk.record request.key with
  | some entry =>
      rw [receive_of_record h, ← hkey, h]
      rfl
  | none =>
      rw [receive_of_new h, ← Option.ne_none_iff_isSome, ne_eq, record_eq_none_iff, not_not]
      simp [carryOut, hkey]

variable (desk service) in
/-- The answer to a request is a conflict, or that of an entry of its key for its
command. -/
theorem Desk.answer_receive {k : κ} (hkey : request.key = some k) :
    (desk.receive service request).2 = service.conflict ∨
      ∃ entry ∈ (desk.receive service request).1.log,
        entry.key = some k ∧ entry.command = request.command ∧
          entry.answer = (desk.receive service request).2 := by
  cases h : desk.record request.key with
  | some entry =>
      rw [receive_of_record h]
      rcases record_eq_some h with ⟨hmem, hentry⟩
      by_cases hsame : entry.command = request.command
      · right
        exact ⟨entry, hmem, hentry.trans hkey, hsame, by simp [hsame]⟩
      · left
        simp [hsame]
  | none =>
      rw [receive_of_new h]
      right
      exact ⟨_, List.mem_append_right _ (List.mem_singleton.mpr rfl), hkey, rfl, rfl⟩

end Receive

/-! ## The network -/

/-- What the network does with one attempt: the request is lost, somebody on the
way refuses it, the answer is lost, or it arrives.  What is lost shows as `seen`. -/
inductive Fate (ω ρ : Type*) where
  | lost (seen : ω)
  | refused (answer : ρ)
  | unanswered (seen : ω)
  | answered

/-- What the client sees of an attempt. -/
inductive Sight (ω ρ : Type*) where
  | silence (seen : ω)
  | answer (answer : ρ)

/-- The way of one attempt: what others ask of the desk before, and its fate. -/
structure Leg (κ β ω ρ : Type*) where
  traffic : List (Request κ β)
  fate : Fate ω ρ

variable {σ κ β ρ ω : Type*} [DecidableEq κ] [DecidableEq β]

/-- Whether the request reaches the desk. -/
def Fate.arrives : Fate ω ρ → Bool
  | .lost _ => false
  | .refused _ => false
  | .unanswered _ => true
  | .answered => true

variable (service : Service σ β ρ)

/-- Serve others. -/
def Desk.serveAll (desk : Desk σ κ β ρ) (requests : List (Request κ β)) : Desk σ κ β ρ :=
  requests.foldl (fun desk request => (desk.receive service request).1) desk

/-- One attempt: the desk after it and what the client sees. -/
def attempt (leg : Leg κ β ω ρ) (request : Request κ β) (desk : Desk σ κ β ρ) :
    Desk σ κ β ρ × Sight ω ρ :=
  let busy := desk.serveAll service leg.traffic
  match leg.fate with
  | .lost seen => (busy, .silence seen)
  | .refused answer => (busy, .answer answer)
  | .unanswered seen => ((busy.receive service request).1, .silence seen)
  | .answered => ((busy.receive service request).1, .answer (busy.receive service request).2)

/-- Whether an attempt carries its command out: it arrives and its key has no
entry. -/
def carriesOut (leg : Leg κ β ω ρ) (request : Request κ β) (desk : Desk σ κ β ρ) : Bool :=
  leg.fate.arrives && ((desk.serveAll service leg.traffic).record request.key).isNone

/-- The desk after the first attempts of a request. -/
def after (legs : ℕ → Leg κ β ω ρ) (request : Request κ β) (desk : Desk σ κ β ρ) :
    ℕ → Desk σ κ β ρ
  | 0 => desk
  | n + 1 => (attempt service (legs (n + 1)) request (after legs request desk n)).1

/-- What the client sees of an attempt; they are numbered from one. -/
def sight (legs : ℕ → Leg κ β ω ρ) (request : Request κ β) (desk : Desk σ κ β ρ) (k : ℕ) :
    Sight ω ρ :=
  (attempt service (legs k) request (after service legs request desk (k - 1))).2

/-- How often the first attempts carry their command out. -/
def effects (legs : ℕ → Leg κ β ω ρ) (request : Request κ β) (desk : Desk σ κ β ρ) : ℕ → ℕ
  | 0 => 0
  | n + 1 => effects legs request desk n +
      if carriesOut service (legs (n + 1)) request (after service legs request desk n) then 1
      else 0

section Attempts

/-- The log grows while requests are served. -/
theorem Desk.log_serveAll (desk : Desk σ κ β ρ) (requests : List (Request κ β)) :
    desk.log <+: (desk.serveAll service requests).log := by
  induction requests generalizing desk with
  | nil => exact List.prefix_refl _
  | cons request requests ih => exact (desk.log_receive service request).trans (ih _)

/-- An attempt adds to the log at most. -/
theorem log_attempt (leg : Leg κ β ω ρ) (request : Request κ β) (desk : Desk σ κ β ρ) :
    desk.log <+: (attempt service leg request desk).1.log := by
  have hbusy := desk.log_serveAll service leg.traffic
  unfold attempt
  cases leg.fate with
  | lost seen => exact hbusy
  | refused answer => exact hbusy
  | unanswered seen => exact hbusy.trans (Desk.log_receive _ _ _)
  | answered => exact hbusy.trans (Desk.log_receive _ _ _)

/-- It grows from attempt to attempt. -/
theorem log_after (legs : ℕ → Leg κ β ω ρ) (request : Request κ β) (desk : Desk σ κ β ρ)
    {m n : ℕ} (h : m ≤ n) :
    (after service legs request desk m).log <+: (after service legs request desk n).log := by
  induction n with
  | zero =>
      obtain rfl : m = 0 := Nat.le_zero.mp h
      exact List.prefix_refl _
  | succ n ih =>
      rcases Nat.lt_or_ge m (n + 1) with hlt | hge
      · exact (ih (by omega)).trans (log_attempt service _ _ _)
      · obtain rfl : m = n + 1 := by omega
        exact List.prefix_refl _

/-- A keyed attempt that carries its command out enters its key. -/
theorem carriesOut_add_recorded_le (leg : Leg κ β ω ρ) {request : Request κ β} {k : κ}
    (hkey : request.key = some k) (desk : Desk σ κ β ρ) :
    (if carriesOut service leg request desk then 1 else 0) + recorded desk request.key ≤
      recorded (attempt service leg request desk).1 request.key := by
  by_cases hcarries : carriesOut service leg request desk = true
  · have hboth := hcarries
    rw [carriesOut, Bool.and_eq_true] at hboth
    rcases hboth with ⟨harrives, hnew⟩
    have hbusy := recorded_mono (desk.log_serveAll service leg.traffic) request.key
    have hzero : recorded (desk.serveAll service leg.traffic) request.key = 0 := by
      rw [recorded, Option.isNone_iff_eq_none.mp hnew]
      rfl
    have hentered : recorded (attempt service leg request desk).1 request.key = 1 := by
      have hentry := (desk.serveAll service leg.traffic).record_receive service hkey
      unfold attempt
      cases hfate : leg.fate with
      | lost seen => simp [hfate, Fate.arrives] at harrives
      | refused answer => simp [hfate, Fate.arrives] at harrives
      | unanswered seen => simp [recorded, hkey, hentry]
      | answered => simp [recorded, hkey, hentry]
    rw [if_pos hcarries]
    omega
  · rw [if_neg hcarries, Nat.zero_add]
    exact recorded_mono (log_attempt service leg request desk) request.key

/-- The attempts of a keyed request carry their command out at most once, and not
at all if the key was known before. -/
theorem effects_add_recorded_le (legs : ℕ → Leg κ β ω ρ) {request : Request κ β} {k : κ}
    (hkey : request.key = some k) (desk : Desk σ κ β ρ) (n : ℕ) :
    effects service legs request desk n + recorded desk request.key ≤
      recorded (after service legs request desk n) request.key := by
  induction n with
  | zero => simp [effects, after]
  | succ n ih =>
      have hstep := carriesOut_add_recorded_le service (legs (n + 1)) hkey
        (after service legs request desk n)
      simp only [effects, after]
      omega

/-- Without a key every attempt that arrives is carried out. -/
theorem effects_of_unkeyed (legs : ℕ → Leg κ β ω ρ) {request : Request κ β}
    (hkey : request.key = none) (desk : Desk σ κ β ρ) (n : ℕ) :
    effects service legs request desk n =
      (List.range' 1 n).countP fun k => (legs k).fate.arrives := by
  induction n with
  | zero => rfl
  | succ n ih =>
      rw [effects, ih, List.range'_concat, List.countP_append, carriesOut, hkey,
        Desk.record_none]
      simp [List.countP_cons, Nat.add_comm 1 n]

/-- What the client gets to see of an attempt comes from somebody on the way, from
a conflict, or from an entry of its key for its command. -/
theorem answer_from_log (legs : ℕ → Leg κ β ω ρ) {request : Request κ β} {k : κ}
    (hkey : request.key = some k) (desk : Desk σ κ β ρ) {i n : ℕ} (hi : 1 ≤ i) (hn : i ≤ n)
    {answer : ρ} (hsight : sight service legs request desk i = .answer answer) :
    (legs i).fate = .refused answer ∨ answer = service.conflict ∨
      ∃ entry ∈ (after service legs request desk n).log,
        entry.key = some k ∧ entry.command = request.command ∧ entry.answer = answer := by
  obtain ⟨m, rfl⟩ : ∃ m, i = m + 1 := ⟨i - 1, by omega⟩
  have hlater := log_after service legs request desk hn
  rw [sight, Nat.add_sub_cancel] at hsight
  rw [after] at hlater
  unfold attempt at hsight hlater
  cases hfate : (legs (m + 1)).fate with
  | lost seen => simp [hfate] at hsight
  | unanswered seen => simp [hfate] at hsight
  | refused other =>
      left
      simpa [hfate] using hsight
  | answered =>
      right
      simp only [hfate] at hsight hlater
      obtain rfl := Sight.answer.inj hsight
      rcases Desk.answer_receive ((after service legs request desk m).serveAll service
        (legs (m + 1)).traffic) service hkey with hconflict | ⟨entry, hentry, hrest⟩
      · exact .inl hconflict
      · exact .inr ⟨entry, hlater.subset hentry, hrest⟩

end Attempts

/-! ## Callers that keep their request -/

/-- A caller that calls again until it is content: under which circumstances `χ` it
calls with which argument, how many attempts a call makes of what it sees and how
it ends, and whether it is to be repeated and with which argument.  A repeated call
makes the request of the first one. -/
structure Caller (χ α κ β ω ρ τ : Type*) where
  request : χ → α → Request κ β
  legs : χ → ℕ → Leg κ β ω ρ
  call : χ → α → (ℕ → Sight ω ρ) → ℕ × τ
  again : τ → Option α
  keeps : ∀ x a sights a', again (call x a sights).2 = some a' →
    ∀ x', request x' a' = request x a

/-- How a session stands: the desk, how often the command was carried out, and how
the last call ended. -/
structure Session (σ κ β ρ τ : Type*) where
  desk : Desk σ κ β ρ
  effects : ℕ
  result : τ

namespace Caller

variable {χ α τ : Type*} (c : Caller χ α κ β ω ρ τ)

/-- One call against a desk. -/
def once (x : χ) (a : α) (desk : Desk σ κ β ρ) : Session σ κ β ρ τ :=
  let ended := c.call x a (sight service (c.legs x) (c.request x a) desk)
  { desk := after service (c.legs x) (c.request x a) desk ended.1
    effects := Idempotency.effects service (c.legs x) (c.request x a) desk ended.1
    result := ended.2 }

/-- Call, and call again while the last call is to be repeated. -/
def session : χ → List χ → α → Desk σ κ β ρ → Session σ κ β ρ τ
  | x, [], a, desk => c.once service x a desk
  | x, y :: rest, a, desk =>
      let first := c.once service x a desk
      match c.again first.result with
      | some a' =>
          let later := session y rest a' first.desk
          { later with effects := first.effects + later.effects }
      | none => first

/-- A session is a call and, if that is repeated, the session after it, which makes
the same request. -/
theorem session_cons (x y : χ) (rest : List χ) (a : α) (desk : Desk σ κ β ρ) :
    c.session service x (y :: rest) a desk = c.once service x a desk ∨
      ∃ a', (∀ x', c.request x' a' = c.request x a) ∧
        c.session service x (y :: rest) a desk =
          { c.session service y rest a' (c.once service x a desk).desk with
            effects := (c.once service x a desk).effects +
              (c.session service y rest a' (c.once service x a desk).desk).effects } := by
  rw [session]
  dsimp only
  cases hagain : c.again (c.once service x a desk).result with
  | none => exact .inl rfl
  | some a' => exact .inr ⟨a', c.keeps _ _ _ _ hagain, rfl⟩

/-- A caller that keeps its keyed request carries its command out at most once,
however often it calls, and not at all if the key was known before. -/
theorem session_effects_le {x : χ} {rest : List χ} {a : α} {k : κ}
    (hkey : (c.request x a).key = some k) (desk : Desk σ κ β ρ) :
    (c.session service x rest a desk).effects + recorded desk (some k) ≤
      recorded (c.session service x rest a desk).desk (some k) := by
  induction rest generalizing x a desk with
  | nil =>
      have hfirst := effects_add_recorded_le service (c.legs x) hkey desk
      rw [hkey] at hfirst
      exact hfirst _
  | cons y rest ih =>
      have hfirst := effects_add_recorded_le service (c.legs x) hkey desk
      rw [hkey] at hfirst
      rcases c.session_cons service x y rest a desk with h | ⟨a', hsame, h⟩
      · rw [h]
        exact hfirst _
      · have hlater := ih (x := y) (a := a') (by rw [hsame, hkey])
          (c.once service x a desk).desk
        have honce := hfirst (c.call x a (sight service (c.legs x) (c.request x a) desk)).1
        rw [h]
        simp only [once] at hlater ⊢
        omega

section Backed

variable (settles : τ → Prop) (backs : ρ → Prop)

/-- A call that settles its caller is backed by an answer out of the log, if it is
backed by one of the answers it saw and nobody on the way gives such an answer. -/
theorem once_backed
    (hcall : ∀ x a sights, settles (c.call x a sights).2 → ∃ i answer,
      1 ≤ i ∧ i ≤ (c.call x a sights).1 ∧ sights i = .answer answer ∧ backs answer)
    (hway : ∀ x i answer, (c.legs x i).fate = .refused answer → ¬ backs answer)
    (hconflict : ¬ backs service.conflict) {x : χ} {a : α} {k : κ}
    (hkey : (c.request x a).key = some k) (desk : Desk σ κ β ρ)
    (hsettles : settles (c.once service x a desk).result) :
    ∃ entry ∈ (c.once service x a desk).desk.log,
      entry.key = some k ∧ entry.command = (c.request x a).command ∧ backs entry.answer := by
  rcases hcall x a _ hsettles with ⟨i, answer, hi, hn, hsight, hback⟩
  rcases answer_from_log service (c.legs x) hkey desk hi hn hsight with
    hrefused | rfl | ⟨entry, hentry, hentryKey, hcommand, rfl⟩
  · exact absurd hback (hway x i answer hrefused)
  · exact absurd hback hconflict
  · exact ⟨entry, hentry, hentryKey, hcommand, hback⟩

/-- So is a session, and the answer is the only one under its key. -/
theorem session_backed
    (hcall : ∀ x a sights, settles (c.call x a sights).2 → ∃ i answer,
      1 ≤ i ∧ i ≤ (c.call x a sights).1 ∧ sights i = .answer answer ∧ backs answer)
    (hway : ∀ x i answer, (c.legs x i).fate = .refused answer → ¬ backs answer)
    (hconflict : ¬ backs service.conflict) {x : χ} {rest : List χ} {a : α} {k : κ}
    (hkey : (c.request x a).key = some k) (desk : Desk σ κ β ρ)
    (hsettles : settles (c.session service x rest a desk).result) :
    ∃ entry ∈ (c.session service x rest a desk).desk.log,
      entry.key = some k ∧ entry.command = (c.request x a).command ∧ backs entry.answer ∧
        ∀ other ∈ (c.session service x rest a desk).desk.log,
          other.key = some k → other = entry := by
  have hbacked : ∃ entry ∈ (c.session service x rest a desk).desk.log,
      entry.key = some k ∧ entry.command = (c.request x a).command ∧ backs entry.answer := by
    induction rest generalizing x a desk with
    | nil => exact c.once_backed service settles backs hcall hway hconflict hkey desk hsettles
    | cons y rest ih =>
        rcases c.session_cons service x y rest a desk with h | ⟨a', hsame, h⟩
        · rw [h] at hsettles ⊢
          exact c.once_backed service settles backs hcall hway hconflict hkey desk hsettles
        · rw [h] at hsettles ⊢
          have hlater := ih (x := y) (a := a') (by rw [hsame, hkey]) _ hsettles
          rwa [hsame] at hlater
  obtain ⟨entry, hentry, hentryKey, hcommand, hback⟩ := hbacked
  refine ⟨entry, hentry, hentryKey, hcommand, hback, ?_⟩
  intro other hother hsame
  exact Desk.eq_of_key hother hentry hsame hentryKey

end Backed

end Caller

end Idempotency
