import Mathlib.Data.List.Basic
import Mathlib.Tactic

/-!
# Bindings that last

A store takes deliveries one after the other and accepts some of them.  Accepting
a delivery is to bind its key to what it identifies, for good: no later delivery
of that key that identifies something else is accepted.  The store itself may
keep its bindings in any form; what matters is that it can be read as a partial
map from keys that never changes an entry.

Main results:

- Theorem `Store.run_preserves`: what each delivery preserves holds after a run.
- Theorem `Keeps.bound_run`: a binding lasts over whole runs.
- Theorem `Keeps.neverRebound`: a store that binds what it accepts and keeps its
  bindings never rebinds a key.
-/

namespace Bindings

variable {σ δ κ ι : Type*}

/-- A store: how a delivery changes it, and whether it is accepted. -/
structure Store (σ δ : Type*) where
  next : σ → δ → σ
  accepts : σ → δ → Prop

/-- The state after a run of deliveries. -/
def Store.run (m : Store σ δ) (s : σ) (deliveries : List δ) : σ := deliveries.foldl m.next s

@[simp] theorem Store.run_nil (m : Store σ δ) (s : σ) : m.run s [] = s := rfl

@[simp] theorem Store.run_cons (m : Store σ δ) (s : σ) (d : δ) (deliveries : List δ) :
    m.run s (d :: deliveries) = m.run (m.next s d) deliveries := rfl

theorem Store.run_append (m : Store σ δ) (s : σ) (front back : List δ) :
    m.run s (front ++ back) = m.run (m.run s front) back := by
  simp [Store.run]

/-- Every delivery of a run meets a condition on it and the state it finds. -/
def Store.Always (m : Store σ δ) (ok : σ → δ → Prop) : σ → List δ → Prop
  | _, [] => True
  | s, d :: deliveries => ok s d ∧ m.Always ok (m.next s d) deliveries

theorem Store.always_append (m : Store σ δ) (ok : σ → δ → Prop) (s : σ)
    (front back : List δ) :
    m.Always ok s (front ++ back) ↔ m.Always ok s front ∧ m.Always ok (m.run s front) back := by
  induction front generalizing s with
  | nil => simp [Store.Always]
  | cons d front ih => simp [Store.Always, ih, and_assoc]

/-- A condition that does not look at the state holds of a run when it does of
each delivery. -/
theorem Store.always_of_forall (m : Store σ δ) {ok : σ → δ → Prop} {deliveries : List δ}
    (h : ∀ d ∈ deliveries, ∀ s, ok s d) (s : σ) : m.Always ok s deliveries := by
  induction deliveries generalizing s with
  | nil => trivial
  | cons d deliveries ih =>
      rw [List.forall_mem_cons] at h
      exact ⟨h.1 s, ih h.2 _⟩

/-- What every delivery of a run preserves holds after it. -/
theorem Store.run_preserves (m : Store σ δ) {p : σ → Prop} {ok : σ → δ → Prop}
    (h : ∀ s d, p s → ok s d → p (m.next s d)) {s : σ} {deliveries : List δ} (hs : p s)
    (hok : m.Always ok s deliveries) : p (m.run s deliveries) := by
  induction deliveries generalizing s with
  | nil => exact hs
  | cons d deliveries ih =>
      rw [Store.run_cons]
      apply ih
      · exact h s d hs hok.1
      · exact hok.2

/-- Two accepted deliveries of a run that share their key identify the same. -/
def Store.NeverRebound (m : Store σ δ) (key : δ → κ) (identity : δ → ι) (s : σ)
    (deliveries : List δ) : Prop :=
  ∀ front first middle second back,
    deliveries = front ++ first :: (middle ++ second :: back) →
    m.accepts (m.run s front) first →
    m.accepts (m.run s (front ++ first :: middle)) second →
    key first = key second → identity first = identity second

/-- A key that is never rebound to one identity is never rebound to another one
that the first determines. -/
theorem Store.NeverRebound.of_identity {m : Store σ δ} {key : δ → κ} {identity : δ → ι}
    {s : σ} {deliveries : List δ} (h : m.NeverRebound key identity s deliveries) {ι' : Type*}
    {other : δ → ι'}
    (hother : ∀ d ∈ deliveries, ∀ e ∈ deliveries, identity d = identity e → other d = other e) :
    m.NeverRebound key other s deliveries := by
  intro front first middle second back hsplit hfirst hsecond hkey
  apply hother
  · simp [hsplit]
  · simp [hsplit]
  · exact h front first middle second back hsplit hfirst hsecond hkey

/-- While an invariant and a condition on the deliveries hold, the store, read as
a partial map, keeps every entry and has one for what it accepts. -/
structure Keeps (m : Store σ δ) (inv : σ → Prop) (ok : σ → δ → Prop)
    (bound : σ → κ → Option ι) (key : δ → κ) (identity : δ → ι) : Prop where
  invariant : ∀ s d, inv s → ok s d → inv (m.next s d)
  lasts : ∀ s d k i, inv s → ok s d → bound s k = some i → bound (m.next s d) k = some i
  binds : ∀ s d, inv s → ok s d → m.accepts s d → bound (m.next s d) (key d) = some (identity d)

section Runs

variable {m : Store σ δ} {inv : σ → Prop} {ok : σ → δ → Prop} {bound : σ → κ → Option ι}
  {key : δ → κ} {identity : δ → ι}

/-- The invariant holds after a run. -/
theorem Keeps.invariant_run (h : Keeps m inv ok bound key identity) {s : σ}
    {deliveries : List δ} (hs : inv s) (hok : m.Always ok s deliveries) :
    inv (m.run s deliveries) :=
  m.run_preserves h.invariant hs hok

/-- A binding lasts over a run. -/
theorem Keeps.bound_run (h : Keeps m inv ok bound key identity) {s : σ}
    {deliveries : List δ} (hs : inv s) (hok : m.Always ok s deliveries) {k : κ} {i : ι}
    (hbound : bound s k = some i) : bound (m.run s deliveries) k = some i := by
  have hstep : ∀ s d, (inv s ∧ bound s k = some i) → ok s d →
      inv (m.next s d) ∧ bound (m.next s d) k = some i := by
    intro s d hs hd
    exact ⟨h.invariant s d hs.1 hd, h.lasts s d k i hs.1 hd hs.2⟩
  exact (m.run_preserves hstep ⟨hs, hbound⟩ hok).2

/-- A store that binds what it accepts and keeps its bindings never rebinds a
key. -/
theorem Keeps.neverRebound (h : Keeps m inv ok bound key identity) {s : σ}
    {deliveries : List δ} (hs : inv s) (hok : m.Always ok s deliveries) :
    m.NeverRebound key identity s deliveries := by
  intro front first middle second back hsplit hfirst hsecond hkey
  rw [hsplit, m.always_append] at hok
  rcases hok with ⟨hfront, hokFirst, hrest⟩
  rw [m.always_append] at hrest
  rcases hrest with ⟨hmiddle, hokSecond, -⟩
  have hinv := h.invariant_run hs hfront
  have hinvFirst := h.invariant _ _ hinv hokFirst
  -- The first delivery binds the key, and the run in between keeps the binding.
  have hbound := h.bound_run hinvFirst hmiddle (h.binds _ _ hinv hokFirst hfirst)
  have hinvMiddle := h.invariant_run hinvFirst hmiddle
  have hkept := h.lasts _ _ _ _ hinvMiddle hokSecond hbound
  rw [m.run_append, Store.run_cons] at hsecond
  have hsecondBound := h.binds _ _ hinvMiddle hokSecond hsecond
  rw [← hkey, hkept] at hsecondBound
  exact Option.some.inj hsecondBound

end Runs

end Bindings
