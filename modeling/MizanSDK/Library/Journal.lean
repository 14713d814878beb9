import MizanSDK.Library.BoundedRetry

/-!
# The journal of a retry loop

A round of a retry loop may write entries into a journal, whether it leaves the loop
or not.  A journal that has one entry for every round that is not given up tells how
many rounds there were.

Main results:

- Theorem `journal_eq_of_decides`: the journal of a decided run has the entries of the
  rounds up to the deciding one.
- Theorem `journal_of_notes`: if every round that asks for another one writes one note,
  the journal has these notes and what the deciding round writes.
- Theorem `journal_tells`: such a journal tells how many attempts a run made, and how the
  run ended.
- Theorem `journal_forall₂`: the journals of two loops that decide at the same round are
  related entry by entry if those of their rounds are.
-/

namespace BoundedRetry

variable {α β ε ρ σ ν τ : Type*}

/-- What at most `fuel` rounds numbered from `attempt` write. -/
def journal (body : ℕ → Round α ε ρ) (entries : ℕ → List ν) :
    (fuel attempt : ℕ) → List ν
  | 0, _ => []
  | fuel + 1, attempt =>
      match (body attempt).verdict with
      | .stop _ => entries attempt
      | .again _ => entries attempt ++ journal body entries fuel (attempt + 1)

theorem journal_of_stop {body : ℕ → Round α ε ρ} {entries : ℕ → List ν} {fuel k : ℕ} {r : ρ}
    (h : (body k).verdict = .stop r) : journal body entries (fuel + 1) k = entries k := by
  simp only [journal, h]

theorem journal_of_again {body : ℕ → Round α ε ρ} {entries : ℕ → List ν} {fuel k : ℕ} {e : ε}
    (h : (body k).verdict = .again e) :
    journal body entries (fuel + 1) k = entries k ++ journal body entries fuel (k + 1) := by
  simp only [journal, h]

/-- The journal of a decided run has the entries of its rounds. -/
theorem journal_eq_of_decides {body : ℕ → Round α ε ρ} {entries : ℕ → List ν} {k n j : ℕ}
    {r : ρ} (h : Decides body k n j r) :
    journal body entries n k = (List.range' k (j + 1 - k)).flatMap entries := by
  induction n generalizing k with
  | zero =>
      have hle := h.le
      have hlt := h.lt
      omega
  | succ n ih =>
      rcases Nat.eq_or_lt_of_le h.le with rfl | hlt
      · have hone : k + 1 - k = 1 := by omega
        rw [journal_of_stop h.stop, hone]
        simp
      · have hagain := h.reaches k le_rfl hlt
        cases hk : (body k).verdict with
        | stop r' => simp [hk] at hagain
        | again e =>
            have htail : Decides body (k + 1) n j r :=
              ⟨hlt, by have := h.lt; omega, fun i hi hij => h.reaches i (by omega) hij, h.stop⟩
            have hcount : j + 1 - k = (j + 1 - (k + 1)) + 1 := by omega
            rw [journal_of_again hk, ih htail, hcount, List.range'_succ, List.flatMap_cons]

/-- If every round that asks for another one writes its note, the journal consists of
these notes and of what the deciding round writes. -/
theorem journal_of_notes {body : ℕ → Round α ε ρ} {entries : ℕ → List ν} {note : ℕ → ν}
    {k n j : ℕ} {r : ρ} (h : Decides body k n j r)
    (hnotes : ∀ i, (body i).verdict.isAgain = true → entries i = [note i]) :
    journal body entries n k = (List.range' k (j - k)).map note ++ entries j := by
  have hcount : j + 1 - k = (j - k) + 1 := by have := h.le; omega
  have hlast : k + (j - k) = j := by have := h.le; omega
  rw [journal_eq_of_decides h, hcount, List.range'_1_concat, List.flatMap_append, hlast]
  congr 1
  · rw [List.map_eq_flatMap]
    apply List.flatMap_congr
    intro i hi
    rw [List.mem_range'_1] at hi
    exact hnotes i (h.reaches i hi.1 (by omega))
  · simp

/-- What a journal tells of a run: a note for every attempt after which the loop went on or
was left (`left`) on its way to another one, and then what closes a run of that many attempts
with that result. -/
def Tells (left : ρ → Bool) (note : ℕ → ν) (closing : ℕ → ρ → List ν → Prop) (run : Run α ρ)
    (log : List ν) : Prop :=
  ∃ last, log = (List.range' 1 (run.attempts.length - if left run.result then 0 else 1)).map
      note ++ last ∧ closing run.attempts.length run.result last

/-- An empty journal tells a run without attempts. -/
theorem tells_unsent {left : ρ → Bool} {note : ℕ → ν} {closing : ℕ → ρ → List ν → Prop}
    {run : Run α ρ} (hattempts : run.attempts = []) (hclosing : closing 0 run.result []) :
    Tells left note closing run [] := by
  refine ⟨[], ?_, ?_⟩
  · rw [hattempts]
    simp
  · rwa [hattempts]

/-- The journal of a decided run tells it, if a round that asks for another one writes its
note, and the deciding round either does so too and leaves the loop, or closes it. -/
theorem journal_tells {δ : Type*} {body : ℕ → Round δ ε ρ} {entries : ℕ → List ν}
    {left : ρ → Bool} {note : ℕ → ν} {closing : ℕ → ρ → List ν → Prop} {run : Run α ρ} {n : ℕ}
    (h : Decides body 1 n run.attempts.length run.result)
    (hnotes : ∀ i, (body i).verdict.isAgain = true → entries i = [note i])
    (hlast : (left run.result = true ∧
        entries run.attempts.length = [note run.attempts.length] ∧
        closing run.attempts.length run.result []) ∨
      (left run.result = false ∧
        closing run.attempts.length run.result (entries run.attempts.length))) :
    Tells left note closing run (journal body entries n 1) := by
  rw [journal_of_notes h hnotes]
  rcases hlast with ⟨hleft, hnote, hclosing⟩ | ⟨hleft, hclosing⟩
  · refine ⟨[], ?_, hclosing⟩
    have hcount : run.attempts.length - 1 + 1 = run.attempts.length := by
      have := h.le
      omega
    have hend : 1 + (run.attempts.length - 1) = run.attempts.length := by omega
    rw [hnote, hleft, if_pos rfl, Nat.sub_zero, List.append_nil]
    conv_rhs => rw [← hcount, List.range'_1_concat, List.map_append, List.map_singleton, hend]
  · refine ⟨entries run.attempts.length, ?_, hclosing⟩
    rw [hleft]
    rfl

/-- Loops with the same verdicts decide alike. -/
theorem Decides.congr {body : ℕ → Round α ε ρ} {body' : ℕ → Round β ε ρ} {k n j : ℕ} {r : ρ}
    (h : Decides body k n j r) (hsame : ∀ i, (body' i).verdict = (body i).verdict) :
    Decides body' k n j r := by
  refine ⟨h.le, h.lt, fun i hi hij => ?_, by rw [hsame, h.stop]⟩
  rw [hsame]
  exact h.reaches i hi hij

/-- The journals of two loops that decide at the same round are related if the entries
of their rounds are. -/
theorem journal_forall₂ {δ : Type*} {R : ν → τ → Prop} {body : ℕ → Round α ε ρ}
    {body' : ℕ → Round δ β σ} {entries : ℕ → List ν} {entries' : ℕ → List τ} {k n j : ℕ} {r : ρ}
    {s : σ} (h : Decides body k n j r) (h' : Decides body' k n j s)
    (hentries : ∀ i, k ≤ i → i ≤ j → List.Forall₂ R (entries i) (entries' i)) :
    List.Forall₂ R (journal body entries n k) (journal body' entries' n k) := by
  rw [journal_eq_of_decides h, journal_eq_of_decides h']
  have hrange : ∀ i ∈ List.range' k (j + 1 - k), k ≤ i ∧ i ≤ j := by
    intro i hi
    rw [List.mem_range'_1] at hi
    omega
  generalize List.range' k (j + 1 - k) = rounds at hrange ⊢
  induction rounds with
  | nil => exact .nil
  | cons i rest ih =>
      rw [List.flatMap_cons, List.flatMap_cons]
      have hi := hrange i List.mem_cons_self
      exact List.rel_append (hentries i hi.1 hi.2)
        (ih fun m hm => hrange m (List.mem_cons_of_mem _ hm))

end BoundedRetry
