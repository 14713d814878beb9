import Mathlib.Data.List.Range
import Mathlib.Tactic

/-!
# Bounded retry loops

A counted loop whose body may hand one item to the outside world and then
either leaves the loop with a result or asks for another round.  The loop keeps
every item it handed over, in order, and carries the error of the latest round
so that the statement after the loop can use it.

The central notion is the *deciding round*: the first round that leaves the
loop.  Everything the loop sent and everything it returned is read off that
round, so a property of a run reduces to a property of one body.

Main results:

- Theorem `loop_eq_of_decides`: the deciding round fixes the items and the
  result of a run.
- Theorem `exists_decides`: a loop whose last round leaves has a deciding
  round, so the statement after the loop is not reached.
- Theorem `Decides.continues_iff`: a further round is made exactly when the
  current one asks for it.
- Theorem `loop_agree_iff`: two loops send equally many items and return
  related results exactly when they agree on every round both of them reach.
-/

namespace BoundedRetry

variable {α β ε ρ σ : Type*}

/-- What one round of the loop decides. -/
inductive Verdict (ε ρ : Type*) where
  | stop (result : ρ)
  | again (err : ε)

/-- Whether a verdict asks for another round. -/
def Verdict.isAgain : Verdict ε ρ → Bool
  | .stop _ => false
  | .again _ => true

@[simp] theorem Verdict.isAgain_stop (r : ρ) :
    (Verdict.stop r : Verdict ε ρ).isAgain = false := rfl

@[simp] theorem Verdict.isAgain_again (e : ε) :
    (Verdict.again e : Verdict ε ρ).isAgain = true := rfl

/-- One round: the item it handed over, if it came that far, and its verdict. -/
structure Round (α ε ρ : Type*) where
  sent : Option α
  verdict : Verdict ε ρ

/-- A finished loop: the items handed over in order and the returned value. -/
structure Run (α ρ : Type*) where
  attempts : List α
  result : ρ

/-- Run at most `fuel` rounds numbered from `attempt`.  `exhausted` is the
statement after the loop; it sees the error of the latest round. -/
def loop (body : ℕ → Round α ε ρ) (exhausted : Option ε → ρ) :
    (fuel attempt : ℕ) → (last : Option ε) → Run α ρ
  | 0, _, last => ⟨[], exhausted last⟩
  | fuel + 1, attempt, _ =>
      match (body attempt).verdict with
      | .stop r => ⟨(body attempt).sent.toList, r⟩
      | .again e =>
          let rest := loop body exhausted fuel (attempt + 1) (some e)
          ⟨(body attempt).sent.toList ++ rest.attempts, rest.result⟩

theorem loop_of_stop {body : ℕ → Round α ε ρ} {exhausted : Option ε → ρ}
    {fuel k : ℕ} {last : Option ε} {r : ρ} (h : (body k).verdict = .stop r) :
    loop body exhausted (fuel + 1) k last = ⟨(body k).sent.toList, r⟩ := by
  simp only [loop, h]

theorem loop_of_again {body : ℕ → Round α ε ρ} {exhausted : Option ε → ρ}
    {fuel k : ℕ} {last : Option ε} {e : ε} (h : (body k).verdict = .again e) :
    loop body exhausted (fuel + 1) k last =
      ⟨(body k).sent.toList ++ (loop body exhausted fuel (k + 1) (some e)).attempts,
        (loop body exhausted fuel (k + 1) (some e)).result⟩ := by
  simp only [loop, h]

/-! ## Deciding rounds -/

/-- Every round from `k` up to but not including `j` asks for another one. -/
def Reaches (body : ℕ → Round α ε ρ) (k j : ℕ) : Prop :=
  ∀ i, k ≤ i → i < j → (body i).verdict.isAgain = true

/-- Round `j` is the first of the `n` rounds numbered from `k` that leaves the
loop, and it returns `r`. -/
structure Decides (body : ℕ → Round α ε ρ) (k n j : ℕ) (r : ρ) : Prop where
  le : k ≤ j
  lt : j < k + n
  reaches : Reaches body k j
  stop : (body j).verdict = .stop r

theorem Reaches.refl (body : ℕ → Round α ε ρ) (k : ℕ) : Reaches body k k :=
  fun _ hki hik => absurd hik (Nat.not_lt.mpr hki)

theorem Reaches.mono {body : ℕ → Round α ε ρ} {k i j : ℕ}
    (h : Reaches body k j) (hij : i ≤ j) : Reaches body k i :=
  fun m hkm hmi => h m hkm (lt_of_lt_of_le hmi hij)

/-- Reaching one round further means that the current round asks for it. -/
theorem Reaches.succ {body : ℕ → Round α ε ρ} {k j : ℕ} (h : Reaches body k j)
    (hj : (body j).verdict.isAgain = true) : Reaches body k (j + 1) := by
  intro i hki hij
  rcases Nat.lt_succ_iff_lt_or_eq.mp hij with hlt | rfl
  · exact h i hki hlt
  · exact hj

/-- No reached round lies behind the deciding one. -/
theorem Decides.le_of_reaches {body : ℕ → Round α ε ρ} {k n j i : ℕ} {r : ρ}
    (h : Decides body k n j r) (hi : Reaches body k i) : i ≤ j := by
  by_contra hlt
  have hagain := hi j h.le (Nat.lt_of_not_le hlt)
  rw [h.stop] at hagain
  simp at hagain

/-- A reached round that leaves the loop is the deciding one. -/
theorem Decides.eq_of_stop {body : ℕ → Round α ε ρ} {k n j i : ℕ} {r r' : ρ}
    (h : Decides body k n j r) (hki : k ≤ i) (hi : Reaches body k i)
    (hstop : (body i).verdict = .stop r') : i = j ∧ r' = r := by
  have hle : i ≤ j := h.le_of_reaches hi
  have hge : j ≤ i := by
    by_contra hlt
    have hagain := h.reaches i hki (Nat.lt_of_not_le hlt)
    rw [hstop] at hagain
    simp at hagain
  obtain rfl : i = j := le_antisymm hle hge
  have hsame : (Verdict.stop r' : Verdict ε ρ) = .stop r := hstop.symm.trans h.stop
  exact ⟨rfl, by simpa using hsame⟩

/-- A round that was made is followed by another one exactly when it asks for it. -/
theorem Decides.continues_iff {body : ℕ → Round α ε ρ} {k n j i : ℕ} {r : ρ}
    (h : Decides body k n j r) (hki : k ≤ i) (hij : i ≤ j) :
    i + 1 ≤ j ↔ (body i).verdict.isAgain = true := by
  constructor
  · exact fun hmore => h.reaches i hki hmore
  · intro hagain
    have hne : i ≠ j := by
      rintro rfl
      rw [h.stop] at hagain
      simp at hagain
    omega

/-- If the last admissible round leaves the loop, some round decides it. -/
theorem exists_decides {body : ℕ → Round α ε ρ} {k n : ℕ} (hn : 0 < n)
    (hlast : (body (k + n - 1)).verdict.isAgain = false) :
    ∃ j r, Decides body k n j r := by
  induction n generalizing k with
  | zero => omega
  | succ n ih =>
      cases hk : (body k).verdict with
      | stop r =>
          exact ⟨k, r, le_rfl, by omega, Reaches.refl body k, hk⟩
      | again e =>
          have hpos : 0 < n := by
            rcases Nat.eq_zero_or_pos n with rfl | hpos
            · simp [hk] at hlast
            · exact hpos
          have hlast' : (body (k + 1 + n - 1)).verdict.isAgain = false := by
            simpa [Nat.add_right_comm] using hlast
          obtain ⟨j, r, h⟩ := ih hpos hlast'
          refine ⟨j, r, by have := h.le; omega, by have := h.lt; omega, ?_, h.stop⟩
          intro i hki hij
          rcases Nat.eq_or_lt_of_le hki with rfl | hlt
          · simp [hk]
          · exact h.reaches i hlt hij

/-- The deciding round fixes a run: the items are those of the rounds up to it
and the result is the one it returns. -/
theorem loop_eq_of_decides {body : ℕ → Round α ε ρ} {exhausted : Option ε → ρ}
    {k n j : ℕ} {r : ρ} (h : Decides body k n j r) (last : Option ε) :
    loop body exhausted n k last =
      ⟨(List.range' k (j + 1 - k)).filterMap (fun i => (body i).sent), r⟩ := by
  induction n generalizing k last with
  | zero =>
      have hle := h.le
      have hlt := h.lt
      omega
  | succ n ih =>
      rcases Nat.eq_or_lt_of_le h.le with rfl | hlt
      · rw [loop_of_stop h.stop]
        have hone : k + 1 - k = 1 := by omega
        cases hsent : (body k).sent <;> simp [hone, hsent]
      · have hagain := h.reaches k le_rfl hlt
        cases hk : (body k).verdict with
        | stop r' => simp [hk] at hagain
        | again e =>
            have htail : Decides body (k + 1) n j r :=
              ⟨hlt, by have := h.lt; omega,
                fun i hi hij => h.reaches i (by omega) hij, h.stop⟩
            have hcount : j + 1 - k = (j + 1 - (k + 1)) + 1 := by omega
            rw [loop_of_again hk, ih htail, hcount, List.range'_succ]
            cases hsent : (body k).sent <;> simp [hsent]

/-! ## Loops whose rounds all hand something over -/

/-- The items of a decided run whose rounds all hand something over. -/
theorem attempts_eq_map {body : ℕ → Round α ε ρ} {exhausted : Option ε → ρ}
    {emit : ℕ → α} {k n j : ℕ} {r : ρ} (hsent : ∀ i, (body i).sent = some (emit i))
    (h : Decides body k n j r) (last : Option ε) :
    (loop body exhausted n k last).attempts =
      (List.range' k (j + 1 - k)).map emit := by
  rw [loop_eq_of_decides h]
  simp [hsent]

/-- A decided run hands over one item for each round up to the deciding one. -/
theorem attempts_length {body : ℕ → Round α ε ρ} {exhausted : Option ε → ρ}
    {emit : ℕ → α} {k n j : ℕ} {r : ρ} (hsent : ∀ i, (body i).sent = some (emit i))
    (h : Decides body k n j r) (last : Option ε) :
    (loop body exhausted n k last).attempts.length = j + 1 - k := by
  simp [attempts_eq_map hsent h]

/-! ## Comparing two loops -/

/-- Two verdicts agree when both ask for another round, or both leave with
related results. -/
def Verdict.Agree (R : ρ → σ → Prop) : Verdict ε ρ → Verdict β σ → Prop
  | .again _, .again _ => True
  | .stop r, .stop s => R r s
  | _, _ => False

theorem Verdict.Agree.isAgain_eq {R : ρ → σ → Prop} {v : Verdict ε ρ} {w : Verdict β σ}
    (h : Verdict.Agree R v w) : v.isAgain = w.isAgain := by
  cases v <;> cases w <;> simp_all [Verdict.Agree]

/-- Two decided loops leave at the same round with related results exactly when
their verdicts agree on every round that both of them reach.  What it means for
results to be related may depend on the round. -/
theorem decides_agree_iff {δ : Type*} {R : ℕ → ρ → σ → Prop} {b : ℕ → Round α ε ρ}
    {b' : ℕ → Round δ β σ} {k n j j' : ℕ} {r : ρ} {s : σ}
    (h : Decides b k n j r) (h' : Decides b' k n j' s) :
    (j = j' ∧ R j r s) ↔
      ∀ i, k ≤ i → i < k + n → Reaches b k i → Reaches b' k i →
        Verdict.Agree (R i) (b i).verdict (b' i).verdict := by
  constructor
  · rintro ⟨rfl, hR⟩ i hki hin hi hi'
    have hij : i ≤ j := h.le_of_reaches hi
    rcases Nat.eq_or_lt_of_le hij with rfl | hlt
    · simpa [Verdict.Agree, h.stop, h'.stop] using hR
    · have hb := h.reaches i hki hlt
      have hb' := h'.reaches i hki hlt
      cases hv : (b i).verdict <;> cases hw : (b' i).verdict <;>
        simp_all [Verdict.Agree]
  · intro hagree
    -- The earlier of the two deciding rounds is reached by both loops.
    have hmin : ∀ i, k ≤ i → i ≤ j → i ≤ j' →
        Verdict.Agree (R i) (b i).verdict (b' i).verdict := fun i hki hij hij' =>
      hagree i hki (lt_of_le_of_lt hij h.lt) (h.reaches.mono hij) (h'.reaches.mono hij')
    have hjj' : j = j' := by
      rcases Nat.lt_trichotomy j j' with hlt | heq | hgt
      · have hsame := (hmin j h.le le_rfl hlt.le).isAgain_eq
        rw [h.stop, h'.reaches j h.le hlt] at hsame
        simp at hsame
      · exact heq
      · have hsame := (hmin j' h'.le hgt.le le_rfl).isAgain_eq
        rw [h'.stop, h.reaches j' h'.le hgt] at hsame
        simp at hsame
    subst hjj'
    refine ⟨rfl, ?_⟩
    simpa [Verdict.Agree, h.stop, h'.stop] using hmin j h.le le_rfl le_rfl

/-- Two loops of rounds numbered from one that hand over something in every
round send equally many items and return related results exactly when they agree
wherever both arrive. -/
theorem loop_agree_iff {δ : Type*} (R : ℕ → ρ → σ → Prop) {b : ℕ → Round α ε ρ}
    {b' : ℕ → Round δ β σ} {ex : Option ε → ρ} {ex' : Option β → σ}
    {emit : ℕ → α} {emit' : ℕ → δ} {n j j' : ℕ} {r : ρ} {s : σ}
    (hsent : ∀ i, (b i).sent = some (emit i))
    (hsent' : ∀ i, (b' i).sent = some (emit' i))
    (h : Decides b 1 n j r) (h' : Decides b' 1 n j' s) :
    ((loop b ex n 1 none).attempts.length = (loop b' ex' n 1 none).attempts.length ∧
        R (loop b ex n 1 none).attempts.length (loop b ex n 1 none).result
          (loop b' ex' n 1 none).result) ↔
      ∀ i, 1 ≤ i → i < 1 + n → Reaches b 1 i → Reaches b' 1 i →
        Verdict.Agree (R i) (b i).verdict (b' i).verdict := by
  rw [← decides_agree_iff h h', attempts_length hsent h, attempts_length hsent' h',
    loop_eq_of_decides h, loop_eq_of_decides h']
  simp only [Nat.add_sub_cancel]

end BoundedRetry
