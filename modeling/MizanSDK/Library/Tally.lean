import Mathlib.Data.List.AList
import Mathlib.Tactic

/-!
# Running balances

Amounts booked under keys, one after the other, into a map of running balances.
The map exists for one question: is every balance zero at the end?  The answer
depends on the amounts under each key only, not on the map or on the order.

Main results:

- Theorem `lookup_tally`: a running balance is the opening balance plus the
  amounts booked under its key.
- Theorem `settled_tally_iff`: every balance of a map built from nothing is zero
  exactly when the amounts under each key add up to zero.
- Theorem `balancesExactly_of_iff`: a verdict that asks for balanced moves knows
  no order, accepts concatenations, and is never saved by other keys.
-/

namespace Tally

variable {κ M : Type*} [DecidableEq κ] [AddMonoid M] [DecidableEq M]

/-- The sum of the amounts booked under a key. -/
def net (k : κ) (moves : List (κ × M)) : M :=
  (moves.map fun m => if m.1 = k then m.2 else 0).sum

/-- The amounts under each key add up to zero. -/
def Balanced (moves : List (κ × M)) : Prop := ∀ k, net k moves = 0

/-- The balances of the keys that were booked so far. -/
abbrev Balances (κ M : Type*) := AList fun _ : κ => M

/-- The balance of a key; a key that was never booked has balance zero. -/
def Balances.of (balances : Balances κ M) (k : κ) : M := (balances.lookup k).getD 0

/-- Book one amount. -/
def Balances.add (balances : Balances κ M) (k : κ) (amount : M) : Balances κ M :=
  balances.insert k (balances.of k + amount)

/-- Book amounts in order. -/
def tally (balances : Balances κ M) (moves : List (κ × M)) : Balances κ M :=
  moves.foldl (fun b m => b.add m.1 m.2) balances

/-- Every booked key has balance zero. -/
def Balances.settled (balances : Balances κ M) : Bool :=
  balances.entries.all fun entry => decide (entry.2 = 0)

omit [DecidableEq M] in
@[simp] theorem net_nil (k : κ) : net k ([] : List (κ × M)) = 0 := rfl

omit [DecidableEq M] in
@[simp] theorem net_cons (k : κ) (m : κ × M) (moves : List (κ × M)) :
    net k (m :: moves) = (if m.1 = k then m.2 else 0) + net k moves := by
  simp [net]

omit [DecidableEq M] in
/-- Booking an amount changes the balance of its key only. -/
theorem Balances.of_add (balances : Balances κ M) (k k' : κ) (amount : M) :
    (balances.add k amount).of k' = balances.of k' + if k = k' then amount else 0 := by
  unfold Balances.add Balances.of
  by_cases hkey : k = k'
  · subst hkey
    simp
  · rw [AList.lookup_insert_ne (Ne.symm hkey), if_neg hkey, add_zero]

omit [DecidableEq M] in
/-- A running balance is the opening balance plus the amounts under its key. -/
theorem lookup_tally (balances : Balances κ M) (moves : List (κ × M)) (k : κ) :
    (tally balances moves).of k = balances.of k + net k moves := by
  induction moves generalizing balances with
  | nil => simp [tally]
  | cons m moves ih =>
      have hstep : tally balances (m :: moves) = tally (balances.add m.1 m.2) moves := rfl
      rw [hstep, ih, Balances.of_add, net_cons, add_assoc]

/-- All balances are zero when every booked one is. -/
theorem Balances.settled_iff (balances : Balances κ M) :
    balances.settled = true ↔ ∀ k, balances.of k = 0 := by
  unfold Balances.settled Balances.of
  rw [List.all_eq_true]
  constructor
  · intro h k
    cases hlookup : balances.lookup k with
    | none => rfl
    | some amount =>
        have hmem := AList.mem_lookup_iff.mp (Option.mem_def.mpr hlookup)
        simpa using h _ hmem
  · intro h entry hentry
    have hlookup : balances.lookup entry.1 = some entry.2 :=
      Option.mem_def.mp (AList.mem_lookup_iff.mpr hentry)
    have hzero := h entry.1
    rw [hlookup] at hzero
    simpa using hzero

/-- The balances of a map built from nothing are settled exactly when the moves
are balanced. -/
theorem settled_tally_iff (moves : List (κ × M)) :
    (tally (∅ : Balances κ M) moves).settled = true ↔ Balanced moves := by
  rw [Balances.settled_iff]
  unfold Balanced
  have hempty : ∀ k : κ, (∅ : Balances κ M).of k = 0 := fun _ => rfl
  simp only [lookup_tally, hempty, zero_add]

omit [DecidableEq M] in
@[simp] theorem net_append (k : κ) (moves more : List (κ × M)) :
    net k (moves ++ more) = net k moves + net k more := by
  simp [net]

omit [DecidableEq M] in
/-- Moves under other keys add nothing to a key. -/
theorem net_eq_zero_of_ne {k : κ} {moves : List (κ × M)} (h : ∀ m ∈ moves, m.1 ≠ k) :
    net k moves = 0 := by
  induction moves with
  | nil => rfl
  | cons m moves ih =>
      rw [List.forall_mem_cons] at h
      rw [net_cons, if_neg h.1, zero_add]
      exact ih h.2

omit [DecidableEq M] in
/-- Balanced moves after balanced moves are balanced. -/
theorem Balanced.append {moves more : List (κ × M)} (h : Balanced moves)
    (hmore : Balanced more) : Balanced (moves ++ more) := by
  intro k
  rw [net_append, h k, hmore k, add_zero]

section Renaming

variable {κ' : Type*} [DecidableEq κ'] {moves : List (κ × M)} {f : κ → κ'}

omit [DecidableEq M] [DecidableEq κ] in
/-- Moves under other keys leave a key without balance. -/
theorem net_map_eq_zero {k' : κ'} (h : ∀ m ∈ moves, f m.1 ≠ k') :
    net k' (moves.map fun m => (f m.1, m.2)) = 0 := by
  apply net_eq_zero_of_ne
  intro renamed hrenamed
  obtain ⟨m, hm, rfl⟩ := List.mem_map.mp hrenamed
  exact h m hm

omit [DecidableEq M] in
/-- Renaming keys apart keeps their balances. -/
theorem net_map {k : κ} (h : ∀ m ∈ moves, f m.1 = f k → m.1 = k) :
    net (f k) (moves.map fun m => (f m.1, m.2)) = net k moves := by
  induction moves with
  | nil => rfl
  | cons m moves ih =>
      rw [List.forall_mem_cons] at h
      rw [List.map_cons, net_cons, net_cons, ih h.2]
      by_cases hkey : m.1 = k
      · simp [hkey]
      · rw [if_neg hkey, if_neg (mt h.1 hkey)]

omit [DecidableEq M] in
/-- Moves stay balanced when their keys are renamed apart. -/
theorem balanced_map_iff (h : ∀ m ∈ moves, ∀ n ∈ moves, f m.1 = f n.1 → m.1 = n.1) :
    Balanced (moves.map fun m => (f m.1, m.2)) ↔ Balanced moves := by
  constructor
  · intro hbalanced k
    by_cases hbooked : ∃ m ∈ moves, m.1 = k
    · obtain ⟨m, hm, rfl⟩ := hbooked
      rw [← net_map fun n hn => h n hn m hm]
      exact hbalanced (f m.1)
    · have hnone : ∀ m ∈ moves, m.1 ≠ k := fun m hm hk => hbooked ⟨m, hm, hk⟩
      have hzero : net k (moves.map fun m => (id m.1, m.2)) = 0 := net_map_eq_zero hnone
      simpa using hzero
  · intro hbalanced k'
    by_cases hbooked : ∃ m ∈ moves, f m.1 = k'
    · obtain ⟨m, hm, rfl⟩ := hbooked
      rw [net_map fun n hn => h n hn m hm]
      exact hbalanced m.1
    · exact net_map_eq_zero fun m hm hk => hbooked ⟨m, hm, hk⟩

end Renaming

section Verdicts

variable {G : Type*} [AddCommMonoid G] {moves more : List (κ × G)}

/-- The sum under a key does not depend on the order. -/
theorem net_perm (h : moves.Perm more) (k : κ) : net k moves = net k more :=
  (h.map _).sum_eq

theorem Balanced.perm_iff (h : moves.Perm more) : Balanced moves ↔ Balanced more := by
  unfold Balanced
  simp only [net_perm h]

/-- A verdict on lists of items, each of which books an amount under a key: it
accepts exactly where the amounts under each key add up to zero, hence in any
order, for concatenations, and never because other keys make up for one. -/
structure BalancesExactly {π : Type*} (accepts : List π → Prop) (item : π → Prop)
    (book : π → κ × G) : Prop where
  exact : ∀ xs, (∀ x ∈ xs, item x) → (accepts xs ↔ ∀ k, net k (xs.map book) = 0)
  permuted : ∀ xs ys, (∀ x ∈ xs, item x) → xs.Perm ys → (accepts xs ↔ accepts ys)
  concatenated : ∀ xs ys, (∀ x ∈ xs, item x) → (∀ y ∈ ys, item y) →
    accepts xs → accepts ys → accepts (xs ++ ys)
  apart : ∀ xs ys k, (∀ x ∈ xs, item x) → (∀ y ∈ ys, item y ∧ (book y).1 ≠ k) →
    net k (xs.map book) ≠ 0 → ¬ accepts (xs ++ ys)

/-- The exact verdict brings the other laws with it. -/
theorem balancesExactly_of_iff {π : Type*} {accepts : List π → Prop} {item : π → Prop}
    {book : π → κ × G}
    (h : ∀ xs, (∀ x ∈ xs, item x) → (accepts xs ↔ Balanced (xs.map book))) :
    BalancesExactly accepts item book where
  exact := h
  permuted := by
    intro xs ys hxs hperm
    have hys : ∀ y ∈ ys, item y := fun y hy => hxs y (hperm.mem_iff.mpr hy)
    rw [h xs hxs, h ys hys]
    exact Balanced.perm_iff (hperm.map book)
  concatenated := by
    intro xs ys hxs hys haccepts haccepts'
    have hall : ∀ x ∈ xs ++ ys, item x := List.forall_mem_append.mpr ⟨hxs, hys⟩
    rw [h _ hall, List.map_append]
    exact ((h xs hxs).mp haccepts).append ((h ys hys).mp haccepts')
  apart := by
    intro xs ys k hxs hys hne haccepts
    have hall : ∀ x ∈ xs ++ ys, item x :=
      List.forall_mem_append.mpr ⟨hxs, fun y hy => (hys y hy).1⟩
    have hbalanced := (h _ hall).mp haccepts k
    have hother : net k (ys.map book) = 0 := by
      apply net_eq_zero_of_ne
      intro m hm
      obtain ⟨y, hy, rfl⟩ := List.mem_map.mp hm
      exact (hys y hy).2
    rw [List.map_append, net_append, hother, add_zero] at hbalanced
    exact hne hbalanced

end Verdicts

end Tally
