import Mathlib.Data.List.Basic
import Mathlib.Data.List.Forall2
import Mathlib.Tactic

/-!
# Checks that may fail

Computations in `Except` as sequences of checks: which sequence passes, and
which of its checks is the one that fails.

Main results:

- Theorems `bind_eq_ok_iff` and `bind_eq_error_iff`: one check after another.
- Theorem `accumulate_eq_ok_iff`: a loop over checked elements passes when every
  element does, and then has accumulated what they yield.
- Theorem `accumulate_eq_error_iff`: it fails as the first element does that does
  not pass.
-/

namespace Checks

universe u v

variable {ε : Type v} {α β σ : Type u}

/-- Fail with `error` unless the condition holds. -/
def require (condition : Bool) (error : ε) : Except ε Unit :=
  if condition then .ok () else .error error

@[simp] theorem require_eq_ok_iff (condition : Bool) (error : ε) (u : Unit) :
    require condition error = .ok u ↔ condition = true := by
  cases condition <;> simp [require]

@[simp] theorem require_eq_error_iff (condition : Bool) (error other : ε) :
    require condition error = .error other ↔ condition = false ∧ error = other := by
  cases condition <;> simp [require]

/-- Fail with what a check has found, if anything. -/
def report : Option ε → Except ε Unit
  | some error => .error error
  | none => .ok ()

@[simp] theorem report_eq_ok_iff (finding : Option ε) (u : Unit) :
    report finding = .ok u ↔ finding = none := by
  cases finding <;> simp [report]

/-- A sequence of two computations passes when both do. -/
theorem bind_eq_ok_iff (x : Except ε α) (f : α → Except ε β) (b : β) :
    (x >>= f) = .ok b ↔ ∃ a, x = .ok a ∧ f a = .ok b := by
  cases x <;> simp [bind, Except.bind]

/-- A sequence of two computations fails in the first, or in the second after
the first has passed. -/
theorem bind_eq_error_iff (x : Except ε α) (f : α → Except ε β) (e : ε) :
    (x >>= f) = .error e ↔ x = .error e ∨ ∃ a, x = .ok a ∧ f a = .error e := by
  cases x <;> simp [bind, Except.bind]

/-! ## Kinds of failure -/

/-- A computation that passes or fails with an error of one kind. -/
def FailsOnly (kind : ε → Prop) (x : Except ε α) : Prop := ∀ e, x = .error e → kind e

/-- A computation that fails with an error of one kind. -/
def Fails (kind : ε → Prop) (x : Except ε α) : Prop := ∃ e, x = .error e ∧ kind e

section Kinds

variable {kind : ε → Prop}

theorem failsOnly_ok (a : α) : FailsOnly kind (.ok a : Except ε α) := nofun

theorem failsOnly_error {e : ε} (h : kind e) : FailsOnly kind (.error e : Except ε α) := by
  rintro _ ⟨⟩
  exact h

theorem failsOnly_require {error : ε} (h : kind error) (condition : Bool) :
    FailsOnly kind (require condition error) := by
  intro e he
  rw [require_eq_error_iff] at he
  exact he.2 ▸ h

/-- Such a computation fails with an error of that kind, or passes. -/
theorem FailsOnly.fails_or_ok {x : Except ε α} (h : FailsOnly kind x) :
    Fails kind x ∨ ∃ a, x = .ok a := by
  cases x with
  | error e => exact .inl ⟨e, rfl, h e rfl⟩
  | ok a => exact .inr ⟨a, rfl⟩

/-- A sequence fails as one of its parts does. -/
theorem FailsOnly.bind {x : Except ε α} {f : α → Except ε β} (hx : FailsOnly kind x)
    (hf : ∀ a, x = .ok a → FailsOnly kind (f a)) : FailsOnly kind (x >>= f) := by
  intro e he
  rcases (bind_eq_error_iff x f e).mp he with h | ⟨a, ha, h⟩
  · exact hx e h
  · exact hf a ha e h

/-- A sequence whose end fails does. -/
theorem Fails.bind {x : Except ε α} {f : α → Except ε β} (hx : FailsOnly kind x)
    (hf : ∀ a, Fails kind (f a)) : Fails kind (x >>= f) := by
  cases x with
  | error e => exact ⟨e, rfl, hx e rfl⟩
  | ok a => exact hf a

end Kinds

/-! ## Loops -/

/-- A loop of checks passes when every check does. -/
theorem forM_eq_ok_iff (check : α → Except ε Unit) (xs : List α) (u : Unit) :
    forM xs check = .ok u ↔ ∀ x ∈ xs, check x = .ok () := by
  induction xs with
  | nil => simp [pure, Except.pure]
  | cons x xs ih =>
      rw [List.forM_cons, bind_eq_ok_iff, List.forall_mem_cons, ih]
      constructor
      · rintro ⟨_, hx, hrest⟩
        exact ⟨hx, hrest⟩
      · rintro ⟨hx, hrest⟩
        exact ⟨(), hx, hrest⟩

/-- A loop of checks fails as one of them does. -/
theorem failsOnly_forM {kind : ε → Prop} {check : α → Except ε Unit} {xs : List α}
    (h : ∀ x ∈ xs, FailsOnly kind (check x)) : FailsOnly kind (forM xs check) := by
  induction xs with
  | nil => exact failsOnly_ok _
  | cons x xs ih =>
      rw [List.forall_mem_cons] at h
      rw [List.forM_cons]
      exact h.1.bind fun _ _ => ih h.2

/-- A loop over elements that are checked and, if they pass, yield something to
accumulate. -/
def accumulate (check : α → Except ε β) (add : σ → β → σ) (s : σ) (xs : List α) :
    Except ε σ :=
  xs.foldlM (fun s x => do
    let y ← check x
    return add s y) s

theorem accumulate_cons (check : α → Except ε β) (add : σ → β → σ) (s : σ) (x : α)
    (xs : List α) :
    accumulate check add s (x :: xs) =
      check x >>= fun y => accumulate check add (add s y) xs := by
  rw [accumulate, List.foldlM_cons]
  cases check x <;> rfl

/-- The loop passes when every element does, and then has accumulated what they
yield. -/
theorem accumulate_eq_ok_iff (check : α → Except ε β) (add : σ → β → σ) (s result : σ)
    (xs : List α) :
    accumulate check add s xs = .ok result ↔
      ∃ ys, List.Forall₂ (fun x y => check x = .ok y) xs ys ∧ result = ys.foldl add s := by
  induction xs generalizing s with
  | nil =>
      constructor
      · intro h
        exact ⟨[], .nil, (Except.ok.inj h).symm⟩
      · rintro ⟨ys, hchecked, rfl⟩
        cases hchecked
        rfl
  | cons x xs ih =>
      rw [accumulate_cons, bind_eq_ok_iff]
      constructor
      · rintro ⟨y, hx, hrest⟩
        obtain ⟨ys, hchecked, rfl⟩ := (ih (add s y)).mp hrest
        exact ⟨y :: ys, .cons hx hchecked, rfl⟩
      · rintro ⟨ys, hchecked, rfl⟩
        cases hchecked with
        | cons hx hrest => exact ⟨_, hx, (ih _).mpr ⟨_, hrest, rfl⟩⟩

/-- The loop fails as the first element does that does not pass. -/
theorem accumulate_eq_error_iff (check : α → Except ε β) (add : σ → β → σ) (s : σ)
    (xs : List α) (e : ε) :
    accumulate check add s xs = .error e ↔
      ∃ front x back, xs = front ++ x :: back ∧ (∀ y ∈ front, ∃ b, check y = .ok b) ∧
        check x = .error e := by
  induction xs generalizing s with
  | nil => simp [accumulate, pure, Except.pure]
  | cons x xs ih =>
      rw [accumulate_cons, bind_eq_error_iff]
      constructor
      · rintro (hx | ⟨y, hx, hrest⟩)
        · exact ⟨[], x, xs, rfl, by simp, hx⟩
        · obtain ⟨front, z, back, rfl, hfront, hz⟩ := (ih (add s y)).mp hrest
          exact ⟨x :: front, z, back, rfl, List.forall_mem_cons.mpr ⟨⟨y, hx⟩, hfront⟩, hz⟩
      · rintro ⟨front, z, back, hsplit, hfront, hz⟩
        cases front with
        | nil =>
            obtain ⟨rfl, rfl⟩ := List.cons.inj hsplit
            exact .inl hz
        | cons w front =>
            obtain ⟨rfl, rfl⟩ := List.cons.inj hsplit
            obtain ⟨⟨y, hx⟩, hfront⟩ := List.forall_mem_cons.mp hfront
            exact .inr ⟨y, hx, (ih _).mpr ⟨front, z, back, rfl, hfront, hz⟩⟩

/-- A partial function passes on a list when it does on every element. -/
theorem mapM_eq_some_iff (f : α → Option β) (xs : List α) (ys : List β) :
    xs.mapM f = some ys ↔ List.Forall₂ (fun x y => f x = some y) xs ys := by
  induction xs generalizing ys with
  | nil => cases ys <;> simp
  | cons x xs ih =>
      rw [List.mapM_cons]
      cases hx : f x with
      | none =>
          constructor
          · simp
          · intro h
            cases h with
            | cons hy _ => simp [hx] at hy
      | some y =>
          cases ys with
          | nil => cases xs.mapM f <;> simp
          | cons z zs =>
              rw [List.forall₂_cons, ← ih zs, hx]
              cases xs.mapM f <;> simp

/-- Relations that agree on the elements of a list agree along it. -/
theorem forall₂_congr_mem {R S : α → β → Prop} {xs : List α}
    (h : ∀ x ∈ xs, ∀ y, R x y ↔ S x y) (ys : List β) :
    List.Forall₂ R xs ys ↔ List.Forall₂ S xs ys := by
  induction xs generalizing ys with
  | nil => cases ys <;> simp
  | cons x xs ih =>
      rw [List.forall_mem_cons] at h
      cases ys with
      | nil => simp
      | cons y ys => rw [List.forall₂_cons, List.forall₂_cons, h.1 y, ih h.2 ys]

/-- Two relations hold one after the other along lists exactly when their
composition does. -/
theorem forall₂_comp_iff {R : α → β → Prop} {S : β → σ → Prop} (xs : List α) (zs : List σ) :
    List.Forall₂ (fun x z => ∃ y, R x y ∧ S y z) xs zs ↔
      ∃ ys, List.Forall₂ R xs ys ∧ List.Forall₂ S ys zs := by
  constructor
  · intro h
    induction h with
    | nil => exact ⟨[], .nil, .nil⟩
    | cons hxz _ ih =>
        obtain ⟨y, hxy, hyz⟩ := hxz
        obtain ⟨ys, hxs, hzs⟩ := ih
        exact ⟨y :: ys, .cons hxy hxs, .cons hyz hzs⟩
  · rintro ⟨ys, hxs, hzs⟩
    induction hxs generalizing zs with
    | nil =>
        cases hzs
        exact .nil
    | cons hxy _ ih =>
        cases hzs with
        | cons hyz hrest => exact .cons ⟨_, hxy, hyz⟩ (ih _ hrest)

end Checks
