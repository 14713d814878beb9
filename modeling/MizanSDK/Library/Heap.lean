import Mathlib.Data.List.Basic
import Mathlib.Tactic

/-!
# Computations with cells in memory

Cells have addresses and are never freed.  A computation may allocate cells, read
them and write to them, and it may fail.  It is compared with a computation on
values, and the cells that were there before with themselves.

Main results:

- Theorem `Simulates.bind`: simulations compose.
- Theorems `simulates_new`, `simulates_update` and `simulates_load`: what the
  operations do on cells of one's own.
- Theorem `Simulates.result`: a simulated run yields what the values say and leaves
  the base alone.
-/

namespace Heap

variable {C : Type} {ε : Type} {A : Type} {B : Type} {A' : Type} {B' : Type}

/-- The address of a cell. -/
abbrev Ref := ℕ

/-- A computation with cells in memory that may fail. -/
abbrev Action (C ε A : Type) := ExceptT ε (StateM (List C)) A

/-- Allocate a cell. -/
def new (v : C) : Action C ε Ref := fun cells => (.ok cells.length, cells ++ [v])

/-- The content of a cell, or nothing for a nil pointer. -/
def load (source : Option Ref) : Action C ε (Option C) := fun cells =>
  (.ok (source.bind (cells[·]?)), cells)

/-- Write to a cell. -/
def update (p : Ref) (f : C → C) : Action C ε Unit := fun cells => (.ok (), cells.modify p f)

/-- A check that does not look into memory. -/
def check (x : Except ε A) : Action C ε A := fun cells => (x, cells)

/-- Outcomes that agree: the same failure, or related results. -/
inductive Agree (R : A → B → Prop) : Except ε A → Except ε B → Prop where
  | ok {a : A} {b : B} (h : R a b) : Agree R (.ok a) (.ok b)
  | error (e : ε) : Agree R (.error e) (.error e)

/-- From memory that extends the base and satisfies `P`, the computation leaves the base
alone and agrees with a value. -/
def Simulates (base : List C) (P : List C → Prop) (m : Action C ε A) (x : Except ε B)
    (R : A → B → List C → Prop) : Prop :=
  ∀ cells, base <+: cells → P cells →
    base <+: (m cells).2 ∧ Agree (fun a b => R a b (m cells).2) (m cells).1 x

/-- A cell of one's own with this content. -/
def Owns (base : List C) (p : Ref) (v : C) (cells : List C) : Prop :=
  base.length ≤ p ∧ cells[p]? = some v

section Rules

variable {base : List C} {P : List C → Prop}

theorem bind_apply (m : Action C ε A) (k : A → Action C ε A') (cells : List C) :
    (m >>= k) cells =
      match m cells with
      | (.ok a, after) => k a after
      | (.error e, after) => (.error e, after) := by
  change ExceptT.bind m k cells = _
  rcases hm : m cells with ⟨outcome, after⟩
  cases outcome with
  | ok a => simp [ExceptT.bind, ExceptT.mk, ExceptT.bindCont, bind, StateT.bind, hm]
  | error e =>
      simp only [ExceptT.bind, ExceptT.mk, ExceptT.bindCont, bind, StateT.bind, hm]
      rfl

/-- Simulations compose. -/
theorem Simulates.bind {m : Action C ε A} {x : Except ε B} {R : A → B → List C → Prop}
    {k : A → Action C ε A'} {f : B → Except ε B'} {S : A' → B' → List C → Prop}
    (hm : Simulates base P m x R) (hk : ∀ a b, Simulates base (R a b) (k a) (f b) S) :
    Simulates base P (m >>= k) (x >>= f) S := by
  intro cells hbase hP
  rcases hm cells hbase hP with ⟨hafter, hagree⟩
  rw [bind_apply]
  rcases hrun : m cells with ⟨outcome, after⟩
  rw [hrun] at hafter hagree
  cases hagree with
  | error e => exact ⟨hafter, .error e⟩
  | ok hR => exact hk _ _ after hafter hR

/-- A step that the value does without. -/
theorem Simulates.step {m : Action C ε A} {b : B} {R : A → B → List C → Prop}
    {k : A → Action C ε A'} {y : Except ε B'} {S : A' → B' → List C → Prop}
    (hm : Simulates base P m (.ok b) R) (hk : ∀ a, Simulates base (R a b) (k a) y S) :
    Simulates base P (m >>= k) y S := by
  intro cells hbase hP
  rcases hm cells hbase hP with ⟨hafter, hagree⟩
  rw [bind_apply]
  rcases hrun : m cells with ⟨outcome, after⟩
  rw [hrun] at hafter hagree
  cases hagree with
  | ok hR => exact hk _ after hafter hR

/-- A step that reads what the value says. -/
theorem Simulates.step_eq {m : Action C ε A} {a : A} {Q : List C → Prop} {k : A → Action C ε A'}
    {y : Except ε B'} {S : A' → B' → List C → Prop}
    (hm : Simulates base P m (.ok a) fun b c cells => b = c ∧ Q cells)
    (hk : Simulates base Q (k a) y S) : Simulates base P (m >>= k) y S := by
  apply hm.step
  intro b cells hbase h
  rw [h.1]
  exact hk cells hbase h.2

/-- Steps with the same result. -/
theorem Simulates.bind_eq {m : Action C ε A} {x : Except ε A} {Q : List C → Prop}
    {k : A → Action C ε A'} {f : A → Except ε B'} {S : A' → B' → List C → Prop}
    (hm : Simulates base P m x fun a b cells => a = b ∧ Q cells)
    (hk : ∀ a, Simulates base Q (k a) (f a) S) : Simulates base P (m >>= k) (x >>= f) S := by
  apply hm.bind
  intro a b cells hbase h
  rw [h.1]
  exact hk b cells hbase h.2

theorem simulates_pure {a : A} {b : B} {R : A → B → List C → Prop}
    (h : ∀ cells, P cells → R a b cells) :
    Simulates base P (pure a : Action C ε A) (.ok b) R :=
  fun cells hbase hP => ⟨hbase, .ok (h cells hP)⟩

/-- A check is the same for both. -/
theorem simulates_check (x : Except ε A) :
    Simulates base P (check x : Action C ε A) x fun a b cells => a = b ∧ P cells := by
  intro cells hbase hP
  refine ⟨hbase, ?_⟩
  change Agree _ x x
  cases x with
  | error e => exact .error e
  | ok a => exact .ok ⟨rfl, hP⟩

theorem simulates_new (v : C) :
    Simulates base P (new v : Action C ε Ref) (.ok v) fun p w cells => Owns base p w cells := by
  intro cells hbase _
  refine ⟨hbase.trans (List.prefix_append cells [v]), .ok ⟨hbase.length_le, ?_⟩⟩
  exact List.getElem?_concat_length

theorem simulates_load_own {p : Ref} {v : C} (hP : ∀ cells, P cells → Owns base p v cells) :
    Simulates base P (load (some p) : Action C ε (Option C)) (.ok (some v))
      fun a b cells => a = b ∧ Owns base p v cells :=
  fun cells hbase h => ⟨hbase, .ok ⟨(hP cells h).2, hP cells h⟩⟩

/-- What the base holds is read from it. -/
theorem simulates_load {source : Option Ref} (hsource : ∀ p ∈ source, p < base.length) :
    Simulates base P (load source : Action C ε (Option C)) (.ok (source.bind (base[·]?)))
      fun a b cells => a = b ∧ P cells := by
  intro cells hbase hP
  refine ⟨hbase, .ok ⟨?_, hP⟩⟩
  cases source with
  | none => rfl
  | some p =>
      have hp : p < base.length := hsource p rfl
      change cells[p]? = base[p]?
      rw [List.getElem?_eq_getElem hp]
      exact List.prefix_iff_getElem?.mp hbase p hp

/-- Cells of one's own are not in the base. -/
theorem prefix_modify {cells : List C} (hbase : base <+: cells) {p : Ref} (hp : base.length ≤ p)
    (f : C → C) : base <+: cells.modify p f := by
  rw [List.prefix_iff_getElem?] at hbase ⊢
  intro i hi
  have hne : p ≠ i := Nat.ne_of_gt (lt_of_lt_of_le hi hp)
  rw [List.getElem?_modify_ne f cells hne]
  exact hbase i hi

theorem simulates_update {p : Ref} {v : C} (f : C → C)
    (hP : ∀ cells, P cells → Owns base p v cells) :
    Simulates base P (update p f : Action C ε Unit) (.ok (f v))
      fun _ w cells => Owns base p w cells := by
  intro cells hbase h
  have howns := hP cells h
  refine ⟨prefix_modify hbase howns.1 f, .ok ⟨howns.1, ?_⟩⟩
  change (cells.modify p f)[p]? = some (f v)
  rw [List.getElem?_modify_eq, howns.2]
  rfl

/-- A simulated run yields what the values say. -/
theorem Simulates.result {m : Action C ε A} {x : Except ε B} {R : A → B → List C → Prop}
    (h : Simulates base (fun _ => True) m x R) {a : A} (ha : (m base).1 = .ok a) :
    ∃ b, x = .ok b ∧ R a b (m base).2 := by
  have hagree := (h base List.prefix_rfl trivial).2
  rw [ha] at hagree
  cases hagree with
  | ok hR => exact ⟨_, rfl, hR⟩

/-- It leaves the base alone, whether it fails or not. -/
theorem Simulates.keeps {m : Action C ε A} {x : Except ε B} {R : A → B → List C → Prop}
    (h : Simulates base (fun _ => True) m x R) : base <+: (m base).2 :=
  (h base List.prefix_rfl trivial).1

end Rules

end Heap
