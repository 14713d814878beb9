import MizanSDK.Library.LastWins

/-!
# Slices that keep their memory

A slice has a length and a memory that may reach behind it.  An array that is decoded into a
slice writes each of its items into the element of the memory in the same place, whatever is
left there from arrays before, and takes zero elements where the memory ends.  An array
without items makes a new slice.

Main results:

- Theorem `fill_nil`: into no memory the items are decoded each on its own.
- Theorem `refill_slot`: what an element receives from an array.
- Theorem `Slice.elems_eq`: slices are compared element by element.
-/

namespace Slices

open LastWins

/-- The elements within the length, and those of the memory behind them. -/
structure Slice (A : Type*) where
  elems : List A
  spare : List A

variable {V W A B : Type*}

namespace Slice

/-- The slice without memory. -/
def empty : Slice A := ⟨[], []⟩

/-- Its whole memory. -/
def memory (s : Slice A) : List A := s.elems ++ s.spare

/-- The element of the memory in a place, and zero behind its end. -/
def slot (zero : A) (s : Slice A) (place : ℕ) : A := s.memory.getD place zero

/-- A function on each element of the memory. -/
def map (f : A → B) (s : Slice A) : Slice B := ⟨s.elems.map f, s.spare.map f⟩

/-- The memory of a slice is translated with it. -/
theorem memory_map (f : A → B) (s : Slice A) : (s.map f).memory = s.memory.map f :=
  List.map_append.symm

/-- A slice that is translated twice. -/
theorem map_map {C : Type*} (f : A → B) (g : B → C) (s : Slice A) :
    (s.map f).map g = s.map (g ∘ f) := by
  rw [map, map, map, List.map_map, List.map_map]

/-- Functions that agree on the elements make the same of them. -/
theorem map_congr {f g : A → B} {s : Slice A} (h : ∀ a ∈ s.memory, f a = g a) :
    s.map f = s.map g := by
  have helems : s.elems.map f = s.elems.map g :=
    List.map_congr_left fun a ha => h a (List.mem_append_left _ ha)
  have hspare : s.spare.map f = s.spare.map g :=
    List.map_congr_left fun a ha => h a (List.mem_append_right _ ha)
  rw [map, map, helems, hspare]

/-- Translations of a slice are equal if they agree on its memory. -/
theorem map_eq_iff {f g : A → B} {s : Slice A} :
    s.map f = s.map g ↔ ∀ a ∈ s.memory, f a = g a := by
  refine ⟨fun h => ?_, map_congr⟩
  have hmemory := congrArg memory h
  rw [memory_map, memory_map] at hmemory
  exact List.map_inj_left.mp hmemory

/-- Within the slice the slot of a place is its element. -/
theorem slot_eq_getElem {zero : A} {s : Slice A} {place : ℕ} (h : place < s.elems.length) :
    s.slot zero place = s.elems[place] := by
  rw [slot, memory, List.getD_eq_getElem?_getD, List.getElem?_append_left h,
    List.getElem?_eq_getElem h, Option.getD_some]

/-- Slices of one length have the same elements if they agree in each place. -/
theorem elems_eq {zero : A} {s s' : Slice A} (hlength : s.elems.length = s'.elems.length)
    (hslots : ∀ place < s.elems.length, s.slot zero place = s'.slot zero place) :
    s.elems = s'.elems := by
  apply List.ext_getElem hlength
  intro place h h'
  rw [← slot_eq_getElem h, ← slot_eq_getElem h']
  exact hslots place h

end Slice

/-! ## Decoding items -/

/-- Decode items into the first elements of a memory. -/
def fill (decode : V → A → Option A) (zero : A) : List V → List A → Option (Slice A)
  | [], memory => some ⟨[], memory⟩
  | v :: items, memory => do
      let a ← decode v (memory.headD zero)
      let s ← fill decode zero items memory.tail
      return ⟨a :: s.elems, s.spare⟩

/-- Decode an array into a slice. -/
def refill (decode : V → A → Option A) (zero : A) : List V → Slice A → Option (Slice A)
  | [], _ => some .empty
  | v :: items, s => fill decode zero (v :: items) s.memory

section Fill

variable {decode : V → A → Option A} {zero : A} {items : List V} {memory : List A} {s : Slice A}

/-- The first item is decoded into the first element, and the others into the rest. -/
theorem fill_cons_eq_some_iff (v : V) :
    fill decode zero (v :: items) memory = some s ↔
      ∃ a rest, decode v (memory.headD zero) = some a ∧
        fill decode zero items memory.tail = some rest ∧ s = ⟨a :: rest.elems, rest.spare⟩ := by
  simp only [fill, Option.bind_eq_bind, Option.bind_eq_some_iff, Option.pure_def,
    Option.some.injEq, eq_comm (a := s)]
  constructor
  · rintro ⟨a, ha, rest, hrest, heq⟩
    exact ⟨a, rest, ha, hrest, heq⟩
  · rintro ⟨a, rest, ha, hrest, heq⟩
    exact ⟨a, ha, rest, hrest, heq⟩

/-- There is an element for each item. -/
theorem length_of_fill (h : fill decode zero items memory = some s) :
    s.elems.length = items.length := by
  induction items generalizing memory s with
  | nil =>
      cases h
      rfl
  | cons v items ih =>
      rcases (fill_cons_eq_some_iff v).mp h with ⟨a, rest, -, hrest, rfl⟩
      rw [List.length_cons, List.length_cons, ih hrest]

/-- The element in a place receives the item there, if there is one. -/
theorem fill_slot (h : fill decode zero items memory = some s) (place : ℕ) :
    receive decode (memory.getD place zero) items[place]?.toList = some (s.slot zero place) := by
  induction items generalizing memory s place with
  | nil =>
      cases h
      rfl
  | cons v items ih =>
      rcases (fill_cons_eq_some_iff v).mp h with ⟨a, rest, ha, hrest, rfl⟩
      cases place with
      | zero =>
          have hhead : memory.getD 0 zero = memory.headD zero := by cases memory <;> rfl
          rw [hhead, List.getElem?_cons_zero, Option.toList_some, receive_cons, ha]
          rfl
      | succ place =>
          have htail : memory.getD (place + 1) zero = memory.tail.getD place zero := by
            cases memory <;> rfl
          rw [htail, List.getElem?_cons_succ]
          exact ih hrest place

/-- Items are decoded if each of them is, whatever element it finds. -/
theorem fill_isSome_iff {p : V → Prop}
    (h : ∀ v ∈ items, ∀ a, (decode v a).isSome = true ↔ p v) (memory : List A) :
    (fill decode zero items memory).isSome = true ↔ ∀ v ∈ items, p v := by
  induction items generalizing memory with
  | nil => exact iff_of_true rfl (List.forall_mem_nil p)
  | cons v items ih =>
      rw [List.forall_mem_cons] at h ⊢
      rw [← h.1 (memory.headD zero), ← ih h.2 memory.tail, fill]
      cases decode v (memory.headD zero) with
      | none => simp
      | some a =>
          cases fill decode zero items memory.tail with
          | none => simp
          | some rest => simp

/-- Into no memory the items are decoded each on its own. -/
theorem fill_nil (decode : V → A → Option A) (zero : A) (items : List V) :
    fill decode zero items [] = (items.mapM (decode · zero)).map fun elems => ⟨elems, []⟩ := by
  induction items with
  | nil => rfl
  | cons v items ih =>
      rw [fill, List.headD_nil, List.tail_nil, ih, List.mapM_cons]
      cases decode v zero with
      | none => rfl
      | some a =>
          cases items.mapM (decode · zero) with
          | none => rfl
          | some elems => rfl

/-- Items and elements that are translated alike. -/
theorem fill_map (decode' : W → B → Option B) {g : V → W} {f : A → B}
    (hdecode : ∀ v ∈ items, ∀ a b, decode v a = some b → decode' (g v) (f a) = some (f b))
    (h : fill decode zero items memory = some s) :
    fill decode' (f zero) (items.map g) (memory.map f) = some (s.map f) := by
  induction items generalizing memory s with
  | nil =>
      cases h
      rfl
  | cons v items ih =>
      rcases (fill_cons_eq_some_iff v).mp h with ⟨a, rest, ha, hrest, rfl⟩
      rw [List.forall_mem_cons] at hdecode
      have hhead : (memory.map f).headD (f zero) = f (memory.headD zero) := by
        cases memory <;> rfl
      rw [List.map_cons, fill_cons_eq_some_iff, hhead, ← List.map_tail]
      exact ⟨f a, rest.map f, hdecode.1 _ a ha, ih hdecode.2 hrest, rfl⟩

end Fill

section Refill

variable {decode : V → A → Option A} {zero : A} {items : List V} {s s' : Slice A}

/-- A slice is as long as the last array. -/
theorem length_of_refill (h : refill decode zero items s = some s') :
    s'.elems.length = items.length := by
  cases items with
  | nil =>
      cases h
      rfl
  | cons v items => exact length_of_fill h

/-- What the element in a place receives from an array: its item, or a new start. -/
def strokes (items : List V) (place : ℕ) : List (Option V) :=
  if items.isEmpty then [none] else items[place]?.toList.map some

/-- An array writes into the element of each place. -/
theorem refill_slot (h : refill decode zero items s = some s') (place : ℕ) :
    receive (orReset decode zero) (s.slot zero place) (strokes items place) =
      some (s'.slot zero place) := by
  cases items with
  | nil =>
      cases h
      rfl
  | cons v items =>
      rw [strokes, List.isEmpty_cons, if_neg Bool.false_ne_true, receive_orReset_map_some]
      exact fill_slot h place

/-- Where the memory does not matter to the items it does not matter to the array. -/
theorem refill_isSome_iff {p : V → Prop}
    (h : ∀ v ∈ items, ∀ a, (decode v a).isSome = true ↔ p v) (s : Slice A) :
    (refill decode zero items s).isSome = true ↔ ∀ v ∈ items, p v := by
  cases items with
  | nil => exact iff_of_true rfl (List.forall_mem_nil p)
  | cons v items => exact fill_isSome_iff h s.memory

/-- Into the slice without memory the items are decoded each on its own. -/
theorem refill_empty (decode : V → A → Option A) (zero : A) (items : List V) :
    refill decode zero items .empty =
      (items.mapM (decode · zero)).map fun elems => ⟨elems, []⟩ := by
  cases items with
  | nil => rfl
  | cons v items => exact fill_nil decode zero (v :: items)

/-- A translation of the items is one of the slice. -/
theorem refill_map (decode' : W → B → Option B) {g : V → W} {f : A → B}
    (hdecode : ∀ v ∈ items, ∀ a b, decode v a = some b → decode' (g v) (f a) = some (f b))
    (h : refill decode zero items s = some s') :
    refill decode' (f zero) (items.map g) (s.map f) = some (s'.map f) := by
  cases items with
  | nil =>
      cases h
      rfl
  | cons v items =>
      have hfill := fill_map decode' hdecode h
      rw [← Slice.memory_map] at hfill
      exact hfill

end Refill

end Slices
