import Mathlib.Data.List.DropRight
import Mathlib.Tactic

/-!
# Trimming a list at both ends

Removing the elements of one kind from both ends of a list, and what a coarser
notion of these elements leaves of what a finer one has left.

Main results:

- Theorem `trim_trim`: trimming what was trimmed before by a finer notion.
- Theorem `trim_eq_nil_iff`: nothing is left when everything is of that kind.
-/

namespace Trim

variable {α β : Type*}

/-- Remove the elements that satisfy `p` from both ends. -/
def trim (p : α → Bool) (l : List α) : List α := ((l.dropWhile p).reverse.dropWhile p).reverse

/-- Only elements that satisfy `p` are removed. -/
theorem exists_trim (p : α → Bool) (l : List α) :
    ∃ front back, l = front ++ trim p l ++ back ∧ (∀ a ∈ front, p a = true) ∧
      ∀ a ∈ back, p a = true := by
  refine ⟨l.takeWhile p, ((l.dropWhile p).reverse.takeWhile p).reverse, ?_, ?_, ?_⟩
  · have hmiddle : trim p l ++ ((l.dropWhile p).reverse.takeWhile p).reverse = l.dropWhile p := by
      rw [trim, ← List.reverse_append, List.takeWhile_append_dropWhile, List.reverse_reverse]
    rw [List.append_assoc, hmiddle, List.takeWhile_append_dropWhile]
  · exact fun a ha => List.mem_takeWhile_imp ha
  · exact fun a ha => List.mem_takeWhile_imp (List.mem_reverse.mp ha)

theorem mem_of_mem_trim {p : α → Bool} {l : List α} {a : α} (h : a ∈ trim p l) : a ∈ l := by
  rcases exists_trim p l with ⟨front, back, hl, -, -⟩
  rw [hl]
  simp [h]

/-- Nothing is left when everything satisfies `p`. -/
theorem trim_eq_nil_iff (p : α → Bool) (l : List α) :
    trim p l = [] ↔ ∀ a ∈ l, p a = true := by
  rcases exists_trim p l with ⟨front, back, hl, hfront, hback⟩
  constructor
  · intro hnil a ha
    rw [hl, hnil, List.append_nil, List.mem_append] at ha
    rcases ha with ha | ha
    · exact hfront a ha
    · exact hback a ha
  · intro h
    rw [trim, List.dropWhile_eq_nil_iff.mpr h]
    rfl

/-- Elements at the ends that satisfy `p` do not matter. -/
theorem trim_append (p : α → Bool) {front back : List α} (middle : List α)
    (hfront : ∀ a ∈ front, p a = true) (hback : ∀ a ∈ back, p a = true) :
    trim p (front ++ middle ++ back) = trim p middle := by
  by_cases hall : ∀ a ∈ middle, p a = true
  · rw [(trim_eq_nil_iff p middle).mpr hall, trim_eq_nil_iff]
    intro a ha
    rw [List.mem_append, List.mem_append] at ha
    rcases ha with (ha | ha) | ha
    · exact hfront a ha
    · exact hall a ha
    · exact hback a ha
  · have hrest : middle.dropWhile p ≠ [] := fun h => hall (List.dropWhile_eq_nil_iff.mp h)
    rw [trim, trim, List.append_assoc, List.dropWhile_append_of_pos hfront,
      List.dropWhile_append, if_neg (by simpa using hrest), List.reverse_append,
      List.dropWhile_append_of_pos fun a ha => hback a (List.mem_reverse.mp ha)]

/-- Trimming what was trimmed before by a finer notion. -/
theorem trim_trim {p q : α → Bool} (h : ∀ a, p a = true → q a = true) (l : List α) :
    trim q (trim p l) = trim q l := by
  rcases exists_trim p l with ⟨front, back, hl, hfront, hback⟩
  conv_rhs => rw [hl]
  exact (trim_append q (trim p l) (fun a ha => h a (hfront a ha))
    fun a ha => h a (hback a ha)).symm

/-- What has no element that satisfies `p` is left alone. -/
theorem trim_of_forall_not {p : α → Bool} {l : List α} (h : ∀ a ∈ l, p a = false) :
    trim p l = l := by
  have hnone : ∀ m : List α, (∀ a ∈ m, p a = false) → m.dropWhile p = m := by
    intro m hm
    cases m with
    | nil => rfl
    | cons a m => rw [List.dropWhile_cons, hm a List.mem_cons_self, if_neg Bool.false_ne_true]
  rw [trim, hnone l h, hnone _ fun a ha => h a (List.mem_reverse.mp ha), List.reverse_reverse]

theorem length_trim_le (p : α → Bool) (l : List α) : (trim p l).length ≤ l.length := by
  rcases exists_trim p l with ⟨front, back, hl, -, -⟩
  have hlength := congrArg List.length hl
  rw [List.length_append, List.length_append] at hlength
  omega

/-- A coarser notion leaves less. -/
theorem length_trim_mono {p q : α → Bool} (h : ∀ a, p a = true → q a = true) (l : List α) :
    (trim q l).length ≤ (trim p l).length := by
  rw [← trim_trim h]
  exact length_trim_le q _

/-- Trimming a list whose elements were translated. -/
theorem trim_map (p : β → Bool) (f : α → β) (l : List α) :
    trim p (l.map f) = (trim (p ∘ f) l).map f := by
  rw [trim, trim, List.dropWhile_map, ← List.map_reverse, List.dropWhile_map, List.map_reverse]

end Trim
