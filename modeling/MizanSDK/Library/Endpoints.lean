import Mathlib.Data.List.DropRight
import Mathlib.Tactic

/-!
# Endpoints below a base

A URL is read by cutting it at delimiters: the fragment behind the first number sign,
the query behind the first question mark.  An endpoint of an API is the base with a
path and a query behind it.

Main results:

- Theorem `cut_append`: a delimiter behind other text cuts that text off too.
- Theorems `takeWhile_stop` and `dropWhile_stop`: text that stops at a delimiter still
  does so with more behind it.
- Theorem `Endpoint.query_length_lt`: the query of a target is shorter than the target.
-/

namespace Endpoints

variable {α : Type}

/-! ## Text that stops -/

section Stops

variable {p : α → Bool} {front back : List α} {b : α}

/-- Text that goes on until a stop still does so with more behind it. -/
theorem takeWhile_stop (hb : p b = false) :
    (front ++ b :: back).takeWhile p = front.takeWhile p := by
  rw [List.takeWhile_append]
  split
  · rename_i hlength
    have hself : front.takeWhile p = front := (List.takeWhile_prefix p).eq_of_length hlength
    rw [List.takeWhile_cons_of_neg (by rw [hb]; exact Bool.false_ne_true), List.append_nil, hself]
  · rfl

/-- What is left stops at the first character that is kept. -/
theorem dropWhile_stop (hb : p b = false) :
    (front ++ b :: back).dropWhile p = front.dropWhile p ++ b :: back := by
  rw [List.dropWhile_append]
  split
  · rename_i hempty
    rw [List.isEmpty_iff.mp hempty,
      List.dropWhile_cons_of_neg (by rw [hb]; exact Bool.false_ne_true)]
    rfl
  · rfl

/-- Text up to the first stop is read as a whole, whatever is behind it. -/
theorem takeWhile_all (hfront : ∀ a ∈ front, p a = true) (hback : ∀ a ∈ back.head?, p a = false) :
    (front ++ back).takeWhile p = front := by
  rw [List.takeWhile_append_of_pos hfront]
  cases back with
  | nil => rw [List.takeWhile_nil, List.append_nil]
  | cons a back => rw [List.takeWhile_cons_of_neg (by rw [hback a rfl]; exact Bool.false_ne_true),
      List.append_nil]

/-- What is left out in front is all that is dropped. -/
theorem dropWhile_all (hfront : ∀ a ∈ front, p a = true) (hback : ∀ a ∈ back.head?, p a = false) :
    (front ++ back).dropWhile p = back := by
  rw [List.dropWhile_append_of_pos hfront]
  cases back with
  | nil => rfl
  | cons a back =>
      rw [List.dropWhile_cons_of_neg (by rw [hback a rfl]; exact Bool.false_ne_true)]

/-- Text is trimmed at its end behind the last stop only. -/
theorem rdropWhile_stop (hb : p b = false) :
    (front ++ b :: back).rdropWhile p = front ++ b :: back.rdropWhile p := by
  rw [List.rdropWhile, List.reverse_append, List.reverse_cons, List.append_assoc,
    List.singleton_append, dropWhile_stop hb, List.reverse_append, List.reverse_cons,
    List.reverse_reverse, List.append_assoc, List.singleton_append, List.rdropWhile]

/-- Trimming loses only what is trimmed. -/
theorem mem_rdropWhile_iff {s : List α} {a : α} (ha : p a = false) :
    a ∈ s.rdropWhile p ↔ a ∈ s := by
  constructor
  · intro hmem
    exact (List.rdropWhile_prefix _ _).subset hmem
  · intro hmem
    induction s using List.reverseRecOn with
    | nil => exact hmem
    | append_singleton s last ih =>
        by_cases hlast : p last = true
        · rw [List.rdropWhile_concat_pos _ _ _ hlast]
          rw [List.mem_append, List.mem_singleton] at hmem
          rcases hmem with hmem | rfl
          · exact ih hmem
          · rw [ha] at hlast
            cases hlast
        · rw [List.rdropWhile_concat_neg _ _ _ hlast]
          exact hmem

/-- A path that does not end in a slash is what the trailing slashes leave. -/
theorem rdropWhile_append {p : α → Bool} {front back : List α} (hback : back ≠ [])
    (hlast : (front ++ back).rdropWhile p = front ++ back) : back.rdropWhile p = back := by
  rw [List.rdropWhile_eq_self_iff] at hlast ⊢
  intro hne
  have hall := hlast (List.append_ne_nil_of_right_ne_nil front hback)
  rwa [List.getLast_append_of_ne_nil _ hne] at hall

end Stops

variable [DecidableEq α]

/-! ## Cutting -/

/-- What is before the first separator, and what is behind it. -/
def cut (sep : α) (s : List α) : List α × List α :=
  (s.takeWhile (· ≠ sep), (s.dropWhile (· ≠ sep)).tail)

/-- A text without the separator is not cut. -/
theorem cut_of_notMem {sep : α} {s : List α} (h : sep ∉ s) : cut sep s = (s, []) := by
  have hall : ∀ a ∈ s, decide (a ≠ sep) = true := by
    intro a ha
    rw [decide_eq_true_eq]
    rintro rfl
    exact h ha
  rw [cut, List.takeWhile_eq_self_iff.mpr hall, List.dropWhile_eq_nil_iff.mpr hall]
  rfl

/-- A separator behind other text cuts that text off too. -/
theorem cut_append {sep : α} {front : List α} (h : sep ∉ front) (rest : List α) :
    cut sep (front ++ rest) = (front ++ (cut sep rest).1, (cut sep rest).2) := by
  have hall : ∀ a ∈ front, decide (a ≠ sep) = true := by
    intro a ha
    rw [decide_eq_true_eq]
    rintro rfl
    exact h ha
  rw [cut, List.takeWhile_append_of_pos hall, List.dropWhile_append_of_pos hall]
  rfl

/-- A separator in front is cut at once. -/
theorem cut_cons_self (sep : α) (rest : List α) : cut sep (sep :: rest) = ([], rest) := by
  simp [cut]

/-- A text is cut at its first separator. -/
theorem cut_place {sep : α} {front : List α} (h : sep ∉ front) (back : List α) :
    cut sep (front ++ sep :: back) = (front, back) := by
  rw [cut_append h, cut_cons_self, List.append_nil]

/-- Nothing in front of the cut is a separator. -/
theorem notMem_cut (sep : α) (s : List α) : sep ∉ (cut sep s).1 := by
  intro hmem
  simpa using List.mem_takeWhile_imp hmem

/-- Text with the separator is cut there. -/
theorem eq_of_cut {sep : α} {s : List α} (h : sep ∈ s) :
    s = (cut sep s).1 ++ sep :: (cut sep s).2 := by
  induction s with
  | nil => cases h
  | cons a s ih =>
      by_cases heq : a = sep
      · rw [heq, cut_cons_self]
        rfl
      · have hrest : sep ∈ s := (List.mem_cons.mp h).resolve_left (Ne.symm heq)
        have hcut : cut sep (a :: s) = (a :: (cut sep s).1, (cut sep s).2) := by
          have hhead : sep ∉ [a] := by simpa using Ne.symm heq
          exact cut_append hhead s
        rw [hcut, List.cons_append, ← ih hrest]

/-- Cutting loses the separator only. -/
theorem mem_cut (sep : α) {a : α} {s : List α} (h : a ∈ s) :
    a ∈ (cut sep s).1 ∨ a = sep ∨ a ∈ (cut sep s).2 := by
  by_cases hsep : sep ∈ s
  · rw [eq_of_cut hsep, List.mem_append, List.mem_cons] at h
    exact h
  · rw [cut_of_notMem hsep]
    exact .inl h

/-- The front is a part of the text. -/
theorem cut_fst_subset (sep : α) (s : List α) : (cut sep s).1 ⊆ s :=
  (List.takeWhile_prefix _).subset

/-- So is the back. -/
theorem cut_snd_subset (sep : α) (s : List α) : (cut sep s).2 ⊆ s :=
  ((List.tail_suffix _).trans (List.dropWhile_suffix _)).subset

/-! ## Endpoints -/

/-- A path with an optional query as a request names it: visible ASCII characters that
begin with a slash, and no number sign. -/
structure Target (p : String) : Prop where
  absolute : p.toList.head? = some '/'
  visible : ∀ c ∈ p.toList, '!' ≤ c ∧ c ≤ '~' ∧ c ≠ '#'

/-- A target has at least its slash. -/
theorem Target.ne_nil {p : String} (h : Target p) : p.toList ≠ [] := by
  intro hnil
  have habsolute := h.absolute
  rw [hnil] at habsolute
  cases habsolute

/-- No fragment begins in a target. -/
theorem Target.hash_notMem {p : String} (h : Target p) : '#' ∉ p.toList :=
  fun hmem => (h.visible '#' hmem).2.2 rfl

/-- Where a request goes. -/
structure Endpoint (α : Type) where
  scheme : List α
  host : List α
  path : List α
  query : List α
  fragment : List α

/-- The endpoint of a target, a path with an optional query, below a base: the trailing
slashes of the base are not repeated. -/
def Endpoint.below (base : Endpoint α) (slash question : α) (target : List α) : Endpoint α where
  scheme := base.scheme
  host := base.host
  path := base.path.rdropWhile (· = slash) ++ (cut question target).1
  query := (cut question target).2
  fragment := []

/-- The query of a target is shorter than the target. -/
theorem Endpoint.query_length_lt (question : α) {target : List α} (h : target ≠ []) :
    (cut question target).2.length < target.length := by
  by_cases hmem : question ∈ target
  · have hlength := congrArg List.length (eq_of_cut hmem)
    rw [List.length_append, List.length_cons] at hlength
    omega
  · rw [cut_of_notMem hmem]
    exact List.length_pos_iff.mpr h

/-- A separator in front of a target takes the whole target behind it, so the query that
is read is not that of the target. -/
theorem Endpoint.notMem_front {question : α} {front target head tail : List α}
    (htext : front ++ target = head ++ tail) (hhead : question ∉ head) (htarget : target ≠ [])
    (hquery : (cut question tail).2 = (cut question target).2) : question ∉ front := by
  intro hmem
  have hcut : (cut question (front ++ target)).2 = (cut question front).2 ++ target := by
    nth_rewrite 1 [eq_of_cut hmem]
    rw [List.append_assoc, List.cons_append, cut_place (notMem_cut question front)]
  rw [htext, cut_append hhead] at hcut
  have hlength := congrArg List.length (hquery.symm.trans hcut)
  have hshorter := Endpoint.query_length_lt question htarget
  rw [List.length_append] at hlength
  omega

end Endpoints
