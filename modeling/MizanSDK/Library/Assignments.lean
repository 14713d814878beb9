import Mathlib.Data.List.Sort
import Mathlib.Tactic

/-!
# Maps as lists of assignments

A map that is built by assignments, one after the other, holds the last one for each key.
Written in the order of its keys it is the same list for every order of assignment.

Main results:

- Theorem `sortedEntries_map`: the order depends on the keys alone.
- Theorem `sortedEntries_sortedEntries`: ordering the entries again changes nothing.
- Theorem `filter_sortedEntries`: a key that occurs once is neither lost nor moved.
-/

namespace Assignments

variable {κ α β : Type*} [LinearOrder κ]

/-- The assignments that are in force, the last one for each key. -/
def lastEntries : List (κ × α) → List (κ × α)
  | [] => []
  | e :: rest => if e.1 ∈ rest.map Prod.fst then lastEntries rest else e :: lastEntries rest

/-- The entries of a map in the order of their keys. -/
def sortedEntries (entries : List (κ × α)) : List (κ × α) :=
  (lastEntries entries).insertionSort fun e e' => e.1 ≤ e'.1

/-- The same keys are in force. -/
theorem mem_keys_lastEntries (entries : List (κ × α)) (key : κ) :
    key ∈ (lastEntries entries).map Prod.fst ↔ key ∈ entries.map Prod.fst := by
  induction entries with
  | nil => exact Iff.rfl
  | cons e rest ih =>
      by_cases hlater : e.1 ∈ rest.map Prod.fst
      · rw [lastEntries, if_pos hlater, ih, List.map_cons, List.mem_cons]
        refine ⟨Or.inr, fun h => ?_⟩
        rcases h with rfl | h
        · exact hlater
        · exact h
      · rw [lastEntries, if_neg hlater, List.map_cons, List.map_cons, List.mem_cons,
          List.mem_cons, ih]

/-- Each key is in force once. -/
theorem nodup_keys_lastEntries (entries : List (κ × α)) :
    ((lastEntries entries).map Prod.fst).Nodup := by
  induction entries with
  | nil => exact List.nodup_nil
  | cons e rest ih =>
      by_cases hlater : e.1 ∈ rest.map Prod.fst
      · rw [lastEntries, if_pos hlater]
        exact ih
      · rw [lastEntries, if_neg hlater, List.map_cons, List.nodup_cons, mem_keys_lastEntries]
        exact ⟨hlater, ih⟩

/-- Assignments to different keys are all in force. -/
theorem lastEntries_of_nodup {entries : List (κ × α)}
    (h : (entries.map Prod.fst).Nodup) : lastEntries entries = entries := by
  induction entries with
  | nil => rfl
  | cons e rest ih =>
      rw [List.map_cons, List.nodup_cons] at h
      rw [lastEntries, if_neg h.1, ih h.2]

/-- Sorting keeps the last entries. -/
theorem sortedEntries_perm (entries : List (κ × α)) :
    (sortedEntries entries).Perm (lastEntries entries) :=
  List.perm_insertionSort _ _

/-- The last entries are entries. -/
theorem mem_of_mem_lastEntries {entries : List (κ × α)} {e : κ × α}
    (h : e ∈ lastEntries entries) : e ∈ entries := by
  induction entries with
  | nil => exact h
  | cons head rest ih =>
      rw [lastEntries] at h
      split at h
      · exact List.mem_cons_of_mem _ (ih h)
      · rcases List.mem_cons.mp h with rfl | h
        · exact List.mem_cons_self
        · exact List.mem_cons_of_mem _ (ih h)

/-- The entries are assignments. -/
theorem mem_of_mem_sortedEntries {entries : List (κ × α)} {e : κ × α}
    (h : e ∈ sortedEntries entries) : e ∈ entries :=
  mem_of_mem_lastEntries ((sortedEntries_perm entries).mem_iff.mp h)

/-- A map with assignments has entries. -/
theorem sortedEntries_ne_nil {entries : List (κ × α)} (h : entries ≠ []) :
    sortedEntries entries ≠ [] := by
  rcases List.exists_mem_of_ne_nil entries h with ⟨e, he⟩
  have hkey : e.1 ∈ (sortedEntries entries).map Prod.fst :=
    ((sortedEntries_perm entries).map Prod.fst).mem_iff.mpr
      ((mem_keys_lastEntries entries e.1).mpr (List.mem_map_of_mem he))
  intro hnil
  rw [hnil] at hkey
  cases hkey

/-- Values can be translated before or after the last entries are taken. -/
theorem lastEntries_map (f : α → β) (entries : List (κ × α)) :
    lastEntries (entries.map fun e => (e.1, f e.2)) =
      (lastEntries entries).map fun e => (e.1, f e.2) := by
  induction entries with
  | nil => rfl
  | cons e rest ih =>
      have hkeys : (rest.map fun e => (e.1, f e.2)).map Prod.fst = rest.map Prod.fst := by
        rw [List.map_map]
        rfl
      rw [List.map_cons, lastEntries, lastEntries, hkeys, ih]
      split
      · rfl
      · rfl

/-- The order depends on the keys alone. -/
theorem sortedEntries_map (f : α → β) (entries : List (κ × α)) :
    sortedEntries (entries.map fun e => (e.1, f e.2)) =
      (sortedEntries entries).map fun e => (e.1, f e.2) := by
  rw [sortedEntries, sortedEntries, lastEntries_map]
  exact (List.map_insertionSort (fun e e' : κ × α => e.1 ≤ e'.1)
    (fun e e' : κ × β => e.1 ≤ e'.1) _ _ fun _ _ _ _ => Iff.rfl).symm

/-- Ordering the entries again changes nothing. -/
theorem sortedEntries_sortedEntries (entries : List (κ × α)) :
    sortedEntries (sortedEntries entries) = sortedEntries entries := by
  have hnodup : ((sortedEntries entries).map Prod.fst).Nodup :=
    ((sortedEntries_perm entries).map Prod.fst).nodup_iff.mpr (nodup_keys_lastEntries entries)
  have htotal : Std.Total fun e e' : κ × α => e.1 ≤ e'.1 := ⟨fun e e' => le_total e.1 e'.1⟩
  have htrans : IsTrans (κ × α) fun e e' => e.1 ≤ e'.1 :=
    ⟨fun _ _ _ h h' => le_trans h h'⟩
  rw [sortedEntries, lastEntries_of_nodup hnodup]
  exact (List.pairwise_insertionSort _ _).insertionSort_eq

/-- One assignment to keys of a kind stays in force. -/
theorem filter_lastEntries (q : κ → Bool) {entries : List (κ × α)}
    (h : (entries.filter fun e => q e.1).length ≤ 1) :
    (lastEntries entries).filter (fun e => q e.1) = entries.filter fun e => q e.1 := by
  induction entries with
  | nil => rfl
  | cons e rest ih =>
      have hrest : (rest.filter fun e => q e.1).length ≤ 1 := by
        refine le_trans ?_ h
        exact List.Sublist.length_le ((List.sublist_cons_self e rest).filter _)
      by_cases hlater : e.1 ∈ rest.map Prod.fst
      · rw [lastEntries, if_pos hlater, ih hrest]
        cases hq : q e.1 with
        | false => simp [hq]
        | true =>
            -- The later assignment to the key would be a second one.
            rcases List.mem_map.mp hlater with ⟨e', he', hkey⟩
            have hmem : e' ∈ rest.filter fun e => q e.1 := by
              rw [List.mem_filter, hkey, hq]
              exact ⟨he', rfl⟩
            have hpos := List.length_pos_of_mem hmem
            rw [List.filter_cons, if_pos hq, List.length_cons] at h
            omega
      · rw [lastEntries, if_neg hlater, List.filter_cons, List.filter_cons, ih hrest]

/-- Nor does the order of the keys matter to it. -/
theorem filter_sortedEntries (q : κ → Bool) {entries : List (κ × α)}
    (h : (entries.filter fun e => q e.1).length ≤ 1) :
    (sortedEntries entries).filter (fun e => q e.1) = entries.filter fun e => q e.1 := by
  have hperm := (sortedEntries_perm entries).filter fun e => q e.1
  rw [filter_lastEntries q h] at hperm
  cases hentries : entries.filter fun e => q e.1 with
  | nil =>
      rw [hentries] at hperm
      exact hperm.eq_nil
  | cons e rest =>
      rw [hentries, List.length_cons] at h
      obtain rfl : rest = [] := List.length_eq_zero_iff.mp (by omega)
      rw [hentries] at hperm
      exact List.perm_singleton.mp hperm

end Assignments
