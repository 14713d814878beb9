import MizanSDK.Library.Bytes
import MizanSDK.Python.Runtime

/-!
# `urllib.parse.unquote`

`unquote` reads the runs of ASCII characters of a string as bytes, escaped ones among them,
and decodes each run as UTF-8.  What is no ASCII stays as it is.

Main results:

- Theorem `unquote_eq_self_iff`: which strings stay the same.
- Theorem `Unescapable.mem_unquote`: which characters are kept.
-/

namespace MizanSDK.Python

open JsonText Bytes

/-! ## Escapes -/

/-- The byte of the escape a string begins with. -/
def escapedByte : PyStr → Option UInt8
  | .scalar '%' :: .scalar high :: .scalar low :: _ =>
      match hexValue high, hexValue low with
      | some h, some l => some (UInt8.ofNat (16 * h + l))
      | _, _ => none
  | _ => none

/-- An escape is in the string. -/
def hasEscape : PyStr → Bool
  | [] => false
  | c :: rest => (escapedByte (c :: rest)).isSome || hasEscape rest

/-- An ASCII character is a byte of its run; any other one is between runs. -/
def unquotePoint : CodePoint → UInt8 ⊕ CodePoint
  | .scalar c => if c.toNat < 0x80 then .inl (UInt8.ofNat c.toNat) else .inr (.scalar c)
  | .surrogate i => .inr (.surrogate i)

/-- The bytes of the runs and what is between them, from a place on: the first characters
belong to an escape. -/
def unquoteFrom : ℕ → PyStr → List (UInt8 ⊕ CodePoint)
  | _, [] => []
  | n + 1, _ :: rest => unquoteFrom n rest
  | 0, c :: rest =>
      match escapedByte (c :: rest) with
      | some b => .inl b :: unquoteFrom 2 rest
      | none => unquotePoint c :: unquoteFrom 0 rest

/-- Decode each run, the first one with these bytes in front. -/
def decodeRuns : List UInt8 → List (UInt8 ⊕ CodePoint) → PyStr
  | run, [] => (decodeReplacing run).map .scalar
  | run, .inl b :: rest => decodeRuns (run ++ [b]) rest
  | run, .inr c :: rest => (decodeReplacing run).map .scalar ++ c :: decodeRuns [] rest

/-- `unquote`. -/
def unquote (s : PyStr) : PyStr :=
  if .scalar '%' ∈ s then decodeRuns [] (unquoteFrom 0 s) else s

/-! ## What stays the same -/

/-- Decoding makes nothing longer. -/
theorem length_decodeRuns_le (run : List UInt8) (parts : List (UInt8 ⊕ CodePoint)) :
    (decodeRuns run parts).length ≤ run.length + parts.length := by
  induction parts generalizing run with
  | nil =>
      rw [decodeRuns, List.length_map]
      exact length_decodeReplacing_le run
  | cons part parts ih =>
      cases part with
      | inl b =>
          have hrest := ih (run ++ [b])
          rw [List.length_append, List.length_singleton] at hrest
          rw [decodeRuns, List.length_cons]
          omega
      | inr c =>
          have hfirst := length_decodeReplacing_le run
          have hrest := ih []
          rw [List.length_nil] at hrest
          rw [decodeRuns, List.length_append, List.length_map, List.length_cons, List.length_cons]
          omega

/-- Unquoting makes no text longer. -/
theorem length_unquoteFrom_le (n : ℕ) (s : PyStr) :
    (unquoteFrom n s).length ≤ s.length - n := by
  induction s generalizing n with
  | nil =>
      rw [unquoteFrom]
      exact Nat.zero_le _
  | cons c rest ih =>
      cases n with
      | succ n =>
          rw [unquoteFrom, List.length_cons, Nat.add_sub_add_right]
          exact ih n
      | zero =>
          rw [unquoteFrom]
          split
          · have hrest := ih 2
            rw [List.length_cons, List.length_cons]
            omega
          · have hrest := ih 0
            rw [List.length_cons, List.length_cons]
            omega

/-- An escape takes three characters. -/
theorem length_unquoteFrom_lt {s : PyStr} (h : hasEscape s = true) :
    (unquoteFrom 0 s).length < s.length := by
  induction s with
  | nil => cases h
  | cons c rest ih =>
      rw [unquoteFrom]
      split
      · rename_i b hescape
        have htwo : 2 ≤ rest.length := by
          unfold escapedByte at hescape
          split at hescape
          · rename_i heq
            rw [(List.cons.inj heq).2]
            exact Nat.le_add_left 2 _
          · cases hescape
        have hrest := length_unquoteFrom_le 2 rest
        rw [List.length_cons, List.length_cons]
        omega
      · rename_i hescape
        rw [hasEscape, hescape, Option.isSome_none, Bool.false_or] at h
        exact Nat.succ_lt_succ (ih h)

/-- Without an escape every character is there. -/
theorem unquoteFrom_of_unescaped {s : PyStr} (h : hasEscape s = false) :
    unquoteFrom 0 s = s.map unquotePoint := by
  induction s with
  | nil => rfl
  | cons c rest ih =>
      rw [hasEscape, Bool.or_eq_false_iff, Option.isSome_eq_false_iff, Option.isNone_iff_eq_none]
        at h
      rw [unquoteFrom, h.1]
      exact congrArg (unquotePoint c :: ·) (ih h.2)

/-- A small number is that of its byte. -/
theorem toNat_ofNat_of_lt {n : ℕ} (h : n < 0x80) : (UInt8.ofNat n).toNat = n := by
  rw [UInt8.toNat_ofNat']
  exact Nat.mod_eq_of_lt (by omega)

/-- The runs of a string are decoded to themselves. -/
theorem decodeRuns_map (run s : PyStr) (bytes : List UInt8)
    (hbytes : ∀ b ∈ bytes, b < 0x80)
    (hrun : run = (decodeReplacing bytes).map .scalar) :
    decodeRuns bytes (s.map unquotePoint) = run ++ s := by
  induction s generalizing run bytes with
  | nil => rw [List.map_nil, decodeRuns, List.append_nil, hrun]
  | cons c rest ih =>
      rw [List.map_cons]
      have hbetween : decodeRuns bytes (.inr c :: rest.map unquotePoint) = run ++ c :: rest := by
        rw [decodeRuns, ← hrun, ih [] [] (List.forall_mem_nil _) rfl, List.nil_append]
      cases c with
      | surrogate i => exact hbetween
      | scalar c =>
          rw [unquotePoint]
          split
          · rename_i hascii
            have hnat := toNat_ofNat_of_lt hascii
            have hbyte : UInt8.ofNat c.toNat < 0x80 := by
              rw [UInt8.lt_iff_toNat_lt, hnat]
              exact hascii
            have hall : ∀ b ∈ bytes ++ [UInt8.ofNat c.toNat], b < 0x80 := by
              rw [List.forall_mem_append, List.forall_mem_singleton]
              exact ⟨hbytes, hbyte⟩
            rw [decodeRuns, ih (run ++ [.scalar c]) _ hall, List.append_assoc]
            · rfl
            · rw [hrun, decodeReplacing_of_ascii hbytes, decodeReplacing_of_ascii hall]
              simp [hnat, Char.ofNat_toNat]
          · exact hbetween

/-- Without a percent sign there is no escape. -/
theorem hasEscape_of_notMem {s : PyStr} (h : .scalar '%' ∉ s) : hasEscape s = false := by
  induction s with
  | nil => rfl
  | cons c rest ih =>
      rw [List.mem_cons, not_or] at h
      rw [hasEscape, ih h.2, Bool.or_false, Option.isSome_eq_false_iff,
        Option.isNone_iff_eq_none]
      unfold escapedByte
      split
      · rename_i heq
        exact absurd (List.cons.inj heq).1.symm h.1
      · rfl

/-- A string stays the same if and only if there is no escape in it. -/
theorem unquote_eq_self_iff (s : PyStr) : unquote s = s ↔ hasEscape s = false := by
  constructor
  · intro hsame
    rw [Bool.eq_false_iff]
    intro hescape
    have hmem : .scalar '%' ∈ s := by
      by_contra hnot
      rw [hasEscape_of_notMem hnot] at hescape
      cases hescape
    have hshorter := length_unquoteFrom_lt hescape
    have hdecoded := length_decodeRuns_le [] (unquoteFrom 0 s)
    have hlength := congrArg List.length hsame
    rw [unquote, if_pos hmem] at hlength
    rw [List.length_nil] at hdecoded
    omega
  · intro hescape
    unfold unquote
    split
    · rw [unquoteFrom_of_unescaped hescape, decodeRuns_map [] s [] (List.forall_mem_nil _) rfl,
        List.nil_append]
    · rfl

/-! ## What is kept -/

/-- A character that an escape is not made of. -/
structure Unescapable (c : Char) : Prop where
  ascii : c.toNat < 0x80
  notPercent : c ≠ '%'
  notDigit : hexValue c = none

section Kept

variable {c : Char} (hc : Unescapable c)
include hc

/-- Such a character is a byte of its run. -/
theorem Unescapable.part_eq : unquotePoint (.scalar c) = .inl (UInt8.ofNat c.toNat) :=
  if_pos hc.ascii

/-- It is not in the rest of an escape. -/
theorem Unescapable.mem_drop {first : CodePoint} {rest : PyStr} {b : UInt8}
    (hescape : escapedByte (first :: rest) = some b) (hmem : .scalar c ∈ first :: rest) :
    .scalar c ∈ rest.drop 2 := by
  unfold escapedByte at hescape
  split at hescape
  · rename_i high low others heq
    obtain ⟨rfl, rfl⟩ := List.cons.inj heq
    split at hescape
    · rename_i h l hhigh hlow
      simp only [List.mem_cons, CodePoint.scalar.injEq] at hmem
      rcases hmem with hpercent | rfl | rfl | hothers
      · exact absurd hpercent hc.notPercent
      · rw [hc.notDigit] at hhigh
        cases hhigh
      · rw [hc.notDigit] at hlow
        cases hlow
      · exact hothers
    · cases hescape
  · cases hescape

/-- It stays in what is unquoted. -/
theorem Unescapable.mem_unquoteFrom {n : ℕ} {s : PyStr} (hmem : .scalar c ∈ s.drop n) :
    .inl (UInt8.ofNat c.toNat) ∈ unquoteFrom n s := by
  induction s generalizing n with
  | nil =>
      rw [List.drop_nil] at hmem
      cases hmem
  | cons first rest ih =>
      cases n with
      | succ n =>
          rw [unquoteFrom]
          exact ih hmem
      | zero =>
          rw [unquoteFrom]
          split
          · rename_i b hescape
            exact List.mem_cons_of_mem _ (ih (hc.mem_drop hescape hmem))
          · rcases List.mem_cons.mp hmem with rfl | hrest
            · rw [hc.part_eq]
              exact List.mem_cons_self
            · exact List.mem_cons_of_mem _ (ih hrest)

/-- It is decoded to itself. -/
theorem Unescapable.mem_decodeRuns {run : List UInt8} {parts : List (UInt8 ⊕ CodePoint)}
    (hmem : UInt8.ofNat c.toNat ∈ run ∨ .inl (UInt8.ofNat c.toNat) ∈ parts) :
    .scalar c ∈ decodeRuns run parts := by
  have hnat := toNat_ofNat_of_lt hc.ascii
  have hbyte : UInt8.ofNat c.toNat < 0x80 := by
    rw [UInt8.lt_iff_toNat_lt, hnat]
    exact hc.ascii
  have hrun : ∀ run : List UInt8, UInt8.ofNat c.toNat ∈ run →
      .scalar c ∈ (decodeReplacing run).map CodePoint.scalar := by
    intro run hmem
    have hchar := mem_decodeFrom hbyte (n := 0) (List.forall_mem_nil _) hmem
    rw [hnat, Char.ofNat_toNat] at hchar
    exact List.mem_map_of_mem hchar
  induction parts generalizing run with
  | nil => exact hrun run (hmem.resolve_right List.not_mem_nil)
  | cons part parts ih =>
      cases part with
      | inl b =>
          rw [decodeRuns]
          apply ih
          rcases hmem with hrun | hparts
          · exact .inl (List.mem_append_left _ hrun)
          · rcases List.mem_cons.mp hparts with heq | hrest
            · exact .inl (List.mem_append_right _ (List.mem_singleton.mpr (Sum.inl.inj heq)))
            · exact .inr hrest
      | inr d =>
          rw [decodeRuns, List.mem_append, List.mem_cons]
          rcases hmem with hmem | hparts
          · exact .inl (hrun run hmem)
          · rcases List.mem_cons.mp hparts with heq | hrest
            · cases heq
            · exact .inr (.inr (ih (.inr hrest)))

/-- A character that an escape is not made of is kept. -/
theorem Unescapable.mem_unquote {s : PyStr} (hmem : .scalar c ∈ s) : .scalar c ∈ unquote s := by
  unfold unquote
  split
  · exact hc.mem_decodeRuns (.inr (hc.mem_unquoteFrom hmem))
  · exact hmem

end Kept

end MizanSDK.Python
