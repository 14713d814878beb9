import Mathlib.Data.List.Basic
import Mathlib.Tactic

/-!
# Compact JSON texts

The rewriting of a valid JSON text to its compact form with HTML escapes: white
space between the tokens goes, and `<`, `>`, `&` and the two Unicode line
separators are spelled as escapes.

Main results:

- Theorem `compact_eq_self_iff`: the rewriting leaves exactly the texts alone that
  hold none of these bytes.
-/

namespace CompactJson

/-- Where in a text a byte stands: between the tokens, in a string, or behind a
backslash in a string. -/
inductive Mode where
  | between
  | string
  | escape
deriving DecidableEq

/-- The mode after a byte. -/
def Mode.step : Mode → UInt8 → Mode
  | .between, b => if b = 0x22 then .string else .between
  | .string, b => if b = 0x22 then .between else if b = 0x5C then .escape else .string
  | .escape, _ => .string

/-- The white space of JSON. -/
def isSpace (b : UInt8) : Bool := b == 0x20 || b == 0x09 || b == 0x0A || b == 0x0D

/-- The bytes `<`, `>` and `&`. -/
def isHTML (b : UInt8) : Bool := b == 0x3C || b == 0x3E || b == 0x26

/-- A lower-case hexadecimal digit. -/
def hexDigit (digit : ℕ) : UInt8 :=
  if digit < 10 then .ofNat (0x30 + digit) else .ofNat (0x57 + digit)

/-- The escape of a byte: a backslash, a `u` and four digits. -/
def escapeHTML (b : UInt8) : List UInt8 :=
  [0x5C, 0x75, 0x30, 0x30, hexDigit (b.toNat / 16), hexDigit (b.toNat % 16)]

/-- The escape of U+2028 or U+2029, given the last byte of its encoding. -/
def escapeSeparator (b : UInt8) : List UInt8 :=
  [0x5C, 0x75, 0x32, 0x30, 0x32, hexDigit (b.toNat % 16)]

/-- Rewrite a text from a mode on. -/
def compact : Mode → List UInt8 → List UInt8
  | _, [] => []
  | mode, 0xE2 :: 0x80 :: 0xA8 :: rest => escapeSeparator 0xA8 ++ compact (mode.step 0xA8) rest
  | mode, 0xE2 :: 0x80 :: 0xA9 :: rest => escapeSeparator 0xA9 ++ compact (mode.step 0xA9) rest
  | mode, b :: rest =>
      if isHTML b then escapeHTML b ++ compact (mode.step b) rest
      else if mode = .between ∧ isSpace b = true then compact mode rest
      else b :: compact (mode.step b) rest

/-- A text without the bytes that are rewritten. -/
def settled : Mode → List UInt8 → Bool
  | _, [] => true
  | _, 0xE2 :: 0x80 :: 0xA8 :: _ => false
  | _, 0xE2 :: 0x80 :: 0xA9 :: _ => false
  | mode, b :: rest =>
      !isHTML b && !(decide (mode = .between) && isSpace b) && settled (mode.step b) rest

/-- A rewritten text does not begin with white space. -/
theorem isSpace_head_compact {text : List UInt8} {b : UInt8} {tail : List UInt8}
    (h : compact .between text = b :: tail) : isSpace b = false := by
  induction text with
  | nil => simp [compact] at h
  | cons c rest ih =>
      rw [compact.eq_def] at h
      split at h
      · simp at h
      · rw [escapeSeparator, List.cons_append, List.cons.injEq] at h
        rw [← h.1]
        decide
      · rw [escapeSeparator, List.cons_append, List.cons.injEq] at h
        rw [← h.1]
        decide
      · rename_i hcons
        rw [List.cons.injEq] at hcons
        rcases hcons with ⟨rfl, rfl⟩
        split at h
        · rw [escapeHTML, List.cons_append, List.cons.injEq] at h
          rw [← h.1]
          decide
        · split at h
          · exact ih h
          · rename_i hspace
            rw [List.cons.injEq] at h
            rw [← h.1]
            simpa using hspace

/-- The rewriting leaves exactly the texts alone that hold nothing to rewrite. -/
theorem compact_eq_self_iff (mode : Mode) (text : List UInt8) :
    compact mode text = text ↔ settled mode text = true := by
  induction text generalizing mode with
  | nil => simp [compact, settled]
  | cons c rest ih =>
      rw [compact.eq_def, settled.eq_def]
      split
      · rename_i h
        simp at h
      · rename_i h
        simp [escapeSeparator, h]
      · rename_i h
        simp [escapeSeparator, h]
      · rename_i hcons
        rw [List.cons.injEq] at hcons
        rcases hcons with ⟨rfl, rfl⟩
        rename_i mode _ _ _ _
        by_cases hhtml : isHTML c = true
        · simp only [hhtml, if_true, Bool.not_true, Bool.false_and, Bool.false_eq_true, iff_false]
          intro heq
          rw [escapeHTML, List.cons_append, List.cons.injEq] at heq
          rw [← heq.1] at hhtml
          exact absurd hhtml (by decide)
        · by_cases hspace : mode = .between ∧ isSpace c = true
          · rcases hspace with ⟨rfl, hspace⟩
            -- What is left of a text that begins with white space begins with none.
            have hne : compact .between rest ≠ c :: rest := by
              intro heq
              rw [isSpace_head_compact heq] at hspace
              exact Bool.noConfusion hspace
            simp [hhtml, hspace, hne]
          · have hstays : (decide (mode = .between) && isSpace c) = false := by simpa using hspace
            simp [hhtml, hspace, hstays, ih]

end CompactJson
