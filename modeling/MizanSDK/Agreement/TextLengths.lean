import MizanSDK.Agreement.UsageFacts
import MizanSDK.Agreement.Webhooks
import MizanSDK.Go.Methods
import MizanSDK.Python.Payments

/-!
# The lengths both SDKs measure

Seven kinds of text have a bounded length, and each SDK checks it before a request
is sent.  Python counts code points, Go counts the bytes of their UTF-8 encoding
and reports them as characters.

Main results:

- Theorems `LengthCheck.goAccepts_iff` and `LengthCheck.pyAccepts_iff`: which texts
  either check accepts.
- Theorem `LengthCheck.accepts_alike_iff`: which texts both accept or both refuse.
-/

namespace MizanSDK.Agreement

open JsonText Checks

/-- A kind of text whose length both SDKs check.  A field of metadata has a name in
the findings of Go and one in those of Python. -/
inductive LengthCheck where
  | sourceEventID
  | paymentEventID
  | refundReason
  | actorID
  | metadataField (goName name : String)
  | attributeValue
  | attributeKey

/-- The most characters a check is said to accept. -/
def LengthCheck.bound : LengthCheck → ℕ
  | .sourceEventID | .paymentEventID | .actorID => 128
  | .refundReason => 1000
  | .metadataField _ _ | .attributeValue => 512
  | .attributeKey => 64

/-- The Go check accepts a text.  What else its function checks is in order. -/
def LengthCheck.GoAccepts (occurredAt : Go.GoTime) : LengthCheck → String → Prop
  | .sourceEventID, s => Go.validateUsageEvent s occurredAt = none
  | .paymentEventID, s => Go.validatePaymentEventID s = none
  | .refundReason, s => Go.validateRefundReason s = none
  | .actorID, s =>
      Go.checkActor (((∅ : AList fun _ : String => String).insert "type" "user").insert "id" s) =
        none
  | .metadataField goName _, s => Go.checkBounded (goName, s) = none
  | .attributeValue, s => Go.checkAttribute ⟨"note", .string s⟩ = none
  | .attributeKey, s => Go.checkAttribute ⟨s, .nil⟩ = none

/-- The Python check accepts a text.  What else its function checks is in order. -/
def LengthCheck.PyAccepts (py : Python.BuilderInterpreter) (occurredAt : Python.PyStr) :
    LengthCheck → String → Prop
  | .sourceEventID, s => Python.checkEvent py (text s) (.str occurredAt) = .ok ()
  | .paymentEventID, s => Python.checkPaymentEvent (text s) = .ok ()
  | .refundReason, s => Python.checkReason (text s) = .ok ()
  | .actorID, s =>
      Python.checkActor
        (some (.dict [(Python.str "type", text "user"), (Python.str "id", text s)])) = .ok ()
  | .metadataField _ name, s => Python.checkField name (some (text s)) = .ok ()
  | .attributeValue, s => Python.checkAttribute py (Python.str "note") (text s) = .ok ()
  | .attributeKey, s => Python.checkAttribute py (Python.str s) .none = .ok ()

/-- A text without bytes. -/
theorem utf8ByteSize_pos_iff (s : String) : 1 ≤ s.utf8ByteSize ↔ s ≠ "" := by
  rw [Nat.one_le_iff_ne_zero, Ne, String.utf8ByteSize_eq_zero_iff]

/-- What a check wants of a text besides its length. -/
def LengthCheck.GoFilled : LengthCheck → String → Prop
  | .sourceEventID, s | .paymentEventID, s | .actorID, s => s ≠ ""
  | .refundReason, s => Go.trimSpace s ≠ ""
  | .metadataField _ _, _ | .attributeValue, _ | .attributeKey, _ => True

/-- What a check wants of a text besides its length. -/
def LengthCheck.PyFilled : LengthCheck → String → Prop
  | .sourceEventID, s | .paymentEventID, s | .actorID, s | .metadataField _ _, s => s ≠ ""
  | .refundReason, s => Python.strip (Python.str s) ≠ []
  | .attributeValue, _ | .attributeKey, _ => True

/-- Go counts bytes. -/
theorem LengthCheck.goAccepts_iff (check : LengthCheck) {occurredAt : Go.GoTime}
    (htime : occurredAt.isZero = false) (s : String) :
    check.GoAccepts occurredAt s ↔ check.GoFilled s ∧ s.utf8ByteSize ≤ check.bound := by
  have hempty := utf8ByteSize_pos_iff s
  cases check with
  | sourceEventID =>
      rw [GoAccepts, Go.validateUsageEvent, GoFilled, ← hempty, bound]
      simp only [htime, Bool.or_eq_true, decide_eq_true_eq, Bool.false_eq_true, if_false,
        ite_eq_right_iff, reduceCtorEq, imp_false]
      omega
  | paymentEventID =>
      rw [GoAccepts, Go.validatePaymentEventID, GoFilled, ← hempty, bound]
      simp only [Bool.or_eq_true, decide_eq_true_eq, ite_eq_right_iff, reduceCtorEq, imp_false]
      omega
  | refundReason =>
      rw [GoAccepts, Go.validateRefundReason, GoFilled, bound]
      simp only [ite_eq_right_iff, reduceCtorEq, imp_false, not_or, not_lt, ne_eq]
  | actorID =>
      have hkeys : (((∅ : AList fun _ : String => String).insert "type" "user").insert "id"
          s).keys.length = 2 := rfl
      have htype : (((∅ : AList fun _ : String => String).insert "type" "user").insert "id"
          s).lookup "type" = some "user" := rfl
      have huser : "user" ∈ Go.actorTypes := by decide
      rw [GoAccepts, Go.checkActor, hkeys, htype, AList.lookup_insert, GoFilled, bound]
      simp [huser]
  | metadataField goName name =>
      rw [GoAccepts, Go.checkBounded, GoFilled, bound]
      simp only [ite_eq_right_iff, reduceCtorEq, imp_false, not_and, not_lt, ← hempty,
        true_and]
      omega
  | attributeValue =>
      have hkey : ¬ 64 < "note".utf8ByteSize := by decide
      rw [GoAccepts, Go.checkAttribute, if_neg hkey, GoFilled, bound]
      simp [Go.AttributeValue.checkScalar, Go.AttributeValue.sprint]
  | attributeKey =>
      rw [GoAccepts, Go.checkAttribute, GoFilled, bound]
      simp [Go.AttributeValue.checkScalar]

/-- Python counts code points. -/
theorem LengthCheck.pyAccepts_iff (check : LengthCheck) {py : Python.BuilderInterpreter}
    {occurredAt : Python.PyStr}
    (htime : py.fromisoformat (Python.spellUtc occurredAt) = some true) (s : String) :
    check.PyAccepts py occurredAt s ↔ check.PyFilled s ∧ s.length ≤ check.bound := by
  have hlength : (Python.str s).length = s.length := by
    rw [length_str, String.length_toList]
  have hempty : 1 ≤ s.length ↔ s ≠ "" := by
    rw [Nat.one_le_iff_ne_zero, Ne, String.length_eq_zero_iff]
  cases check with
  | sourceEventID =>
      rw [PyAccepts, Python.checkEvent_eq_ok_iff, PyFilled, ← hempty, bound]
      simp [text, htime, hlength]
  | paymentEventID =>
      rw [PyAccepts, Python.checkPaymentEvent, PyFilled, ← hempty, bound]
      simp [text, hlength, require_eq_ok_iff]
  | refundReason =>
      rw [PyAccepts, Python.checkReason, PyFilled, bound]
      simp [text, hlength, require_eq_ok_iff]
  | actorID =>
      have hactor : (text s).isTextWith (fun t => 1 ≤ t.length && t.length ≤ 128) = true ↔
          1 ≤ s.length ∧ s.length ≤ 128 := by
        simp [text, hlength]
      rw [PyAccepts, PyFilled, ← hempty, bound, ← hactor]
      constructor
      · intro h
        simp only [Python.checkActor, bind_eq_ok_iff, require_eq_ok_iff] at h
        rcases h with ⟨actor, hactor, _, -, type, -, _, -, hid⟩
        obtain rfl := Except.ok.inj hactor
        exact hid
      · intro h
        have hid : require ((text s).isTextWith fun t => 1 ≤ t.length && t.length ≤ 128)
            Python.actorError = .ok () := by
          rw [require_eq_ok_iff]
          exact h
        exact hid
  | metadataField goName name =>
      rw [PyAccepts, PyFilled, ← hempty, bound]
      simp [text, hlength, require_eq_ok_iff, Python.checkField]
  | attributeValue =>
      have hkey : (Python.str "note").length ≤ 64 := by decide
      rw [PyAccepts, PyFilled, bound]
      simp [text, hlength, require_eq_ok_iff, Python.checkAttribute, hkey, bind_eq_ok_iff,
        Python.PyValue.isScalar, Python.PyValue.isFinite, Python.Interpreter.str]
  | attributeKey =>
      rw [PyAccepts, PyFilled, bound]
      simp [hlength, require_eq_ok_iff, Python.checkAttribute]

/-- The count of bytes does not turn a text away. -/
def LengthCheck.Measures (check : LengthCheck) (s : String) : Prop :=
  s.length ≤ check.bound → s.utf8ByteSize ≤ check.bound

/-- The two checks treat a text alike: the count of bytes does not turn it away,
except where it is blank for Python.  There it has to be blank for Go, or too long;
and there is no empty field of metadata, which Go takes for a missing one. -/
def LengthCheck.Alike : LengthCheck → String → Prop
  | .refundReason, s =>
      (Python.strip (Python.str s) ≠ [] → LengthCheck.refundReason.Measures s) ∧
        (OddlyBlank s → 1000 < s.utf8ByteSize)
  | .metadataField goName name, s => s ≠ "" ∧ (LengthCheck.metadataField goName name).Measures s
  | check, s => check.Measures s

/-- A text has a byte for every character at least. -/
theorem length_le_bytes (s : String) : s.length ≤ s.utf8ByteSize := by
  have hle := length_le_utf8ByteSize s.toList
  rwa [String.ofList_toList, String.length_toList] at hle

/-- Two checks that want the same besides the length differ by the count alone. -/
theorem counts_alike_iff {filled : Prop} {length bytes bound : ℕ} (hle : length ≤ bytes)
    (hempty : ¬ filled → bytes ≤ bound) :
    (filled ∧ bytes ≤ bound ↔ filled ∧ length ≤ bound) ↔ (length ≤ bound → bytes ≤ bound) := by
  by_cases hfilled : filled
  · simp only [hfilled, true_and]
    constructor
    · intro h
      exact h.mpr
    · intro h
      exact ⟨hle.trans, h⟩
  · simp [hfilled, hempty hfilled]

/-- The reasons both SDKs accept or both refuse. -/
theorem reasons_alike_iff (s : String) :
    (Go.trimSpace s ≠ "" ∧ s.utf8ByteSize ≤ 1000 ↔
        Python.strip (Python.str s) ≠ [] ∧ s.length ≤ 1000) ↔
      (Python.strip (Python.str s) ≠ [] → s.length ≤ 1000 → s.utf8ByteSize ≤ 1000) ∧
        (OddlyBlank s → 1000 < s.utf8ByteSize) := by
  have hle := length_le_bytes s
  rw [oddlyBlank_iff]
  by_cases hblank : Python.strip (Python.str s) = []
  · by_cases hspace : Go.trimSpace s = ""
    · simp [hblank, hspace]
    · simp [hblank, hspace]
  · have hspace : Go.trimSpace s ≠ "" := mt strip_of_trimSpace hblank
    simp only [hblank, hspace, ne_eq, not_false_eq_true, true_and, forall_const, and_false,
      false_implies, and_true]
    constructor
    · intro h
      exact h.mpr
    · intro h
      exact ⟨hle.trans, h⟩

/-- Which texts both SDKs accept or both refuse. -/
theorem LengthCheck.accepts_alike_iff (check : LengthCheck) {py : Python.BuilderInterpreter}
    {occurredAt : Go.GoTime} {timestamp : Python.PyStr} (hgo : occurredAt.isZero = false)
    (hpy : py.fromisoformat (Python.spellUtc timestamp) = some true) (s : String) :
    (check.GoAccepts occurredAt s ↔ check.PyAccepts py timestamp s) ↔ check.Alike s := by
  have hle := length_le_bytes s
  have hempty : ∀ bound, ¬ s ≠ "" → s.utf8ByteSize ≤ bound := by
    intro bound h
    rw [not_not.mp h]
    exact Nat.zero_le bound
  rw [check.goAccepts_iff hgo, check.pyAccepts_iff hpy]
  cases check with
  | sourceEventID | paymentEventID | actorID => exact counts_alike_iff hle (hempty _)
  | refundReason => exact reasons_alike_iff s
  | metadataField goName name =>
      simp only [GoFilled, PyFilled, Alike, Measures, bound, true_and]
      by_cases hs : s = ""
      · simp [hs]
      · simp only [hs, ne_eq, not_false_eq_true, true_and]
        constructor
        · intro h
          exact h.mpr
        · intro h
          exact ⟨hle.trans, h⟩
  | attributeValue | attributeKey => exact counts_alike_iff hle (absurd trivial)

/-- A time that is set. -/
def someTime : Go.GoTime := ⟨false, "2026-08-04T00:00:00Z"⟩

theorem LengthCheck.accepts_alike_ascii :
    LengthCheck.refundReason.GoAccepts someTime "duplicate" ↔
      LengthCheck.refundReason.PyAccepts Python.asciiInterpreter
        (Python.str "2026-08-04T00:00:00Z") "duplicate" := by
  refine (LengthCheck.refundReason.accepts_alike_iff rfl (by decide) "duplicate").mpr ⟨?_, ?_⟩
  · intro _ _
    decide
  · rintro ⟨-, c, hc, hseparator⟩
    have hnone : ∀ c ∈ "duplicate".toList, isSeparator c = false :=
      List.all_iff_forall_prop.mp (by decide)
    exact absurd hseparator (Bool.eq_false_iff.mp (hnone c hc))

/-- An identifier of 65 Arabic letters. -/
def arabicID : String := String.ofList (List.replicate 65 'م')

/-- Go refuses it as too long, Python accepts it. -/
theorem LengthCheck.accepts_differently :
    ¬ (LengthCheck.sourceEventID.GoAccepts someTime arabicID ↔
      LengthCheck.sourceEventID.PyAccepts Python.asciiInterpreter
        (Python.str "2026-08-04T00:00:00Z") arabicID) := by
  have hbytes : arabicID.utf8ByteSize = 130 := by decide +kernel
  have hlength : arabicID.length = 65 := by decide +kernel
  have hnonempty : arabicID ≠ "" := by decide +kernel
  rw [goAccepts_iff _ rfl, pyAccepts_iff _ (by decide), hbytes, hlength]
  intro h
  exact absurd (h.mpr ⟨hnonempty, by decide⟩).2 (by decide)

end MizanSDK.Agreement
