import Mathlib.Data.List.Basic
import Mathlib.Tactic

/-!
# Fields that are overwritten

A field receives values one after the other, and each of them replaces its
content or leaves it alone.  The values belong to a list of entries, some of which
are foreign: they should have no say, whatever values they stand for.

Main results:

- Theorem `Overwrites.agree`: foreign entries have no say if each of them is
  followed by an own one that replaces the content.
- Theorem `exists_last_foreign`: otherwise the last foreign entry has the last
  word.
- Theorem `Overwrites.orReset`: both hold as well of contents that are made new at times.
-/

namespace LastWins

variable {V : Type*} {A : Type*}

/-! ## Entries -/

/-- The values that entries may stand for: an own entry for its value, a foreign
one for any values. -/
inductive Expands : List (Option V) → List V → Prop where
  | nil : Expands [] []
  | own (v : V) {entries : List (Option V)} {values : List V} (rest : Expands entries values) :
      Expands (some v :: entries) (v :: values)
  | foreign (front : List V) {entries : List (Option V)} {values : List V}
      (rest : Expands entries values) : Expands (none :: entries) (front ++ values)

/-- The values of two runs of entries. -/
theorem Expands.append {entries others : List (Option V)} {values further : List V}
    (h : Expands entries values) (h' : Expands others further) :
    Expands (entries ++ others) (values ++ further) := by
  induction h with
  | nil => exact h'
  | own v _ ih => exact .own v ih
  | foreign front _ ih =>
      rw [List.append_assoc]
      exact .foreign front ih

/-- The values of entries are those of their parts. -/
theorem Expands.split {entries others : List (Option V)} {values : List V}
    (h : Expands (entries ++ others) values) :
    ∃ front back, values = front ++ back ∧ Expands entries front ∧ Expands others back := by
  induction entries generalizing values with
  | nil => exact ⟨[], values, rfl, .nil, h⟩
  | cons e entries ih =>
      cases h with
      | own v rest =>
          rcases ih rest with ⟨front, back, rfl, hfront, hback⟩
          exact ⟨v :: front, back, rfl, .own v hfront, hback⟩
      | foreign first rest =>
          rcases ih rest with ⟨front, back, rfl, hfront, hback⟩
          exact ⟨first ++ front, back, (List.append_assoc _ _ _).symm, .foreign first hfront, hback⟩

/-- The values of entries that are translated. -/
theorem Expands.map {W : Type*} (f : V → W) {entries : List (Option V)} {values : List V}
    (h : Expands entries values) : Expands (entries.map (Option.map f)) (values.map f) := by
  induction h with
  | nil => exact .nil
  | own v _ ih => exact .own (f v) ih
  | foreign front _ ih =>
      rw [List.map_append]
      exact .foreign (front.map f) ih

/-- Own entries stand for their values only. -/
theorem Expands.forall_mem {P : V → Prop} {entries : List (Option V)} {values : List V}
    (h : Expands entries values) (hown : ∀ e ∈ entries, ∃ v, e = some v ∧ P v) :
    ∀ v ∈ values, P v := by
  induction h with
  | nil =>
      intro v hv
      cases hv
  | own v _ ih =>
      rw [List.forall_mem_cons] at hown ⊢
      rcases hown.1 with ⟨w, hw, hP⟩
      rw [Option.some.inj hw]
      exact ⟨hP, ih hown.2⟩
  | foreign front _ _ =>
      rcases hown none List.mem_cons_self with ⟨v, hv, -⟩
      cases hv

/-- Every foreign entry is followed by an own one that is not skipped. -/
def Decided (skips : V → Bool) (entries : List (Option V)) : Prop :=
  ∀ front back, entries = front ++ none :: back → ∃ v, some v ∈ back ∧ skips v = false

/-- Entries are decided behind the first one. -/
theorem Decided.tail {skips : V → Bool} {e : Option V} {entries : List (Option V)}
    (h : Decided skips (e :: entries)) : Decided skips entries := by
  intro front back heq
  exact h (e :: front) back (by rw [heq, List.cons_append])

/-- Own entries alone are decided. -/
theorem decided_of_own {skips : V → Bool} {entries : List (Option V)} (h : none ∉ entries) :
    Decided skips entries := by
  rintro front back rfl
  exact absurd (List.mem_append_right front List.mem_cons_self) h

/-- Behind a last own entry there is nothing. -/
theorem Decided.last {skips : V → Bool} {front back : List (Option V)} {v : V}
    (h : Decided skips (front ++ some v :: back)) (hback : ∀ e ∈ back, e = none) : back = [] := by
  cases back with
  | nil => rfl
  | cons e rest =>
      obtain rfl := hback e List.mem_cons_self
      rcases h (front ++ [some v]) rest (by simp) with ⟨w, hw, -⟩
      cases hback (some w) (List.mem_cons_of_mem _ hw)

/-- Entries that are not decided have a last foreign one with nothing but skipped
entries behind it. -/
theorem exists_last_foreign {skips : V → Bool} {entries : List (Option V)}
    (h : ¬ Decided skips entries) :
    ∃ front back, entries = front ++ none :: back ∧
      ∀ e ∈ back, ∃ v, e = some v ∧ skips v = true := by
  induction entries with
  | nil =>
      refine absurd (decided_of_own ?_) h
      exact List.not_mem_nil
  | cons e entries ih =>
      by_cases hrest : Decided skips entries
      · -- Only the first entry can be to blame.
        have hskipped : e = none ∧ ∀ v, some v ∈ entries → skips v = true := by
          by_contra hblame
          apply h
          intro front back heq
          cases front with
          | nil =>
              rw [List.nil_append, List.cons.injEq] at heq
              by_contra hnone
              apply hblame
              refine ⟨heq.1, fun v hv => ?_⟩
              rw [← Bool.not_eq_false]
              exact fun hcounts => hnone ⟨v, heq.2 ▸ hv, hcounts⟩
          | cons first front =>
              rw [List.cons_append, List.cons.injEq] at heq
              exact hrest front back heq.2
        refine ⟨[], entries, by rw [hskipped.1, List.nil_append], ?_⟩
        intro e' he'
        cases e' with
        | some v => exact ⟨v, rfl, hskipped.2 v he'⟩
        | none =>
            rcases List.append_of_mem he' with ⟨front, back, heq⟩
            rcases hrest front back heq with ⟨v, hv, hcounts⟩
            have hmem : some v ∈ entries := by
              rw [heq]
              exact List.mem_append_right _ (List.mem_cons_of_mem _ hv)
            rw [hskipped.2 v hmem] at hcounts
            cases hcounts
      · rcases ih hrest with ⟨front, back, rfl, hback⟩
        exact ⟨e :: front, back, rfl, hback⟩

/-! ## Contents -/

/-- Receive values one after the other. -/
def receive (decode : V → A → Option A) (content : A) (values : List V) : Option A :=
  values.foldlM (fun content v => decode v content) content

/-- Values and contents that are translated alike. -/
theorem receive_map {W B : Type*} {decode : V → A → Option A} (decode' : W → B → Option B)
    {g : V → W} {f : A → B} {values : List V}
    (hdecode : ∀ v ∈ values, ∀ a b, decode v a = some b → decode' (g v) (f a) = some (f b))
    {content a : A} (ha : receive decode content values = some a) :
    receive decode' (f content) (values.map g) = some (f a) := by
  induction values generalizing content with
  | nil =>
      cases ha
      rfl
  | cons v values ih =>
      rw [List.forall_mem_cons] at hdecode
      rw [receive, List.foldlM_cons] at ha
      rcases Option.bind_eq_some_iff.mp ha with ⟨b, hb, ha⟩
      rw [receive, List.map_cons, List.foldlM_cons, hdecode.1 content b hb]
      exact ih hdecode.2 ha

/-- A value that is skipped leaves the content alone; any other replaces it. -/
structure Overwrites (decode : V → A → Option A) (skips : V → Bool) : Prop where
  skip : ∀ v, skips v = true → ∀ a, decode v a = some a
  set : ∀ v, skips v = false → ∀ a b, decode v a = decode v b

variable {decode : V → A → Option A} {skips : V → Bool}

/-- The first value is received before the others. -/
theorem receive_cons (v : V) (values : List V) (content : A) :
    receive decode content (v :: values) = (decode v content).bind (receive decode · values) := by
  rw [receive, List.foldlM_cons]
  rfl

/-- Values are received one run after the other. -/
theorem receive_append (front back : List V) (content : A) :
    receive decode content (front ++ back) =
      (receive decode content front).bind (receive decode · back) := by
  rw [receive, List.foldlM_append]
  rfl

/-- Skipped values change nothing. -/
theorem Overwrites.receive_skipped (h : Overwrites decode skips) {values : List V}
    (hskips : ∀ v ∈ values, skips v = true) (content : A) :
    receive decode content values = some content := by
  induction values generalizing content with
  | nil => rfl
  | cons v values ih =>
      rw [List.forall_mem_cons] at hskips
      rw [receive_cons, h.skip v hskips.1, Option.bind_some]
      exact ih hskips.2 content

/-- With the first contents equal, or a value that replaces them, the entries
determine the last content. -/
theorem Overwrites.agree_from (h : Overwrites decode skips) {entries : List (Option V)}
    (hdecided : Decided skips entries) {values others : List V} (hvalues : Expands entries values)
    (hothers : Expands entries others) {start start' a a' : A}
    (hstart : start = start' ∨ ∃ v, some v ∈ entries ∧ skips v = false)
    (ha : receive decode start values = some a) (ha' : receive decode start' others = some a') :
    a = a' := by
  induction hvalues generalizing others start start' with
  | nil =>
      cases hothers
      rcases hstart with rfl | ⟨v, hv, -⟩
      · exact Option.some.inj (ha.symm.trans ha')
      · cases hv
  | @own v entries values _ ih =>
      cases hothers with
      | own _ rest' =>
          rw [receive_cons, Option.bind_eq_some_iff] at ha ha'
          rcases ha with ⟨b, hb, ha⟩
          rcases ha' with ⟨b', hb', ha'⟩
          refine ih hdecided.tail rest' ?_ ha ha'
          cases hskips : skips v with
          | true =>
              rw [h.skip v hskips, Option.some.injEq] at hb hb'
              subst hb hb'
              rcases hstart with hsame | ⟨w, hw, hcounts⟩
              · exact .inl hsame
              · rcases List.mem_cons.mp hw with heq | hw
                · rw [Option.some.inj heq, hskips] at hcounts
                  cases hcounts
                · exact .inr ⟨w, hw, hcounts⟩
          | false =>
              rw [h.set v hskips start start', hb', Option.some.injEq] at hb
              exact .inl hb.symm
  | @foreign front entries values _ ih =>
      cases hothers with
      | foreign front' rest' =>
          rw [receive_append, Option.bind_eq_some_iff] at ha ha'
          rcases ha with ⟨b, -, ha⟩
          rcases ha' with ⟨b', -, ha'⟩
          exact ih hdecided.tail rest' (.inr (hdecided [] entries rfl)) ha ha'

/-- Decided entries determine the content. -/
theorem Overwrites.agree (h : Overwrites decode skips) {entries : List (Option V)}
    (hdecided : Decided skips entries) {values others : List V} (hvalues : Expands entries values)
    (hothers : Expands entries others) {start a a' : A}
    (ha : receive decode start values = some a) (ha' : receive decode start others = some a') :
    a = a' :=
  h.agree_from hdecided hvalues hothers (.inl rfl) ha ha'

/-- What a value with only skipped ones behind it says is the content. -/
theorem Overwrites.content_of_word (h : Overwrites decode skips) {front back : List V} {v : V}
    (hback : ∀ w ∈ back, skips w = true) (hcounts : skips v = false) {start a : A}
    (ha : receive decode start (front ++ v :: back) = some a) (zero : A) :
    decode v zero = some a := by
  rw [receive_append, Option.bind_eq_some_iff] at ha
  rcases ha with ⟨b, -, ha⟩
  rw [receive_cons, Option.bind_eq_some_iff] at ha
  rcases ha with ⟨c, hc, ha⟩
  rw [h.receive_skipped hback c, Option.some.injEq] at ha
  rw [h.set v hcounts zero b, hc, ha]

/-- The content of decided entries is that of a last own entry. -/
theorem Overwrites.content_of_last (h : Overwrites decode skips) {front back : List (Option V)}
    {v : V} (hdecided : Decided skips (front ++ some v :: back)) (hback : ∀ e ∈ back, e = none)
    (hcounts : skips v = false) {values : List V}
    (hvalues : Expands (front ++ some v :: back) values) {start a : A}
    (ha : receive decode start values = some a) : decode v start = some a := by
  obtain rfl := hdecided.last hback
  rcases hvalues.split with ⟨before, last, rfl, -, hlast⟩
  cases hlast with
  | own _ rest =>
      cases rest
      exact h.content_of_word (List.forall_mem_nil _) hcounts ha start

/-- A value with only skipped ones behind it has the last word. -/
theorem Overwrites.last_word (h : Overwrites decode skips) {front middle back : List V} {v : V}
    (hback : ∀ w ∈ back, skips w = true) (hcounts : skips v = false) {start a b : A}
    (ha : receive decode start (front ++ middle) = some a) (hb : decode v start = some b) :
    receive decode start (front ++ v :: back) = some b := by
  rw [receive_append, Option.bind_eq_some_iff] at ha
  rcases ha with ⟨c, hc, -⟩
  rw [receive_append, hc, Option.bind_some, receive_cons, h.set v hcounts c start, hb,
    Option.bind_some]
  exact h.receive_skipped hback b

/-! ## What can be received -/

/-- Values are received if each of them is, whatever content it finds. -/
theorem receive_isSome_iff {p : V → Prop} {values : List V}
    (h : ∀ v ∈ values, ∀ a, (decode v a).isSome = true ↔ p v) (content : A) :
    (receive decode content values).isSome = true ↔ ∀ v ∈ values, p v := by
  induction values generalizing content with
  | nil => exact iff_of_true rfl (List.forall_mem_nil p)
  | cons v values ih =>
      rw [List.forall_mem_cons] at h ⊢
      rw [receive_cons, ← h.1 content]
      cases decode v content with
      | none => simp
      | some b =>
          rw [Option.bind_some, Option.isSome_some, eq_self, true_and]
          exact ih h.2 b

/-- Whether a value is received does not depend on the content. -/
theorem Overwrites.isSome_eq (h : Overwrites decode skips) (v : V) (a b : A) :
    (decode v a).isSome = (decode v b).isSome := by
  cases hskips : skips v with
  | true => rw [h.skip v hskips a, h.skip v hskips b, Option.isSome_some, Option.isSome_some]
  | false => rw [h.set v hskips a b]

/-- Nor do several of them. -/
theorem Overwrites.receive_isSome_iff (h : Overwrites decode skips) (values : List V)
    (content start : A) : (receive decode content values).isSome = true ↔
      ∀ v ∈ values, (decode v start).isSome = true := by
  apply LastWins.receive_isSome_iff
  intro v _ a
  rw [h.isSome_eq v a start]

/-! ## Contents that are made new -/

/-- A value is received; where there is none, the content is made new. -/
def orReset (decode : V → A → Option A) (zero : A) : Option V → A → Option A
  | none, _ => some zero
  | some v, content => decode v content

/-- A new content is never the old one left alone. -/
def unlessReset (skips : V → Bool) : Option V → Bool
  | none => false
  | some v => skips v

/-- A decoder that may also be told to start anew overwrites as it did. -/
theorem Overwrites.orReset (h : Overwrites decode skips) (zero : A) :
    Overwrites (orReset decode zero) (unlessReset skips) where
  skip v hskips a := by
    cases v with
    | none => cases hskips
    | some v => exact h.skip v hskips a
  set v hskips a b := by
    cases v with
    | none => rfl
    | some v => exact h.set v hskips a b

/-- Without new starts the values are received as they are. -/
theorem receive_orReset_map_some (zero content : A) (values : List V) :
    receive (orReset decode zero) content (values.map some) = receive decode content values := by
  rw [receive, List.foldlM_map]
  rfl

end LastWins
