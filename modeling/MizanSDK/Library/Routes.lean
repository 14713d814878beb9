import Mathlib.Data.List.Basic
import Mathlib.Tactic

/-!
# Paths with identifiers in them

A path is written from a pattern of fixed segments and slots, each slot holding
the escape of an identifier.  What receives the path removes its dot segments
(RFC 3986, 5.2.4), splits it at the slashes and decodes the segments of the
slots.

Main results:

- Theorem `routed_iff`: the path arrives as its pattern says exactly when no
  identifier is escaped to a dot segment.
- Theorem `Routed.ids_eq`: the segments determine the identifiers.
- Theorem `Routed.compatible`: paths of two patterns that differ in a fixed
  segment or in length arrive at different places.
-/

namespace Routes

/-- A segment of a path. -/
abbrev Segment := List Char

/-- The segments with a meaning of their own. -/
def dots : List Segment := [['.'], ['.', '.']]

/-! ## Dot segments -/

/-- Remove dot segments; `out` holds the output so far, the last segment first.
A dot segment at the end leaves an empty segment behind. -/
def removeDotsFrom (out : List Segment) : List Segment → List Segment
  | [] => out.reverse
  | s :: rest =>
      if s = ['.'] then removeDotsFrom (if rest = [] then [] :: out else out) rest
      else if s = ['.', '.'] then
        removeDotsFrom (if rest = [] then [] :: out.tail else out.tail) rest
      else removeDotsFrom (s :: out) rest

/-- Dot-segment removal on the segments of a path. -/
def removeDots (segments : List Segment) : List Segment := removeDotsFrom [] segments

/-- Without dot segments nothing is removed. -/
theorem removeDotsFrom_of_plain {segments : List Segment} (h : ∀ s ∈ segments, s ∉ dots)
    (out : List Segment) : removeDotsFrom out segments = out.reverse ++ segments := by
  induction segments generalizing out with
  | nil => simp [removeDotsFrom]
  | cons s rest ih =>
      rw [List.forall_mem_cons] at h
      have hs := h.1
      simp only [dots, List.mem_cons, List.not_mem_nil, or_false, not_or] at hs
      rw [removeDotsFrom, if_neg hs.1, if_neg hs.2, ih h.2, List.reverse_cons, List.append_assoc,
        List.singleton_append]

theorem removeDots_of_plain {segments : List Segment} (h : ∀ s ∈ segments, s ∉ dots) :
    removeDots segments = segments :=
  removeDotsFrom_of_plain h []

/-- What is left over was there before, is empty, or is no dot segment. -/
theorem mem_removeDotsFrom {segments out : List Segment} {s : Segment}
    (h : s ∈ removeDotsFrom out segments) :
    s ∈ out ∨ s = [] ∨ (s ∈ segments ∧ s ∉ dots) := by
  induction segments generalizing out with
  | nil =>
      rw [removeDotsFrom, List.mem_reverse] at h
      exact .inl h
  | cons head rest ih =>
      have hlater : s = [] ∨ (s ∈ rest ∧ s ∉ dots) → s = [] ∨ (s ∈ head :: rest ∧ s ∉ dots) := by
        rintro (hempty | ⟨hmem, hplain⟩)
        · exact .inl hempty
        · exact .inr ⟨List.mem_cons_of_mem _ hmem, hplain⟩
      rw [removeDotsFrom] at h
      by_cases hdot : head = ['.']
      · rw [if_pos hdot] at h
        rcases ih h with hout | hrest
        · split at hout
          · rcases List.mem_cons.mp hout with hempty | hout
            · exact .inr (.inl hempty)
            · exact .inl hout
          · exact .inl hout
        · exact .inr (hlater hrest)
      · rw [if_neg hdot] at h
        by_cases hdots : head = ['.', '.']
        · rw [if_pos hdots] at h
          rcases ih h with hout | hrest
          · split at hout
            · rcases List.mem_cons.mp hout with hempty | hout
              · exact .inr (.inl hempty)
              · exact .inl (List.mem_of_mem_tail hout)
            · exact .inl (List.mem_of_mem_tail hout)
          · exact .inr (hlater hrest)
        · rw [if_neg hdots] at h
          rcases ih h with hout | hrest
          · rcases List.mem_cons.mp hout with hhead | hout
            · right; right
              exact ⟨hhead ▸ List.mem_cons_self, by simp [dots, hhead, hdot, hdots]⟩
            · exact .inl hout
          · exact .inr (hlater hrest)

/-- No dot segment is left over. -/
theorem mem_removeDots {segments : List Segment} {s : Segment} (h : s ∈ removeDots segments) :
    s = [] ∨ (s ∈ segments ∧ s ∉ dots) := by
  rcases mem_removeDotsFrom h with hout | hrest
  · cases hout
  · exact hrest

/-! ## Paths -/

/-- The path of a list of segments. -/
def absolute (segments : List Segment) : List Char := segments.flatMap ('/' :: ·)

/-- The segments a path leads along: without its query and its fragment, and without
dot segments. -/
def route (path : List Char) : List Segment :=
  removeDots ((path.takeWhile (· ∉ ['?', '#'])).splitOn '/').tail

/-- What can follow a path. -/
def IsQuery (query : List Char) : Prop := query = [] ∨ query.head? = some '?'

theorem absolute_eq_intercalate {segments : List Segment} (h : segments ≠ []) :
    absolute segments = ['/'].intercalate ([] :: segments) := by
  have hcons : ∀ s rest, absolute (s :: rest) = ['/'].intercalate ([] :: s :: rest) := by
    intro s rest
    induction rest generalizing s with
    | nil => simp [absolute]
    | cons t rest ih =>
        have ht := ih t
        simp only [List.intercalate_cons_cons, List.nil_append, absolute,
          List.flatMap_cons] at ht ⊢
        rw [ht]
        simp
  cases segments with
  | nil => exact absurd rfl h
  | cons s rest => exact hcons s rest

/-- The query is cut off and the segments are found again. -/
theorem route_absolute {segments : List Segment} (hsome : segments ≠ [])
    (hplain : ∀ s ∈ segments, ∀ c ∈ s, c ∉ ['/', '?', '#']) {query : List Char}
    (hquery : IsQuery query) : route (absolute segments ++ query) = removeDots segments := by
  have hpath : ∀ c ∈ absolute segments, decide (c ∉ ['?', '#']) = true := by
    intro c hc
    rw [absolute, List.mem_flatMap] at hc
    rcases hc with ⟨s, hs, hc⟩
    rw [decide_eq_true_eq]
    rcases List.mem_cons.mp hc with rfl | hmem
    · decide
    · intro hcut
      exact hplain s hs c hmem (List.mem_cons_of_mem _ hcut)
  have hcut : query.takeWhile (· ∉ ['?', '#']) = [] := by
    rcases hquery with rfl | hhead
    · rfl
    · cases query with
      | nil => rfl
      | cons c rest =>
          obtain rfl : c = '?' := by simpa using hhead
          simp
  have hslashes : ∀ s ∈ [] :: segments, '/' ∉ s := by
    intro s hs
    rcases List.mem_cons.mp hs with rfl | hs
    · exact List.not_mem_nil
    · intro hslash
      exact hplain s hs '/' hslash List.mem_cons_self
  rw [route, List.takeWhile_append_of_pos hpath, hcut, List.append_nil,
    absolute_eq_intercalate hsome, List.splitOn_intercalate '/' hslashes (List.cons_ne_nil _ _),
    List.tail_cons]

/-! ## Patterns -/

/-- How identifiers are written in a segment and read from one. -/
structure Codec (α : Type) where
  encode : α → Segment
  decode : Segment → Option α
  decode_encode : ∀ a, decode (encode a) = some a
  plain : ∀ a, ∀ c ∈ encode a, c ∉ ['/', '?', '#']

/-- Fixed segments, and slots for identifiers. -/
abbrev Pattern := List (Option Segment)

/-- The fixed segments of a pattern. -/
def Pattern.texts (p : Pattern) : List Segment := p.filterMap id

section Codec

variable {α : Type} (codec : Codec α) (decode : Segment → Option α)

/-- The segments of a pattern with identifiers in its slots. -/
def write : Pattern → List α → List Segment
  | some s :: p, ids => s :: write p ids
  | none :: p, a :: ids => codec.encode a :: write p ids
  | _, _ => []

/-- Segments are those of a pattern: the fixed ones stand where the pattern has
them, and each identifier occupies the one segment of its slot, which decodes to
it. -/
inductive Routed : Pattern → List α → List Segment → Prop where
  | nil : Routed [] [] []
  | text (s : Segment) {p : Pattern} {ids : List α} {segments : List Segment}
      (rest : Routed p ids segments) : Routed (some s :: p) ids (s :: segments)
  | slot {s : Segment} {a : α} {p : Pattern} {ids : List α} {segments : List Segment}
      (decodes : decode s = some a) (rest : Routed p ids segments) :
      Routed (none :: p) (a :: ids) (s :: segments)

/-- Fixed segments that hold no delimiter and cannot be read as an identifier
that is escaped to a dot segment; neither can the empty segment. -/
structure Pattern.Plain (p : Pattern) : Prop where
  delimiters : ∀ s ∈ p.texts, ∀ c ∈ s, c ∉ ['/', '?', '#']
  dots : ∀ s ∈ [] :: p.texts, ∀ d ∈ dots, decode s ≠ decode d

variable {codec decode}

/-- What is written for identifiers is routed. -/
theorem routed_write {p : Pattern} {ids : List α} (h : ids.length = p.count none) :
    Routed codec.decode p ids (write codec p ids) := by
  induction p generalizing ids with
  | nil =>
      obtain rfl : ids = [] := by simpa using h
      exact .nil
  | cons piece p ih =>
      cases piece with
      | some s =>
          rw [List.count_cons_of_ne (by simp)] at h
          exact .text s (ih h)
      | none =>
          rw [List.count_cons_self] at h
          cases ids with
          | nil => simp at h
          | cons a ids => exact .slot (codec.decode_encode a) (ih (by simpa using h))

/-- A written segment is a fixed one or the escape of an identifier. -/
theorem mem_write {p : Pattern} {ids : List α} {s : Segment} (h : s ∈ write codec p ids) :
    s ∈ p.texts ∨ ∃ a ∈ ids, s = codec.encode a := by
  fun_induction write codec p ids with
  | case1 fixed p ids ih =>
      rcases List.mem_cons.mp h with rfl | h
      · exact .inl (by simp [Pattern.texts])
      · rcases ih h with htext | hid
        · exact .inl (List.mem_of_mem_tail htext)
        · exact .inr hid
  | case2 p a ids ih =>
      rcases List.mem_cons.mp h with rfl | h
      · exact .inr ⟨a, List.mem_cons_self, rfl⟩
      · rcases ih h with htext | ⟨b, hb, hs⟩
        · exact .inl htext
        · exact .inr ⟨b, List.mem_cons_of_mem _ hb, hs⟩
  | case3 => cases h

/-- An identifier is read from one of the segments. -/
theorem Routed.exists_decode {p : Pattern} {ids : List α} {segments : List Segment}
    (h : Routed decode p ids segments) {a : α} (ha : a ∈ ids) :
    ∃ s ∈ segments, decode s = some a := by
  induction h with
  | nil => cases ha
  | text s rest ih =>
      rcases ih ha with ⟨t, ht, hdecode⟩
      exact ⟨t, List.mem_cons_of_mem _ ht, hdecode⟩
  | @slot s b p ids segments decodes rest ih =>
      rcases List.mem_cons.mp ha with rfl | ha
      · exact ⟨s, List.mem_cons_self, decodes⟩
      · rcases ih ha with ⟨t, ht, hdecode⟩
        exact ⟨t, List.mem_cons_of_mem _ ht, hdecode⟩

/-- The segments determine the identifiers. -/
theorem Routed.ids_eq {p : Pattern} {ids ids' : List α} {segments : List Segment}
    (h : Routed decode p ids segments) (h' : Routed decode p ids' segments) : ids = ids' := by
  induction h generalizing ids' with
  | nil =>
      cases h'
      rfl
  | text s rest ih =>
      cases h' with
      | text _ rest' => exact ih rest'
  | slot decodes rest ih =>
      cases h' with
      | slot decodes' rest' =>
          rw [decodes, Option.some.injEq] at decodes'
          rw [decodes', ih rest']

/-- Whether two patterns can have the same segments: they are of one length and
agree where both are fixed. -/
def Pattern.compatible : Pattern → Pattern → Bool
  | [], [] => true
  | some s :: p, some t :: q => s == t && Pattern.compatible p q
  | some _ :: p, none :: q => Pattern.compatible p q
  | none :: p, _ :: q => Pattern.compatible p q
  | [], _ :: _ => false
  | some _ :: _, [] => false
  | none :: _, [] => false

/-- Segments of two patterns show that they are compatible. -/
theorem Routed.compatible {p q : Pattern} {ids ids' : List α} {segments : List Segment}
    (h : Routed decode p ids segments) (h' : Routed decode q ids' segments) :
    p.compatible q = true := by
  induction h generalizing q ids' with
  | nil =>
      cases h'
      rfl
  | text s rest ih =>
      cases h' with
      | text _ rest' => simp [Pattern.compatible, ih rest']
      | slot _ rest' => exact ih rest'
  | slot decodes rest ih =>
      cases h' with
      | text _ rest' => exact ih rest'
      | slot _ rest' => exact ih rest'

/-- A path arrives as its pattern says exactly when no identifier is escaped to a
dot segment. -/
theorem routed_iff {p : Pattern} {ids : List α} (hp : p.Plain codec.decode) (hsome : p ≠ [])
    (hcount : ids.length = p.count none) {query : List Char} (hquery : IsQuery query) :
    Routed codec.decode p ids (route (absolute (write codec p ids) ++ query)) ↔
      ∀ a ∈ ids, codec.encode a ∉ dots := by
  have hwritten : Routed codec.decode p ids (write codec p ids) := routed_write hcount
  have hne : write codec p ids ≠ [] := by
    intro hnil
    rw [hnil] at hwritten
    cases hwritten
    exact hsome rfl
  have hplain : ∀ s ∈ write codec p ids, ∀ c ∈ s, c ∉ ['/', '?', '#'] := by
    intro s hs
    rcases mem_write hs with htext | ⟨a, -, rfl⟩
    · exact hp.delimiters s htext
    · exact codec.plain a
  rw [route_absolute hne hplain hquery]
  constructor
  · -- The segment an identifier is read from cannot be the removed one.
    intro hrouted a ha hdot
    rcases hrouted.exists_decode ha with ⟨s, hs, hdecode⟩
    rw [← codec.decode_encode a] at hdecode
    rcases mem_removeDots hs with rfl | ⟨hs, hplain⟩
    · exact hp.dots [] List.mem_cons_self _ hdot hdecode
    · rcases mem_write hs with htext | ⟨b, -, rfl⟩
      · exact hp.dots s (List.mem_cons_of_mem _ htext) _ hdot hdecode
      · rw [codec.decode_encode, codec.decode_encode, Option.some.injEq] at hdecode
        exact hplain (hdecode ▸ hdot)
  · intro hids
    have hnodots : ∀ s ∈ write codec p ids, s ∉ dots := by
      intro s hs
      rcases mem_write hs with htext | ⟨a, ha, rfl⟩
      · intro hdot
        exact hp.dots s (List.mem_cons_of_mem _ htext) s hdot rfl
      · exact hids a ha
    rw [removeDots_of_plain hnodots]
    exact hwritten

end Codec

end Routes
