import MizanSDK.Go.Client
import MizanSDK.Library.Bytes
import MizanSDK.Library.Endpoints

/-!
# The base URL of the Go client

`NewClient` reads the base URL with `url.ParseRequestURI`, while a request is built from
the base URL with an API path behind it, which `http.NewRequest` reads with `url.Parse`.
Both are functions of `net/url`, modelled here as far as they cut a URL into its parts.
Go keeps the path and the host in decoded form besides; here they are as they were
written.

Main results:

- Theorem `NetURL.Hierarchical.append`: an API path behind a text without a query goes to
  its path and its query.
- Theorem `newClient_addresses_iff`: which accepted bases address the right endpoints.
-/

namespace MizanSDK.Go

open Endpoints

/-- The characters of a string. -/
abbrev Chars := List Char

/-! ## `net/url` -/

/-- `url.URL`, as it is written. -/
structure GoURL where
  scheme : Chars
  opaqueData : Chars
  user : Option Chars
  host : Chars
  path : Chars
  forceQuery : Bool
  rawQuery : Chars
  fragment : Chars

/-- `URL{}`. -/
def GoURL.zero : GoURL := ⟨[], [], none, [], [], false, [], []⟩

/-- The parts that say where a request goes. -/
def GoURL.endpoint (u : GoURL) : Endpoint Char :=
  ⟨u.scheme, u.host, u.path, u.rawQuery, u.fragment⟩

/-- A control byte. -/
def isCTL (c : Char) : Bool := c.toNat < 0x20 || c.toNat == 0x7F

/-- Every percent sign has two hexadecimal digits behind it, as `unescape` demands. -/
def validEscapes : Chars → Bool
  | [] => true
  | '%' :: rest =>
      match rest with
      | high :: low :: rest =>
          (Bytes.hexValue high).isSome && (Bytes.hexValue low).isSome && validEscapes rest
      | _ => false
  | _ :: rest => validEscapes rest

/-- A character of a scheme, which begins with a letter. -/
def isSchemeChar (c : Char) : Bool := c.isAlphanum || c == '+' || c == '-' || c == '.'

/-- `getScheme`: the scheme and what is behind its colon, or no scheme and all of it. -/
def getScheme (raw : Chars) : Option (Chars × Chars) :=
  match raw.takeWhile isSchemeChar, raw.dropWhile isSchemeChar with
  | [], ':' :: _ => none
  | c :: cs, ':' :: rest => if c.isAlpha then some (c :: cs, rest) else some ([], raw)
  | _, _ => some ([], raw)

/-- The query: a lone question mark at the end forces an empty one. -/
def splitQuery (rest : Chars) : Bool × Chars × Chars :=
  if rest.getLast? = some '?' ∧ rest.count '?' = 1 then (true, rest.dropLast, [])
  else (false, cut '?' rest)

/-- What `net/url` makes of an authority: its user information and its host, or an
error; and the text of its errors. -/
structure NetURL where
  parseAuthority : Chars → Option (Option Chars × Chars)
  parseError : Chars → String

/-- `setPath`. -/
def GoURL.setPath (u : GoURL) (path : Chars) : Option GoURL :=
  if validEscapes path then some { u with path } else none

/-- `setFragment`. -/
def GoURL.setFragment (u : GoURL) (fragment : Chars) : Option GoURL :=
  if validEscapes fragment then some { u with fragment } else none

section Parse

variable (net : NetURL)

/-- `parse` behind the scheme and the query. -/
def NetURL.parseHierarchy (viaRequest : Bool) (u : GoURL) (rest : Chars) : Option GoURL :=
  if rest.head? ≠ some '/' then
    if u.scheme ≠ [] then some { u with opaqueData := rest }
    else if viaRequest then none
    else if ':' ∈ (cut '/' rest).1 then none
    else u.setPath rest
  else if (u.scheme ≠ [] ∨ (!viaRequest ∧ rest.take 3 ≠ ['/', '/', '/'])) ∧
      rest.take 2 = ['/', '/'] then do
    let authority := rest.drop 2
    let (user, host) ← net.parseAuthority (authority.takeWhile (· ≠ '/'))
    { u with user, host }.setPath (authority.dropWhile (· ≠ '/'))
  else u.setPath rest

/-- `parse`. -/
def NetURL.parseFrom (viaRequest : Bool) (raw : Chars) : Option GoURL :=
  if raw.any isCTL then none
  else if raw = [] ∧ viaRequest then none
  else if raw = ['*'] then some { GoURL.zero with path := ['*'] }
  else do
    let (scheme, rest) ← getScheme raw
    let (forceQuery, rest, rawQuery) := splitQuery rest
    net.parseHierarchy viaRequest
      { GoURL.zero with scheme := scheme.map Char.toLower, forceQuery, rawQuery } rest

/-- `url.ParseRequestURI`. -/
def NetURL.parseRequestURI (raw : Chars) : Option GoURL := net.parseFrom true raw

/-- `url.Parse`. -/
def NetURL.parse (raw : Chars) : Option GoURL := do
  let u ← net.parseFrom false (cut '#' raw).1
  if (cut '#' raw).2 = [] then return u else u.setFragment (cut '#' raw).2

end Parse

/-! ## `NewClient` -/

/-- `strings.TrimRight(baseURL, "/")`. -/
def trimSlashes (s : String) : String := String.ofList (s.toList.rdropWhile (· = '/'))

/-- `NewClient`. -/
def newClient (net : NetURL) (baseURL token : String) : Except GoError Client :=
  let baseURL := trimSlashes baseURL
  if baseURL = "" ∨ token = "" then .error ⟨"mizan: base URL and token are required"⟩
  else
    match net.parseRequestURI baseURL.toList with
    | none => .error ⟨"mizan: invalid base URL: " ++ net.parseError baseURL.toList⟩
    | some parsed =>
        if parsed.scheme = [] ∨ parsed.host = [] ∨
            (parsed.scheme ≠ "http".toList ∧ parsed.scheme ≠ "https".toList) ∨
            parsed.rawQuery ≠ [] ∨ parsed.fragment ≠ [] ∨ parsed.user ≠ none then
          .error ⟨"mizan: invalid base URL: URL must be absolute HTTP(S) without " ++
            "credentials, query, or fragment"⟩
        else .ok { baseURL, token, businessID := "", maxAttempts := 3 }

/-! ## Parsing -/

/-- A lone question mark at the end makes no difference to the cut. -/
theorem splitQuery_snd (rest : Chars) : (splitQuery rest).2 = cut '?' rest := by
  unfold splitQuery
  split
  · rename_i h
    rcases List.getLast?_eq_some_iff.mp h.1 with ⟨front, rfl⟩
    have hcount : front.count '?' = 0 := by
      have hone := h.2
      rw [List.count_append, List.count_singleton_self] at hone
      omega
    rw [cut_place (List.count_eq_zero.mp hcount), List.dropLast_concat]
  · rfl

theorem validEscapes_append {front back : Chars} (hfront : validEscapes front = true)
    (hback : validEscapes back = true) : validEscapes (front ++ back) = true := by
  fun_induction validEscapes front with
  | case1 => exact hback
  | case2 high low rest ih =>
      rw [Bool.and_eq_true, Bool.and_eq_true] at hfront
      rw [List.cons_append, List.cons_append, List.cons_append, validEscapes, ih hfront.2,
        hfront.1.1, hfront.1.2]
      rfl
  | case3 => cases hfront
  | case4 c rest hne ih =>
      rw [List.cons_append, validEscapes]
      · exact ih hfront
      · exact hne

/-- A scheme is written in front of a colon. -/
theorem getScheme_eq_some_iff {raw sch rest : Chars} (hsch : sch ≠ []) :
    getScheme raw = some (sch, rest) ↔
      raw = sch ++ ':' :: rest ∧ (∀ c ∈ sch, isSchemeChar c = true) ∧
        (sch.head?.any Char.isAlpha) = true := by
  have hcolon : isSchemeChar ':' = false := by decide
  constructor
  · intro h
    have hraw := List.takeWhile_append_dropWhile (p := isSchemeChar) (l := raw)
    unfold getScheme at h
    split at h
    · cases h
    · rename_i c cs back hfront hback
      split at h
      · rename_i halpha
        rw [Option.some.injEq, Prod.mk.injEq] at h
        rw [hfront, hback, h.1, h.2] at hraw
        refine ⟨hraw.symm, ?_, ?_⟩
        · intro d hd
          rw [← h.1, ← hfront] at hd
          exact List.mem_takeWhile_imp hd
        · rw [← h.1]
          exact halpha
      · rw [Option.some.injEq, Prod.mk.injEq] at h
        exact absurd h.1.symm hsch
    · rw [Option.some.injEq, Prod.mk.injEq] at h
      exact absurd h.1.symm hsch
  · rintro ⟨rfl, hchars, halpha⟩
    have hfront : (sch ++ ':' :: rest).takeWhile isSchemeChar = sch := by
      rw [takeWhile_stop hcolon, List.takeWhile_eq_self_iff.mpr hchars]
    have hback : (sch ++ ':' :: rest).dropWhile isSchemeChar = ':' :: rest := by
      rw [dropWhile_stop hcolon, List.dropWhile_eq_nil_iff.mpr hchars, List.nil_append]
    cases sch with
    | nil => exact absurd rfl hsch
    | cons c cs =>
        unfold getScheme
        rw [hfront, hback]
        exact if_pos halpha

/-- What is written behind a URL stays behind its scheme. -/
theorem getScheme_append {raw sch rest : Chars} (hsch : sch ≠ [])
    (h : getScheme raw = some (sch, rest)) (more : Chars) :
    getScheme (raw ++ more) = some (sch, rest ++ more) := by
  have hscheme := (getScheme_eq_some_iff hsch).mp h
  refine (getScheme_eq_some_iff hsch).mpr ⟨?_, hscheme.2⟩
  rw [hscheme.1, List.append_assoc, List.cons_append]

section Hierarchy

variable {net : NetURL}

/-- A text with a scheme and an authority that is parsed. -/
structure NetURL.Hierarchical (net : NetURL) (raw sch rest after : Chars) (user : Option Chars)
    (host : Chars) : Prop where
  control : raw.any isCTL = false
  scheme : getScheme raw = some (sch, rest)
  scheme_ne : sch ≠ []
  authority : (cut '?' rest).1 = '/' :: '/' :: after
  parses : net.parseAuthority (after.takeWhile (· ≠ '/')) = some (user, host)
  escapes : validEscapes (after.dropWhile (· ≠ '/')) = true

/-- Its URL, however it is asked for. -/
theorem NetURL.Hierarchical.parseFrom_eq {raw sch rest after host : Chars} {user : Option Chars}
    (h : net.Hierarchical raw sch rest after user host) (viaRequest : Bool) :
    net.parseFrom viaRequest raw = some
      { scheme := sch.map Char.toLower
        opaqueData := []
        user := user
        host := host
        path := after.dropWhile (· ≠ '/')
        forceQuery := (splitQuery rest).1
        rawQuery := (cut '?' rest).2
        fragment := [] } := by
  have hraw := ((getScheme_eq_some_iff h.scheme_ne).mp h.scheme).1
  have hnonempty : raw ≠ [] := by
    rw [hraw]
    simp
  have hstar : raw ≠ ['*'] := by
    intro hsame
    have hlength := congrArg List.length (hraw.symm.trans hsame)
    have hpos := List.length_pos_iff.mpr h.scheme_ne
    rw [List.length_append, List.length_cons, List.length_singleton] at hlength
    omega
  have hsplit := splitQuery_snd rest
  have hscheme : sch.map Char.toLower ≠ [] := by simpa using h.scheme_ne
  unfold parseFrom
  rw [h.control, if_neg Bool.false_ne_true, if_neg (fun hnil => hnonempty hnil.1), if_neg hstar,
    h.scheme]
  rcases hquery : splitQuery rest with ⟨force, front, query⟩
  rw [hquery] at hsplit
  have hfront : front = '/' :: '/' :: after := by rw [← h.authority, ← hsplit]
  rw [← hsplit]
  simp only [Option.bind_eq_bind, Option.bind_some, hquery]
  unfold parseHierarchy
  rw [hfront, if_neg (by simp), if_pos ⟨.inl hscheme, rfl⟩]
  change (net.parseAuthority (after.takeWhile (· ≠ '/'))).bind _ = _
  rw [h.parses]
  exact if_pos h.escapes

/-- A URL with a scheme and a host comes from such a text. -/
theorem NetURL.exists_hierarchical {viaRequest : Bool} {raw : Chars} {u : GoURL}
    (h : net.parseFrom viaRequest raw = some u) (hscheme : u.scheme ≠ []) (hhost : u.host ≠ []) :
    ∃ sch rest after user host, net.Hierarchical raw sch rest after user host := by
  unfold parseFrom at h
  split at h
  · cases h
  · rename_i hcontrol
    split at h
    · cases h
    · split at h
      · rw [← Option.some.inj h] at hscheme
        exact absurd rfl hscheme
      · simp only [Option.bind_eq_bind, Option.bind_eq_some_iff] at h
        rcases h with ⟨⟨sch, rest⟩, hgetScheme, h⟩
        have hsplit := splitQuery_snd rest
        rcases hquery : splitQuery rest with ⟨force, front, query⟩
        rw [hquery] at hsplit
        simp only [hquery] at h
        unfold parseHierarchy at h
        have hpath : ∀ {v : GoURL} {path : Chars}, v.setPath path = some u → v.host = [] →
            False := by
          intro v path hset hempty
          unfold GoURL.setPath at hset
          split at hset
          · rw [← Option.some.inj hset] at hhost
            exact hhost hempty
          · cases hset
        split at h
        · -- Without an authority there is no host.
          split at h
          · rw [← Option.some.inj h] at hhost
            exact absurd rfl hhost
          · split at h
            · cases h
            · split at h
              · cases h
              · exact (hpath h rfl).elim
        · split at h
          · rename_i hauthority
            simp only [Option.bind_eq_bind, Option.bind_eq_some_iff] at h
            rcases h with ⟨⟨user, host⟩, hparses, hset⟩
            have hfront : front = '/' :: '/' :: front.drop 2 := by
              have htake := List.take_append_drop 2 front
              rw [hauthority.2] at htake
              exact htake.symm
            unfold GoURL.setPath at hset
            split at hset
            · rename_i hescapes
              rw [← Option.some.inj hset] at hscheme
              refine ⟨sch, rest, front.drop 2, user, host, ?_, hgetScheme, ?_, ?_, hparses,
                hescapes⟩
              · exact Bool.eq_false_iff.mpr hcontrol
              · simpa [GoURL.zero] using hscheme
              · rw [← hsplit]
                exact hfront
            · cases hset
          · exact (hpath h rfl).elim

end Hierarchy

/-! ## API paths behind a base -/

/-- A path of the API with an optional query: its escapes are proper. -/
structure ApiPath (p : String) : Prop extends Target p where
  escapes : validEscapes (cut '?' p.toList).1 = true

namespace ApiPath

variable {p : String} (h : ApiPath p)
include h

theorem control : p.toList.any isCTL = false := by
  rw [List.any_eq_false]
  intro c hc
  have hvisible := h.visible c hc
  have hlow : 0x21 ≤ c.toNat := hvisible.1
  have hhigh : c.toNat ≤ 0x7E := hvisible.2.1
  simp only [isCTL, Bool.or_eq_true, decide_eq_true_eq, beq_iff_eq]
  omega

/-- The path begins with the slash. -/
theorem exists_path : ∃ rest, (cut '?' p.toList).1 = '/' :: rest := by
  have habsolute := h.absolute
  cases hp : p.toList with
  | nil => exact absurd hp h.ne_nil
  | cons c rest =>
      rw [hp, List.head?_cons, Option.some.injEq] at habsolute
      have hslash : '?' ∉ ['/'] := by decide
      refine ⟨(cut '?' rest).1, ?_⟩
      rw [habsolute]
      exact congrArg Prod.fst (cut_append hslash rest)

end ApiPath

/-- An API path behind a text without a query goes to its path and its query. -/
theorem NetURL.Hierarchical.append {net : NetURL} {raw sch rest after host : Chars}
    {user : Option Chars} (h : net.Hierarchical raw sch rest after user host)
    (hquery : '?' ∉ rest) {p : String} (hp : ApiPath p) :
    net.Hierarchical (raw ++ p.toList) sch (rest ++ p.toList) (after ++ (cut '?' p.toList).1) user
      host := by
  rcases hp.exists_path with ⟨path, hpath⟩
  have hstop : decide ('/' ≠ '/') = false := by decide
  have htake : (after ++ '/' :: path).takeWhile (· ≠ '/') = after.takeWhile (· ≠ '/') :=
    takeWhile_stop (p := fun c => decide (c ≠ '/')) hstop
  have hdrop : (after ++ '/' :: path).dropWhile (· ≠ '/') =
      after.dropWhile (· ≠ '/') ++ '/' :: path :=
    dropWhile_stop (p := fun c => decide (c ≠ '/')) hstop
  refine ⟨?_, ?_, h.scheme_ne, ?_, ?_, ?_⟩
  · rw [List.any_append, h.control, hp.control]
    rfl
  · exact getScheme_append h.scheme_ne h.scheme p.toList
  · have hauthority : rest = '/' :: '/' :: after := by
      have hcut := h.authority
      rwa [cut_of_notMem hquery] at hcut
    rw [cut_append hquery, hauthority]
    rfl
  · rw [hpath, htake]
    exact h.parses
  · rw [hpath, hdrop, ← hpath]
    exact validEscapes_append h.escapes hp.escapes

/-! ## The bases a client accepts -/

section Bases

variable {net : NetURL}

/-- The URL of a base with an API path behind it, parsed, is the endpoint of that path
below the base. -/
def NetURL.Addresses (net : NetURL) (baseURL p : String) : Prop :=
  ∃ base u, net.parseRequestURI baseURL.toList = some base ∧
    net.parse (baseURL ++ p).toList = some u ∧ u.user = none ∧
    u.endpoint = base.endpoint.below '/' '?' p.toList

/-- Without a number sign in the base there is no fragment to cut off. -/
theorem NetURL.parse_append (net : NetURL) {baseURL p : String} (hhash : '#' ∉ baseURL.toList)
    (hp : ApiPath p) :
    net.parse (baseURL ++ p).toList = net.parseFrom false (baseURL.toList ++ p.toList) := by
  have hall : '#' ∉ (baseURL ++ p).toList := by
    rw [String.toList_append, List.mem_append, not_or]
    exact ⟨hhash, hp.hash_notMem⟩
  unfold parse
  rw [cut_of_notMem hall, String.toList_append]
  exact bind_pure _

/-- The base of a client is a text with a scheme and an authority: it has no query behind
a question mark and no slash at its end. -/
theorem newClient_accepted {baseURL token : String} {c : Client}
    (h : newClient net baseURL token = .ok c) :
    ∃ sch rest after host, net.Hierarchical c.baseURL.toList sch rest after none host ∧
      (cut '?' rest).2 = [] ∧
      c.baseURL.toList.rdropWhile (· = '/') = c.baseURL.toList := by
  unfold newClient at h
  simp only [] at h
  split at h
  · cases h
  · split at h
    · cases h
    · rename_i parsed hparsed
      split at h
      · cases h
      · rename_i hchecks
        simp only [not_or, not_and, ne_eq, Decidable.not_not] at hchecks
        rcases hchecks with ⟨hscheme, hhost, -, hrawQuery, -, huser⟩
        rw [← Except.ok.inj h]
        rcases NetURL.exists_hierarchical hparsed hscheme hhost with
          ⟨sch, rest, after, user, host, htext⟩
        have hurl := Option.some.inj (hparsed.symm.trans (htext.parseFrom_eq true))
        have hnone : user = none := by
          rw [hurl] at huser
          exact huser
        refine ⟨sch, rest, after, host, hnone ▸ htext, ?_, ?_⟩
        · rw [hurl] at hrawQuery
          exact hrawQuery
        · rw [trimSlashes, String.toList_ofList]
          exact List.rdropWhile_idempotent _ _

namespace NetURL.Hierarchical

variable {baseURL : String} {sch rest after host : Chars}

/-- Neither delimiter is in a scheme. -/
theorem notMem_iff {raw : Chars} {user : Option Chars} {a : Char}
    (h : net.Hierarchical raw sch rest after user host) (hscheme : isSchemeChar a = false)
    (hcolon : a ≠ ':') : a ∉ raw ↔ a ∉ rest := by
  have hraw := (getScheme_eq_some_iff h.scheme_ne).mp h.scheme
  have hsch : a ∉ sch := by
    intro hmem
    rw [hraw.2.1 a hmem] at hscheme
    cases hscheme
  rw [hraw.1, List.mem_append, List.mem_cons]
  tauto

/-- Without a delimiter in the base the path goes to its own place. -/
theorem addresses (h : net.Hierarchical baseURL.toList sch rest after none host)
    (htrim : baseURL.toList.rdropWhile (· = '/') = baseURL.toList)
    (hquestion : '?' ∉ baseURL.toList) (hhash : '#' ∉ baseURL.toList) {p : String}
    (hp : ApiPath p) : net.Addresses baseURL p := by
  have hrest : '?' ∉ rest := (h.notMem_iff (by decide) (by decide)).mp hquestion
  rcases hp.exists_path with ⟨path, hpath⟩
  have hdrop : (after ++ (cut '?' p.toList).1).dropWhile (· ≠ '/') =
      after.dropWhile (· ≠ '/') ++ (cut '?' p.toList).1 := by
    rw [hpath]
    exact dropWhile_stop (p := fun c => decide (c ≠ '/')) (by decide)
  have hslash : (after.dropWhile (· ≠ '/')).rdropWhile (· = '/') = after.dropWhile (· ≠ '/') := by
    have hauthority : rest = '/' :: '/' :: after := by
      have hcut := h.authority
      rwa [cut_of_notMem hrest] at hcut
    by_cases hnil : after.dropWhile (· ≠ '/') = []
    · rw [hnil]
      rfl
    · have hraw := ((getScheme_eq_some_iff h.scheme_ne).mp h.scheme).1
      rw [hauthority,
        ← List.takeWhile_append_dropWhile (p := fun c => decide (c ≠ '/')) (l := after),
        ← List.cons_append, ← List.cons_append, ← List.cons_append, ← List.append_assoc] at hraw
      rw [hraw] at htrim
      exact rdropWhile_append hnil htrim
  refine ⟨_, _, h.parseFrom_eq true, (parse_append net hhash hp).trans
    ((h.append hrest hp).parseFrom_eq false), rfl, ?_⟩
  rw [GoURL.endpoint, GoURL.endpoint, Endpoint.below, hdrop, cut_append hrest, hslash]

/-- A number sign in the base swallows the path into the fragment. -/
theorem fragment_ne_nil {u : GoURL} {p : String} (hhash : '#' ∈ baseURL.toList)
    (hp : ApiPath p) (h : net.parse (baseURL ++ p).toList = some u) : u.fragment ≠ [] := by
  have hcut : (cut '#' (baseURL ++ p).toList).2 = (cut '#' baseURL.toList).2 ++ p.toList := by
    rw [String.toList_append]
    nth_rewrite 1 [eq_of_cut hhash]
    rw [List.append_assoc, List.cons_append, cut_place (notMem_cut '#' _)]
  have hne : (cut '#' (baseURL ++ p).toList).2 ≠ [] := by
    rw [hcut]
    exact List.append_ne_nil_of_right_ne_nil _ hp.ne_nil
  unfold parse at h
  rw [Option.bind_eq_bind, Option.bind_eq_some_iff] at h
  rcases h with ⟨v, -, hset⟩
  rw [if_neg hne] at hset
  unfold GoURL.setFragment at hset
  split at hset
  · rw [← Option.some.inj hset]
    exact hne
  · cases hset

/-- A lone question mark in the base swallows the path into the query. -/
theorem query_eq {u : GoURL} {p : String}
    (h : net.Hierarchical baseURL.toList sch rest after none host)
    (hlone : (cut '?' rest).2 = []) (hquestion : '?' ∈ baseURL.toList)
    (hhash : '#' ∉ baseURL.toList) (hp : ApiPath p)
    (hparse : net.parse (baseURL ++ p).toList = some u) : u.rawQuery = p.toList := by
  have hrest : '?' ∈ rest := by
    by_contra hnot
    exact (h.notMem_iff (by decide) (by decide)).mpr hnot hquestion
  have hcut : cut '?' (rest ++ p.toList) = ('/' :: '/' :: after, p.toList) := by
    have hsplit := eq_of_cut hrest
    rw [hlone, h.authority] at hsplit
    rw [hsplit, List.append_assoc, List.singleton_append]
    have hnot := notMem_cut '?' rest
    rw [h.authority] at hnot
    exact cut_place hnot p.toList
  have htext : net.Hierarchical (baseURL.toList ++ p.toList) sch (rest ++ p.toList) after none
      host := by
    refine ⟨?_, ?_, h.scheme_ne, ?_, h.parses, h.escapes⟩
    · rw [List.any_append, h.control, hp.control]
      rfl
    · exact getScheme_append h.scheme_ne h.scheme p.toList
    · rw [hcut]
  rw [parse_append net hhash hp, htext.parseFrom_eq false] at hparse
  rw [← Option.some.inj hparse, hcut]

end NetURL.Hierarchical

/-- A client keeps its base without the slashes at the end. -/
theorem newClient_baseURL {baseURL token : String} {c : Client}
    (h : newClient net baseURL token = .ok c) : c.baseURL = trimSlashes baseURL := by
  unfold newClient at h
  simp only [] at h
  split at h
  · cases h
  · split at h
    · cases h
    · split at h
      · cases h
      · rw [← Except.ok.inj h]

/-- An accepted base addresses the right endpoint of an API path if and only if it has
neither delimiter. -/
theorem newClient_addresses_iff {baseURL token p : String} {c : Client}
    (h : newClient net baseURL token = .ok c) (hp : ApiPath p) :
    net.Addresses c.baseURL p ↔ '?' ∉ baseURL.toList ∧ '#' ∉ baseURL.toList := by
  have hkept : ∀ a : Char, a ≠ '/' → (a ∈ c.baseURL.toList ↔ a ∈ baseURL.toList) := by
    intro a ha
    rw [newClient_baseURL h, trimSlashes, String.toList_ofList]
    exact mem_rdropWhile_iff (decide_eq_false_iff_not.mpr ha)
  rw [← hkept '?' (by decide), ← hkept '#' (by decide)]
  rcases newClient_accepted h with ⟨sch, rest, after, host, htext, hlone, htrim⟩
  constructor
  · rintro ⟨base, u, -, hparse, -, hendpoint⟩
    have hhash : '#' ∉ c.baseURL.toList := by
      intro hhash
      exact NetURL.Hierarchical.fragment_ne_nil hhash hp hparse
        (congrArg Endpoint.fragment hendpoint)
    refine ⟨?_, hhash⟩
    intro hquestion
    have hquery := htext.query_eq hlone hquestion hhash hp hparse
    have hlength := Endpoint.query_length_lt '?' hp.ne_nil
    have hown : u.rawQuery = (cut '?' p.toList).2 := congrArg Endpoint.query hendpoint
    rw [← hown, hquery] at hlength
    exact lt_irrefl _ hlength
  · rintro ⟨hquestion, hhash⟩
    exact htext.addresses htrim hquestion hhash hp

end Bases

end MizanSDK.Go
