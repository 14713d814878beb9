import MizanSDK.Library.Endpoints
import MizanSDK.Python.Client
import MizanSDK.Python.Unquoting

/-!
# The base URL of the Python client

`MizanClient.__init__` reads the base URL with `urlsplit`, while a request is built from
the base URL with an API path behind it, which `urllib.request.Request` reads in its own
way: it strips white space instead of control characters, keeps tabs and line breaks,
cuts the fragment at the last number sign, and decodes the percent escapes of the host.
Both are modelled here as far as they cut a URL into its parts.

Main results:

- Theorem `HTTPBase.requestURL_eq`: how a plain base with an API path behind it is
  requested.
- Theorem `init_addresses_iff`: which accepted bases address the right endpoints.
-/

namespace MizanSDK.Python

open JsonText Endpoints

/-! ## Characters -/

/-- `_WHATWG_C0_CONTROL_OR_SPACE`. -/
def isC0ControlOrSpace : CodePoint → Bool
  | .scalar c => c.toNat ≤ 0x20
  | .surrogate _ => false

/-- `_UNSAFE_URL_BYTES_TO_REMOVE`: the tab, the carriage return and the line feed. -/
def isUnsafe (c : CodePoint) : Bool :=
  c == .scalar '\t' || c == .scalar '\r' || c == .scalar '\n'

/-- `scheme_chars`. -/
def isSchemeChar : CodePoint → Bool
  | .scalar c => c.isAlphanum || c == '+' || c == '-' || c == '.'
  | .surrogate _ => false

/-- A letter in ASCII, with which a scheme begins. -/
def isLetter : CodePoint → Bool
  | .scalar c => c.isAlpha
  | .surrogate _ => false

/-- What a network location does not end at. -/
def isNetlocChar (c : CodePoint) : Bool :=
  !(c == .scalar '/' || c == .scalar '?' || c == .scalar '#')

/-! ## `urlsplit` -/

/-- `SplitResult`. -/
structure SplitResult where
  scheme : PyStr
  netloc : PyStr
  path : PyStr
  query : PyStr
  fragment : PyStr

/-- The parts that say where a request goes. -/
def SplitResult.endpoint (parts : SplitResult) : Endpoint CodePoint :=
  ⟨parts.scheme, parts.netloc, parts.path, parts.query, parts.fragment⟩

/-- The text that is split: without control characters in front, and without tabs and
line breaks anywhere. -/
def cleaned (url : PyStr) : PyStr :=
  (url.dropWhile isC0ControlOrSpace).filter fun c => !isUnsafe c

/-- The scheme, if there is one, and the text behind it. -/
def splitScheme (url : PyStr) : PyStr × PyStr :=
  if .scalar ':' ∈ url ∧ url.head?.any isLetter ∧ (cut (.scalar ':') url).1.all isSchemeChar then
    (lower (cut (.scalar ':') url).1, (cut (.scalar ':') url).2)
  else ([], url)

/-- `_splitnetloc`, if two slashes announce a network location. -/
def splitNetloc (url : PyStr) : PyStr × PyStr :=
  if url.take 2 = str "//" then
    ((url.drop 2).takeWhile isNetlocChar, (url.drop 2).dropWhile isNetlocChar)
  else ([], url)

/-- `urlsplit`.  What it demands of a network location, brackets around an IP address and
no character that only normalizes to a delimiter, is `checkNetloc`. -/
def urlsplit (checkNetloc : PyStr → Except PyError Unit) (url : PyStr) :
    Except PyError SplitResult := do
  let (scheme, url) := splitScheme (cleaned url)
  let (netloc, url) := splitNetloc url
  checkNetloc netloc
  let (url, fragment) := cut (.scalar '#') url
  let (path, query) := cut (.scalar '?') url
  return ⟨scheme, netloc, path, query, fragment⟩

/-! ## `Request` -/

/-- The URL of a `Request`. -/
structure RequestURL where
  type : PyStr
  host : Option PyStr
  selector : PyStr
  fragment : Option PyStr

/-- The parts that say where the request goes. -/
def RequestURL.endpoint (url : RequestURL) : Endpoint CodePoint where
  scheme := url.type
  host := url.host.getD []
  path := (cut (.scalar '?') url.selector).1
  query := (cut (.scalar '?') url.selector).2
  fragment := url.fragment.getD []

/-- `unwrap`. -/
def unwrap (url : PyStr) : PyStr :=
  let url := strip url
  let url :=
    if url.head? = some (.scalar '<') ∧ url.getLast? = some (.scalar '>') then
      strip (url.drop 1).dropLast
    else url
  if url.take 4 = str "URL:" then strip (url.drop 4) else url

/-- `_splittag`, which cuts at the last number sign. -/
def splittag (url : PyStr) : PyStr × Option PyStr :=
  if .scalar '#' ∈ url then
    ((cut (.scalar '#') url.reverse).2.reverse, some (cut (.scalar '#') url.reverse).1.reverse)
  else (url, none)

/-- What a scheme in front of a colon may have in it. -/
def isTypeChar (c : CodePoint) : Bool := !(c == .scalar '/' || c == .scalar ':')

/-- `_splittype`. -/
def splittype (url : PyStr) : Option PyStr × PyStr :=
  match url.takeWhile isTypeChar, url.dropWhile isTypeChar with
  | c :: cs, .scalar ':' :: rest => (some (lower (c :: cs)), rest)
  | _, _ => (none, url)

/-- `_splithost`. -/
def splithost (url : PyStr) : Option PyStr × PyStr :=
  if url.take 2 = str "//" then
    let host := (url.drop 2).takeWhile isNetlocChar
    let path := (url.drop 2).dropWhile isNetlocChar
    if path ≠ [] ∧ path.head? ≠ some (.scalar '/') then (some host, .scalar '/' :: path)
    else (some host, path)
  else (none, url)

/-- What the constructor of `Request` makes of a URL. -/
def requestURL (url : PyStr) : Except PyError RequestURL :=
  let (url, fragment) := splittag (unwrap url)
  match splittype url with
  | (none, _) =>
      let fullUrl := if fragment.getD [] = [] then url else url ++ str "#" ++ fragment.getD []
      .error (.valueError [.text "unknown url type: ", .repr fullUrl])
  | (some type, rest) =>
      let (host, selector) := splithost rest
      .ok ⟨type, host.map unquote, selector, fragment⟩

/-! ## `MizanClient.__init__` -/

/-- The arguments of `MizanClient`, without transport and logger. -/
structure ClientArguments where
  baseUrl : PyStr
  token : PyStr
  businessId : Option PyStr
  nonPositiveTimeout : Bool
  maxAttempts : ℤ

/-- `base_url.rstrip("/")`. -/
def rstripSlash (s : PyStr) : PyStr := s.rdropWhile (· = .scalar '/')

/-- `MizanClient.__init__`. -/
def MizanClient.init (checkNetloc : PyStr → Except PyError Unit) (args : ClientArguments) :
    Except PyError MizanClient :=
  if args.baseUrl = [] ∨ args.token = [] then
    .error (.valueError [.text "base_url and token are required"])
  else
    match urlsplit checkNetloc args.baseUrl with
    | .error err => .error err
    | .ok parsed =>
        if (parsed.scheme ≠ str "http" ∧ parsed.scheme ≠ str "https") ∨ parsed.netloc = [] ∨
            parsed.query ≠ [] ∨ parsed.fragment ≠ [] then
          .error (.valueError
            [.text "base_url must be an absolute HTTP(S) URL without a query or fragment"])
        else if hattempts : args.nonPositiveTimeout ∨ args.maxAttempts < 1 then
          .error (.valueError
            [.text "timeout must be positive and max_attempts must be at least one"])
        else if hbusiness : args.businessId = some [] then
          .error (.valueError [.text "business_id must not be empty when supplied"])
        else
          .ok {
            baseUrl := rstripSlash args.baseUrl
            token := args.token
            businessId := args.businessId
            maxAttempts := args.maxAttempts.toNat
            businessId_ne := hbusiness
            maxAttempts_pos := by omega }

/-! ## The bases a client accepts -/

/-- A base with a scheme of the web and a network location, as it is split. -/
structure HTTPBase (checkNetloc : PyStr → Except PyError Unit) (raw sch netloc tail : PyStr) :
    Prop where
  text : cleaned raw =
    sch ++ .scalar ':' :: .scalar '/' :: .scalar '/' :: (netloc ++ tail)
  schemeChars : ∀ c ∈ sch, isSchemeChar c = true
  web : lower sch = str "http" ∨ lower sch = str "https"
  netloc_ne : netloc ≠ []
  netlocChars : ∀ c ∈ netloc, isNetlocChar c = true
  stops : ∀ c ∈ tail.head?, isNetlocChar c = false
  noFragment : (cut (.scalar '#') tail).2 = []
  noQuery : (cut (.scalar '?') (cut (.scalar '#') tail).1).2 = []
  split : urlsplit checkNetloc raw = .ok
    ⟨lower sch, netloc, (cut (.scalar '?') (cut (.scalar '#') tail).1).1, [], []⟩

section Bases

variable {checkNetloc : PyStr → Except PyError Unit}

/-- A scheme is written in front of a colon. -/
theorem splitScheme_eq {url sch rest : PyStr} (h : splitScheme url = (sch, rest))
    (hsch : sch ≠ []) :
    ∃ written, url = written ++ .scalar ':' :: rest ∧ lower written = sch ∧
      ∀ c ∈ written, isSchemeChar c = true := by
  unfold splitScheme at h
  split at h
  · rename_i hscheme
    rw [Prod.mk.injEq] at h
    refine ⟨(cut (.scalar ':') url).1, ?_, h.1, List.all_eq_true.mp hscheme.2.2⟩
    rw [← h.2]
    exact eq_of_cut hscheme.1
  · rw [Prod.mk.injEq] at h
    exact absurd h.1.symm hsch

/-- A network location is written behind two slashes. -/
theorem splitNetloc_eq {url netloc tail : PyStr} (h : splitNetloc url = (netloc, tail))
    (hnetloc : netloc ≠ []) :
    url = .scalar '/' :: .scalar '/' :: (netloc ++ tail) ∧
      (∀ c ∈ netloc, isNetlocChar c = true) ∧ ∀ c ∈ tail.head?, isNetlocChar c = false := by
  unfold splitNetloc at h
  split at h
  · rename_i hslashes
    rw [Prod.mk.injEq] at h
    refine ⟨?_, ?_, ?_⟩
    · have hurl := List.take_append_drop 2 url
      rw [hslashes] at hurl
      rw [← h.1, ← h.2, List.takeWhile_append_dropWhile]
      exact hurl.symm
    · intro c hc
      rw [← h.1] at hc
      exact List.mem_takeWhile_imp hc
    · intro c hc
      rw [← h.2] at hc
      have hstop := List.head?_dropWhile_not isNetlocChar (url.drop 2)
      rw [Option.mem_def.mp hc] at hstop
      exact hstop
  · rw [Prod.mk.injEq] at h
    exact absurd h.1.symm hnetloc

/-- A split with a scheme of the web, a network location, no query and no fragment. -/
theorem urlsplit_base {raw : PyStr} {parsed : SplitResult}
    (h : urlsplit checkNetloc raw = .ok parsed)
    (hweb : parsed.scheme = str "http" ∨ parsed.scheme = str "https")
    (hnetloc : parsed.netloc ≠ []) (hquery : parsed.query = []) (hfragment : parsed.fragment = []) :
    ∃ sch netloc tail, HTTPBase checkNetloc raw sch netloc tail := by
  have hsplit := h
  unfold urlsplit at h
  rcases hscheme : splitScheme (cleaned raw) with ⟨scheme, rest⟩
  rcases hlocation : splitNetloc rest with ⟨netloc, tail⟩
  simp only [hscheme, hlocation] at h
  cases hcheck : checkNetloc netloc with
  | error err =>
      rw [hcheck] at h
      cases h
  | ok checked =>
      rw [hcheck] at h
      have hparsed := Except.ok.inj h
      rw [← hparsed] at hweb hnetloc hquery hfragment
      have hne : scheme ≠ [] := by
        rcases hweb with hweb | hweb
        · exact ne_of_eq_of_ne hweb (by decide)
        · exact ne_of_eq_of_ne hweb (by decide)
      rcases splitScheme_eq hscheme hne with ⟨sch, htext, hlower, hchars⟩
      rcases splitNetloc_eq hlocation hnetloc with ⟨hrest, hlocationChars, hstops⟩
      rw [← hlower] at hweb
      refine ⟨sch, netloc, tail, ?_, hchars, hweb, hnetloc, hlocationChars, hstops, hfragment,
        hquery, ?_⟩
      · rw [htext, hrest]
      · rw [hsplit, ← hparsed, hlower]
        exact congrArg Except.ok (congrArg₂ (SplitResult.mk _ _ _) hquery hfragment)

/-- What a client demands of its base. -/
theorem init_accepted {args : ClientArguments} {c : MizanClient}
    (h : MizanClient.init checkNetloc args = .ok c) :
    c.baseUrl = rstripSlash args.baseUrl ∧
      ∃ sch netloc tail, HTTPBase checkNetloc args.baseUrl sch netloc tail := by
  unfold MizanClient.init at h
  split at h
  · cases h
  · split at h
    · cases h
    · rename_i parsed hsplit
      split at h
      · cases h
      · rename_i hchecks
        simp only [not_or, not_and, ne_eq, Decidable.not_not] at hchecks
        rcases hchecks with ⟨hweb, hnetloc, hquery, hfragment⟩
        split at h
        · cases h
        · split at h
          · cases h
          · refine ⟨?_, urlsplit_base hsplit ?_ hnetloc hquery hfragment⟩
            · rw [← Except.ok.inj h]
            · by_cases hhttp : parsed.scheme = str "http"
              · exact .inl hhttp
              · exact .inr (hweb hhttp)

end Bases

/-! ## What is left of a base -/

/-- Only two letters are lowered to this one. -/
theorem eq_of_lowerCodePoint {c : CodePoint} (h : lowerCodePoint c = .scalar 'h') :
    c = .scalar 'h' ∨ c = .scalar 'H' := by
  cases c with
  | surrogate i => cases h
  | scalar c =>
      have hlower := CodePoint.scalar.inj h
      split at hlower
      · exact absurd hlower (by decide)
      · unfold Char.toLower at hlower
        split at hlower
        · have hval : c.val = 'h'.val - 32 := by
            rw [← hlower]
            simp
          right
          exact congrArg CodePoint.scalar (Char.ext hval)
        · rw [hlower]
          exact .inl rfl

section Web

variable {w : PyStr} (hweb : lower w = str "http" ∨ lower w = str "https")
include hweb

/-- A scheme of the web begins with that letter. -/
theorem exists_letter_of_web :
    ∃ letter rest, w = letter :: rest ∧ (letter = .scalar 'h' ∨ letter = .scalar 'H') := by
  cases w with
  | nil => exact absurd hweb (by decide)
  | cons letter rest =>
      refine ⟨letter, rest, rfl, ?_⟩
      apply eq_of_lowerCodePoint
      rcases hweb with hhttp | hhttps
      · exact (List.cons.inj hhttp).1
      · exact (List.cons.inj hhttps).1

/-- Only its letters are in a scheme of the web. -/
theorem notMem_of_web {c : CodePoint} (hc : lowerCodePoint c ∉ str "https") : c ∉ w := by
  intro hmem
  have hlower : lowerCodePoint c ∈ lower w := List.mem_map_of_mem hmem
  rcases hweb with hhttp | hhttps
  · rw [hhttp] at hlower
    have hsub : str "http" ⊆ str "https" := by decide
    exact hc (hsub hlower)
  · rw [hhttps] at hlower
    exact hc hlower

end Web

/-- Stripping slashes loses slashes only. -/
theorem mem_rstripSlash_iff {s : PyStr} {c : CodePoint} (hc : c ≠ .scalar '/') :
    c ∈ rstripSlash s ↔ c ∈ s :=
  mem_rdropWhile_iff (decide_eq_false_iff_not.mpr hc)

/-- Slashes are stripped behind any other character. -/
theorem rstripSlash_stop {front back : PyStr} {c : CodePoint} (hc : c ≠ .scalar '/') :
    rstripSlash (front ++ c :: back) = front ++ c :: rstripSlash back := by
  have hstop : decide (c = .scalar '/') = false := decide_eq_false_iff_not.mpr hc
  exact rdropWhile_stop (p := fun d : CodePoint => decide (d = .scalar '/')) hstop

section Targets

variable {p : String} (hp : Target p)
include hp

/-- The characters of a target are in no class that a URL is cleaned of. -/
theorem target_visible {c : CodePoint} (hc : c ∈ str p) :
    isSpace c = false ∧ isUnsafe c = false ∧ c ≠ .scalar '#' := by
  rcases List.mem_map.mp hc with ⟨d, hd, rfl⟩
  have hvisible := hp.visible d hd
  have hlow : 0x21 ≤ d.toNat := hvisible.1
  have hhigh : d.toNat ≤ 0x7E := hvisible.2.1
  refine ⟨?_, ?_, ?_⟩
  · simp only [isSpace, Bool.or_eq_false_iff, Bool.and_eq_false_iff, decide_eq_false_iff_not,
      beq_eq_false_iff_ne]
    omega
  · simp only [isUnsafe, Bool.or_eq_false_iff, beq_eq_false_iff_ne, ne_eq, CodePoint.scalar.injEq]
    refine ⟨⟨?_, ?_⟩, ?_⟩
    all_goals
      rintro rfl
      exact absurd hlow (by decide)
  · intro hhash
    exact hvisible.2.2 (CodePoint.scalar.inj hhash)

/-- A target has at least its slash. -/
theorem target_ne_nil : str p ≠ [] := by
  unfold str Text.ofString
  rw [ne_eq, List.map_eq_nil_iff]
  exact hp.ne_nil

/-- A target starts with a slash. -/
theorem target_head : (str p).head? = some (.scalar '/') := by
  unfold str Text.ofString
  rw [List.head?_map, hp.absolute]
  rfl

/-- White space in front of a letter is stripped, and nothing behind it. -/
theorem unwrap_eq {front back : PyStr} {letter : CodePoint}
    (hletter : letter = .scalar 'h' ∨ letter = .scalar 'H')
    (hfront : ∀ c ∈ front, isC0ControlOrSpace c = true) :
    unwrap (front ++ letter :: (back ++ str p)) =
      front.dropWhile isSpace ++ letter :: (back ++ str p) := by
  have hspace : isSpace letter = false := by
    rcases hletter with rfl | rfl
    · decide
    · decide
  have hlast : (front.dropWhile isSpace ++ letter :: (back ++ str p)).rdropWhile isSpace =
      front.dropWhile isSpace ++ letter :: (back ++ str p) := by
    rw [List.rdropWhile_eq_self_iff]
    intro hne
    have hend : ∀ h, List.getLast (front.dropWhile isSpace ++ letter :: (back ++ str p)) h =
        (str p).getLast (target_ne_nil hp) := by
      rw [← List.cons_append, ← List.append_assoc]
      intro h
      exact List.getLast_append_of_ne_nil h (target_ne_nil hp)
    rw [hend, (target_visible hp (List.getLast_mem _)).1]
    exact Bool.false_ne_true
  have hstrip : strip (front ++ letter :: (back ++ str p)) =
      front.dropWhile isSpace ++ letter :: (back ++ str p) := by
    rw [← hlast, ← dropWhile_stop hspace]
    rfl
  have hhead : ∀ c ∈ (front.dropWhile isSpace ++ letter :: (back ++ str p)).head?,
      c ≠ .scalar '<' ∧ c ≠ .scalar 'U' := by
    intro c hc
    cases hcontrols : front.dropWhile isSpace with
    | nil =>
        rw [hcontrols, List.nil_append, List.head?_cons, Option.mem_some] at hc
        rcases hletter with rfl | rfl
        all_goals
          rw [← hc]
          decide
    | cons control controls =>
        rw [hcontrols, List.cons_append, List.head?_cons, Option.mem_some] at hc
        have hmem : control ∈ front :=
          (List.dropWhile_suffix isSpace).subset (hcontrols ▸ List.mem_cons_self)
        have hcontrol := hfront control hmem
        rw [hc] at hcontrol
        refine ⟨?_, ?_⟩
        all_goals
          rintro rfl
          exact absurd hcontrol (by decide)
  have hbracket : ¬((front.dropWhile isSpace ++ letter :: (back ++ str p)).head? =
      some (.scalar '<') ∧
        (front.dropWhile isSpace ++ letter :: (back ++ str p)).getLast? = some (.scalar '>')) :=
    fun h => (hhead _ h.1).1 rfl
  have hprefix : (front.dropWhile isSpace ++ letter :: (back ++ str p)).take 4 ≠ str "URL:" := by
    intro h
    have hfirst := congrArg List.head? h
    rw [List.head?_take] at hfirst
    exact (hhead (.scalar 'U') hfirst).2 rfl
  unfold unwrap
  simp only [hstrip]
  rw [if_neg hbracket, if_neg hprefix]

end Targets

/-! ## Requests -/

/-- Without a fragment there is no number sign, since a target is behind the base. -/
theorem splittag_target {front rest : PyStr} {p : String} {fragment : Option PyStr}
    (hp : Target p) (h : splittag (front ++ str p) = (rest, fragment))
    (hfragment : fragment.getD [] = []) :
    .scalar '#' ∉ front ++ str p ∧ rest = front ++ str p ∧ fragment = none := by
  unfold splittag at h
  split at h
  · have hnot : .scalar '#' ∉ (str p).reverse := by
      rw [List.mem_reverse]
      intro hmem
      exact (target_visible hp hmem).2.2 rfl
    rw [Prod.mk.injEq, List.reverse_append, cut_append hnot] at h
    rw [← h.2, Option.getD_some, List.reverse_append, List.reverse_reverse] at hfragment
    exact absurd hfragment (List.append_ne_nil_of_right_ne_nil _ (target_ne_nil hp))
  · rename_i hnot
    rw [Prod.mk.injEq] at h
    exact ⟨hnot, h.1.symm, h.2.symm⟩

/-- A type is written in front of a colon. -/
theorem splittype_eq {url type rest : PyStr} (h : splittype url = (some type, rest)) :
    ∃ written, url = written ++ .scalar ':' :: rest ∧ lower written = type := by
  unfold splittype at h
  split at h
  · rename_i c cs back hfront hback
    rw [Prod.mk.injEq, Option.some.injEq] at h
    refine ⟨c :: cs, ?_, h.1⟩
    rw [← h.2, ← hfront, ← hback, List.takeWhile_append_dropWhile]
  · rw [Prod.mk.injEq] at h
    cases h.1

/-- What is in front of the first colon is the type. -/
theorem splittype_colon {letter : CodePoint} {cs rest : PyStr}
    (hchars : ∀ c ∈ letter :: cs, isTypeChar c = true) :
    splittype (letter :: cs ++ .scalar ':' :: rest) = (some (lower (letter :: cs)), rest) := by
  have hcolon : ∀ c ∈ (.scalar ':' :: rest : PyStr).head?, isTypeChar c = false := by
    intro c hc
    rw [List.head?_cons, Option.mem_some] at hc
    rw [← hc]
    decide
  unfold splittype
  rw [takeWhile_all hchars hcolon, dropWhile_all hchars hcolon]
  rfl

/-- A host is written behind two slashes, and the selector is what follows. -/
theorem splithost_eq {url host selector : PyStr} (h : splithost url = (some host, selector)) :
    ∃ tail, url = .scalar '/' :: .scalar '/' :: (host ++ tail) ∧
      (∀ c ∈ host, isNetlocChar c = true) ∧
      (selector = tail ∨ selector = .scalar '/' :: tail) := by
  unfold splithost at h
  split at h
  · rename_i hslashes
    have hurl := List.take_append_drop 2 url
    rw [hslashes] at hurl
    have hwhole : url = .scalar '/' :: .scalar '/' ::
        ((url.drop 2).takeWhile isNetlocChar ++ (url.drop 2).dropWhile isNetlocChar) := by
      rw [List.takeWhile_append_dropWhile]
      exact hurl.symm
    have hchars : ∀ c ∈ (url.drop 2).takeWhile isNetlocChar, isNetlocChar c = true :=
      fun c hc => List.mem_takeWhile_imp hc
    refine ⟨(url.drop 2).dropWhile isNetlocChar, ?_⟩
    simp only [] at h
    split at h
    · rw [Prod.mk.injEq, Option.some.injEq] at h
      rw [← h.1]
      exact ⟨hwhole, hchars, .inr h.2.symm⟩
    · rw [Prod.mk.injEq, Option.some.injEq] at h
      rw [← h.1]
      exact ⟨hwhole, hchars, .inl h.2.symm⟩
  · cases h

/-- The selector behind a host is kept if it begins with a slash. -/
theorem splithost_absolute {host path : PyStr} (hchars : ∀ c ∈ host, isNetlocChar c = true)
    (habsolute : ∀ c ∈ path.head?, c = .scalar '/') :
    splithost (.scalar '/' :: .scalar '/' :: (host ++ path)) = (some host, path) := by
  have hstop : ∀ c ∈ path.head?, isNetlocChar c = false := by
    intro c hc
    rw [habsolute c hc]
    decide
  have hslashes : (.scalar '/' :: .scalar '/' :: (host ++ path) : PyStr).take 2 = str "//" := rfl
  unfold splithost
  rw [if_pos hslashes]
  simp only [List.drop_succ_cons, List.drop_zero, takeWhile_all hchars hstop,
    dropWhile_all hchars hstop]
  rw [if_neg]
  rintro ⟨hne, hnot⟩
  have hfirst := List.head?_eq_some_iff.mpr ⟨_, (List.cons_head_tail hne).symm⟩
  exact hnot (hfirst.trans (congrArg some (habsolute _ hfirst)))

/-- How a request with a host and no fragment is written. -/
theorem requestURL_written {url front : PyStr} {p : String} {r : RequestURL} (hp : Target p)
    (hurl : unwrap url = front ++ str p) (h : requestURL url = .ok r)
    (hhost : r.host.getD [] ≠ []) (hfragment : r.fragment.getD [] = []) :
    .scalar '#' ∉ front ++ str p ∧
      ∃ written host tail, lower written = r.type ∧ r.host = some (unquote host) ∧
        (∀ c ∈ host, isNetlocChar c = true) ∧
        (r.selector = tail ∨ r.selector = .scalar '/' :: tail) ∧
        front ++ str p = written ++ .scalar ':' :: .scalar '/' :: .scalar '/' ::
          (host ++ tail) := by
  unfold requestURL at h
  rw [hurl] at h
  rcases htag : splittag (front ++ str p) with ⟨whole, fragment⟩
  rcases htype : splittype whole with ⟨type, rest⟩
  rcases hlocation : splithost rest with ⟨host, selector⟩
  simp only [htag, htype] at h
  cases type with
  | none => cases h
  | some type =>
      simp only [hlocation] at h
      rw [← Except.ok.inj h] at hhost hfragment ⊢
      rcases splittag_target hp htag hfragment with ⟨hnot, hwhole, -⟩
      refine ⟨hnot, ?_⟩
      cases host with
      | none => exact absurd rfl hhost
      | some host =>
          rcases splittype_eq htype with ⟨written, hwritten, hlower⟩
          rcases splithost_eq hlocation with ⟨tail, htail, hchars, hselector⟩
          refine ⟨written, host, tail, hlower, rfl, hchars, hselector, ?_⟩
          rw [← hwhole, hwritten, htail]

/-! ## Where a client sends its requests -/

/-- The URL requested for a base with an API path behind it is the endpoint of that path
below the base. -/
def MizanClient.Addresses (c : MizanClient) (base : SplitResult) (p : String) : Prop :=
  ∃ r, requestURL (c.baseUrl ++ str p) = .ok r ∧
    r.endpoint = base.endpoint.below (.scalar '/') (.scalar '?') (str p)

/-- A text without delimiters in which `urlsplit` and `Request` remove the same: white
space in front. -/
structure PlainText (raw : PyStr) : Prop where
  noQuestion : .scalar '?' ∉ raw
  noHash : .scalar '#' ∉ raw
  spaces : ∀ c ∈ raw.takeWhile isC0ControlOrSpace, isSpace c = true
  safe : ∀ c ∈ raw.dropWhile isC0ControlOrSpace, isUnsafe c = false

/-- The network location that `urlsplit` sees. -/
def netlocOf (raw : PyStr) : PyStr := (splitNetloc (splitScheme (cleaned raw)).2).1

/-- Such a text whose network location has no percent escape. -/
structure PlainURL (raw : PyStr) : Prop extends PlainText raw where
  unescaped : hasEscape (netlocOf raw) = false

/-- What `urlsplit` takes out everywhere is a control character. -/
theorem isUnsafe_control {c : CodePoint} (h : isUnsafe c = true) :
    isC0ControlOrSpace c = true := by
  simp only [isUnsafe, Bool.or_eq_true, beq_iff_eq] at h
  rcases h with (rfl | rfl) | rfl
  all_goals decide

/-- What is removed everywhere is no part of an escape. -/
theorem mem_unquote_of_isUnsafe {s : PyStr} {c : CodePoint} (h : isUnsafe c = true)
    (hmem : c ∈ s) : c ∈ unquote s := by
  simp only [isUnsafe, Bool.or_eq_true, beq_iff_eq] at h
  rcases h with (rfl | rfl) | rfl
  · have htab : Unescapable '\t' := ⟨by decide, by decide, by decide⟩
    exact htab.mem_unquote hmem
  · have hreturn : Unescapable '\r' := ⟨by decide, by decide, by decide⟩
    exact hreturn.mem_unquote hmem
  · have hfeed : Unescapable '\n' := ⟨by decide, by decide, by decide⟩
    exact hfeed.mem_unquote hmem

/-- A request for a base is read from what is stripped in front of its scheme and no more. -/
theorem unwrap_base {c : MizanClient} {raw : PyStr} (hc : c.baseUrl = rstripSlash raw) {p : String}
    (hp : Target p) {letter : CodePoint} {more : PyStr}
    (hbody : raw.dropWhile isC0ControlOrSpace = letter :: more)
    (hletter : letter = .scalar 'h' ∨ letter = .scalar 'H') :
    unwrap (c.baseUrl ++ str p) =
      ((raw.takeWhile isC0ControlOrSpace).dropWhile isSpace ++ letter :: rstripSlash more) ++
        str p := by
  have hslash : letter ≠ .scalar '/' := by
    rcases hletter with rfl | rfl
    all_goals decide
  have hstrip : rstripSlash (raw.takeWhile isC0ControlOrSpace ++ letter :: more) =
      raw.takeWhile isC0ControlOrSpace ++ letter :: rstripSlash more := rstripSlash_stop hslash
  rw [← hbody, List.takeWhile_append_dropWhile] at hstrip
  rw [hc, hstrip, List.append_assoc, List.append_assoc, List.cons_append,
    unwrap_eq hp hletter fun d hd => List.mem_takeWhile_imp hd]

namespace HTTPBase

variable {checkNetloc : PyStr → Except PyError Unit} {raw sch netloc tail : PyStr}
  (h : HTTPBase checkNetloc raw sch netloc tail)
include h

/-- The scheme starts with the letter of `http`. -/
theorem exists_letter :
    ∃ letter rest, sch = letter :: rest ∧ (letter = .scalar 'h' ∨ letter = .scalar 'H') :=
  exists_letter_of_web h.web

/-- Behind the control characters in front a base begins with its scheme. -/
theorem exists_body :
    ∃ letter more, raw.dropWhile isC0ControlOrSpace = letter :: more ∧
      (letter = .scalar 'h' ∨ letter = .scalar 'H') := by
  rcases h.exists_letter with ⟨first, rest, hsch, hfirst⟩
  have htext := h.text
  unfold cleaned at htext
  rw [hsch, List.cons_append] at htext
  cases hbody : raw.dropWhile isC0ControlOrSpace with
  | nil =>
      rw [hbody] at htext
      cases htext
  | cons letter more =>
      have hstop := List.head?_dropWhile_not isC0ControlOrSpace raw
      rw [hbody] at hstop
      have hsafe : isUnsafe letter = false := by
        rw [Bool.eq_false_iff]
        intro hunsafe
        exact Bool.false_ne_true (hstop.symm.trans (isUnsafe_control hunsafe))
      rw [hbody, List.filter_cons_of_pos (by rw [hsafe]; rfl)] at htext
      refine ⟨letter, more, rfl, ?_⟩
      rw [(List.cons.inj htext).1]
      exact hfirst

/-- A plain base is written as it is split, behind white space. -/
theorem plain_text (hplain : PlainText raw) :
    raw = raw.takeWhile isC0ControlOrSpace ++
      (sch ++ .scalar ':' :: .scalar '/' :: .scalar '/' :: (netloc ++ tail)) := by
  have htext := h.text
  unfold cleaned at htext
  rw [List.filter_eq_self.mpr (fun c hc => by rw [hplain.safe c hc]; rfl)] at htext
  rw [← htext, List.takeWhile_append_dropWhile]

/-- The path of a plain base. -/
theorem plain_tail (hplain : PlainText raw) :
    .scalar '?' ∉ tail ∧ .scalar '#' ∉ tail ∧ ∀ c ∈ tail.head?, c = .scalar '/' := by
  have hsub : ∀ c ∈ tail, c ∈ raw := by
    intro c hc
    rw [h.plain_text hplain]
    simp [hc]
  have hquestion : .scalar '?' ∉ tail := fun hmem => hplain.noQuestion (hsub _ hmem)
  have hhash : .scalar '#' ∉ tail := fun hmem => hplain.noHash (hsub _ hmem)
  refine ⟨hquestion, hhash, ?_⟩
  intro c hc
  have hstop := h.stops c hc
  simp only [isNetlocChar, Bool.not_eq_false', Bool.or_eq_true, beq_iff_eq] at hstop
  rcases hstop with (hslash | rfl) | rfl
  · exact hslash
  · exact absurd (List.mem_of_mem_head? hc) hquestion
  · exact absurd (List.mem_of_mem_head? hc) hhash

/-- The slashes at its end are stripped from its path. -/
theorem plain_rstripSlash (hplain : PlainText raw) :
    rstripSlash raw = raw.takeWhile isC0ControlOrSpace ++
      (sch ++ .scalar ':' :: .scalar '/' :: .scalar '/' :: (netloc ++ rstripSlash tail)) := by
  rcases List.eq_nil_or_concat netloc with hnil | ⟨before, last, hlast⟩
  · exact absurd hnil h.netloc_ne
  · have hstop : last ≠ .scalar '/' := by
      rintro rfl
      have hchar := h.netlocChars (.scalar '/') (by rw [hlast]; simp)
      exact absurd hchar (by decide)
    have hraw := h.plain_text hplain
    rw [hlast] at hraw
    have hsplit : raw = (raw.takeWhile isC0ControlOrSpace ++
        (sch ++ .scalar ':' :: .scalar '/' :: .scalar '/' :: before)) ++ last :: tail := by
      nth_rewrite 1 [hraw]
      simp
    nth_rewrite 1 [hsplit]
    rw [rstripSlash_stop hstop, hlast]
    simp

/-- The white space in front of a plain base is stripped. -/
theorem plain_unwrap (hplain : PlainText raw) {p : String} (hp : Target p) :
    unwrap (rstripSlash raw ++ str p) =
      sch ++ .scalar ':' :: .scalar '/' :: .scalar '/' ::
        (netloc ++ (rstripSlash tail ++ str p)) := by
  rcases h.exists_letter with ⟨letter, rest, hsch, hletter⟩
  have hfront : ∀ c ∈ raw.takeWhile isC0ControlOrSpace, isC0ControlOrSpace c = true :=
    fun c hc => List.mem_takeWhile_imp hc
  have hback : unwrap (raw.takeWhile isC0ControlOrSpace ++ letter ::
      ((rest ++ .scalar ':' :: .scalar '/' :: .scalar '/' :: (netloc ++ rstripSlash tail)) ++
        str p)) = _ := unwrap_eq hp hletter hfront
  rw [List.dropWhile_eq_nil_iff.mpr hplain.spaces] at hback
  rw [h.plain_rstripSlash hplain, hsch]
  simpa using hback

/-- The path of the request is absolute. -/
theorem plain_absolute (hplain : PlainText raw) {p : String} (hp : Target p) :
    ∀ c ∈ (rstripSlash tail ++ str p).head?, c = .scalar '/' := by
  intro c hc
  cases hpath : rstripSlash tail with
  | nil =>
      rw [hpath, List.nil_append, target_head hp, Option.mem_some] at hc
      exact hc.symm
  | cons first path =>
      rw [hpath, List.cons_append, List.head?_cons, Option.mem_some] at hc
      have hprefix : rstripSlash tail <+: tail := List.rdropWhile_prefix _ _
      rw [hpath] at hprefix
      rcases hprefix with ⟨slashes, htail⟩
      apply (h.plain_tail hplain).2.2
      rw [← htail, List.cons_append, List.head?_cons, hc]
      rfl

/-- No fragment begins in a plain base with a target behind it. -/
theorem plain_noHash (hplain : PlainText raw) {p : String} (hp : Target p) :
    .scalar '#' ∉ sch ++ .scalar ':' :: .scalar '/' :: .scalar '/' ::
      (netloc ++ (rstripSlash tail ++ str p)) := by
  have hraw := hplain.noHash
  rw [h.plain_text hplain] at hraw
  simp only [List.mem_append, List.mem_cons, not_or] at hraw ⊢
  have hpath : .scalar '#' ∉ rstripSlash tail := by
    rw [mem_rstripSlash_iff (by decide)]
    exact (h.plain_tail hplain).2.1
  have htarget : .scalar '#' ∉ str p := fun hmem => (target_visible hp hmem).2.2 rfl
  tauto

/-- The scheme is made of the characters of one. -/
theorem typeChars : ∀ c ∈ sch, isTypeChar c = true := by
  intro c hc
  have hchar := h.schemeChars c hc
  simp only [isTypeChar, Bool.not_eq_true', Bool.or_eq_false_iff, beq_eq_false_iff_ne]
  refine ⟨?_, ?_⟩
  all_goals
    rintro rfl
    exact absurd hchar (by decide)

/-- How a base with an API path behind it is requested. -/
theorem requestURL_eq (hplain : PlainText raw) {p : String} (hp : Target p) :
    requestURL (rstripSlash raw ++ str p) =
      .ok ⟨lower sch, some (unquote netloc), rstripSlash tail ++ str p, none⟩ := by
  rcases h.exists_letter with ⟨letter, rest, hsch, -⟩
  have htypeChars := h.typeChars
  have hnot := h.plain_noHash hplain hp
  have hunwrap := h.plain_unwrap hplain hp
  have hhost := splithost_absolute h.netlocChars (h.plain_absolute hplain hp)
  rw [hsch] at htypeChars hnot hunwrap ⊢
  unfold requestURL splittag
  rw [hunwrap, if_neg hnot]
  simp only [splittype_colon htypeChars, hhost]
  rfl

/-- The network location of the base. -/
theorem netlocOf_eq : netlocOf raw = netloc := by
  have hsplit := h.split
  simp only [urlsplit] at hsplit
  cases hcheck : checkNetloc (splitNetloc (splitScheme (cleaned raw)).2).1 with
  | error err =>
      rw [hcheck] at hsplit
      cases hsplit
  | ok checked =>
      rw [hcheck] at hsplit
      exact congrArg SplitResult.netloc (Except.ok.inj hsplit)

/-- A plain base addresses the right endpoint. -/
theorem addresses (hplain : PlainURL raw) {c : MizanClient} (hc : c.baseUrl = rstripSlash raw)
    {p : String} (hp : Target p) :
    c.Addresses
      ⟨lower sch, netloc, (cut (.scalar '?') (cut (.scalar '#') tail).1).1, [], []⟩ p := by
  rcases h.plain_tail hplain.toPlainText with ⟨hquestion, hhash, -⟩
  have hpath : .scalar '?' ∉ rstripSlash tail := by
    rw [mem_rstripSlash_iff (by decide)]
    exact hquestion
  have hhost : unquote netloc = netloc := by
    rw [unquote_eq_self_iff, ← h.netlocOf_eq]
    exact hplain.unescaped
  refine ⟨⟨lower sch, some netloc, rstripSlash tail ++ str p, none⟩, ?_, ?_⟩
  · rw [hc, h.requestURL_eq hplain.toPlainText hp, hhost]
  · rw [cut_of_notMem hhash, cut_of_notMem hquestion]
    unfold RequestURL.endpoint SplitResult.endpoint Endpoint.below
    rw [cut_append hpath]
    rfl

/-- Nothing that is removed everywhere is left in the parts of a base. -/
theorem parts_safe {c : CodePoint} (hc : c ∈ netloc ++ tail) : isUnsafe c = false := by
  have hmem : c ∈ cleaned raw := by
    rw [h.text]
    simp only [List.mem_append, List.mem_cons] at hc ⊢
    tauto
  have hkept := List.of_mem_filter hmem
  rwa [Bool.not_eq_true'] at hkept

/-- A request that goes to the right endpoint is read from a text without anything that
is removed everywhere. -/
theorem written_safe {r : RequestURL} {written host rest : PyStr} {p : String} (hp : Target p)
    (hwritten : lower written = lower sch) (hhost : unquote host = netloc)
    (hselector : r.selector = rest ∨ r.selector = .scalar '/' :: rest)
    (hpath : (cut (.scalar '?') r.selector).1 = rstripSlash
      (cut (.scalar '?') (cut (.scalar '#') tail).1).1 ++ (cut (.scalar '?') (str p)).1)
    (hquery : (cut (.scalar '?') r.selector).2 = (cut (.scalar '?') (str p)).2) {c : CodePoint}
    (hc : c ∈ written ++ .scalar ':' :: .scalar '/' :: .scalar '/' :: (host ++ rest)) :
    isUnsafe c = false := by
  simp only [List.mem_append, List.mem_cons] at hc
  rcases hc with hscheme | rfl | rfl | rfl | hnetloc | hrest
  · rw [Bool.eq_false_iff]
    intro hunsafe
    have hweb := h.web
    rw [← hwritten] at hweb
    refine notMem_of_web hweb ?_ hscheme
    simp only [isUnsafe, Bool.or_eq_true, beq_iff_eq] at hunsafe
    rcases hunsafe with (rfl | rfl) | rfl
    all_goals decide
  · decide
  · decide
  · decide
  · rw [Bool.eq_false_iff]
    intro hunsafe
    -- No escape is made of it, so it would be in the network location too.
    have hkept := mem_unquote_of_isUnsafe hunsafe hnetloc
    rw [hhost] at hkept
    rw [h.parts_safe (List.mem_append_left tail hkept)] at hunsafe
    cases hunsafe
  · have hmem : c ∈ r.selector := by
      rcases hselector with hsame | hmore
      · rwa [hsame]
      · rw [hmore]
        exact List.mem_cons_of_mem _ hrest
    rcases mem_cut (.scalar '?') hmem with hfirst | rfl | hsecond
    · rw [hpath, List.mem_append] at hfirst
      rcases hfirst with hbase | htarget
      · have htail : c ∈ tail := cut_fst_subset _ _ (cut_fst_subset _ _
          ((List.rdropWhile_prefix _ _).subset hbase))
        exact h.parts_safe (List.mem_append_right netloc htail)
      · exact (target_visible hp (cut_fst_subset _ _ htarget)).2.1
    · decide
    · rw [hquery] at hsecond
      exact (target_visible hp (cut_snd_subset _ _ hsecond)).2.1

/-- A request that goes to the right endpoint has no question mark in its base. -/
theorem written_noQuestion {r : RequestURL} {front written host rest : PyStr} {p : String}
    (hp : Target p) (hwritten : lower written = lower sch)
    (hhost : ∀ c ∈ host, isNetlocChar c = true)
    (hselector : r.selector = rest ∨ r.selector = .scalar '/' :: rest)
    (hquery : (cut (.scalar '?') r.selector).2 = (cut (.scalar '?') (str p)).2)
    (htext : front ++ str p =
      written ++ .scalar ':' :: .scalar '/' :: .scalar '/' :: (host ++ rest)) :
    .scalar '?' ∉ front := by
  have hcut : (cut (.scalar '?') r.selector).2 = (cut (.scalar '?') rest).2 := by
    rcases hselector with hsame | hmore
    · rw [hsame]
    · have hnot : .scalar '?' ∉ str "/" := by decide
      have hcons : cut (.scalar '?') (.scalar '/' :: rest) =
          (str "/" ++ (cut (.scalar '?') rest).1, (cut (.scalar '?') rest).2) :=
        cut_append hnot rest
      rw [hmore, hcons]
  have hhead : .scalar '?' ∉ written ++ .scalar ':' :: .scalar '/' :: .scalar '/' :: host := by
    have hweb := h.web
    rw [← hwritten] at hweb
    have hsch : .scalar '?' ∉ written := notMem_of_web hweb (by decide)
    have hnetloc : .scalar '?' ∉ host := by
      intro hmem
      exact absurd (hhost _ hmem) (by decide)
    simp [hsch, hnetloc]
  have hsplit : front ++ str p =
      (written ++ .scalar ':' :: .scalar '/' :: .scalar '/' :: host) ++ rest := by
    rw [htext]
    simp
  exact Endpoint.notMem_front hsplit hhead (target_ne_nil hp) (hcut.symm.trans hquery)

/-- A request that goes to the right endpoint begins with its scheme. -/
theorem written_front {controls back written rest : PyStr}
    (hcontrols : ∀ d ∈ controls, isC0ControlOrSpace d = true)
    (hwritten : lower written = lower sch) (htext : controls ++ back = written ++ rest) :
    controls = [] := by
  cases controls with
  | nil => rfl
  | cons control controls =>
      have hweb := h.web
      rw [← hwritten] at hweb
      rcases exists_letter_of_web hweb with ⟨first, others, hfirst, hletters⟩
      rw [hfirst] at htext
      have hcontrol := hcontrols control List.mem_cons_self
      rw [(List.cons.inj htext).1] at hcontrol
      rcases hletters with rfl | rfl
      all_goals exact absurd hcontrol (by decide)

/-- A base that addresses the right endpoint is plain. -/
theorem plain {c : MizanClient} (hc : c.baseUrl = rstripSlash raw) {p : String} (hp : Target p)
    (haddresses : c.Addresses
      ⟨lower sch, netloc, (cut (.scalar '?') (cut (.scalar '#') tail).1).1, [], []⟩ p) :
    PlainURL raw := by
  rcases haddresses with ⟨r, hrequest, hendpoint⟩
  have hscheme : r.type = lower sch := congrArg Endpoint.scheme hendpoint
  have hhost : r.host.getD [] = netloc := congrArg Endpoint.host hendpoint
  have hfragment : r.fragment.getD [] = [] := congrArg Endpoint.fragment hendpoint
  have hpath := congrArg Endpoint.path hendpoint
  have hquery := congrArg Endpoint.query hendpoint
  rcases h.exists_body with ⟨letter, more, hbody, hletter⟩
  rcases requestURL_written hp (unwrap_base hc hp hbody hletter) hrequest
    (hhost ▸ h.netloc_ne) hfragment with
    ⟨hhash, written, host, rest, htype, hdecoded, hchars, hselector, htext⟩
  rw [hdecoded, Option.getD_some] at hhost
  have hwritten : lower written = lower sch := htype.trans hscheme
  have hcontrols : ∀ d ∈ raw.takeWhile isC0ControlOrSpace, isC0ControlOrSpace d = true :=
    fun d hd => List.mem_takeWhile_imp hd
  have hquestion := h.written_noQuestion hp hwritten hchars hselector hquery htext
  have hspaces : (raw.takeWhile isC0ControlOrSpace).dropWhile isSpace = [] := by
    rw [List.append_assoc] at htext
    exact h.written_front (fun d hd => hcontrols d ((List.dropWhile_suffix isSpace).subset hd))
      hwritten htext
  have hsafe : ∀ d ∈ (raw.takeWhile isC0ControlOrSpace).dropWhile isSpace ++
      letter :: rstripSlash more, isUnsafe d = false := by
    intro d hd
    apply h.written_safe hp hwritten hhost hselector hpath hquery
    rw [← htext]
    exact List.mem_append_left _ hd
  -- What is not a slash is read, and what is no control character is behind those in front.
  have hread : ∀ d ∈ letter :: more, d ≠ .scalar '/' →
      d ∈ (raw.takeWhile isC0ControlOrSpace).dropWhile isSpace ++ letter :: rstripSlash more := by
    intro d hd hne
    apply List.mem_append_right
    rw [List.mem_cons] at hd ⊢
    rcases hd with hsame | hmore
    · exact .inl hsame
    · exact .inr ((mem_rstripSlash_iff hne).mpr hmore)
  have hbehind : ∀ d ∈ raw, isC0ControlOrSpace d = false → d ∈ letter :: more := by
    intro d hd hnot
    rw [← List.takeWhile_append_dropWhile (p := isC0ControlOrSpace) (l := raw), hbody,
      List.mem_append] at hd
    rcases hd with hfront | hback
    · exact absurd (hcontrols d hfront) (by rw [hnot]; exact Bool.false_ne_true)
    · exact hback
  have hplain : PlainText raw := by
    refine ⟨?_, ?_, ?_, ?_⟩
    · intro hmem
      exact hquestion (hread _ (hbehind _ hmem (by decide)) (by decide))
    · intro hmem
      exact hhash (List.mem_append_left _ (hread _ (hbehind _ hmem (by decide)) (by decide)))
    · exact List.dropWhile_eq_nil_iff.mp hspaces
    · intro d hd
      rw [hbody] at hd
      by_cases hne : d = .scalar '/'
      · rw [hne]
        decide
      · exact hsafe d (hread d hd hne)
  -- What is requested is known by now, and its host is the network location decoded.
  have hkept : unquote netloc = netloc := by
    have hknown := h.requestURL_eq hplain hp
    rw [← hc, hrequest] at hknown
    have hsame := congrArg RequestURL.host (Except.ok.inj hknown)
    rw [hdecoded, Option.some.injEq] at hsame
    exact hsame.symm.trans hhost
  refine ⟨hplain, ?_⟩
  rw [h.netlocOf_eq]
  exact (unquote_eq_self_iff netloc).mp hkept

end HTTPBase

/-- An accepted base addresses the right endpoint of an API path if and only if it is a
plain URL. -/
theorem init_addresses_iff {checkNetloc : PyStr → Except PyError Unit} {args : ClientArguments}
    {c : MizanClient} (h : MizanClient.init checkNetloc args = .ok c) {p : String}
    (hp : Target p) :
    (∃ base, urlsplit checkNetloc args.baseUrl = .ok base ∧ c.Addresses base p) ↔
      PlainURL args.baseUrl := by
  rcases init_accepted h with ⟨hc, sch, netloc, tail, hbase⟩
  constructor
  · rintro ⟨base, hsplit, haddresses⟩
    rw [← Except.ok.inj (hbase.split.symm.trans hsplit)] at haddresses
    exact hbase.plain hc hp haddresses
  · intro hplain
    exact ⟨_, hbase.split, hbase.addresses hplain hc hp⟩

end MizanSDK.Python
