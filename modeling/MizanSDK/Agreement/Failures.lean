import MizanSDK.Agreement.Clients

/-!
# What callers can tell failures by

A Go caller asks `errors.Is` for a sentinel of the SDK, a Python caller catches the class
of an exception.  The sentinels and the classes are named alike: `ErrNotFound` there is
`NotFoundError` here.  Python has a class for each known code, Go a sentinel for half of
them.

Main results:

- Theorem `class_of_sentinel`: a class is named like a sentinel exactly if both stand for one
  code.
- Theorem `failures_classified_alike`: what Go matches with a sentinel, Python catches with
  the class of the same name, and conversely.
-/

namespace MizanSDK.Agreement

open JsonText BoundedRetry

/-! ## Names -/

/-- The class that is named like a sentinel. -/
def className (sentinel : String) : String :=
  String.ofList (sentinel.toList.drop 3) ++ "Error"

/-- A code that both SDKs know is that of a sentinel exactly if its class is named like the
sentinel. -/
theorem class_of_sentinel : ∀ entry ∈ Go.domainErrors, ∀ known ∈ Python.apiErrorTypes,
    known.2 = className entry.1 ↔ known.1 = entry.2 := by
  decide +kernel

/-- Every sentinel stands for a code that Python knows. -/
theorem sentinel_known : ∀ entry ∈ Go.domainErrors,
    (entry.2, className entry.1) ∈ Python.apiErrorTypes := by
  decide +kernel

/-- No class of a sentinel is one of those that catch more. -/
theorem class_of_sentinel_ne : ∀ entry ∈ Go.domainErrors, className entry.1 ∉
    ["MizanAPIError", "MizanTransportError", "MizanProtocolError", "MizanError"] := by
  decide +kernel

theorem sentinel_ne_fallback : ∀ entry ∈ Go.domainErrors, entry.2 ≠ "HTTP_ERROR" := by
  decide +kernel

/-- The class of a code is named like a sentinel exactly if the code is that of the
sentinel. -/
theorem apiErrorType_sentinel_iff {code type : String}
    (h : Python.apiErrorType (.str (Text.ofString code)) = .ok type) {entry : String × String}
    (hentry : entry ∈ Go.domainErrors) : type = className entry.1 ↔ code = entry.2 := by
  have htype : ((Python.apiErrorTypes.find? fun known =>
      Python.str known.1 == Text.ofString code).elim "MizanAPIError" Prod.snd) = type := by
    simpa [Python.apiErrorType, Python.PyValue.hashable] using h
  cases hfind : Python.apiErrorTypes.find? fun known =>
      Python.str known.1 == Text.ofString code with
  | some known =>
      have hknown := List.mem_of_find?_eq_some hfind
      have hcode : known.1 = code := by
        have hsame := List.find?_some hfind
        rw [beq_iff_eq] at hsame
        exact Text.ofString_inj.mp hsame
      rw [hfind, Option.elim_some] at htype
      rw [← htype, ← hcode]
      exact class_of_sentinel entry hentry known hknown
  | none =>
      rw [hfind, Option.elim_none] at htype
      have hother : type ≠ className entry.1 := by
        rintro rfl
        exact class_of_sentinel_ne entry hentry (by simp [← htype])
      refine iff_of_false hother ?_
      rintro rfl
      have hmiss := List.find?_eq_none.mp hfind _ (sentinel_known entry hentry)
      exact hmiss (beq_self_eq_true _)

/-! ## Ends of calls -/

section Ends

variable {answer : Answer} {go : Go.Outcome} {py : Python.Outcome}

/-- What is no rejection is caught by no class of a sentinel. -/
theorem not_mem_classes {entry : String × String} (hentry : entry ∈ Go.domainErrors)
    (err : Python.Raised) (h : ∀ type ∈ err.classes, type ∈
      ["MizanAPIError", "MizanTransportError", "MizanProtocolError", "MizanError"]) :
    className entry.1 ∉ err.classes :=
  fun hmem => class_of_sentinel_ne entry hentry (h _ hmem)

/-- Calls that end alike are matched by a sentinel, or caught by its class, alike. -/
theorem EndsAlike.classified (h : EndsAlike go py) (htyped : py.Typed)
    {entry : String × String} (hentry : entry ∈ Go.domainErrors) :
    go.Matches entry.2 ↔ py.IsCaught (className entry.1) := by
  cases h with
  | success result payload => simp
  | api goErr pyErr hstatus hcode hretryable hkey =>
      have htype := htyped pyErr rfl
      rw [hcode] at htype
      have hothers := class_of_sentinel_ne entry hentry
      simp only [List.mem_cons, not_or] at hothers
      rw [Go.Outcome.matches_error_iff, Python.Outcome.isCaught_raised_iff]
      simp only [Go.CallError.is, Go.APIError.is, Python.Raised.classes, List.mem_cons,
        List.not_mem_nil, hothers.1, hothers.2.2.2.1, or_false, beq_iff_eq]
      exact eq_comm.trans ((apiErrorType_sentinel_iff htype hentry).symm.trans eq_comm)
  | protocol goErr pyErr hkey =>
      have hmiss := not_mem_classes hentry (.protocol pyErr) (by simp [Python.Raised.classes])
      simpa [Go.CallError.is] using hmiss
  | transport goErr pyErr hkey =>
      have hmiss := not_mem_classes hentry (.transport pyErr) (by simp [Python.Raised.classes])
      simpa [Go.CallError.is] using hmiss

/-- So are calls that end at a foreign error member: by nothing. -/
theorem ForeignEnd.classified (h : ForeignEnd go py) {entry : String × String}
    (hentry : entry ∈ Go.domainErrors) :
    go.Matches entry.2 ↔ py.IsCaught (className entry.1) := by
  cases h with
  | mk goErr pyErr hcode hretryable hkey =>
      have hmiss := not_mem_classes hentry (.protocol pyErr) (by simp [Python.Raised.classes])
      have hfallback := sentinel_ne_fallback entry hentry
      simp [Go.CallError.is, Go.APIError.is, hcode, hmiss, hfallback]

theorem Related.classified (h : Related answer go py) (htyped : py.Typed)
    {entry : String × String} (hentry : entry ∈ Go.domainErrors) :
    go.Matches entry.2 ↔ py.IsCaught (className entry.1) := by
  by_cases hforeign : answer.Foreign
  · exact (h.1 hforeign).classified hentry
  · exact (h.2 hforeign).classified htyped hentry

/-- No class of a rejection is that of an unknown outcome. -/
theorem apiErrorType_ne_transport {code : Python.PyValue} {type : String}
    (h : Python.apiErrorType code = .ok type) : type ≠ "MizanTransportError" := by
  have hknown : ∀ known ∈ Python.apiErrorTypes, known.2 ≠ "MizanTransportError" := by
    decide +kernel
  unfold Python.apiErrorType at h
  split at h
  · split at h
    · rename_i s _
      rw [Except.ok.injEq] at h
      rw [← h]
      cases hfind : Python.apiErrorTypes.find? fun known => Python.str known.1 == s with
      | none => decide
      | some known => exact hknown known (List.mem_of_find?_eq_some hfind)
    · rw [Except.ok.injEq] at h
      rw [← h]
      decide
  · cases h

/-- The outcome of a call is unknown in one SDK when it is in the other. -/
theorem Related.uncertain_iff (h : Related answer go py) (htyped : py.Typed) :
    go.Uncertain ↔ py.IsCaught "MizanTransportError" := by
  by_cases hforeign : answer.Foreign
  · cases h.1 hforeign
    simp [Go.Outcome.Uncertain, Python.Raised.classes]
  · cases h.2 hforeign with
    | api goErr pyErr hstatus hcode hretryable hkey =>
        have hne := apiErrorType_ne_transport (htyped pyErr rfl)
        simp [Go.Outcome.Uncertain, Python.Raised.classes, hne.symm]
    | _ => simp [Go.Outcome.Uncertain, Python.Raised.classes]

end Ends

/-! ## Whole calls -/

/-- If every attempt the two clients are led to is tame, the Go call returns an error that
matches a sentinel exactly when the Python call raises an instance of the class of that
name, and the outcome of both is unknown or of none. -/
theorem failures_classified_alike {c : Go.Client} {g : Go.Env} {p : Python.MizanClient}
    {q : Python.Env} {script : ℕ → Step} (hserver : SameServer c g p q script)
    (goMethod goPath goBusinessID goKey : String) (goBody : Option Go.RequestBody)
    (goHeaders : List (String × String)) (pyMethod : String)
    (pyPath pyBusinessId : Python.PyStr) (pyBody : Option Python.PyDict)
    (pyKey : Option Python.PyStr) (pyHeaders : List (String × Python.PyStr)) (mutation : Bool)
    (hgoEncodes : ∃ payload, g.encode goBody = .ok payload)
    (hgoBuilds : g.newRequest goMethod (c.baseURL ++ goPath) = none)
    (hpyEncodes : ∃ encoded, q.encode pyBody = .ok encoded)
    (hkey : (q.key pyKey mutation).getD [] = Text.ofString goKey)
    (htame : ∀ k, 1 ≤ k → k ≤ p.maxAttempts →
      (∀ i, 1 ≤ i → i < k → Retried g mutation p.maxAttempts i) →
      TameAttempt g script mutation p.maxAttempts k) :
    let goRun := c.requestWithHeaders g goMethod goPath goBusinessID goBody goKey mutation
      goHeaders
    let pyRun := p.request q pyMethod pyPath pyBody pyBusinessId pyKey mutation pyHeaders
    (∀ entry ∈ Go.domainErrors,
      goRun.result.Matches entry.2 ↔ pyRun.result.IsCaught (className entry.1)) ∧
    (goRun.result.Uncertain ↔ pyRun.result.IsCaught "MizanTransportError") := by
  intro goRun pyRun
  obtain ⟨payload, hpayload⟩ := hgoEncodes
  obtain ⟨encoded, hencoded⟩ := hpyEncodes
  obtain ⟨goCall, hgoCall⟩ : ∃ goCall, goCall =
      c.newCall g goMethod goPath goBusinessID payload goKey mutation goHeaders := ⟨_, rfl⟩
  obtain ⟨pyCall, hpyCall⟩ : ∃ pyCall, pyCall =
      q.newCall pyMethod pyPath encoded pyBusinessId pyKey mutation pyHeaders := ⟨_, rfl⟩
  obtain ⟨j, r, hgoDec, hgoRun⟩ := c.requestWithHeaders_decided hgoCall hpayload hgoBuilds
  obtain ⟨j', s, hpyDec, hpyRun⟩ := p.request_decided hpyCall hencoded
  have hbuilds : g.newRequest goCall.method (c.baseURL ++ goCall.path) = none := by
    rw [hgoCall]
    exact hgoBuilds
  have hattempts : goCall.attempts = p.maxAttempts := by
    rw [hgoCall]
    exact hserver.attempts
  have hgoMutation : goCall.mutation = mutation := by rw [hgoCall]; rfl
  have hpyMutation : pyCall.mutation = mutation := by rw [hpyCall]; rfl
  have hkeys : pyCall.key.getD [] = Text.ofString goCall.key := by
    rw [hgoCall, hpyCall]
    exact hkey
  rw [hserver.attempts] at hgoDec
  -- Both loops leave in the same round with results that are related.
  have hagree := (reached_agree_iff hserver hgoMutation hpyMutation hattempts hbuilds hkeys).mpr
    htame
  obtain ⟨rfl, hrelated⟩ := (decides_agree_iff hgoDec hpyDec).mpr hagree
  have htyped := Python.request_typed hpyDec
  have hgoResult : goRun.result = r := congrArg Run.result hgoRun
  have hpyResult : pyRun.result = s := congrArg Run.result hpyRun
  rw [hgoResult, hpyResult]
  exact ⟨fun entry hentry => hrelated.classified htyped hentry, hrelated.uncertain_iff htyped⟩

/-- The body of a rejection for want of units. -/
def brokeBody : List UInt8 :=
  asciiBytes "\x7b\"error\":\x7b\"code\":\"INSUFFICIENT_AZEER_UNITS\"\x7d\x7d"

/-- Its error envelope. -/
def brokeEnvelope : List (Text × Json) :=
  [(Text.ofString "code", .string (Text.ofString "INSUFFICIENT_AZEER_UNITS"))]

/-- Its document. -/
def brokeDocument : Json := .object [(Text.ofString "error", .object brokeEnvelope)]

/-- Every attempt is answered by that body. -/
def brokeScript (_ : ℕ) : Step := .response 402 ∅ [] brokeBody

theorem brokeEnvelope_tame (final : Prop) : TameEnvelope brokeEnvelope final := by
  refine ⟨?_, ?_, ?_, ?_⟩
  · intro value hvalue
    obtain rfl : Json.string (Text.ofString "INSUFFICIENT_AZEER_UNITS") = value :=
      Option.some.inj hvalue
    rfl
  · intro _ value hvalue
    exact ⟨"INSUFFICIENT_AZEER_UNITS", (Option.some.inj hvalue).symm⟩
  · intro value hvalue
    exact absurd hvalue (by rintro ⟨⟩)
  · intro value hvalue
    exact absurd hvalue (by rintro ⟨⟩)

/-- The sentinel for want of units matches in Go, and the class of that name catches in
Python. -/
theorem broke_classified_alike :
    (goClient.requestWithHeaders (goSide brokeScript brokeBody brokeDocument) "POST"
      "/v1/catalog" "" none "key" true []).result.Matches "INSUFFICIENT_AZEER_UNITS" ∧
    (pyClient.request (pySide brokeScript brokeBody brokeDocument) "POST"
      (Python.str "/v1/catalog") none [] (some (Python.str "key")) true []).result.IsCaught
        "InsufficientAzeerUnitsError" := by
  have hserver : SameServer goClient (goSide brokeScript brokeBody brokeDocument) pyClient
      (pySide brokeScript brokeBody brokeDocument) brokeScript := by
    refine sameServer_of_body (by decide) ?_
    intro k status header headers raw hstep
    exact Or.inr (Step.response.inj hstep).2.2.2.symm
  have hclassified := failures_classified_alike hserver "POST" "/v1/catalog" "" "key" none []
    "POST" (Python.str "/v1/catalog") [] none (some (Python.str "key")) [] true ⟨none, rfl⟩ rfl
    ⟨none, rfl⟩ rfl ?_
  · have hgo : (goClient.requestWithHeaders (goSide brokeScript brokeBody brokeDocument) "POST"
        "/v1/catalog" "" none "key" true []).result.Matches "INSUFFICIENT_AZEER_UNITS" :=
      ⟨_, rfl, by decide⟩
    exact ⟨hgo, (hclassified.1 ("ErrInsufficientAzeerUnits", "INSUFFICIENT_AZEER_UNITS")
      (by decide)).mp hgo⟩
  · intro k _ _ _
    have hanswer : (brokeScript k).answer (goSide brokeScript brokeBody brokeDocument).parse =
        .rejection 402 [(Text.ofString "error", .object brokeEnvelope)] := by
      rfl
    have hdone : ¬ Retried (goSide brokeScript brokeBody brokeDocument) true
        pyClient.maxAttempts k := by
      rintro ⟨-, -, hasks⟩
      have hnot : ((Step.toGo (.response 402 ∅ [] brokeBody)).reply
          (goSide brokeScript brokeBody brokeDocument).parse).asksRetry = false := by
        decide
      exact Bool.false_ne_true (hnot.symm.trans hasks)
    refine ⟨?_, fun h => absurd h hdone, fun h => absurd h hdone⟩
    rw [hanswer]
    refine Or.inl ⟨⟨_, rfl⟩, fun envelope henvelope => ?_⟩
    obtain rfl : brokeEnvelope = envelope := by
      simpa using Option.some.inj henvelope
    exact brokeEnvelope_tame _

end MizanSDK.Agreement
