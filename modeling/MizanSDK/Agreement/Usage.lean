import MizanSDK.Agreement.UsageReports
import MizanSDK.Go.Replay

/-!
# The same usage in both SDKs

Both SDKs report a usage that passes the checks both make and those of its own, and
report the same of it if they trim its texts alike.  Put together: the SDKs agree on
a usage unless their own checks tell them apart.

Main results:

- Theorem `Transmits.perform_sent_iff`: a metering call of Go reaches the network
  when its request is built.
- Theorem `usage_agrees_iff`: exactly when the two SDKs agree on a usage.
-/

namespace MizanSDK.Agreement

open JsonText Trim BoundedRetry

/-! ## Agreement -/

/-- A client that sends the requests of a usage: it is bound to no other business, and
the requests encode and can be built. -/
structure Transmits (c : Go.Client) (env : Go.Env) (businessID : String)
    (u : Go.FeatureUsage) : Prop where
  scope : c.scopeCheck env businessID = none
  encodes : ∀ request, u.request = .ok request →
    ∃ payload, env.marshal (.consumption request) = .ok payload
  builds : env.newRequest "POST"
    (c.baseURL ++ Go.businessPath businessID "consumptions") = none

/-- Such a client reaches the network with every request it is handed. -/
theorem Transmits.consume_sent {c : Go.Client} {env : Go.Env} {businessID : String}
    {u : Go.FeatureUsage} (h : Transmits c env businessID u)
    {request : Go.ConsumptionRequest} (hrequest : u.request = .ok request) (key : String) :
    (c.consume env businessID request key).attempts ≠ [] := by
  rcases h.encodes request hrequest with ⟨payload, hpayload⟩
  have hencode : env.encode (some (.consumption request)) = .ok (some payload) := by
    simp [Go.Env.encode, hpayload, Except.map]
  rcases c.requestWithHeaders_decided
    (rfl : c.newCall env "POST" (Go.businessPath businessID "consumptions") businessID
      (some payload) (if key = "" then Go.newID env.keySeed else key) true [] = _)
    hencode h.builds with ⟨j, r, hdec, hrun⟩
  have hle := hdec.le
  have hconsume : c.consume env businessID request key =
      c.requestWithHeaders env "POST" (Go.businessPath businessID "consumptions") businessID
        (some (.consumption request)) (if key = "" then Go.newID env.keySeed else key) true [] := by
    rw [Go.Client.consume, Go.Client.mutate, Go.Client.request, h.scope]
    rfl
  rw [hconsume, hrun]
  intro hnone
  have hlength := congrArg List.length hnone
  simp only [List.length_map, List.length_range', List.length_nil] at hlength
  omega

/-- A metering call reaches the network when its request is built. -/
theorem Transmits.perform_sent_iff {c : Go.Client} {env : Go.Env} {businessID : String}
    {u : Go.FeatureUsage} (h : Transmits c env businessID u) (key : String) :
    (u.perform c env businessID key).attempts ≠ [] ↔ ∃ request, u.request = .ok request := by
  rw [Go.FeatureUsage.perform_eq]
  cases hrequest : u.request with
  | error message => simp [Go.Client.consumeUsage, Go.reject]
  | ok request =>
      simp only [Except.ok.injEq, exists_eq', iff_true]
      exact h.consume_sent hrequest key

/-- Both SDKs report a usage, and report the same, or neither does. -/
structure Agrees (py : Python.BuilderInterpreter) (c : Go.Client) (env : Go.Env)
    (businessID key : String) (u : Go.FeatureUsage) : Prop where
  reported : (u.perform c env businessID key).attempts ≠ [] ↔
    ∃ d, (pythonCall u).build py = .ok d
  same : ∀ request d, u.request = .ok request → (pythonCall u).build py = .ok d →
    SameReport request d

/-- Once a usage passes the shared checks, the checks of one SDK alone come out as those
of the other, and the texts are the same if they pass. -/
def Usage.Accords (py : Python.BuilderInterpreter) (u : Usage) : Prop :=
  u.Shared → (u.GoOnly ↔ u.PythonOnly py) ∧ (u.GoOnly → u.SameTexts)

/-- The SDKs agree on a usage exactly when, once it passes the shared checks, their own
checks come out alike and the texts they report are the same. -/
theorem usage_agrees_iff {py : Python.BuilderInterpreter} {u : Go.FeatureUsage}
    (h : (Usage.ofFeature u).Expressible py) {c : Go.Client} {env : Go.Env}
    {businessID : String} (hclient : Transmits c env businessID u) (key : String) :
    Agrees py c env businessID key u ↔ (Usage.ofFeature u).Accords py := by
  have hgo := go_reports_iff h
  have hpython := python_reports_iff h
  have hsame := @sameReport_iff py _ h
  rw [Usage.request_ofFeature] at hgo hsame
  simp only [Usage.build_ofFeature] at hpython hsame
  constructor
  · rintro ⟨hreported, hreports⟩ hshared
    rw [hclient.perform_sent_iff, hgo, hpython, and_congr_right_iff] at hreported
    refine ⟨hreported hshared, fun honly => ?_⟩
    rcases hgo.mpr ⟨hshared, honly⟩ with ⟨request, hrequest⟩
    rcases hpython.mpr ⟨hshared, (hreported hshared).mp honly⟩ with ⟨d, hd⟩
    exact (hsame hrequest hd).mp (hreports request d hrequest hd)
  · intro haccords
    constructor
    · rw [hclient.perform_sent_iff, hgo, hpython]
      exact and_congr_right fun hshared => (haccords hshared).1
    · intro request d hrequest hd
      rcases hgo.mp ⟨request, hrequest⟩ with ⟨hshared, honly⟩
      exact (hsame hrequest hd).mpr ((haccords hshared).2 honly)

section Example

/-- A conversation on a channel. -/
def chatUsage : Go.FeatureUsage :=
  .conversation24H
    ⟨"conversation-event-1", ⟨false, "2026-08-04T00:00:00Z"⟩, " chat-7 ", "whatsapp", none⟩

/-- A charge in riyals by a provider whose name has a character too many. -/
def longProviderUsage : Go.FeatureUsage :=
  .otherProviderCharge { carrierUsage "337" "sar" "" with provider := letters 513 }

theorem asciiMetadata_zero : AsciiMetadata .zero := by
  have hfields : ∀ field ∈ Go.UsageMetadata.zero.boundedFields, Ascii field.2 :=
    List.all_iff_forall_prop.mp (by decide)
  exact ⟨hfields, nofun, nofun, nofun⟩

theorem chatUsage_expressible :
    (Usage.ofFeature chatUsage).Expressible Python.asciiInterpreter := by
  have hstrings : ∀ s ∈ (Usage.ofFeature chatUsage).strings, Ascii s :=
    List.all_iff_forall_prop.mp (by decide)
  exact ⟨hstrings, asciiMetadata_zero, rfl⟩

theorem transmits_unanswered (u : Go.FeatureUsage) :
    Transmits Go.opsAdmin.client Go.unansweredEnv "shop" u :=
  ⟨rfl, fun _ _ => ⟨[], rfl⟩, rfl⟩

/-- The SDKs agree on a conversation. -/
theorem chatUsage_agrees :
    Agrees Python.asciiInterpreter Go.opsAdmin.client Go.unansweredEnv "shop" "key-1"
      chatUsage := by
  have hgo : (Usage.ofFeature chatUsage).GoOnly := ⟨rfl, by decide, nofun⟩
  have hpython : (Usage.ofFeature chatUsage).PythonOnly Python.asciiInterpreter :=
    ⟨trivial, rfl, by decide, nofun⟩
  have halike : TrimmedAlike " chat-7 " := by rfl
  have hsame : (Usage.ofFeature chatUsage).SameTexts :=
    ⟨List.forall_mem_singleton.mpr halike, trivial⟩
  exact (usage_agrees_iff chatUsage_expressible (transmits_unanswered chatUsage) "key-1").mpr
    fun _ => ⟨iff_of_true hgo hpython, fun _ => hsame⟩

theorem strip_letters_ne {n : ℕ} (h : 0 < n) : Python.strip (Python.str (letters n)) ≠ [] := by
  intro hnil
  rw [strip_str, points, List.map_eq_nil_iff, trim_eq_nil_iff] at hnil
  have hmem : 'x' ∈ (letters n).toList := by
    rw [letters, String.toList_ofList]
    exact List.mem_replicate.mpr ⟨h.ne', rfl⟩
  exact absurd (hnil 'x' hmem) (by decide)

theorem longProviderUsage_expressible :
    (Usage.ofFeature longProviderUsage).Expressible Python.asciiInterpreter := by
  have hletters : Ascii (letters 513) := by
    intro c hc
    rw [eq_of_mem_letters hc]
    decide
  have hothers : ∀ s ∈ ["provider-event-1", "337", "INV-1", "337", "sar", "carrier-v1", ""],
      Ascii s :=
    List.all_iff_forall_prop.mp (by decide)
  have hid : Ascii "provider-fee-1" := by decide
  exact ⟨List.forall_mem_cons.mpr ⟨hid, List.forall_mem_cons.mpr ⟨hletters, hothers⟩⟩,
    asciiMetadata_zero, rfl⟩

/-- Python reports the charge of that provider, which Go refuses. -/
theorem longProviderUsage_disagrees :
    (Usage.ofFeature longProviderUsage).Expressible Python.asciiInterpreter ∧
      Transmits Go.opsAdmin.client Go.unansweredEnv "shop" longProviderUsage ∧
      ¬ Agrees Python.asciiInterpreter Go.opsAdmin.client Go.unansweredEnv "shop" "key-1"
        longProviderUsage := by
  have hexpressible := longProviderUsage_expressible
  have htransmits := transmits_unanswered longProviderUsage
  have hamount : GoAmount "337" := ⟨by decide, by decide⟩
  have hsettles : Settles (trim pySpace "sar".toList) ("337" = "337") (Go.trimSpace "" ≠ "") :=
    ⟨by decide, .inl ⟨by decide, rfl⟩⟩
  have hmetadata : Go.UsageMetadata.zero.Valid := (validateMetadata_iff none).mp rfl
  have hprovider := strip_letters_ne (n := 513) (by decide)
  have hshared : (Usage.ofFeature longProviderUsage).Shared := by
    refine ⟨by decide, ⟨hamount, hamount, hsettles⟩, hmetadata, ?_, by decide⟩
    refine List.forall_mem_cons.mpr ⟨trimSpace_ne_of_strip hprovider, ?_⟩
    change ∀ s ∈ ["provider-event-1", "INV-1", "carrier-v1"], Go.trimSpace s ≠ ""
    decide
  have hpython : (Usage.ofFeature longProviderUsage).PythonOnly Python.asciiInterpreter := by
    refine ⟨⟨rfl, rfl⟩, rfl, ?_, by decide⟩
    refine List.forall_mem_cons.mpr ⟨hprovider, ?_⟩
    change ∀ s ∈ ["provider-event-1", "INV-1", "carrier-v1"], Python.strip (Python.str s) ≠ []
    decide
  refine ⟨hexpressible, htransmits, fun hagrees => ?_⟩
  have hbuilds := (python_reports_iff hexpressible).mpr ⟨hshared, hpython⟩
  rw [Usage.build_ofFeature] at hbuilds
  have hsent := (htransmits.perform_sent_iff "key-1").mp (hagrees.reported.mpr hbuilds)
  rw [← Usage.request_ofFeature] at hsent
  have hbounded := ((go_reports_iff hexpressible).mp hsent).2.bounded (letters 513)
    List.mem_cons_self
  rw [trimSpace_letters, utf8ByteSize_letters] at hbounded
  omega

end Example

end MizanSDK.Agreement
