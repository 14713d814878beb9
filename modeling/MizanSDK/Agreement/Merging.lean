import MizanSDK.Go.Merging
import MizanSDK.Python.Merging

/-!
# Explicit attribution over the caller's metadata

Both SDKs lay the arguments of a call over the metadata of its caller.  All other
fields should come through, and the caller's own metadata should stay as it is.

Main results:

- Theorem `merging_exact_iff`: Python does so, and Go does unless a charge without an
  FX rule comes with metadata that has one.
-/

namespace MizanSDK.Agreement

open Heap

/-- The metadata that is sent is the caller's with exactly the given arguments in the
place of its own, and the caller's is left alone: always in Python, and in Go if and
only if the call does not lay a missing FX rule over one in the metadata. -/
theorem merging_exact_iff (u : Go.MergingUsage) (records : List Go.UsageMetadata)
    (py : Python.BuilderInterpreter) (call : Python.MergingCall) (dicts : List Python.PyDict)
    (source : Option Ref) :
    (∀ r : Go.StoredRequest, (∀ p ∈ source, p < records.length) →
      (u.requestIn source records).1 = .ok r →
      (u.MergesExactly records source r ↔
        u.KeepsRule ((source.bind (records[·]?)).getD .zero))) ∧
    ∀ r : Python.StoredRequest, (∀ p ∈ source, p < dicts.length) →
      (call.buildIn py source dicts).1 = .ok r → call.MergesExactly py dicts source r := by
  constructor
  · intro r hsource h
    exact u.mergesExactly_iff hsource h
  · intro r hsource h
    exact call.mergesExactly hsource h

/-- A charge of one riyal, with this FX rule. -/
def riyalCharge (fxRule : String) : Go.OtherProviderChargeUsage where
  sourceEventID := "charge-1"
  occurredAt := ⟨false, "2026-08-04T00:00:00Z"⟩
  provider := "carrier"
  providerEventID := "event-1"
  providerAmountMinor := "100"
  providerInvoiceID := "invoice-1"
  originalAmountMinor := "100"
  originalCurrency := "SAR"
  tariffVersion := "tariff-1"
  fxRule := fxRule
  metadata := none

/-- Metadata with an FX rule. -/
def ruledMetadata : Go.UsageMetadata := { Go.UsageMetadata.zero with fxRule := "mid-rate" }

/-- A conversation reported in Python. -/
def conversationCall : Python.MergingCall :=
  .conversation24h (.str (Python.str "message-1")) (.str (Python.str "2026-08-04T00:00:00Z"))
    (.str (Python.str " conversation-1 ")) (.str (Python.str "whatsapp"))

/-- Metadata that names another conversation. -/
def campaignMetadata : Python.PyDict :=
  [(Python.str "campaign_id", .str (Python.str "campaign-1")),
    (Python.str "conversation_id", .str (Python.str "conversation-0"))]

theorem merging_exact_accepted :
    (∃ r, (Go.MergingUsage.otherProviderCharge (riyalCharge "spot")).MergesExactly
      [ruledMetadata] (some 0) r) ∧
    ∃ r, conversationCall.MergesExactly Python.asciiInterpreter [campaignMetadata] (some 0) r := by
  have hgo : ∃ r, ((Go.MergingUsage.otherProviderCharge (riyalCharge "spot")).requestIn (some 0)
      [ruledMetadata]).1 = .ok r := ⟨_, rfl⟩
  have hpython : ∃ r, (conversationCall.buildIn Python.asciiInterpreter (some 0)
      [campaignMetadata]).1 = .ok r := ⟨_, rfl⟩
  rcases hgo with ⟨r, hr⟩
  rcases hpython with ⟨s, hs⟩
  have hexact := merging_exact_iff (.otherProviderCharge (riyalCharge "spot")) [ruledMetadata]
    Python.asciiInterpreter conversationCall [campaignMetadata] (some 0)
  refine ⟨⟨r, (hexact.1 r (by simp) hr).mpr ?_⟩, s, ?_⟩
  · exact fun hblank => absurd hblank (by decide)
  · exact hexact.2 s (by simp) hs

/-- A charge without an FX rule erases the one in the metadata. -/
theorem rule_erased :
    ∃ r, ((Go.MergingUsage.otherProviderCharge (riyalCharge "")).requestIn (some 0)
        [ruledMetadata]).1 = .ok r ∧
      ¬ (Go.MergingUsage.otherProviderCharge (riyalCharge "")).MergesExactly [ruledMetadata]
        (some 0) r := by
  have haccepted : ∃ r, ((Go.MergingUsage.otherProviderCharge (riyalCharge "")).requestIn (some 0)
      [ruledMetadata]).1 = .ok r := ⟨_, rfl⟩
  rcases haccepted with ⟨r, hr⟩
  refine ⟨r, hr, ?_⟩
  rw [Go.MergingUsage.mergesExactly_iff _ (by simp) hr]
  intro hkeeps
  have hnone : ruledMetadata.fxRule = "" := hkeeps (by decide)
  revert hnone
  decide

end MizanSDK.Agreement
