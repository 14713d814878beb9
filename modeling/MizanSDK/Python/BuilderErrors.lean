import MizanSDK.Python.Builders

/-!
# The exceptions of the usage builders

What a builder refuses it refuses with a `ValueError`.  The type of an actor is
looked up in a set, which raises a `TypeError` when it has no hash.

Main results:

- Theorem `UsageCall.build_exception`: every exception of a builder is a `ValueError`
  or that `TypeError`.
- Theorem `UsageCall.not_raises_iff`: the calls that only ever raise a `ValueError`.
-/

namespace MizanSDK.Python

open JsonText Checks Decimal

/-! ## Exceptions -/

section Exceptions

variable {py : BuilderInterpreter}

/-- A demand is refused with a `ValueError`. -/
theorem failsOnly_refuse (condition : Bool) (message : String) :
    FailsOnly PyError.IsValueError (require condition (refuse message)) :=
  failsOnly_require (refuse_isValueError message) condition

/-- `int` fails with one. -/
theorem Interpreter.int_failsOnly (py : Interpreter) (s : PyStr) :
    FailsOnly PyError.IsValueError (py.int s) :=
  fun _ h => Interpreter.int_error h

/-- So does `str`. -/
theorem BuilderInterpreter.str_failsOnly (v : PyValue) :
    FailsOnly PyError.IsValueError (py.str v) := by
  cases v with
  | int n =>
      rw [Interpreter.str]
      split
      · exact failsOnly_ok _
      · exact failsOnly_error ⟨_, rfl⟩
  | none | bool | str => exact failsOnly_ok _
  | float | list | dict => exact py.repr_error _

/-- An event is refused with a `ValueError`. -/
theorem checkEvent_failsOnly (s o : PyValue) :
    FailsOnly PyError.IsValueError (checkEvent py s o) :=
  (failsOnly_refuse _ _).bind fun _ _ => (failsOnly_refuse _ _).bind fun _ _ =>
    failsOnly_refuse _ _

/-- So is an amount. -/
theorem checkInteger_failsOnly (v : PyValue) (field : String) (allowZero : Bool) :
    FailsOnly PyError.IsValueError (checkInteger py v field allowZero) :=
  (failsOnly_refuse _ _).bind fun _ _ => (py.int_failsOnly _).bind fun _ _ =>
    failsOnly_refuse _ _

/-- So is a count. -/
theorem checkCount_failsOnly (wholeCount : Bool) (q : PyValue) :
    FailsOnly PyError.IsValueError (checkCount py wholeCount q) := by
  unfold checkCount
  split
  · exact (failsOnly_refuse _ _).bind fun _ _ => (py.int_failsOnly _).bind fun _ _ =>
      failsOnly_refuse _ _
  · unfold checkQuantity
    split
    · exact failsOnly_error (refuse_isValueError _)
    · exact (py.int_failsOnly _).bind fun _ _ => (py.int_failsOnly _).bind fun _ _ =>
        failsOnly_refuse _ _

theorem checkChannel_failsOnly (v : Option PyValue) :
    FailsOnly PyError.IsValueError (checkChannel py v) := by
  unfold checkChannel
  split
  · exact failsOnly_ok _
  · exact failsOnly_ok _
  · exact (BuilderInterpreter.str_failsOnly _).bind fun _ _ => failsOnly_refuse _ _

theorem checkField_failsOnly (field : String) (v : Option PyValue) :
    FailsOnly PyError.IsValueError (checkField field v) := by
  unfold checkField
  split
  · exact failsOnly_ok _
  · exact failsOnly_ok _
  · exact failsOnly_refuse _ _

theorem checkOriginalAmount_failsOnly (v : Option PyValue) :
    FailsOnly PyError.IsValueError (checkOriginalAmount py v) := by
  unfold checkOriginalAmount
  split
  · exact failsOnly_ok _
  · exact failsOnly_ok _
  · exact (BuilderInterpreter.str_failsOnly _).bind fun _ _ => checkInteger_failsOnly _ _ _

theorem checkAttribute_failsOnly (key : PyStr) (value : PyValue) :
    FailsOnly PyError.IsValueError (checkAttribute py key value) := by
  unfold checkAttribute
  split
  · exact failsOnly_refuse _ _
  · exact (failsOnly_refuse _ _).bind fun _ _ =>
      (BuilderInterpreter.str_failsOnly _).bind fun _ _ =>
        (failsOnly_refuse _ _).bind fun _ _ => failsOnly_refuse _ _

theorem asDict_failsOnly (v : Option PyValue) (message : String) :
    FailsOnly PyError.IsValueError (asDict v (refuse message)) := by
  intro e he
  exact asDict_eq_error _ _ _ he ▸ refuse_isValueError message

theorem checkAttributes_failsOnly (v : Option PyValue) :
    FailsOnly PyError.IsValueError (checkAttributes py v) := by
  unfold checkAttributes
  split
  · exact failsOnly_ok _
  · exact (asDict_failsOnly _ _).bind fun _ _ => (failsOnly_refuse _ _).bind fun _ _ =>
      failsOnly_forM fun item _ => checkAttribute_failsOnly item.1 item.2

theorem requiredMetadataString_failsOnly (v : PyValue) (field : String) :
    FailsOnly PyError.IsValueError (requiredMetadataString v field) :=
  (failsOnly_refuse _ _).bind fun _ _ => failsOnly_ok _

/-- An actor whose type is a list or a dictionary. -/
def ActorRaises (v : Option PyValue) : Prop :=
  ∃ actor, v = some (.dict actor) ∧
    (actor.all fun entry => entry.1 == str "type" || entry.1 == str "id") = true ∧
    Unhashable (PyDict.get actor "type")

/-- How the check of an actor fails. -/
theorem checkActor_failsOnly (v : Option PyValue) :
    FailsOnly (fun e => e.IsValueError ∨ e = .typeError ∧ ActorRaises v) (checkActor v) := by
  unfold checkActor
  split
  · exact failsOnly_ok _
  · exact failsOnly_ok _
  · intro e he
    simp only [bind_eq_error_iff, require_eq_error_iff, isIn_eq_error_iff, asDict_eq_ok_iff,
      require_eq_ok_iff, Option.some.injEq] at he
    rcases he with he | ⟨actor, rfl, ⟨-, rfl⟩ | ⟨-, hkeys, ⟨htype, rfl⟩ |
      ⟨type, -, ⟨-, rfl⟩ | ⟨-, -, -, rfl⟩⟩⟩⟩
    · exact .inl (asDict_eq_error _ _ _ he ▸ refuse_isValueError _)
    · exact .inl (refuse_isValueError _)
    · exact .inr ⟨rfl, actor, rfl, hkeys, htype⟩
    · exact .inl (refuse_isValueError _)
    · exact .inl (refuse_isValueError _)

/-- Such an actor makes its check raise a `TypeError`. -/
theorem ActorRaises.checkActor_eq {v : Option PyValue} (h : ActorRaises v) :
    checkActor v = .error .typeError := by
  rcases h with ⟨actor, rfl, hkeys, htype⟩
  have hin := (isIn_eq_error_iff _ ["user", "system", "campaign"] _).mpr ⟨htype, rfl⟩
  simp [checkActor, asDict, bind, Except.bind, hkeys, require, hin]

/-- Metadata that makes validation itself raise a `TypeError`: its keys are known,
its channel is supported, and the type of its actor has no hash. -/
structure MetadataRaises (py : BuilderInterpreter) (metadata : Option PyDict) : Prop where
  given : metadata.isSome = true
  keys : ∀ entry ∈ metadata.getD [], ∃ key ∈ metadataKeys, entry.1 = str key
  channel : checkChannel py ((metadata.getD []).get "channel") = .ok ()
  actor : ActorRaises ((metadata.getD []).get "actor")

/-- How the validation of metadata fails. -/
theorem validateMetadata_failsOnly (metadata : Option PyDict) :
    FailsOnly (fun e => e.IsValueError ∨ e = .typeError ∧ MetadataRaises py metadata)
      (validateMetadata py metadata) := by
  cases metadata with
  | none => exact failsOnly_ok _
  | some metadata =>
      have hvalue : ∀ {x : Except PyError Unit}, FailsOnly PyError.IsValueError x →
          FailsOnly (fun e => e.IsValueError ∨
            e = .typeError ∧ MetadataRaises py (some metadata)) x :=
        fun hx e he => .inl (hx e he)
      refine (hvalue (failsOnly_refuse _ _)).bind fun _ hkeys => ?_
      refine (hvalue (checkChannel_failsOnly _)).bind fun _ hchannel => ?_
      refine FailsOnly.bind ?_ fun _ _ => ?_
      · intro e he
        refine (checkActor_failsOnly _ e he).imp_right fun hraises => ⟨hraises.1, rfl, ?_, ?_, ?_⟩
        · exact (known_iff metadata).mp ((require_eq_ok_iff _ _ _).mp hkeys)
        · exact hchannel
        · exact hraises.2
      · refine (hvalue (failsOnly_forM fun field _ => checkField_failsOnly field _)).bind
          fun _ _ => ?_
        exact (hvalue (checkOriginalAmount_failsOnly _)).bind fun _ _ =>
          hvalue (checkAttributes_failsOnly _)

/-- Such metadata does make validation raise a `TypeError`. -/
theorem MetadataRaises.validateMetadata_eq {metadata : Option PyDict}
    (h : MetadataRaises py metadata) : validateMetadata py metadata = .error .typeError := by
  cases metadata with
  | none => exact absurd h.given (by simp)
  | some metadata =>
      have hkeys := (known_iff metadata).mpr h.keys
      have hchannel : checkChannel py (PyDict.get metadata "channel") = .ok () := h.channel
      have hactor : checkActor (PyDict.get metadata "actor") = .error .typeError :=
        h.actor.checkActor_eq
      simp [validateMetadata, hkeys, require, bind, Except.bind, hchannel, hactor]

/-- The metadata of a call. -/
def UsageCall.metadata : UsageCall → Option PyDict
  | .conversation24h _ _ _ _ metadata | .outboundDeliveredMessage _ _ _ metadata
  | .aiAssistActionOverAllowance _ _ _ metadata | .aiReplyHandling _ _ _ metadata
  | .voiceAiStartedMinute _ _ _ metadata | .whatsappMetaMarketingMessage _ _ _ _ metadata
  | .telephonyVoiceMinute _ _ _ _ _ metadata | .inboundVoiceMinute _ _ _ _ _ metadata =>
      metadata
  | .otherProviderCharge charge => charge.metadata

/-- What a builder checks before the metadata of its caller. -/
def UsageCall.checksFirst (py : BuilderInterpreter) : UsageCall → Except PyError Unit
  | .conversation24h _ _ _ _ _ | .whatsappMetaMarketingMessage _ _ _ _ _
  | .telephonyVoiceMinute _ _ _ _ _ _ | .inboundVoiceMinute _ _ _ _ _ _ => .ok ()
  | .outboundDeliveredMessage s o q _ | .aiAssistActionOverAllowance s o q _
  | .aiReplyHandling s o q _ => do
      checkEvent py s o
      checkCount py true q
  | .voiceAiStartedMinute s o d _ => do
      checkEvent py s o
      checkInteger py d "duration_seconds" false
  | .otherProviderCharge charge => (checkCharge py charge).map fun _ => ()

/-- A call whose builder gets to metadata that makes it raise a `TypeError`. -/
structure UsageCall.Raises (u : UsageCall) (py : BuilderInterpreter) : Prop where
  first : u.checksFirst py = .ok ()
  metadata : MetadataRaises py u.metadata

/-- An exception of a builder. -/
def UsageCall.Exception (u : UsageCall) (py : BuilderInterpreter) (e : PyError) : Prop :=
  e.IsValueError ∨ e = .typeError ∧ u.Raises py

theorem UsageCall.exception_of_value {α : Type} {x : Except PyError α} (u : UsageCall)
    (h : FailsOnly PyError.IsValueError x) : FailsOnly (u.Exception py) x :=
  fun e he => .inl (h e he)

/-- Validation of the caller's metadata, after the checks before it have passed. -/
theorem UsageCall.validate_exception {u : UsageCall} (hfirst : u.checksFirst py = .ok ()) :
    FailsOnly (u.Exception py) (validateMetadata py u.metadata) :=
  fun e he => (validateMetadata_failsOnly u.metadata e he).imp_right fun hraises =>
    ⟨hraises.1, hfirst, hraises.2⟩

/-- Metadata with the actor of metadata that passed makes no validation raise a
`TypeError`. -/
theorem validateMetadata_merged {metadata : Option PyDict} {merged : PyDict}
    (h : validateMetadata py metadata = .ok ())
    (hactor : merged.get "actor" = (metadata.getD []).get "actor") :
    FailsOnly PyError.IsValueError (validateMetadata py (some merged)) := by
  intro e he
  rcases validateMetadata_failsOnly _ e he with hvalue | ⟨-, hraises⟩
  · exact hvalue
  · have hpasses := (withinContract_getD h).members "actor" (by decide)
    have hfails : checkActor (merged.get "actor") = .error .typeError :=
      hraises.actor.checkActor_eq
    rw [← hactor] at hpasses
    exact absurd (hpasses.symm.trans hfails) (by simp)

/-- A usage fails as its metadata do. -/
theorem countUsage_failsOnly {metadata : Option PyDict}
    (h : FailsOnly PyError.IsValueError (validateMetadata py metadata)) (wholeCount : Bool)
    (featureCode : String) (s o q : PyValue) :
    FailsOnly PyError.IsValueError (countUsage py wholeCount featureCode s o q metadata) :=
  (checkEvent_failsOnly s o).bind fun _ _ => (checkCount_failsOnly wholeCount q).bind fun _ _ =>
    h.bind fun _ _ => failsOnly_ok _

/-- A charge is refused with a `ValueError`. -/
theorem checkCharge_failsOnly (charge : OtherProviderCharge) :
    FailsOnly PyError.IsValueError (checkCharge py charge) :=
  (checkEvent_failsOnly _ _).bind fun _ _ => (checkInteger_failsOnly _ _ _).bind fun _ _ =>
    (checkInteger_failsOnly _ _ _).bind fun _ _ =>
      (requiredMetadataString_failsOnly _ _).bind fun _ _ =>
        (failsOnly_refuse _ _).bind fun _ _ => (failsOnly_refuse _ _).bind fun _ _ =>
          (failsOnly_refuse _ _).bind fun _ _ => failsOnly_ok _

/-- So is its evidence. -/
theorem passThroughEvidence_failsOnly (charge : OtherProviderCharge) (currency : PyStr)
    (metadata : PyDict) :
    FailsOnly PyError.IsValueError (passThroughEvidence charge currency metadata) := by
  refine (requiredMetadataString_failsOnly _ _).bind fun _ _ =>
    (requiredMetadataString_failsOnly _ _).bind fun _ _ => ?_
  split
  · exact failsOnly_ok _
  · exact (requiredMetadataString_failsOnly _ _).bind fun _ _ => failsOnly_ok _

/-- The attribution of a provider-priced call, after the checks before the metadata
have passed. -/
theorem UsageCall.attribution_exception {u : UsageCall} (hfirst : u.checksFirst py = .ok ())
    (provider providerEventId : PyValue) :
    FailsOnly (u.Exception py)
      (providerMetadata py provider providerEventId u.metadata) :=
  (UsageCall.validate_exception hfirst).bind fun _ _ =>
    (u.exception_of_value (failsOnly_refuse _ _)).bind fun _ _ =>
      (u.exception_of_value (failsOnly_refuse _ _)).bind fun _ _ => failsOnly_ok _

/-- A provider-priced quantity reports metadata with the actor of its caller. -/
theorem UsageCall.provider_exception {u : UsageCall} (hfirst : u.checksFirst py = .ok ())
    (wholeCount : Bool) (featureCode : String) (s o provider providerEventId q : PyValue) :
    FailsOnly (u.Exception py)
      (providerUsage py wholeCount featureCode s o provider providerEventId q u.metadata) := by
  refine (UsageCall.attribution_exception hfirst _ _).bind fun metadata hmetadata => ?_
  rcases (providerMetadata_eq_ok_iff _ _ _ metadata).mp hmetadata with ⟨hcaller, -, -, rfl⟩
  have hactor : ((u.metadata.getD []).setAttribution (strip provider.text)
      (strip providerEventId.text)).get "actor" = (u.metadata.getD []).get "actor" := by
    simp [PyDict.setAttribution]
  exact u.exception_of_value
    (countUsage_failsOnly (validateMetadata_merged hcaller hactor) _ _ _ _ _)

/-- A plain count raises what its metadata makes it raise. -/
theorem UsageCall.count_exception {u : UsageCall} {s o q : PyValue}
    (hfirst : u.checksFirst py = (do checkEvent py s o; checkCount py true q))
    (featureCode : String) :
    FailsOnly (u.Exception py) (countUsage py true featureCode s o q u.metadata) :=
  (u.exception_of_value (checkEvent_failsOnly s o)).bind fun _ hevent =>
    (u.exception_of_value (checkCount_failsOnly true q)).bind fun _ hcount =>
      have hpassed : u.checksFirst py = .ok () := by
        rw [hfirst, hevent]
        exact hcount
      (UsageCall.validate_exception hpassed).bind fun _ _ => failsOnly_ok _

/-- A builder raises a `ValueError`, or a `TypeError` for an actor whose type has no
hash. -/
theorem UsageCall.build_exception (u : UsageCall) : FailsOnly (u.Exception py) (u.build py) := by
  cases u with
  | conversation24h s o c ch m =>
      refine FailsOnly.bind
        (UsageCall.validate_exception (u := .conversation24h s o c ch m) rfl) fun _ hcaller => ?_
      refine UsageCall.exception_of_value _ ?_
      refine (BuilderInterpreter.str_failsOnly _).bind fun channel _ => ?_
      refine (failsOnly_refuse _ _).bind fun _ _ => ?_
      refine (requiredMetadataString_failsOnly _ _).bind fun conversation _ => ?_
      have hactor : (((m.getD []).set "conversation_id" (.str conversation)).set "channel"
          (.str channel)).get "actor" = (m.getD []).get "actor" := by
        simp
      exact countUsage_failsOnly (validateMetadata_merged hcaller hactor) _ _ _ _ _
  | outboundDeliveredMessage s o q m =>
      exact UsageCall.count_exception (u := .outboundDeliveredMessage s o q m) rfl _
  | aiAssistActionOverAllowance s o q m =>
      exact UsageCall.count_exception (u := .aiAssistActionOverAllowance s o q m) rfl _
  | aiReplyHandling s o q m =>
      exact UsageCall.count_exception (u := .aiReplyHandling s o q m) rfl _
  | voiceAiStartedMinute s o d m =>
      refine FailsOnly.bind (UsageCall.exception_of_value _ (checkEvent_failsOnly s o))
        fun _ hevent => ?_
      refine FailsOnly.bind (UsageCall.exception_of_value _ (checkInteger_failsOnly _ _ _))
        fun _ hduration => ?_
      have hfirst : (UsageCall.voiceAiStartedMinute s o d m).checksFirst py = .ok () := by
        rw [checksFirst, hevent]
        exact hduration
      exact (UsageCall.validate_exception hfirst).bind fun _ _ => failsOnly_ok _
  | whatsappMetaMarketingMessage s o e q m =>
      exact UsageCall.provider_exception (u := .whatsappMetaMarketingMessage s o e q m) rfl
        _ _ _ _ _ _ _
  | telephonyVoiceMinute s o p e b m =>
      exact UsageCall.provider_exception (u := .telephonyVoiceMinute s o p e b m) rfl
        _ _ _ _ _ _ _
  | inboundVoiceMinute s o p e b m =>
      exact UsageCall.provider_exception (u := .inboundVoiceMinute s o p e b m) rfl
        _ _ _ _ _ _ _
  | otherProviderCharge charge =>
      refine FailsOnly.bind (UsageCall.exception_of_value _ (checkCharge_failsOnly charge))
        fun currency hcharge => ?_
      have hfirst : (UsageCall.otherProviderCharge charge).checksFirst py = .ok () := by
        rw [checksFirst, hcharge]
        rfl
      exact (UsageCall.attribution_exception hfirst _ _).bind fun metadata _ =>
        (UsageCall.exception_of_value _ (passThroughEvidence_failsOnly _ _ _)).bind
          fun _ _ => failsOnly_ok _

/-- An exception of the validation is one of the count that makes it. -/
theorem countUsage_eq_error {featureCode : String} {s o q : PyValue} {metadata : Option PyDict}
    {e : PyError} (hfirst : (do checkEvent py s o; checkCount py true q) = .ok ())
    (h : validateMetadata py metadata = .error e) :
    countUsage py true featureCode s o q metadata = .error e := by
  rcases (bind_eq_ok_iff _ _ _).mp hfirst with ⟨_, hevent, hcount⟩
  simp [countUsage, hevent, hcount, h, bind, Except.bind]

/-- An exception of the validation is one of the attribution. -/
theorem providerMetadata_eq_error {metadata : Option PyDict} {e : PyError}
    (h : validateMetadata py metadata = .error e) (provider providerEventId : PyValue) :
    providerMetadata py provider providerEventId metadata = .error e := by
  simp [providerMetadata, h, bind, Except.bind]

/-- The builder of such a call does raise a `TypeError`. -/
theorem UsageCall.Raises.build_eq {u : UsageCall} (h : u.Raises py) :
    u.build py = .error .typeError := by
  have hvalidate := h.metadata.validateMetadata_eq
  have hfirst := h.first
  cases u with
  | conversation24h =>
      exact (bind_eq_error_iff _ _ _).mpr (.inl hvalidate)
  | outboundDeliveredMessage | aiAssistActionOverAllowance | aiReplyHandling =>
      exact countUsage_eq_error hfirst hvalidate
  | voiceAiStartedMinute s o d m =>
      rcases (bind_eq_ok_iff _ _ _).mp hfirst with ⟨_, hevent, hduration⟩
      have hvalidate : validateMetadata py m = .error .typeError := hvalidate
      simp [build, MizanSDK.Python.voiceAiStartedMinute, hevent, hduration, hvalidate, bind,
        Except.bind]
  | whatsappMetaMarketingMessage | telephonyVoiceMinute | inboundVoiceMinute =>
      exact (bind_eq_error_iff _ _ _).mpr (.inl (providerMetadata_eq_error hvalidate _ _))
  | otherProviderCharge charge =>
      cases hcharge : checkCharge py charge with
      | error e =>
          rw [checksFirst, hcharge] at hfirst
          cases hfirst
      | ok currency =>
          exact (bind_eq_error_iff _ _ _).mpr (.inr ⟨currency, hcharge,
            (bind_eq_error_iff _ _ _).mpr (.inl (providerMetadata_eq_error hvalidate _ _))⟩)

/-- A builder raises what is no `ValueError` only for an actor whose type has no
hash. -/
theorem UsageCall.not_raises_iff (u : UsageCall) :
    ¬ u.Raises py ↔ FailsOnly PyError.IsValueError (u.build py) := by
  constructor
  · intro h e he
    exact (u.build_exception e he).resolve_right fun hraises => h hraises.2
  · intro h hraises
    exact (h _ hraises.build_eq).ne_typeError rfl

end Exceptions

end MizanSDK.Python
