import JwSwarm.Proto.Rewriting
import JwSwarm.Proto.RoundTrip

namespace JwSwarm.Proto

open FleetManager.Wire

/-! What a node of any kind writes is read by the Fleet Manager. -/

theorem rewritten_u64 (value : UInt64) :
    Rewritten (Codec.u64.encode value) (.number (.posInt value)) := by
  have same : Codec.u64.encode value = .number (.posInt value) :=
    congrArg (Json.number ∘ Number.posInt) UInt64.ofNat_toNat
  rw [same]
  exact .number _

theorem rewritten_u32 (value : UInt32) :
    Rewritten (Codec.u32.encode value) (.number (.posInt value.toUInt64)) := by
  have same : Codec.u32.encode value = .number (.posInt value.toUInt64) :=
    congrArg (Json.number ∘ Number.posInt) (UInt64.ofNat_uInt32ToNat value)
  rw [same]
  exact .number _

theorem rewritten_u8 (value : UInt8) :
    Rewritten (Codec.u8.encode value) (.number (.posInt value.toUInt64)) := by
  have same : Codec.u8.encode value = .number (.posInt value.toUInt64) :=
    congrArg (Json.number ∘ Number.posInt) (UInt64.ofNat_uInt8ToNat value)
  rw [same]
  exact .number _

theorem rewritten_texts (values : List String) :
    Rewritten ((Codec.list .text).encode values)
      (.array (values.map .string)) :=
  .array (rewrittenItems_map .string values)

private theorem gpuInfo_lenient : gpuInfo.Lenient 1 :=
  Record.Lenient.record (.field Codec.lenient_unitEnum
    (.field Codec.lenient_text (.field Codec.lenient_unsigned
      Record.lenient_empty)))

private theorem ownerLimits_lenient : ownerLimits.Lenient 1 :=
  Record.Lenient.record (.field Codec.lenient_unsigned
    (.field Codec.lenient_unsigned Record.lenient_empty))

private theorem metrics_lenient : metrics.Lenient 1 :=
  Record.Lenient.record (.field Codec.lenient_unsigned
    (.field Codec.lenient_unsigned (.field Codec.lenient_float
      (.field Codec.lenient_float (.field Codec.lenient_float
        (.field Codec.lenient_unsigned Record.lenient_empty))))))

private theorem catalogModel_lenient : catalogModel.Lenient 1 :=
  Record.Lenient.record (.field Codec.lenient_text
    (.field Codec.lenient_text (.field Codec.lenient_text
      (.field Codec.lenient_text (.field Codec.lenient_unsigned
        (.field Codec.lenient_unsigned (.field Codec.lenient_float
          (.field Codec.lenient_unitEnum Record.lenient_empty))))))))

private theorem usage_lenient : usage.Lenient 1 :=
  Record.Lenient.record (.field Codec.lenient_unsigned
    (.field Codec.lenient_unsigned
      (.field Codec.lenient_unsigned Record.lenient_empty)))

private theorem register_lenient : register.Lenient 2 :=
  Record.Lenient.record (.field Codec.lenient_text
    (.field Codec.lenient_text (.field Codec.lenient_unitEnum
      (.field gpuInfo_lenient (.field ownerLimits_lenient
        (.field Codec.lenient_text.list Record.lenient_empty))))))

private theorem catalogResponse_lenient : catalogResponse.Lenient 3 :=
  Record.Lenient.record (.field catalogModel_lenient.list Record.lenient_empty)

private theorem heartbeat_lenient : heartbeat.Lenient 2 :=
  Record.Lenient.record (.field Codec.lenient_text (.field metrics_lenient
    (.field Codec.lenient_unitEnum Record.lenient_empty)))

private theorem modelStatus_lenient : modelStatus.Lenient 2 :=
  Record.Lenient.record (.field Codec.lenient_text
    (.field Codec.lenient_text.list Record.lenient_empty))

private theorem scheduleState_lenient : scheduleState.Lenient 1 :=
  Record.Lenient.record (.field Codec.lenient_text
    (.field Codec.lenient_unitEnum Record.lenient_empty))

private theorem tokenChunk_lenient : tokenChunk.Lenient 1 :=
  Record.Lenient.record (.field Codec.lenient_text
    (.field Codec.lenient_text
      (.field Codec.lenient_unsigned Record.lenient_empty)))

private theorem done_lenient : done.Lenient 2 :=
  Record.Lenient.record (.field Codec.lenient_text
    (.field usage_lenient Record.lenient_empty))

private theorem protoError_lenient : protoError.Lenient 1 :=
  Record.Lenient.record (.field Codec.lenient_text
    (.field Codec.lenient_text Record.lenient_empty))

/-- A dispatch carries a document of its client's, which is not rewritten. -/
def Typed : Message → Prop
  | .promptDispatch _ => False
  | _ => True

/-- The Fleet Manager reads a message from every document that is written in
the place of its own. -/
theorem fromDocument_rewritten {message : Message} {document : Json}
    (typed : Typed message)
    (rewritten : Rewritten (toDocument message) document) :
    fromDocument document = some message := by
  have apart : "type" ≠ "payload" := by decide
  cases message with
  | register =>
      exact register_lenient.decodeTagged apart (by decide) rfl rewritten
  | catalogRequest =>
      rw [rewritten_tagged_unit rewritten]
      rfl
  | heartbeat =>
      exact heartbeat_lenient.decodeTagged apart (by decide) rfl rewritten
  | modelStatus =>
      exact modelStatus_lenient.decodeTagged apart (by decide) rfl rewritten
  | scheduleState =>
      exact scheduleState_lenient.decodeTagged apart (by decide) rfl rewritten
  | tokenChunk =>
      exact tokenChunk_lenient.decodeTagged apart (by decide) rfl rewritten
  | done => exact done_lenient.decodeTagged apart (by decide) rfl rewritten
  | error =>
      exact protoError_lenient.decodeTagged apart (by decide) rfl rewritten
  | catalogResponse =>
      exact catalogResponse_lenient.decodeTagged apart (by decide) rfl rewritten
  | promptDispatch => exact typed.elim

def idleHeartbeat : Message :=
  .heartbeat
    { nodeId := "n"
      metrics :=
        { vramUsedMb := 1024
          vramTotalMb := 24576
          gpuUtilPct := 37
          tps := 21 / 2
          latencyMs := 0
          inFlight := 0 }
      scheduleState := .awake }

end JwSwarm.Proto
