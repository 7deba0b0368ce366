import Offload.Metadata
import Offload.Job.RequestId

/-
  The frame that a buffer holds, as its metadata tells it.

  Key definitions include:
    * `FrameMeta`
    * `FrameMeta.keys`
    * `FrameMeta.applyTo`
    * `FrameMeta.ofMetadata`
-/

namespace Offload

/- What is recorded of a frame. -/
structure FrameMeta where
  bufferId : Int64
  bufferName : String
  bufferOffset : Int64
  frameId : Int64
  streamId : String
  timestamp : UInt64
  pcieBufferId : Option Int64
deriving DecidableEq

namespace FrameMeta

/- The key of the buffer's id. -/
def bufferIdKey : String :=
  "buffer-id"

/- The key of the name of the segment or stage. -/
def bufferNameKey : String :=
  "buffer-name"

/- The key of the offset of the frame in the buffer. -/
def bufferOffsetKey : String :=
  "buffer-offset"

/- The key of the frame number. -/
def frameIdKey : String :=
  "frame-id"

/- The key of the stream. -/
def streamIdKey : String :=
  "stream-id"

/- The key of the time of capture. -/
def timestampKey : String :=
  "timestamp"

/- The key of the id of a copy on another host. -/
def pcieBufferIdKey : String :=
  "pcie-buffer-id"

/- All keys of a frame. -/
def keys : List String :=
  [bufferIdKey, bufferNameKey, bufferOffsetKey, frameIdKey,
   streamIdKey, timestampKey, pcieBufferIdKey]

/- A frame of which nothing is known. -/
def blank : FrameMeta :=
  ⟨0, "", 0, 0, "", 0, none⟩

/- Record the id of a copy, or that there is none. -/
def applyCopy
    (copy : Option Int64)
    (m : Metadata) : Metadata :=
  match copy with
  | some id => m.set pcieBufferIdKey (.int id)
  | none => m.remove pcieBufferIdKey

/- Write a frame into a record. -/
def applyTo
    (f : FrameMeta)
    (m : Metadata) : Metadata :=
  applyCopy f.pcieBufferId
    ((((((m.set bufferIdKey (.int f.bufferId)).set
      bufferNameKey (.string f.bufferName)).set
      bufferOffsetKey (.int f.bufferOffset)).set
      frameIdKey (.int f.frameId)).set
      streamIdKey (.string f.streamId)).set
      timestampKey (.uint f.timestamp))

/- The id of a copy, if one is recorded. -/
def copyOf
    (m : Metadata) : Except Error (Option Int64) :=
  match m.get? pcieBufferIdKey with
  | none => .ok none
  | some (.int id) => .ok (some id)
  | some other =>
    .error (Metadata.mistyped pcieBufferIdKey "int64" other)

/- Read a frame from a record. -/
def ofMetadata
    (m : Metadata) : Except Error FrameMeta := do
  let timestamp ← m.requireUInt timestampKey
  let copy ← copyOf m
  let bufferId ← m.requireInt bufferIdKey
  let bufferName ← m.requireString bufferNameKey
  let bufferOffset ← m.requireInt bufferOffsetKey
  let frameId ← m.requireInt frameIdKey
  let streamId ← m.requireString streamIdKey
  return ⟨bufferId, bufferName, bufferOffset, frameId,
    streamId, timestamp, copy⟩

/- The buffer's id as other domains use it. -/
def bufferAddress
    (f : FrameMeta) : UInt64 :=
  f.bufferId.toUInt64

/- The id of the job that a stage runs on the frame. -/
def requestId
    (f : FrameMeta)
    (node : String) : RequestId :=
  RequestId.derive node f.streamId f.frameId.toUInt64

end FrameMeta

end Offload
