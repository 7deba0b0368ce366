import Offload.Text.Hex
import Offload.Text.Utf8

/-
  Ids that tie a completion to its job.

  The upper half of an id is a hash of stage and stream, the
  lower half is the frame number.

  Key definitions include:
    * `Fnv.hash`
    * `RequestId`
    * `RequestId.derive`
    * `RequestId.text`
-/

namespace Offload

------------------------------------------------------------
-- Hashing
------------------------------------------------------------

namespace Fnv

/- The state of the hash before the first byte. -/
def basis : UInt32 :=
  2166136261

/- The multiplier of each step. -/
def prime : UInt32 :=
  16777619

/- Mix one byte into the state. -/
def step
    (state : UInt32)
    (byte : UInt8) : UInt32 :=
  (state ^^^ byte.toUInt32) * prime

/- The 32-bit FNV-1a hash of bytes. -/
def hash
    (bytes : List UInt8) : UInt32 :=
  bytes.foldl step basis

end Fnv

------------------------------------------------------------
-- Request Ids
------------------------------------------------------------

/- The id of a job. -/
structure RequestId where
  raw : UInt64
deriving DecidableEq

namespace RequestId

/- The id of a hash and a frame number. -/
def ofParts
    (hash : UInt32)
    (frame : UInt64) : RequestId :=
  ⟨(hash.toUInt64 <<< 32) ||| (frame &&& 0xFFFFFFFF)⟩

/- The id of the job that a stage runs on a frame. -/
def derive
    (node stream : String)
    (frame : UInt64) : RequestId :=
  ofParts
    (Fnv.hash (Utf8.encode node ++ Utf8.encode stream))
    frame

/- The frame number. -/
def frame
    (id : RequestId) : UInt32 :=
  id.raw.toUInt32

/- The hash of stage and stream. -/
def stageHash
    (id : RequestId) : UInt32 :=
  (id.raw >>> 32).toUInt32

/- The id as sixteen digits. -/
def text
    (id : RequestId) : String :=
  Hex.padded 16 id.raw.toNat

/- The id in one line. -/
def describe
    (id : RequestId) : String :=
  "RequestId(" ++ toString id.raw.toNat ++ ")"

end RequestId

end Offload
