import Offload.Error
import Offload.Wire.Param

/-
  Messages between the library and the accelerator's
  firmware.

  A message travels as a frame: its length in four bytes and
  an archive. Responses carry the number of the request they
  answer.

  Key definitions include:
    * `Opcode`
    * `Request`
    * `Request.encode`
    * `Request.decode`
    * `Response`
    * `Response.encode`
    * `Response.decode`
    * `Response.result`
-/

namespace Offload

------------------------------------------------------------
-- Opcodes
------------------------------------------------------------

/- What the firmware can be asked for. -/
inductive Opcode where
  | getHandle
  | loadModel
  | runModel
  | runBatchModel
  | waitDone
  | getStatus
deriving DecidableEq

namespace Opcode

/- All opcodes in the order of their codes. -/
def all : List Opcode :=
  [.getHandle, .loadModel, .runModel, .runBatchModel,
   .waitDone, .getStatus]

/- The code of an opcode. -/
def code : Opcode → Nat
  | .getHandle => 0
  | .loadModel => 1
  | .runModel => 2
  | .runBatchModel => 3
  | .waitDone => 4
  | .getStatus => 5

/- The opcode with a code. -/
def ofCode?
    (n : Nat) : Option Opcode :=
  all.find? fun o => o.code == n

/- The name of an opcode. -/
def name : Opcode → String
  | .getHandle => "GetHandle"
  | .loadModel => "LoadModel"
  | .runModel => "RunModel"
  | .runBatchModel => "RunBatchModel"
  | .waitDone => "WaitDone"
  | .getStatus => "GetStatus"

/- The opcode with a name. -/
def ofName?
    (s : String) : Option Opcode :=
  all.find? fun o => o.name == s

end Opcode

namespace ComputeDomain

/- The code of a domain. -/
def code : ComputeDomain → Nat
  | .host => 0
  | .vector => 1
  | .accelerator => 2

/- The domain with a code. -/
def ofCode?
    (n : Nat) : Option ComputeDomain :=
  all.find? fun d => d.code == n

end ComputeDomain

------------------------------------------------------------
-- Frames
------------------------------------------------------------

namespace Frame

/- Put the length in front of an archive, if it fits. -/
def wrap
    (body : Bytes) : Option Bytes :=
  if body.length < 0x1_0000_0000 then
    some (Bytes.ofNat 4 body.length ++ body)
  else
    none

/- The archive in a frame of exactly the stated length. -/
def unwrap
    (bytes : Bytes) : Option Archive :=
  if bytes.length < 4 then
    none
  else
    let body := bytes.drop 4
    if Bytes.toNat (bytes.take 4) = body.length then
      some body.toArray
    else
      none

/- A message that could not be made or read is lost. -/
def orLost
    {α : Type}
    (a : Option α) : Except DispatchError α :=
  match a with
  | some x => .ok x
  | none => .error .messageLost

end Frame

------------------------------------------------------------
-- Requests
------------------------------------------------------------

/- A message to the firmware. -/
structure Request where
  seq : UInt64
  domain : ComputeDomain
  opcode : Opcode
  params : List Param
deriving DecidableEq

namespace Request

/- A request that has no number yet. -/
def of
    (opcode : Opcode)
    (params : List Param) : Request :=
  ⟨0, .accelerator, opcode, params⟩

/- The root at a position, given that of the first cell. -/
def root
    (r : Request)
    (own cells : Nat) : Option Bytes := do
  let params ← CellFormat.reference (own + 12) cells
    r.params.length
  return Bytes.ofNat 8 r.seq.toNat
    ++ Bytes.ofNat 1 r.domain.code
    ++ Bytes.ofNat 1 r.opcode.code
    ++ Bytes.zeros 2 ++ params ++ Bytes.zeros 4

/- The archive of a request. -/
def archive
    (r : Request) : Option Bytes :=
  Param.format.archive 8 r.root r.params

/- Read the root at a position. -/
def readRoot
    (a : Archive)
    (own : Nat) : Reader Request := do
  let domain ← Reader.ofOption
    (ComputeDomain.ofCode? (a.byte (own + 8)))
  let opcode ← Reader.ofOption
    (Opcode.ofCode? (a.byte (own + 9)))
  let params ← Param.format.readList a (own + 12)
  return ⟨UInt64.ofNat (a.number 8 own), domain, opcode,
    params⟩

/- The frame of a request. -/
def encode
    (r : Request) : Except DispatchError Bytes :=
  Frame.orLost (r.archive.bind Frame.wrap)

/- The request in a frame. -/
def decode
    (bytes : Bytes) : Except DispatchError Request :=
  Frame.orLost do
    let a ← Frame.unwrap bytes
    a.readRoot 24 8 (readRoot a)

end Request

------------------------------------------------------------
-- Responses
------------------------------------------------------------

/- A message from the firmware. -/
structure Response where
  seq : UInt64
  status : Status
  outputs : List Param
deriving DecidableEq

namespace Response

/- The root at a position, given that of the first cell. -/
def root
    (r : Response)
    (own cells : Nat) : Option Bytes := do
  let outputs ← CellFormat.reference (own + 12) cells
    r.outputs.length
  return Bytes.ofNat 8 r.seq.toNat
    ++ Bytes.ofNat 4 r.status.toUInt32.toNat
    ++ outputs ++ Bytes.zeros 4

/- The archive of a response. -/
def archive
    (r : Response) : Option Bytes :=
  Param.format.archive 8 r.root r.outputs

/- Read the root at a position. -/
def readRoot
    (a : Archive)
    (own : Nat) : Reader Response := do
  let outputs ← Param.format.readList a (own + 12)
  return ⟨UInt64.ofNat (a.number 8 own),
    (UInt32.ofNat (a.number 4 (own + 8))).toInt32,
    outputs⟩

/- The frame of a response. -/
def encode
    (r : Response) : Except DispatchError Bytes :=
  Frame.orLost (r.archive.bind Frame.wrap)

/- The response in a frame. -/
def decode
    (bytes : Bytes) : Except DispatchError Response :=
  Frame.orLost do
    let a ← Frame.unwrap bytes
    a.readRoot 24 8 (readRoot a)

/- The outputs, unless the status tells of a failure. -/
def result
    (r : Response) : Except DispatchError (List Param) :=
  if r.status = 0 then .ok r.outputs
  else .error (DispatchError.ofStatus r.status)

end Response

end Offload
