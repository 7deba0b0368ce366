import Offload.Report

/-
  Sessions: named objects on a machine.

  A caller makes objects under names, works with them and
  drops them. A name that is used again drops the object it
  had before, once the new one exists.

  Key definitions include:
    * `Fault`
    * `Object`
    * `Session`
    * `Session.Act`
    * `Session.Kind`
    * `Session.find`
    * `Session.edit`
    * `Session.store`
    * `Session.discard`
-/

namespace Offload

------------------------------------------------------------
-- Faults
------------------------------------------------------------

/- Why a step of a session has no result. -/
inductive Fault where
  | error (e : Error)
  | dispatch (e : DispatchError)
  | noObject (name : Option String)
  | badInput (field : String)

namespace Fault

/- An input out of the range of its object. -/
def outOfRange : Fault :=
  .badInput "range"

/- A fault as it is shown. -/
def report : Fault → Report
  | .error e => .error e
  | .dispatch e => .dispatchError e
  | .noObject name =>
    .record
      [("error", .text "NoSlot"),
       ("message", .optional .text name)]
  | .badInput field =>
    .record
      [("error", .text "BadInput"),
       ("message", .text field)]

end Fault

------------------------------------------------------------
-- Objects
------------------------------------------------------------

/- How a dispatcher was made. -/
inductive DispatcherOrigin where
  | overBackend
  | overTransport
  | overScript
deriving DecidableEq

/-
  What can have a name. Numbers refer to rows of the
  machine's tables.
-/
inductive Object where
  | region (r : Region)
  | mapping (r : Region) (m : Mapping)
  | handle (h : Handle)
  | buffer (b : Buffer)
  | pooled (pool : Nat) (b : Buffer)
  | allocator (a : Allocator)
  | pool (key : Nat)
  | cache (key : Nat)
  | resolved (cache : Nat) (r : Resolved)
  | board (key : Nat)
  | ticket (t : Ticket)
  | engine (key : Nat)
  | firmware (f : Firmware)
  | transport (key : Nat)
  | job (j : Job)
  | metadata (m : Metadata)
  | dispatcher
      (origin : DispatcherOrigin)
      (d : Dispatcher AnyRuntime)
  | bare (r : AnyRuntime)
  | stage (r : StageResources)

namespace Object

/- The runtime that an object holds. -/
def runtime? : Object → Option AnyRuntime
  | .dispatcher _ d => some d.runtime
  | .bare r => some r
  | _ => none

/- The engine that an object refers to. -/
def engine? : Object → Option Nat
  | .engine key => some key
  | o => o.runtime?.bind AnyRuntime.engine?

/- The transport that an object refers to. -/
def transport? : Object → Option Nat
  | .transport key => some key
  | o => o.runtime?.bind AnyRuntime.transport?

end Object

------------------------------------------------------------
-- Sessions
------------------------------------------------------------

/- A machine and the objects by name. -/
structure Session where
  machine : Machine
  objects : List (String × Object)

namespace Session

variable {ε α τ : Type}

/- A session without objects. -/
def fresh
    (capacity : MemoryTarget → Nat) : Session :=
  ⟨Machine.fresh capacity, []⟩

/- A step of a session. -/
abbrev Act (α : Type) : Type :=
  Op Fault Session α

/- The machine of a session. -/
def machinePart : Lens Session Machine :=
  ⟨machine, fun m s => { s with machine := m }⟩

/- Run on the machine. -/
def onMachine
    (x : Op ε Machine α) : Op ε Session α :=
  Op.within machinePart x

/- An operation whose errors are faults of the step. -/
def failing
    {σ : Type}
    (x : Op Error σ α) : Op Fault σ α :=
  Op.mapError Fault.error x

/- A domain operation whose failures are faults of the step. -/
def dispatching
    {σ : Type}
    (x : Op DispatchError σ α) : Op Fault σ α :=
  Op.mapError Fault.dispatch x

/- Run on the machine, with faults for errors. -/
def act
    (x : Op Error Machine α) : Act α :=
  onMachine (failing x)

/- Run on the platform, with faults for errors. -/
def actOnPlatform
    (x : Op Error Platform α) : Act α :=
  act (Machine.onPlatform x)

/- Refuse what is out of range. -/
def check
    {σ : Type}
    (inRange : Bool) : Op Fault σ Unit :=
  if inRange then Op.pure () else Op.fail Fault.outOfRange

------------------------------------------------------------
-- Kinds of Objects
------------------------------------------------------------

/-
  A kind of object: its content, and how to make an object
  of a changed content.
-/
def Kind (τ : Type) : Type :=
  Object → Option (τ × (τ → Object))

namespace Kind

/- Regions. -/
def region : Kind Region
  | .region r => some (r, .region)
  | _ => none

/- Mappings with their regions. -/
def mapping : Kind (Region × Mapping)
  | .mapping r m => some ((r, m), fun p => .mapping p.1 p.2)
  | _ => none

/- Handles. -/
def handle : Kind Handle
  | .handle h => some (h, .handle)
  | _ => none

/- Buffers, from a pool or not. -/
def buffer : Kind Buffer
  | .buffer b => some (b, .buffer)
  | .pooled pool b => some (b, .pooled pool)
  | _ => none

/- Buffers that do not belong to a pool. -/
def ownBuffer : Kind Buffer
  | .buffer b => some (b, .buffer)
  | _ => none

/- Allocators. -/
def allocator : Kind Allocator
  | .allocator a => some (a, .allocator)
  | _ => none

/- Pools. -/
def pool : Kind Nat
  | .pool key => some (key, .pool)
  | _ => none

/- Id caches. -/
def cache : Kind Nat
  | .cache key => some (key, .cache)
  | _ => none

/- Resolved ids with their caches. -/
def resolved : Kind (Nat × Resolved)
  | .resolved c r => some ((c, r), fun p => .resolved p.1 p.2)
  | _ => none

/- Completion boards. -/
def board : Kind Nat
  | .board key => some (key, .board)
  | _ => none

/- Tickets. -/
def ticket : Kind Ticket
  | .ticket t => some (t, .ticket)
  | _ => none

/- Engines. -/
def engine : Kind Nat
  | .engine key => some (key, .engine)
  | _ => none

/- Firmware that no transport leads to. -/
def firmware : Kind Firmware
  | .firmware f => some (f, .firmware)
  | _ => none

/- Transports. -/
def transport : Kind Nat
  | .transport key => some (key, .transport)
  | _ => none

/- Jobs. -/
def job : Kind Job
  | .job j => some (j, .job)
  | _ => none

/- Metadata records. -/
def metadata : Kind Metadata
  | .metadata m => some (m, .metadata)
  | _ => none

/- Dispatchers. -/
def dispatcher : Kind (Dispatcher AnyRuntime)
  | .dispatcher origin d => some (d, .dispatcher origin)
  | _ => none

/- Dispatchers made over a transport. -/
def accelerator : Kind AcceleratorRuntime
  | .dispatcher .overTransport d =>
    match d.runtime with
    | .accelerator r =>
      some (r, fun r =>
        .dispatcher .overTransport
          { d with runtime := .accelerator r })
    | _ => none
  | _ => none

/- Dispatchers made over a script. -/
def scripted : Kind ScriptedRuntime
  | .dispatcher .overScript d =>
    match d.runtime with
    | .scripted r =>
      some (r, fun r =>
        .dispatcher .overScript
          { d with runtime := .scripted r })
    | _ => none
  | _ => none

/- Runtimes without a dispatcher. -/
def bare : Kind AnyRuntime
  | .bare r => some (r, .bare)
  | _ => none

/- Resources of a stage. -/
def stage : Kind StageResources
  | .stage r => some (r, .stage)
  | _ => none

/- Objects of any kind. -/
def any : Kind Object :=
  fun o => some (o, id)

end Kind

------------------------------------------------------------
-- Finding Objects
------------------------------------------------------------

/- The object with a name, if it is of a kind. -/
def object?
    (s : Session)
    (k : Kind τ)
    (name : String) : Option (τ × (τ → Object)) :=
  (s.objects.lookup name).bind k

/- The content of an object. -/
def find
    (k : Kind τ)
    (name : String) : Act τ := do
  let s ← Op.get
  match s.object? k name with
  | some (x, _) => return x
  | none => Op.fail (.noObject (some name))

/- Put an object in the place of another. -/
def replace
    (name : String)
    (o : Object)
    (s : Session) : Session :=
  { s with
    objects := s.objects.map fun e =>
      if e.1 = name then (name, o) else e }

/-
  Run on the content of an object and on the machine. What
  the content became is kept also after a fault.
-/
def edit
    (k : Kind τ)
    (name : String)
    (x : Op Fault (τ × Machine) α) : Act α :=
  fun s =>
    match s.object? k name with
    | none => (.error (.noObject (some name)), s)
    | some (c, wrap) =>
      match x (c, s.machine) with
      | (r, (c, m)) =>
        (r, { s with machine := m }.replace name (wrap c))

/- Run on the content of an object and on the platform. -/
def editOnPlatform
    (k : Kind τ)
    (name : String)
    (x : Op Fault (τ × Platform) α) : Act α :=
  edit k name
    (Op.within
      ⟨fun q => (q.1, q.2.platform),
       fun r q =>
         (r.1, { q.2 with platform := r.2 })⟩ x)

/- Take an object away from its name. -/
def take
    (k : Kind τ)
    (name : String) : Act τ := do
  let x ← find k name
  Op.modify fun s =>
    { s with
      objects := s.objects.filter fun e => e.1 != name }
  return x

------------------------------------------------------------
-- Dropping Objects
------------------------------------------------------------

/- Retire an engine that no object refers to. -/
def retireEngine
    (key : Option Nat)
    (s : Session) : Session :=
  match key with
  | none => s
  | some key =>
    if s.objects.any fun e => e.2.engine? == some key then s
    else { s with machine := s.machine.retireEngine key }

/- Retire a transport that no object refers to. -/
def retireTransport
    (key : Option Nat)
    (s : Session) : Session :=
  match key with
  | none => s
  | some key =>
    if s.objects.any fun e => e.2.transport? == some key
    then s
    else { s with machine := s.machine.retireTransport key }

/-
  Release what an object holds by itself. A mapping is only
  a record and stays on the device.
-/
def release : Object → Op ε Machine Unit
  | .handle h => Machine.onPlatform h.release
  | .buffer b => Machine.onPlatform b.release
  | .pooled pool b =>
    Machine.onPoolSilently pool (Pool.release b)
  | .pool key => Machine.onPoolSilently key Pool.close
  | .cache key => Machine.onCacheSilently key IdCache.clear
  | .resolved cache r =>
    Machine.onCacheSilently cache (IdCache.letGo r.lease)
  | .ticket t => Op.modify fun m => m.dropTicket t
  | .dispatcher _ d =>
    match d.resources with
    | some r => r.drop
    | none => Op.pure ()
  | .stage r => r.drop
  | _ => Op.pure ()

/- End the life of an object that has no name any more. -/
def discard
    (o : Object) : Op ε Session Unit := do
  Op.modify (retireEngine o.engine?)
  Op.modify (retireTransport o.transport?)
  onMachine (release o)

/- Give an object a name, dropping the object it had. -/
def store
    (name : String)
    (o : Object) : Act Unit := do
  let s ← Op.get
  let rest := s.objects.filter fun e => e.1 != name
  Op.set { s with objects := (name, o) :: rest }
  match s.objects.lookup name with
  | some old => discard old
  | none => return ()

/-
  Drop the object with a name. A mapping that is dropped for
  its own sake is removed from the device.
-/
def drop
    (name : String) : Act Report := do
  let o ← take Kind.any name
  discard o
  if let .mapping _ _ := o then
    onMachine (Machine.onPlatform
      (Platform.act Device.unmap))
  return .done

------------------------------------------------------------
-- Addresses
------------------------------------------------------------

/-
  An address, or a place in the memory of an object: its
  start or that of one of its segments, and how many bytes
  further.
-/
inductive Place where
  | at (addr : Nat)
  | of
      (object : String)
      (segment : Option String)
      (plus : Nat)

/-
  The address that a segment of a buffer starts at. Of a
  segment that is not there, the fault has the name.
-/
def segmentAddress
    (segment : Option String)
    (b : Buffer) : Except Fault Nat :=
  match b.segment? segment with
  | some s => .ok s.addr
  | none => .error (.noObject segment)

/-
  The address that an object with a name starts at. An
  object without memory counts as missing.
-/
def addressOf
    (m : Machine)
    (name : String)
    (segment : Option String) : Object → Except Fault Nat
  | .region r => .ok r.addr
  | .handle h => .ok h.addr
  | .buffer b => segmentAddress segment b
  | .pooled _ b => segmentAddress segment b
  | .resolved cache r =>
    match (m.caches.get? cache).bind fun c => c.handle? r with
    | some h => .ok h.addr
    | none => .error (.noObject (some name))
  | _ => .error (.noObject (some name))

/- The number of addresses, past which they start over. -/
def addressSpan : Nat :=
  Word.limit

/- The address of a place. -/
def address : Place → Act Nat
  | .at addr => Op.pure addr
  | .of name segment plus => do
    let o ← find Kind.any name
    let s ← Op.get
    let base ← Op.ofExcept
      (addressOf s.machine name segment o)
    return (base + plus) % addressSpan

end Session

end Offload
