import Offload.Job
import Offload.Machine

/-
  What a stage holds while it is in use: its output pool, an
  input loaded from a file, and the place of its dumps.

  Key definitions include:
    * `StageResources`
    * `StageResources.prepare`
    * `StageResources.activate`
    * `StageResources.dump`
    * `StageResources.release`
-/

namespace Offload

/-
  The resources of a stage. Without a pool they were
  released.
-/
structure StageResources where
  node : String
  pool : Option Nat
  debugPath : Option String
  debugInput : Option Buffer
  debugFlags : MemoryFlags
  dumpDir : Option String

namespace StageResources

variable {ε : Type}

------------------------------------------------------------
-- Preparing
------------------------------------------------------------

/- The allocator of an output layout. -/
def allocatorFor
    (layout : OutputLayout) : Op ε Machine Allocator :=
  Machine.onRegistry
    (if layout.isSegmented then Registry.segmented
     else Registry.contiguous)

/- Make the pool of a stage's outputs. -/
def preparePool
    (c : StageConfig) : Op Error Machine Nat := do
  Machine.logMaybe c.bufferWarning
  let allocator ← allocatorFor c.output
  let pool ← Op.ofExcept
    (Pool.create allocator c.outputBufferCount
      c.outputBufferCount c.outputFlags c.output.sizes
      c.output.names)
  Machine.add Machine.poolsPart pool

/- Make the resources of a stage. -/
def prepare
    (c : StageConfig) :
    Op Error Machine StageResources := do
  let pool ← preparePool c
  Machine.log .debug "output pool prepared"
    [("node", c.node),
     ("buffers", toString c.outputBufferCount),
     ("size", toString c.output.totalSize),
     ("memory", c.outputTarget.name),
     ("cache", c.outputCache.name)]
  return {
    node := c.node
    pool := some pool
    debugPath := c.debugInput
    debugInput := none
    debugFlags :=
      MemoryFlags.of c.domain.memoryTarget .uncached
    dumpDir := if c.dumps then some c.dumpDir else none }

------------------------------------------------------------
-- Activating
------------------------------------------------------------

/- Read a file that must not be empty. -/
def readInput
    (path : String) : Op Error Machine Bytes := do
  let m ← Op.get
  match m.files.read path with
  | .error fault => Op.fail (.file fault)
  | .ok [] =>
    Op.fail (.invalidArgument
      ("debug input " ++ path ++ " is empty"))
  | .ok bytes => return bytes

/- Map a buffer and write bytes to its first segment. -/
def fill
    (bytes : Bytes) : Op Error (Buffer × Platform) Unit := do
  Buffer.map
  let (b, _) ← Op.get
  Op.within Lens.snd (b.parent.handle.write 0 bytes)
  Op.within Lens.snd b.flush

/- Load a file into a buffer of its own. -/
def loadInput
    (r : StageResources)
    (path : String) : Op Error Machine Buffer := do
  let bytes ← readInput path
  let allocator ← Machine.onRegistry Registry.contiguous
  let fresh ← Machine.onPlatform
    (allocator.alloc r.debugFlags bytes.length)
  match ← Machine.onPlatform (Op.beside fresh (fill bytes))
  with
  | (.error e, b) =>
    Machine.onPlatform b.release
    Op.fail e
  | (.ok _, b) =>
    Machine.log .debug "loaded debug input"
      [("node", r.node), ("path", path),
       ("size", toString bytes.length),
       ("phys", toString b.addr)]
    return b

/- Release the loaded input. -/
def dropInput :
    Op ε (StageResources × Machine) Unit := do
  let (r, _) ← Op.get
  Op.within Lens.fst
    (Op.modify fun r => { r with debugInput := none })
  match r.debugInput with
  | none => Op.pure ()
  | some b =>
    Op.within Lens.snd (Machine.onPlatform b.release)

/- Load the input anew, if there is a file for it. -/
def activateInput :
    Op Error (StageResources × Machine) Unit := do
  let (r, _) ← Op.get
  match r.debugPath with
  | none => Op.pure ()
  | some path =>
    let b ← Op.within Lens.snd (r.loadInput path)
    dropInput
    Op.within Lens.fst
      (Op.modify fun r => { r with debugInput := some b })

/- Load the input and activate the pool. -/
def activate :
    Op Error (StageResources × Machine) Unit := do
  activateInput
  let (r, _) ← Op.get
  match r.pool with
  | some pool =>
    Op.within Lens.snd
      (Machine.onPool pool (Pool.setActive true))
  | none =>
    Op.fail (.invalidState
      ("stage '" ++ r.node ++ "' resources were released"))

------------------------------------------------------------
-- Dumping
------------------------------------------------------------

/- The file that the output of a job is dumped to. -/
def dumpPath?
    (r : StageResources)
    (job : Job) : Option String :=
  r.dumpDir.map fun dir =>
    Path.join dir
      (r.node ++ "-" ++ toString job.id.frame.toNat ++ ".out")

/- Write bytes to a file. -/
def writeFile
    (path : String)
    (bytes : Bytes) : Op Error Machine Unit :=
  Op.change fun m =>
    match m.files.write path bytes with
    | .error fault => .error (.file fault)
    | .ok files => .ok ((), { m with files := files })

/- Write the bytes of an attached region to a file. -/
def dumpRegion
    (r : StageResources)
    (path : String)
    (size : Nat) :
    Op Error (Handle × Machine) Unit := do
  let (h, _) ← Op.get
  let h ← Op.within Lens.snd (Machine.onPlatform h.map)
  Op.within Lens.fst (Op.set h)
  Op.within Lens.snd (Machine.onPlatform h.invalidate)
  let count := min size h.size
  let bytes ← Op.within Lens.snd
    (Machine.onPlatform (h.read 0 count))
  Op.within Lens.snd (writeFile path bytes)
  Op.within Lens.snd
    (Machine.log .debug "dumped output"
      [("node", r.node), ("path", path),
       ("size", toString count)])

/- Write the output of a job to its file, if it has one. -/
def dump
    (r : StageResources)
    (job : Job) : Op Error Machine Unit :=
  match r.dumpPath? job with
  | none => Op.pure ()
  | some path =>
    match job.primaryOutput? with
    | none =>
      Op.fail (.configMismatch "job has no output to dump")
    | some output => do
      let h ← Machine.onPlatform
        (Handle.attach output.binding.addr)
      let (result, h) ← Op.beside h
        (dumpRegion r path output.binding.size)
      Machine.onPlatform h.release
      Op.ofExcept result

------------------------------------------------------------
-- Releasing
------------------------------------------------------------

/- Release the loaded input and the pool. -/
def release :
    Op ε (StageResources × Machine) Unit := do
  dropInput
  let (r, _) ← Op.get
  Op.within Lens.fst
    (Op.modify fun r => { r with pool := none })
  match r.pool with
  | none => Op.pure ()
  | some pool =>
    Op.within Lens.snd
      (Machine.onPoolSilently pool (do
        let (p, _) ← Op.get
        if p.active then
          Pool.stop))

/- Release resources that are not needed any more. -/
def drop
    (r : StageResources) : Op ε Machine Unit :=
  fun m =>
    (.ok (), ((release : Op ε _ Unit) (r, m)).2.2)

/- The resources in one line. -/
def describe
    (m : Machine)
    (r : StageResources) : String :=
  Description.record "StageResources"
    [("node", Quoted.encode r.node),
     ("pool",
      Description.option Pool.describe
        (r.pool.bind m.pools.get?)),
     ("debug_input",
      Description.option Buffer.describe r.debugInput),
     ("dump_dir",
      Description.option Quoted.encode r.dumpDir)]

end StageResources

end Offload
