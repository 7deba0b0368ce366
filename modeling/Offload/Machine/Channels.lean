import Offload.Machine.Engines

/-
  Channels at work, and the passing of time.

  A service runs on until it is out of requests, held up at
  a gate, or asleep. Time passes only while somebody waits;
  it then goes from one wake-up to the next.

  Key definitions include:
    * `Machine.channelStep`
    * `Machine.settle`
    * `Machine.advanceTo`
    * `Machine.rpc`
    * `Machine.waitFor`
-/

namespace Offload

namespace Machine

variable {ε : Type}

------------------------------------------------------------
-- Services
------------------------------------------------------------

/- Answer the request that a channel serves. -/
def answerChannel
    (c : Channel)
    (outcome : Except Status (List Param))
    (m : Machine) : Channel × Machine :=
  let (event, link) := c.link.answer outcome
  ({ c with link := link, stall := .free }, m.logged event)

/- Let an echo serve a request. -/
def serveEcho
    (c : Channel)
    (e : Echo)
    (r : Request)
    (m : Machine) : Channel × Machine :=
  match e.handle r with
  | some outcome => m.answerChannel c outcome
  | none =>
    ({ c with link := c.link.stop, stall := .free }, m)

/- Let firmware make a run that it counted. -/
def finishRun
    (c : Channel)
    (f : Firmware)
    (record : RunRecord)
    (m : Machine) : Channel × Machine :=
  match Firmware.execute record (f, m.platform) with
  | (outcome, (f, p)) =>
    { m with platform := p }.answerChannel
      { c with service := .accelerator f } outcome

/- Let firmware serve a request up to where it sleeps. -/
def serveFirmware
    (c : Channel)
    (f : Firmware)
    (r : Request)
    (m : Machine) : Channel × Machine :=
  match Firmware.consider m.files r (f, m.platform) with
  | (.error status, (f, p)) =>
    { m with platform := p }.answerChannel
      { c with service := .accelerator f } (.error status)
  | (.ok (.answer outputs), (f, p)) =>
    { m with platform := p }.answerChannel
      { c with service := .accelerator f } (.ok outputs)
  | (.ok (.run record), (f, p)) =>
    let m := { m with platform := p }
    match f.setup.delay with
    | none => m.finishRun c f record
    | some delay =>
      ({ c with
         service := .accelerator f
         stall := .asleep (m.now + delay.nanos) record }, m)

/- Begin to serve a request. -/
def beginService
    (c : Channel)
    (r : Request)
    (m : Machine) : Channel × Machine :=
  match c.service with
  | .accelerator f => m.serveFirmware c f r
  | .echo e =>
    match e.gate with
    | none => m.serveEcho c e r
    | some g =>
      ({ c with stall := .atGate g },
       m.setGate g (m.gate g).enter)

------------------------------------------------------------
-- Steps
------------------------------------------------------------

/- Take the next request of a channel, if there is one. -/
def takeRequest
    (c : Channel)
    (m : Machine) : Option (Channel × Machine) :=
  match c.link.take with
  | none => none
  | some (event, link) =>
    let m := m.logged event
    let c := { c with link := link }
    match link.phase with
    | .serving r => some (m.beginService c r)
    | _ => some (c, m)

/-
  Go on with the request that is held up at a gate, if the
  gate lets it pass.
-/
def resumeAtGate
    (c : Channel)
    (g : String)
    (m : Machine) : Option (Channel × Machine) :=
  match m.passGate? g with
  | none => none
  | some m =>
    match c.service, c.link.phase with
    | .echo e, .serving r => some (m.serveEcho c e r)
    | _, _ => some ({ c with stall := .free }, m)

/-
  Go on with the run that sleeps, if its time has come.
-/
def resumeAsleep
    (c : Channel)
    (wake : Nat)
    (record : RunRecord)
    (m : Machine) : Option (Channel × Machine) :=
  if wake ≤ m.now then
    match c.service with
    | .accelerator f => some (m.finishRun c f record)
    | .echo _ => some ({ c with stall := .free }, m)
  else
    none

/- What the service of a channel does next. -/
def channelStep
    (c : Channel)
    (m : Machine) : Option (Channel × Machine) :=
  match c.stall with
  | .free => m.takeRequest c
  | .atGate g => m.resumeAtGate c g
  | .asleep wake record => m.resumeAsleep c wake record

/- Let a service run on for at most so many steps. -/
def runChannel :
    Nat → Channel → Machine → Channel × Machine
  | 0, c, m => (c, m)
  | fuel + 1, c, m =>
    match m.channelStep c with
    | none => (c, m)
    | some (c, m) => runChannel fuel c m

/- Let one channel run on. Two steps serve a request. -/
def settleTransport
    (m : Machine)
    (key : Nat) : Machine :=
  match m.transports.get? key with
  | some (.channel c) =>
    let (c, m) :=
      runChannel (2 * c.link.requests.length + 3) c m
    { m with transports := m.transports.set key (.channel c) }
  | _ => m

/- Let all channels run on. -/
def settleTransports
    (m : Machine) : Machine :=
  m.transports.keys.foldl settleTransport m

/- Let all workers and services run on. -/
def settle
    (m : Machine) : Machine :=
  m.settleEngines.settleTransports

------------------------------------------------------------
-- Time
------------------------------------------------------------

/- The wake-up times of all sleeping services. -/
def wakes
    (m : Machine) : List Nat :=
  m.transports.rows.filterMap fun row =>
    match row.2 with
    | .channel c => c.wake?
    | .scripted _ => none

/- The next time at which a service wakes up. -/
def nextWake?
    (m : Machine) : Option Nat :=
  m.wakes.min?

/- The next wake-up that is not after a deadline. -/
def wakeBy?
    (m : Machine)
    (deadline : Option Nat) : Option Nat :=
  match m.nextWake?, deadline with
  | some wake, some d => if wake ≤ d then some wake else none
  | wake, _ => wake

/- Go on to a time and let services run on. -/
def arriveAt
    (time : Nat)
    (m : Machine) : Machine :=
  { m with now := max m.now time }.settleTransports

/- How many wake-ups can lie ahead of somebody who waits. -/
def wakeBound
    (m : Machine) : Nat :=
  4 * m.transports.rows.length + 4

/- Let time pass, with at most so many wake-ups. -/
def passTime
    (time : Nat) : Nat → Machine → Machine
  | 0, m => { m with now := max m.now time }
  | fuel + 1, m =>
    match m.wakeBy? (some time) with
    | none => { m with now := max m.now time }
    | some wake => passTime time fuel (m.arriveAt wake)

/- Let time pass up to a moment. -/
def advanceTo
    (time : Nat)
    (m : Machine) : Machine :=
  passTime time m.wakeBound m

/-
  Let a time span pass. A wait without a deadline that
  nothing ends does not move the clock.
-/
def advanceBy
    (d : Duration)
    (m : Machine) : Machine :=
  match d.deadline m.now with
  | some time => m.advanceTo time
  | none => m

------------------------------------------------------------
-- Calls
------------------------------------------------------------

/- The channel with a number. -/
def channel?
    (m : Machine)
    (key : Nat) : Option Channel :=
  match m.transports.get? key with
  | some (.channel c) => some c
  | _ => none

/- Replace the link of a channel. -/
def setLink
    (key : Nat)
    (link : Link)
    (m : Machine) : Machine :=
  match m.channel? key with
  | none => m
  | some c =>
    { m with
      transports := m.transports.set key
        (.channel { c with link := link }) }

/- Draw the number of the next request of a channel. -/
def numberRequest
    (key : Nat)
    (r : Request) : Op DispatchError Machine Request :=
  fun m =>
    match m.channel? key with
    | none => (.error .messageLost, m)
    | some c =>
      let (seq, link) := c.link.number
      (.ok { r with seq := seq }, m.setLink key link)

/-
  Send a frame over a channel as soon as there is room for
  it.
-/
def sendFrame
    (key : Nat)
    (frame : Bytes) : Nat → Op DispatchError Machine Unit
  | 0 => Op.fail .messageLost
  | fuel + 1 => fun m =>
    match m.channel? key with
    | none => (.error .messageLost, m)
    | some c =>
      if c.link.hasEnded then
        (.error .messageLost, m)
      else if c.link.hasRoom then
        (.ok (),
         (m.setLink key (c.link.send frame)).settleTransport
           key)
      else
        match m.nextWake? with
        | none => (.error .messageLost, m)
        | some wake =>
          sendFrame key frame fuel (m.arriveAt wake)

/- The entry about a call that nobody answered in time. -/
def callExpired
    (r : Request) : LogEvent :=
  ⟨.warn, "firmware request timed out",
    [("seq", toString r.seq.toNat),
     ("opcode", r.opcode.name)]⟩

/- The entry about an answer to an earlier call. -/
def staleAnswer
    (r : Request)
    (stale : UInt64) : LogEvent :=
  ⟨.debug, "discarding stale firmware response",
    [("stale", toString stale.toNat),
     ("seq", toString r.seq.toNat)]⟩

/-
  Wait for the answer to a request. Answers to earlier
  requests are discarded on the way.
-/
def awaitAnswer
    (key : Nat)
    (r : Request)
    (deadline : Option Nat) :
    Nat → Op DispatchError Machine Response
  | 0 => Op.fail .timeout
  | fuel + 1 => fun m =>
    match m.channel? key with
    | none => (.error .messageLost, m)
    | some c =>
      match c.link.receive with
      | (some frame, link) =>
        let m := m.setLink key link
        match Link.judge r.seq frame with
        | .answer a => (.ok a, m)
        | .lost => (.error .messageLost, m)
        | .stale seq =>
          awaitAnswer key r deadline fuel
            (m.logged (some (staleAnswer r seq)))
      | (none, _) =>
        if c.link.hasEnded then
          (.error .messageLost, m)
        else
          match m.wakeBy? deadline with
          | some wake =>
            awaitAnswer key r deadline fuel (m.arriveAt wake)
          | none =>
            (.error .timeout,
             { m with
               now := max m.now (deadline.getD 0) }.logged
               (some (callExpired r)))

/- How many steps a wait for an answer can take. -/
def answerBound
    (m : Machine)
    (key : Nat) : Nat :=
  match m.channel? key with
  | none => 1
  | some c => c.link.responses.length + 2 * m.wakeBound

/- Call the service of a channel. -/
def rpcChannel
    (key : Nat)
    (r : Request)
    (timeout : Duration) :
    Op DispatchError Machine Response := do
  let r ← numberRequest key r
  let frame ← Op.ofExcept r.encode
  let m ← Op.get
  let deadline := timeout.deadline m.now
  sendFrame key frame m.wakeBound
  let m ← Op.get
  awaitAnswer key r deadline (m.answerBound key)

/- Call firmware and wait for its response. -/
def rpc
    (transport : Nat)
    (r : Request)
    (timeout : Duration) :
    Op DispatchError Machine Response :=
  fun m =>
    match m.transports.get? transport with
    | none => (.error .messageLost, m)
    | some (.channel _) =>
      rpcChannel transport r timeout m
    | some (.scripted s) =>
      let (answer, s) := s.rpc r timeout
      (answer,
       { m with
         transports :=
           m.transports.set transport (.scripted s) })

/- Call firmware and take the outputs of its response. -/
def call
    (transport : Nat)
    (opcode : Opcode)
    (params : List Param)
    (timeout : Duration) :
    Op DispatchError Machine (List Param) := do
  let r ← rpc transport (Request.of opcode params) timeout
  Op.ofExcept r.result

------------------------------------------------------------
-- Waiting on a Board
------------------------------------------------------------

/- Look for the status of a request on its board. -/
def lookOnBoard
    (board : Nat)
    (id : RequestId) : Op ε Machine Look :=
  Op.update fun m =>
    match m.boards.get? board with
    | none => (.unknown, m)
    | some b =>
      let (look, b) := b.look id
      (look, { m with boards := m.boards.set board b })

/- Abandon a request of a board. -/
def abandon
    (board : Nat)
    (id : RequestId) : Op ε Machine Unit :=
  Op.modify fun m =>
    match m.boards.get? board with
    | none => m
    | some b =>
      { m with boards := m.boards.set board (b.abandon id) }

/- Wait for the status of a request. -/
def waitFor
    (board : Nat)
    (id : RequestId)
    (timeout : Duration) :
    Op DispatchError Machine Status := do
  match ← lookOnBoard board id with
  | .done status => return status
  | .unknown => Op.fail .messageLost
  | .pending =>
    Op.modify (advanceBy timeout)
    match ← lookOnBoard board id with
    | .done status => return status
    | _ =>
      abandon board id
      Op.fail .timeout

------------------------------------------------------------
-- Retiring
------------------------------------------------------------

/- Wait until the service of a channel is not asleep. -/
def awaitRest
    (key : Nat) : Nat → Machine → Machine
  | 0, m => m
  | fuel + 1, m =>
    match (m.channel? key).bind Channel.wake? with
    | none => m
    | some wake => awaitRest key fuel (m.advanceTo wake)

/-
  Remove a transport that nobody refers to any more, once
  its service has come to rest.
-/
def retireTransport
    (key : Nat)
    (m : Machine) : Machine :=
  let m := awaitRest key m.wakeBound m
  let rest := { m with transports := m.transports.erase key }
  match m.channel? key with
  | none => rest
  | some c =>
    if c.link.hasEnded then
      rest.logged (some
        ⟨.warn, "firmware worker exited abnormally", []⟩)
    else
      rest

end Machine

end Offload
