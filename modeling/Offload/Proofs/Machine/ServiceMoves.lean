import Offload.Machine.Channels
import Offload.Proofs.Memory.PlatformMoves

/-
  What goes on while services run.

  Services answer requests, firmware works on memory, and
  time passes. All this is made of what firmware does to the
  platform, of entries in the log, and of changes of gates,
  transports and the clock. A relation that allows these
  steps allows the passing of time and every call of
  firmware.

  Key definitions include:
    * `Platform.Serving`
    * `Machine.Through`
    * `Machine.Services`

  Main results:
    * `Firmware.execute_moves`
    * `Machine.advanceBy_moves`
    * `Machine.call_moves`
-/

namespace Offload

------------------------------------------------------------
-- Firmware
------------------------------------------------------------

namespace Firmware

open Platform

section Frame

variable {P : Platform → Platform → Prop}
variable [Platform.Frame P]

theorem reach_moves
    (addr : Nat) : Op.Moves P (reach addr) := by
  apply Op.Moves.seeing
  intro m
  cases m.device.containing? addr with
  | none => exact Op.Moves.fail badValue
  | some base =>
      refine Op.Moves.bind ?_ fun _ => Op.Moves.pure _
      apply Op.Moves.mapError
      exact
        (Handle.attach_moves base).bind
          Handle.mapOrRelease_moves

theorem transfer_moves
    (count : Nat)
    (source target : Handle × Nat) :
    Op.Moves P (transfer count source target) := by
  unfold transfer
  split
  · refine (source.1.invalidate_moves.mapError _).bind ?_
    intro _
    refine (source.1.read_moves source.2 count).bind ?_
    intro bytes
    refine (target.1.write_moves target.2 bytes).bind ?_
    intro _
    exact target.1.flush_moves.mapError _
  · exact Op.Moves.fail badValue

theorem copySample_moves
    (mode : CopyMode)
    (source target : UInt64) :
    Op.Moves P (copySample mode source target) := by
  refine (reach_moves source.toNat).bind ?_
  intro s
  refine (reach_moves target.toNat).attempt.bind ?_
  rintro (e | t)
  · exact s.1.release_moves.bind fun _ => Op.Moves.fail e
  · refine (transfer_moves _ s t).attempt.bind ?_
    intro result
    refine t.1.release_moves.bind ?_
    intro _
    refine s.1.release_moves.bind ?_
    exact fun _ => Op.Moves.ofExcept result

theorem copySamples_moves
    (mode : CopyMode)
    (samples : List (UInt64 × UInt64)) :
    Op.Moves P (copySamples mode samples) := by
  induction samples with
  | nil => exact Op.Moves.pure ()
  | cons sample rest ih =>
      exact
        (copySample_moves mode sample.1 sample.2).bind
          fun _ => ih

end Frame

section Requests

variable {P : Platform → Platform → Prop}
variable [Std.Refl P]
variable [IsTrans Platform P]

/- A run does no more than to copy its samples. -/
theorem execute_of_copies
    (hCopies :
      ∀ (mode : CopyMode) (samples : List (UInt64 × UInt64)),
        Op.Moves P (direct (copySamples mode samples)))
    (r : RunRecord) :
    Op.Moves (Op.Second P) (execute r) := by
  apply Op.Moves.seeing
  rintro ⟨f, m⟩
  dsimp only
  cases f.runFault with
  | some status => exact Op.Moves.fail status
  | none =>
      have hNote :
          Op.Moves (Op.Second P)
            (do
              Op.within Lens.fst
                (Op.modify fun f : Firmware =>
                  { f with log := r :: f.log })
              return [] :
              Op Status (Firmware × Platform)
                (List Param)) :=
        (Op.Moves.within_fst _).bind fun _ =>
          Op.Moves.pure []
      dsimp only
      cases f.setup.copy with
      | none => exact (Op.Moves.pure ()).bind fun _ => hNote
      | some mode =>
          refine Op.Moves.bind ?_ fun _ => hNote
          exact (hCopies mode _).within_snd

/- Taking a request, firmware can only complain. -/
theorem consider_moves
    (hLog :
      ∀ (e : LogEvent) (m : Platform),
        P m { m with telemetry := m.telemetry.log e })
    (files : FileTree)
    (r : Request) :
    Op.Moves (Op.Second P) (consider files r) := by
  have hLoad :
      Op.Moves (Op.Second P) (loadModel files r.params) := by
    apply Op.Moves.seeing
    rintro ⟨f, m⟩
    dsimp only
    split
    · split
      · exact Op.Moves.fail _
      · split
        · exact Op.Moves.fail _
        · split
          · refine (Op.Moves.within_fst _).bind ?_
            exact fun _ => Op.Moves.pure _
          · refine
              Op.Moves.bind (fun s => hLog _ s.2) fun _ => ?_
            exact Op.Moves.fail _
    · exact Op.Moves.fail _
  have hRun :
      ∀ opcode : Opcode,
        Op.Moves (Op.Second P)
          (do
            let record ← Op.within Lens.fst
              (Op.change (countRun opcode r.params))
            return .run record :
            Op Status (Firmware × Platform) Decision) :=
    fun opcode =>
      (Op.Moves.within_fst _).bind fun _ => Op.Moves.pure _
  unfold consider
  split
  · refine (Op.Moves.within_fst _).bind ?_
    exact fun _ => Op.Moves.pure _
  · exact hLoad
  · exact Op.Moves.pure _
  · apply Op.Moves.seeing
    exact fun _ => Op.Moves.pure _
  · exact hRun _

end Requests

/- The samples are copied with no failures planned. -/
theorem execute_moves
    {P : Platform → Platform → Prop}
    [Platform.Frame P]
    (r : RunRecord) :
    Op.Moves (Op.Second P) (execute r) :=
  execute_of_copies
    (fun mode samples =>
      direct_moves (copySamples_moves mode samples)) r

end Firmware

namespace Platform

/- A preorder that allows what firmware does, and entries. -/
class Serving (P : Platform → Platform → Prop) : Prop
    extends Std.Refl P, IsTrans Platform P where
  logged : ∀ (e : LogEvent) (m : Platform),
    P m { m with telemetry := m.telemetry.log e }
  executed : ∀ r : RunRecord,
    Op.Moves (Op.Second P) (Firmware.execute r)

instance
    {P : Platform → Platform → Prop}
    [Frame P] : Serving P where
  logged := fun _ m =>
    Frame.recorded _ m (.refl m.telemetry)
  executed := Firmware.execute_moves

end Platform

------------------------------------------------------------
-- Services
------------------------------------------------------------

namespace Machine

/- Of the platform alone, `R` allows this change. -/
def Through
    (R : Machine → Machine → Prop)
    (p p' : Platform) : Prop :=
  ∀ m : Machine,
    R { m with platform := p } { m with platform := p' }

/-
  A preorder that allows what services do: what firmware does
  to the platform, and to change gates, transports and the
  clock.
-/
class Services (R : Machine → Machine → Prop) : Prop
    extends Std.Refl R, IsTrans Machine R where
  serving : Platform.Serving (Through R)
  aside : ∀ (m : Machine) (gates : List (String × Gate))
      (transports : Table Transport) (now : Nat),
    R m
      { m with
        gates := gates
        transports := transports
        now := now }

attribute [instance] Services.serving

section Parts

variable {ε α τ : Type}
variable {R : Machine → Machine → Prop}

instance [Std.Refl R] : Std.Refl (Through R) where
  refl p m := Std.Refl.refl { m with platform := p }

instance [IsTrans Machine R] :
    IsTrans Platform (Through R) where
  trans _ _ _ hFirst hNext m :=
    IsTrans.trans _ _ _ (hFirst m) (hNext m)

theorem onPlatform_moves
    {x : Op ε Platform α}
    (hx : Op.Moves (Through R) x) :
    Op.Moves R (onPlatform x) :=
  fun m => hx m.platform m

/- What is run on a row of a table that may be changed. -/
theorem onRow_moves
    [Std.Refl R]
    [IsTrans Machine R]
    {part : Lens Machine (Table τ)}
    (hPart : ∀ (t : Table τ) (m : Machine), R m (part.set t m))
    {x : Op ε (τ × Platform) α}
    (hx : Op.Moves (Op.Second (Through R)) x)
    (key : Nat)
    (fallback : Except ε α) :
    Op.Moves R (onRow part key fallback x) := by
  intro m
  unfold onRow
  cases (part.get m).get? key with
  | none => exact Std.Refl.refl m
  | some row =>
      exact
        IsTrans.trans _ _ _ (hx (row, m.platform) m)
          (hPart _ _)

end Parts

section Services

variable {ε : Type}
variable {R : Machine → Machine → Prop}
variable [Services R]
variable {m : Machine}

theorem logged_moves
    (event : Option LogEvent)
    (m : Machine) : R m (m.logged event) := by
  cases event with
  | none => exact Std.Refl.refl m
  | some e =>
      have hLogged : Through R m.platform _ :=
        Platform.Serving.logged e m.platform
      exact hLogged m

theorem answerChannel_moves
    (c : Channel)
    (outcome : Except Status (List Param))
    (m : Machine) : R m (m.answerChannel c outcome).2 :=
  logged_moves _ m

/- What firmware did to the platform, and its answer. -/
theorem served_moves
    {p : Platform}
    (h : Through R m.platform p)
    (c : Channel)
    (outcome : Except Status (List Param)) :
    R m
      (answerChannel c outcome { m with platform := p }).2 :=
  IsTrans.trans _ _ _ (h m) (answerChannel_moves c outcome _)

theorem serveEcho_moves
    (c : Channel)
    (e : Echo)
    (r : Request)
    (m : Machine) : R m (m.serveEcho c e r).2 := by
  unfold serveEcho
  cases e.handle r with
  | some outcome => exact answerChannel_moves c outcome m
  | none => exact Std.Refl.refl m

theorem finishRun_moves
    (c : Channel)
    (f : Firmware)
    (record : RunRecord)
    (m : Machine) : R m (m.finishRun c f record).2 := by
  have hExecuted :
      Op.Moves (Op.Second (Through R))
        (Firmware.execute record) :=
    Platform.Serving.executed record
  exact served_moves (hExecuted (f, m.platform)) _ _

theorem serveFirmware_moves
    (c : Channel)
    (f : Firmware)
    (r : Request)
    (m : Machine) : R m (m.serveFirmware c f r).2 := by
  have hMoves :
      Op.Moves (Op.Second (Through R))
        (Firmware.consider m.files r) :=
    Firmware.consider_moves Platform.Serving.logged _ r
  have hConsidered := hMoves (f, m.platform)
  unfold serveFirmware
  rcases hRun : Firmware.consider m.files r (f, m.platform)
    with ⟨status | outputs | record, f', p⟩
  · rw [hRun] at hConsidered
    exact served_moves hConsidered _ _
  · rw [hRun] at hConsidered
    exact served_moves hConsidered _ _
  · rw [hRun] at hConsidered
    have hTaken : R m { m with platform := p } :=
      hConsidered m
    dsimp only
    cases f'.setup.delay with
    | none =>
        exact
          IsTrans.trans _ _ _ hTaken
            (finishRun_moves c f' record _)
    | some delay => exact hTaken

theorem setGate_moves
    (name : String)
    (g : Gate)
    (m : Machine) : R m (m.setGate name g) :=
  Services.aside m _ m.transports m.now

theorem transports_moves
    (transports : Table Transport)
    (m : Machine) :
    R m { m with transports := transports } :=
  Services.aside m m.gates transports m.now

/- The clock goes on. -/
theorem now_moves
    (time : Nat)
    (m : Machine) : R m { m with now := time } :=
  Services.aside m m.gates m.transports time

theorem beginService_moves
    (c : Channel)
    (r : Request)
    (m : Machine) : R m (m.beginService c r).2 := by
  unfold beginService
  cases c.service with
  | accelerator f => exact serveFirmware_moves c f r m
  | echo e =>
      dsimp only
      cases e.gate with
      | none => exact serveEcho_moves c e r m
      | some g => exact setGate_moves g _ m

------------------------------------------------------------
-- Channels
------------------------------------------------------------

theorem takeRequest_moves
    {c : Channel}
    {next : Channel × Machine}
    (h : m.takeRequest c = some next) : R m next.2 := by
  unfold takeRequest at h
  cases hTake : c.link.take with
  | none =>
      rw [hTake] at h
      cases h
  | some taken =>
      rcases taken with ⟨event, link⟩
      rw [hTake] at h
      have hLogged : R m (m.logged event) :=
        logged_moves event m
      simp only at h
      split at h
      · cases h
        exact
          IsTrans.trans _ _ _ hLogged
            (beginService_moves _ _ _)
      · cases h
        exact hLogged

/- A gate that lets somebody pass has a permit less. -/
theorem passGate?_moves
    {g : String}
    {m' : Machine}
    (h : m.passGate? g = some m') : R m m' := by
  unfold passGate? at h
  cases hPass : (m.gate g).pass? with
  | none => simp [hPass] at h
  | some gate =>
      rw [hPass] at h
      cases h
      exact setGate_moves g gate m

theorem resumeAtGate_moves
    {c : Channel}
    {g : String}
    {next : Channel × Machine}
    (h : m.resumeAtGate c g = some next) : R m next.2 := by
  unfold resumeAtGate at h
  cases hPass : m.passGate? g with
  | none =>
      rw [hPass] at h
      cases h
  | some m' =>
      have hPassed : R m m' := passGate?_moves hPass
      rw [hPass] at h
      simp only at h
      split at h
      · cases h
        exact
          IsTrans.trans _ _ _ hPassed
            (serveEcho_moves _ _ _ _)
      · cases h
        exact hPassed

theorem resumeAsleep_moves
    {c : Channel}
    {wake : Nat}
    {record : RunRecord}
    {next : Channel × Machine}
    (h : m.resumeAsleep c wake record = some next) :
    R m next.2 := by
  unfold resumeAsleep at h
  split at h
  · cases hService : c.service with
    | accelerator f =>
        rw [hService] at h
        cases h
        exact finishRun_moves c f record m
    | echo e =>
        rw [hService] at h
        cases h
        exact Std.Refl.refl m
  · cases h

/- Whatever a service does next is allowed. -/
theorem channelStep_moves
    {c : Channel}
    {next : Channel × Machine}
    (h : m.channelStep c = some next) : R m next.2 := by
  unfold channelStep at h
  cases hStall : c.stall with
  | free =>
      rw [hStall] at h
      exact takeRequest_moves h
  | atGate g =>
      rw [hStall] at h
      exact resumeAtGate_moves h
  | asleep wake record =>
      rw [hStall] at h
      exact resumeAsleep_moves h

theorem runChannel_moves
    (fuel : Nat)
    (c : Channel)
    (m : Machine) : R m (runChannel fuel c m).2 := by
  induction fuel generalizing c m with
  | zero => exact Std.Refl.refl m
  | succ fuel ih =>
      unfold runChannel
      cases hStep : m.channelStep c with
      | none => exact Std.Refl.refl m
      | some next =>
          exact
            IsTrans.trans _ _ _ (channelStep_moves hStep)
              (ih next.1 next.2)

theorem settleTransport_moves
    (m : Machine)
    (key : Nat) : R m (m.settleTransport key) := by
  unfold settleTransport
  split
  · rename_i c _
    have hMove :
        R m
          (runChannel (2 * c.link.requests.length + 3) c
            m).2 :=
      runChannel_moves _ c m
    rcases hRun :
        runChannel (2 * c.link.requests.length + 3) c m with
      ⟨c', m'⟩
    rw [hRun] at hMove
    exact IsTrans.trans _ _ _ hMove (transports_moves _ m')
  · exact Std.Refl.refl m

/- Services run on together, whichever there are. -/
theorem settleTransports_moves
    (m : Machine) : R m m.settleTransports := by
  unfold settleTransports
  generalize m.transports.keys = keys
  induction keys generalizing m with
  | nil => exact Std.Refl.refl m
  | cons key rest ih =>
      exact
        IsTrans.trans _ _ _ (settleTransport_moves m key)
          (ih _)

------------------------------------------------------------
-- Time
------------------------------------------------------------

theorem arriveAt_moves
    (time : Nat)
    (m : Machine) : R m (m.arriveAt time) :=
  IsTrans.trans _ _ _ (now_moves _ m)
    (settleTransports_moves _)

theorem passTime_moves
    (time fuel : Nat)
    (m : Machine) : R m (passTime time fuel m) := by
  induction fuel generalizing m with
  | zero => exact now_moves _ m
  | succ fuel ih =>
      unfold passTime
      split
      · exact now_moves _ m
      · exact
          IsTrans.trans _ _ _ (arriveAt_moves _ m) (ih _)

theorem advanceBy_moves
    (d : Duration)
    (m : Machine) : R m (m.advanceBy d) := by
  unfold advanceBy
  cases d.deadline m.now with
  | none => exact Std.Refl.refl m
  | some time => exact passTime_moves time _ m

------------------------------------------------------------
-- Calls
------------------------------------------------------------

theorem setLink_moves
    (key : Nat)
    (link : Link)
    (m : Machine) : R m (m.setLink key link) := by
  unfold setLink
  cases m.channel? key with
  | none => exact Std.Refl.refl m
  | some c => exact transports_moves _ m

theorem numberRequest_moves
    (key : Nat)
    (r : Request) : Op.Moves R (numberRequest key r) := by
  intro m
  unfold numberRequest
  cases m.channel? key with
  | none => exact Std.Refl.refl m
  | some c => exact setLink_moves key _ m

theorem sendFrame_moves
    (key : Nat)
    (frame : Bytes)
    (fuel : Nat) : Op.Moves R (sendFrame key frame fuel) := by
  induction fuel with
  | zero => exact Op.Moves.fail DispatchError.messageLost
  | succ fuel ih =>
      intro m
      unfold sendFrame
      cases m.channel? key with
      | none => exact Std.Refl.refl m
      | some c =>
          dsimp only
          split
          · exact Std.Refl.refl m
          · split
            · exact
                IsTrans.trans _ _ _ (setLink_moves key _ m)
                  (settleTransport_moves _ key)
            · cases m.nextWake? with
              | none => exact Std.Refl.refl m
              | some wake =>
                  exact
                    IsTrans.trans _ _ _
                      (arriveAt_moves wake m) (ih _)

theorem awaitAnswer_moves
    (key : Nat)
    (r : Request)
    (deadline : Option Nat)
    (fuel : Nat) :
    Op.Moves R (awaitAnswer key r deadline fuel) := by
  induction fuel with
  | zero => exact Op.Moves.fail DispatchError.timeout
  | succ fuel ih =>
      intro m
      unfold awaitAnswer
      cases m.channel? key with
      | none => exact Std.Refl.refl m
      | some c =>
          dsimp only
          rcases c.link.receive with ⟨frame | frame, link⟩
          · dsimp only
            split
            · exact Std.Refl.refl m
            · split
              · rename_i wake _
                exact
                  IsTrans.trans _ _ _ (arriveAt_moves wake m)
                    (ih _)
              · have hLate :
                    R m
                      { m with
                        now := max m.now (deadline.getD 0) } :=
                  now_moves _ m
                exact
                  IsTrans.trans _ _ _ hLate
                    (logged_moves (some (callExpired r)) _)
          · have hReceived : R m (m.setLink key link) :=
              setLink_moves key link m
            dsimp only
            split
            · exact hReceived
            · exact hReceived
            · refine IsTrans.trans _ _ _ hReceived ?_
              exact
                IsTrans.trans _ _ _ (logged_moves _ _) (ih _)

theorem rpcChannel_moves
    (key : Nat)
    (r : Request)
    (timeout : Duration) :
    Op.Moves R (rpcChannel key r timeout) := by
  refine (numberRequest_moves key r).bind ?_
  intro r
  refine Op.Moves.bind (Op.Moves.ofExcept r.encode) ?_
  intro frame
  apply Op.Moves.seeing
  intro m
  refine (sendFrame_moves key frame _).bind ?_
  intro _
  apply Op.Moves.seeing
  exact fun m => awaitAnswer_moves key r _ _

theorem rpc_moves
    (transport : Nat)
    (r : Request)
    (timeout : Duration) :
    Op.Moves R (rpc transport r timeout) := by
  intro m
  unfold rpc
  cases m.transports.get? transport with
  | none => exact Std.Refl.refl m
  | some row =>
      cases row with
      | channel c =>
          exact rpcChannel_moves transport r timeout m
      | scripted s => exact transports_moves _ m

/- A call of firmware, whatever its answer. -/
theorem call_moves
    (transport : Nat)
    (opcode : Opcode)
    (params : List Param)
    (timeout : Duration) :
    Op.Moves R (call transport opcode params timeout) := by
  refine (rpc_moves transport _ timeout).bind ?_
  intro r
  exact Op.Moves.ofExcept r.result

theorem log_moves
    (level : Level)
    (message : String)
    (fields : List (String × String)) :
    Op.Moves R
      (log level message fields : Op ε Machine Unit) :=
  fun m => logged_moves (some ⟨level, message, fields⟩) m

end Services

end Machine

end Offload
