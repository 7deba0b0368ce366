import Offload.Proofs.Machine.Calls

/-
  Transports that leave the device alone.

  A service that has nothing to do, and an echo whatever it
  does, change neither the device nor the files. Where all
  transports but one are like that, only the service of that
  one has to be watched while a machine lets services run.

  Key definitions include:
    * `Machine.Still`
    * `Channel.Quiet`
    * `Transport.Quiet`
    * `Machine.Attends`

  Main results:
    * `Channel.Quiet.run`
    * `Machine.Attends.settle_other`
    * `Machine.Attends.settle_all_idle`
    * `Machine.Attends.nextWake?`
-/

namespace Offload

------------------------------------------------------------
-- Machines That Stand Still
------------------------------------------------------------

namespace Machine

/-
  A machine has the device, the planned failures, the files
  and the time that it had.
-/
structure Still
    (m m' : Machine) : Prop where
  device : m'.platform.device = m.platform.device
  faults : m'.platform.faults = m.platform.faults
  files : m'.files = m.files
  now : m'.now = m.now

theorem Still.refl
    (m : Machine) : m.Still m :=
  ⟨rfl, rfl, rfl, rfl⟩

theorem Still.trans
    {m m' m'' : Machine}
    (hFirst : m.Still m')
    (hNext : m'.Still m'') : m.Still m'' :=
  ⟨hNext.device.trans hFirst.device,
    hNext.faults.trans hFirst.faults,
    hNext.files.trans hFirst.files,
    hNext.now.trans hFirst.now⟩

theorem still_logged
    (event : Option LogEvent)
    (m : Machine) : m.Still (m.logged event) := by
  cases event with
  | none => exact .refl m
  | some e => exact ⟨rfl, rfl, rfl, rfl⟩

------------------------------------------------------------
-- Channels That Run On
------------------------------------------------------------

theorem runChannel_next
    {c : Channel}
    {m : Machine}
    {next : Channel × Machine}
    (hStep : m.channelStep c = some next)
    (fuel : Nat) :
    runChannel (fuel + 1) c m =
      runChannel fuel next.1 next.2 := by
  simp only [runChannel, hStep]

theorem runChannel_idle
    {c : Channel}
    {m : Machine}
    (hStep : m.channelStep c = none)
    (fuel : Nat) : runChannel fuel c m = (c, m) := by
  cases fuel with
  | zero => rfl
  | succ fuel => simp only [runChannel, hStep]

end Machine

------------------------------------------------------------
-- Quiet Channels
------------------------------------------------------------

/-
  A channel whose service does nothing to the device: a
  simulated accelerator without a request, or an echo.
-/
def Channel.Quiet
    (c : Channel) : Prop :=
  match c.service with
  | .accelerator _ => c.stall = .free ∧ c.link.requests = []
  | .echo _ => c.wake? = none

/- A transport whose service does nothing to the device. -/
def Transport.Quiet : Transport → Prop
  | .channel c => c.Quiet
  | .scripted _ => True

namespace Channel

variable {c c' : Channel}
variable {m m' : Machine}

/- A quiet channel does not sleep. -/
theorem Quiet.wake?_eq_none
    (hQuiet : c.Quiet) : c.wake? = none := by
  unfold Quiet at hQuiet
  cases hService : c.service with
  | accelerator f =>
      rw [hService] at hQuiet
      rw [wake?, hQuiet.1]
  | echo e =>
      rw [hService] at hQuiet
      exact hQuiet

theorem quiet_of_echo
    {e : Echo}
    (hService : c.service = .echo e)
    (hAwake : c.wake? = none) : c.Quiet := by
  unfold Quiet
  rw [hService]
  exact hAwake

/- An accelerator without a request does nothing. -/
theorem step_of_idle
    (hStall : c.stall = .free)
    (hRequests : c.link.requests = []) :
    m.channelStep c = none := by
  have hTake : c.link.take = none := by
    unfold Link.take
    rw [hRequests]
    cases c.link.phase <;> rfl
  simp only [Machine.channelStep, hStall,
    Machine.takeRequest, hTake]

/- An echo only answers. -/
theorem quiet_serveEcho
    {e : Echo}
    (hService : c.service = .echo e)
    (d : Echo)
    (r : Request) :
    (m.serveEcho c d r).1.Quiet ∧
      m.Still (m.serveEcho c d r).2 := by
  unfold Machine.serveEcho
  cases d.handle r with
  | none => exact ⟨quiet_of_echo hService rfl, .refl m⟩
  | some outcome =>
      exact
        ⟨quiet_of_echo hService rfl,
          Machine.still_logged _ m⟩

theorem quiet_beginService
    {e : Echo}
    (hService : c.service = .echo e)
    (r : Request) :
    (m.beginService c r).1.Quiet ∧
      m.Still (m.beginService c r).2 := by
  simp only [Machine.beginService, hService]
  cases e.gate with
  | none => exact quiet_serveEcho hService e r
  | some g =>
      exact ⟨quiet_of_echo rfl rfl, ⟨rfl, rfl, rfl, rfl⟩⟩

/- What a quiet channel does leaves the device alone. -/
theorem Quiet.step
    (hQuiet : c.Quiet)
    (hStep : m.channelStep c = some (c', m')) :
    c'.Quiet ∧ m.Still m' := by
  have hAwake := hQuiet.wake?_eq_none
  unfold Quiet at hQuiet
  cases hService : c.service with
  | accelerator f =>
      rw [hService] at hQuiet
      rw [step_of_idle hQuiet.1 hQuiet.2] at hStep
      cases hStep
  | echo e =>
      unfold Machine.channelStep at hStep
      cases hStall : c.stall with
      | asleep wake record =>
          rw [wake?, hStall] at hAwake
          cases hAwake
      | atGate g =>
          simp only [hStall, Machine.resumeAtGate,
            Machine.passGate?] at hStep
          cases hPass : (m.gate g).pass? with
          | none => simp [hPass] at hStep
          | some gate =>
              simp only [hPass, Option.map_some] at hStep
              have hOpened : m.Still (m.setGate g gate) :=
                ⟨rfl, rfl, rfl, rfl⟩
              split at hStep
              · rename_i d r hEcho _
                have hServed :=
                  quiet_serveEcho (m := m.setGate g gate)
                    hService d r
                rw [Option.some.inj hStep] at hServed
                exact ⟨hServed.1, hOpened.trans hServed.2⟩
              · cases hStep
                exact ⟨quiet_of_echo hService rfl, hOpened⟩
      | free =>
          simp only [hStall, Machine.takeRequest] at hStep
          cases hTake : c.link.take with
          | none => simp [hTake] at hStep
          | some taken =>
              rcases taken with ⟨event, l⟩
              simp only [hTake] at hStep
              have hLogged := Machine.still_logged event m
              split at hStep
              · rename_i r _
                have hBegun :=
                  quiet_beginService (m := m.logged event)
                    (c := ⟨l, c.service, .free⟩) hService r
                rw [Option.some.inj hStep] at hBegun
                exact ⟨hBegun.1, hLogged.trans hBegun.2⟩
              · cases hStep
                exact ⟨quiet_of_echo hService rfl, hLogged⟩

/- A quiet channel that runs on leaves the device alone. -/
theorem Quiet.run
    (fuel : Nat)
    (hQuiet : c.Quiet) :
    (Machine.runChannel fuel c m).1.Quiet ∧
      m.Still (Machine.runChannel fuel c m).2 := by
  induction fuel generalizing c m with
  | zero => exact ⟨hQuiet, .refl m⟩
  | succ fuel ih =>
      unfold Machine.runChannel
      cases hStep : m.channelStep c with
      | none => exact ⟨hQuiet, .refl m⟩
      | some next =>
          rcases next with ⟨c', m'⟩
          rcases hQuiet.step hStep with ⟨hQuiet', hStill⟩
          rcases ih (m := m') hQuiet' with ⟨hEnd, hRest⟩
          exact ⟨hEnd, hStill.trans hRest⟩

end Channel

------------------------------------------------------------
-- One Channel among Quiet Transports
------------------------------------------------------------

namespace Machine

/-
  A channel has a number, and all transports with another
  number are quiet.
-/
structure Attends
    (key : Nat)
    (c : Channel)
    (m : Machine) : Prop where
  here : m.transports.get? key = some (.channel c)
  own :
    ∀ row ∈ m.transports.rows,
      row.1 = key → row.2 = .channel c
  others :
    ∀ row ∈ m.transports.rows, row.1 ≠ key → row.2.Quiet

variable {key : Nat}
variable {c : Channel}
variable {m m' : Machine}

theorem Attends.channel?
    (h : m.Attends key c) : m.channel? key = some c :=
  channel?_eq_some.mpr h.here

theorem Attends.of_transports
    (h : m.Attends key c)
    (hSame : m'.transports = m.transports) :
    m'.Attends key c := by
  constructor
  · rw [hSame]
    exact h.here
  · rw [hSame]
    exact h.own
  · rw [hSame]
    exact h.others

/- The channel is replaced. -/
theorem Attends.replace
    (h : m.Attends key c)
    {c' : Channel}
    (hSet :
      m'.transports =
        m.transports.set key (.channel c')) :
    m'.Attends key c' := by
  constructor
  · rw [hSet]
    exact Table.get?_set_self h.here _
  · rw [hSet]
    intro row hMem hKey
    rcases List.mem_map.mp hMem with ⟨old, _, rfl⟩
    by_cases hOld : old.1 = key
    · rw [if_pos hOld]
    · rw [if_neg hOld] at hKey
      exact absurd hKey hOld
  · rw [hSet]
    intro row hMem hKey
    rcases List.mem_map.mp hMem with ⟨old, hRow, rfl⟩
    by_cases hOld : old.1 = key
    · rw [if_pos hOld] at hKey
      exact absurd rfl hKey
    · rw [if_neg hOld]
      exact h.others old hRow hOld

/- Another transport is replaced by a quiet one. -/
theorem Attends.replace_other
    (h : m.Attends key c)
    {k : Nat}
    (hNe : k ≠ key)
    {t : Transport}
    (hQuiet : t.Quiet)
    (hSet : m'.transports = m.transports.set k t) :
    m'.Attends key c := by
  constructor
  · rw [hSet, Table.get?_set_other hNe.symm]
    exact h.here
  · rw [hSet]
    intro row hMem hKey
    rcases List.mem_map.mp hMem with ⟨old, hRow, rfl⟩
    by_cases hOld : old.1 = k
    · rw [if_pos hOld] at hKey
      exact absurd hKey hNe
    · rw [if_neg hOld] at hKey ⊢
      exact h.own old hRow hKey
  · rw [hSet]
    intro row hMem hKey
    rcases List.mem_map.mp hMem with ⟨old, hRow, rfl⟩
    by_cases hOld : old.1 = k
    · rw [if_pos hOld]
      exact hQuiet
    · rw [if_neg hOld] at hKey ⊢
      exact h.others old hRow hKey

/- The link of the channel is replaced. -/
theorem Attends.setLink
    {l : Link}
    {service : Service}
    {stall : Stall}
    (h : m.Attends key ⟨l, service, stall⟩)
    (l' : Link) :
    (m.setLink key l').Attends key ⟨l', service, stall⟩ ∧
      m.Still (m.setLink key l') := by
  unfold Machine.setLink
  rw [h.channel?]
  exact ⟨h.replace rfl, ⟨rfl, rfl, rfl, rfl⟩⟩

/- Another transport runs on. -/
theorem Attends.settle_other
    (h : m.Attends key c)
    {k : Nat}
    (hNe : k ≠ key) :
    (m.settleTransport k).Attends key c ∧
      m.Still (m.settleTransport k) := by
  unfold settleTransport
  split
  · rename_i d hRow
    have hQuiet : d.Quiet := by
      rcases List.lookup_eq_some_iff.mp hRow with
        ⟨before, behind, hRows, _⟩
      refine h.others (k, .channel d) ?_ hNe
      rw [hRows]
      simp
    have hTables :=
      (runChannel_works (2 * d.link.requests.length + 3) d m
        (s := ⟨d.link, .idle, [], []⟩) rfl).1
    rcases hQuiet.run (2 * d.link.requests.length + 3)
        (m := m) with
      ⟨hQuiet', hStill⟩
    refine
      ⟨?_, hStill.device, hStill.faults, hStill.files,
        hStill.now⟩
    apply h.replace_other hNe
      (t := .channel
        (runChannel (2 * d.link.requests.length + 3) d m).1)
      hQuiet'
    exact congrArg (Table.set · k _) hTables
  · exact ⟨h, .refl m⟩

/- The channel itself runs on. -/
theorem Attends.settle_self
    (h : m.Attends key c)
    {run : Channel × Machine}
    (hRun :
      runChannel (2 * c.link.requests.length + 3) c m = run)
    (hSame : run.2.transports = m.transports) :
    (m.settleTransport key).Attends key run.1 ∧
      run.2.Still (m.settleTransport key) := by
  unfold settleTransport
  rw [h.here]
  simp only [hRun]
  exact
    ⟨h.replace (congrArg (Table.set · key _) hSame),
      ⟨rfl, rfl, rfl, rfl⟩⟩

/- The channel itself has nothing to do. -/
theorem Attends.settle_idle
    (h : m.Attends key c)
    (hIdle : ∀ n : Machine, n.channelStep c = none) :
    (m.settleTransport key).Attends key c ∧
      m.Still (m.settleTransport key) :=
  h.settle_self (runChannel_idle (hIdle m) _) rfl

/- Transports run on while the channel has nothing to do. -/
theorem Attends.settle_all_idle
    (h : m.Attends key c)
    (hIdle : ∀ n : Machine, n.channelStep c = none)
    (keys : List Nat) :
    (keys.foldl settleTransport m).Attends key c ∧
      m.Still (keys.foldl settleTransport m) := by
  induction keys generalizing m with
  | nil => exact ⟨h, .refl m⟩
  | cons k keys ih =>
      have hStep :
          (m.settleTransport k).Attends key c ∧
            m.Still (m.settleTransport k) := by
        by_cases hKey : k = key
        · rw [hKey]
          exact h.settle_idle hIdle
        · exact h.settle_other hKey
      rcases ih hStep.1 with ⟨hEnd, hStill⟩
      exact ⟨hEnd, hStep.2.trans hStill⟩

/- The next to wake up is the service of the channel. -/
theorem Attends.nextWake?
    (h : m.Attends key c)
    {wake : Nat}
    (hWake : c.wake? = some wake) :
    m.nextWake? = some wake := by
  have hOnly : ∀ w ∈ m.wakes, w = wake := by
    intro w hMem
    rcases List.mem_filterMap.mp hMem with
      ⟨⟨k, t⟩, hRow, hSome⟩
    by_cases hKey : k = key
    · cases h.own _ hRow hKey
      exact Option.some.inj (hSome.symm.trans hWake)
    · have hQuiet := h.others _ hRow hKey
      cases t with
      | channel d =>
          cases hQuiet.wake?_eq_none.symm.trans hSome
      | scripted s => cases hSome
  have hHere : wake ∈ m.wakes := by
    rcases List.lookup_eq_some_iff.mp h.here with
      ⟨before, behind, hRows, _⟩
    refine
      List.mem_filterMap.mpr ⟨(key, .channel c), ?_, hWake⟩
    rw [hRows]
    simp
  apply List.min?_eq_some_iff.mpr
  exact ⟨hHere, fun w hMem => Nat.le_of_eq (hOnly w hMem).symm⟩

end Machine

end Offload
