import Offload.Proofs.Memory.Cursors
import Offload.Proofs.Memory.Holdings

/-
  Events that turn handles into others.

  The events of holdings name handles by their numbers in a
  table. Seen from whoever holds some of the handles, a run
  of them turns these handles into others, and leaves all
  that are held elsewhere alone. What is turned into what
  composes, and keeps the account of the device.

  Key definitions include:
    * `Holdings.Turns`
    * `Holdings.Forward`

  Main results:
    * `Holdings.turns_map`
    * `Holdings.turns_release`
    * `Holdings.forward_run`
    * `Holdings.Turns.keeps`
-/

namespace Offload

------------------------------------------------------------
-- Turns
------------------------------------------------------------

namespace Holdings

/-
  Events lead from these handles on this platform to those
  on that one, and leave all other handles alone.
-/
def Turns
    (m : Platform)
    (hs : List Handle)
    (m' : Platform)
    (hs' : List Handle) : Prop :=
  ∀ (t : Table Handle) (rest : List Handle),
    t.Keyed → t.contents.Perm (hs ++ rest) →
      ∃ t' : Table Handle,
        t'.Keyed ∧ t'.contents.Perm (hs' ++ rest) ∧
          Run.Reaches step ⟨m, t⟩ ⟨m', t'⟩

theorem reaches_event
    (e : Event)
    (m : Platform)
    (t : Table Handle) :
    Run.Reaches step (Holdings.mk m t)
      (step e (Holdings.mk m t)) :=
  Run.reaches_step e (Holdings.mk m t)

section Turns

variable {m m' m'' : Platform}
variable {h : Handle}
variable {hs hs' hs'' : List Handle}

theorem Turns.of_perm
    (hPerm : hs.Perm hs')
    (m : Platform) : Turns m hs m hs' :=
  fun t rest hKeyed hContents =>
    ⟨t, hKeyed, hContents.trans (hPerm.append_right rest),
      .refl _⟩

theorem Turns.refl
    (m : Platform)
    (hs : List Handle) : Turns m hs m hs :=
  .of_perm (List.Perm.refl hs) m

theorem Turns.trans
    (hFirst : Turns m hs m' hs')
    (hNext : Turns m' hs' m'' hs'') :
    Turns m hs m'' hs'' := by
  intro t rest hKeyed hContents
  rcases hFirst t rest hKeyed hContents with
    ⟨t', hKeyed', hContents', hReaches⟩
  rcases hNext t' rest hKeyed' hContents' with
    ⟨t'', hKeyed'', hContents'', hReaches'⟩
  exact
    ⟨t'', hKeyed'', hContents'', hReaches.trans hReaches'⟩

/- What is left may be named in another order. -/
theorem Turns.perm
    (hTurns : Turns m hs m' hs')
    (hPerm : hs'.Perm hs'') : Turns m hs m' hs'' :=
  hTurns.trans (.of_perm hPerm m')

/- Other handles may be named. -/
theorem Turns.frame
    (hTurns : Turns m hs m' hs')
    (more : List Handle) :
    Turns m (hs ++ more) m' (hs' ++ more) := by
  intro t rest hKeyed hContents
  rw [List.append_assoc] at hContents ⊢
  exact hTurns t (more ++ rest) hKeyed hContents

theorem Turns.frame_left
    (hTurns : Turns m hs m' hs')
    (more : List Handle) :
    Turns m (more ++ hs) m' (more ++ hs') :=
  (Turns.of_perm List.perm_append_comm m).trans
    ((hTurns.frame more).perm List.perm_append_comm)

theorem perm_right_comm
    (hs hs' hs'' : List Handle) :
    (hs ++ hs' ++ hs'').Perm (hs ++ hs'' ++ hs') := by
  rw [List.append_assoc, List.append_assoc]
  exact List.perm_append_comm.append_left hs

/- What is recorded is an event of its own. -/
theorem Turns.recorded
    (hSame :
      m'.device = m.device ∧ m'.faults = m.faults) :
    Turns m hs m' hs := by
  intro t rest hKeyed hContents
  have hNote :
      m' = { m with telemetry := m'.telemetry } := by
    rw [← hSame.1, ← hSame.2]
  refine ⟨t, hKeyed, hContents, ?_⟩
  rw [hNote]
  exact reaches_event (.note fun _ => m'.telemetry) m t

/- A plan may be replaced by one that lets releases through. -/
theorem turns_plan
    {faults : FaultPlan}
    (hPlan : Releasing faults) :
    Turns m hs { m with faults := faults } hs := by
  intro t rest hKeyed hContents
  refine ⟨t, hKeyed, hContents, ?_⟩
  have hStep := reaches_event (.plan faults) m t
  rw [step, if_pos hPlan] at hStep
  exact hStep

/- A handle in a table has a number there. -/
theorem found_of_perm
    {t : Table Handle}
    {rest : List Handle}
    (hKeyed : t.Keyed)
    (hContents : t.contents.Perm (h :: rest)) :
    ∃ key,
      t.get? key = some h ∧
        (t.erase key).contents.Perm rest := by
  have hMem : h ∈ t.contents :=
    hContents.mem_iff.mpr List.mem_cons_self
  rcases hKeyed.get?_of_mem hMem with ⟨key, hFound⟩
  refine ⟨key, hFound, ?_⟩
  exact
    ((hKeyed.contents_erase hFound).symm.trans
      hContents).cons_inv

theorem turns_allocate
    (target : MemoryTarget)
    (cache : CachePolicy)
    (sizes : List Nat)
    (m : Platform) :
    Turns m [] (Platform.allocate target cache sizes m).2
      (Device.owners
        (regionsIn
          (Platform.allocate target cache sizes m).1)) := by
  intro t rest hKeyed hContents
  refine
    ⟨addAll _ t, keyed_addAll _ hKeyed, ?_,
      reaches_event (.allocate target cache sizes) m t⟩
  apply (contents_addAll _ t).trans
  exact hContents.append_left _

/- The handles in an answer. A failure has none. -/
def given
    {ε α : Type}
    (f : α → List Handle)
    (answer : Except ε α) : List Handle :=
  match answer with
  | .ok a => f a
  | .error _ => []

theorem turns_attach
    (addr : Nat)
    (m : Platform) :
    Turns m [] (Handle.attach addr m).2
      (given (fun h => [h]) (Handle.attach addr m).1) := by
  intro t rest hKeyed hContents
  have hStep := reaches_event (.attach addr) m t
  simp only [step, Holdings.attach] at hStep
  rcases hRun : Handle.attach addr m with ⟨e | h, m'⟩
  · simp only [hRun] at hStep
    exact ⟨t, hKeyed, hContents, hStep⟩
  · simp only [hRun] at hStep
    refine ⟨_, hKeyed.insert h, ?_, hStep⟩
    exact hContents.cons h

/- An answer without handles. -/
theorem given_none
    {ε α : Type}
    (answer : Except ε α) :
    given (fun _ => []) answer = [] := by
  cases answer <;> rfl

/- A handle after an attempt to map it. -/
def mappedOr
    (h : Handle)
    (answer : Except Error Handle) : Handle :=
  match answer with
  | .ok h' => h'
  | .error _ => h

theorem turns_map
    (h : Handle)
    (m : Platform) :
    Turns m [h] (h.map m).2 [mappedOr h (h.map m).1] := by
  intro t rest hKeyed hContents
  rcases found_of_perm hKeyed hContents with
    ⟨key, hFound, hRest⟩
  have hStep := reaches_event (.map key) m t
  simp only [step, Holdings.map, hFound] at hStep
  rcases hRun : h.map m with ⟨e | h', m'⟩
  · simp only [hRun] at hStep
    exact ⟨t, hKeyed, hContents, hStep⟩
  · simp only [hRun] at hStep
    refine ⟨_, hKeyed.set key h', ?_, hStep⟩
    exact
      (hKeyed.contents_set hFound h').trans (hRest.cons h')

/- Some uses of a handle leave it as it is. -/
theorem turns_through
    (e : Nat → Event)
    {x : Handle → Op Error Platform Unit}
    (hEvent : ∀ key s, step (e key) s = s.through key x)
    (h : Handle)
    (m : Platform) : Turns m [h] (x h m).2 [h] := by
  intro t rest hKeyed hContents
  rcases found_of_perm hKeyed hContents with
    ⟨key, hFound, _⟩
  have hStep := reaches_event (e key) m t
  simp only [hEvent, Holdings.through, hFound] at hStep
  exact ⟨t, hKeyed, hContents, hStep⟩

theorem turns_release
    (h : Handle)
    (m : Platform) :
    Turns m [h] (h.release m : Except Error Unit × _).2
      [] := by
  intro t rest hKeyed hContents
  rcases found_of_perm hKeyed hContents with
    ⟨key, hFound, hRest⟩
  have hStep := reaches_event (.drop key) m t
  simp only [step, Holdings.drop, hFound] at hStep
  exact ⟨_, hKeyed.erase key, hRest, hStep⟩

------------------------------------------------------------
-- What a Turn Keeps
------------------------------------------------------------

theorem Releasing.spares
    (hSpares : m.Spares m')
    (hPlan : Releasing m.faults) : Releasing m'.faults :=
  ⟨hSpares.nil hPlan.1, hSpares.nil hPlan.2.1,
    hSpares.nil hPlan.2.2⟩

/- A use of a handle advances the platform. -/
theorem through_advances
    (s : Holdings)
    (key : Nat)
    {x : Handle → Op Error Platform Unit}
    (hx : ∀ h, Op.Moves Platform.Advances (x h)) :
    s.platform.Advances (s.through key x).platform := by
  unfold Holdings.through
  cases s.handles.get? key with
  | none => exact Std.Refl.refl s.platform
  | some h => exact hx h s.platform

theorem attach_advances
    (s : Holdings)
    (addr : Nat) :
    s.platform.Advances (s.attach addr).platform := by
  have hRun : s.platform.Advances _ :=
    Handle.attach_moves addr s.platform
  unfold Holdings.attach
  rcases hAnswer : Handle.attach addr s.platform with
    ⟨_ | h, m⟩
  · rw [hAnswer] at hRun
    exact hRun
  · rw [hAnswer] at hRun
    exact hRun

theorem map_advances
    (s : Holdings)
    (key : Nat) :
    s.platform.Advances (s.map key).platform := by
  unfold Holdings.map
  cases s.handles.get? key with
  | none => exact Std.Refl.refl s.platform
  | some h =>
      have hRun : s.platform.Advances _ :=
        h.map_moves s.platform
      rcases hAnswer : h.map s.platform with ⟨_ | h', m⟩
      · rw [hAnswer] at hRun
        simp only [hAnswer]
        exact hRun
      · rw [hAnswer] at hRun
        simp only [hAnswer]
        exact hRun

theorem drop_advances
    (s : Holdings)
    (key : Nat) :
    s.platform.Advances (s.drop key).platform := by
  unfold Holdings.drop
  cases s.handles.get? key with
  | none => exact Std.Refl.refl s.platform
  | some h => exact h.release_moves s.platform

/-
  Plans go on letting releases through, and no cursor moves
  back.
-/
structure Forward
    (s s' : Holdings) : Prop where
  releasing :
    Releasing s.platform.faults →
      Releasing s'.platform.faults
  cursors :
    ∀ t,
      (s.platform.device.windows t).next ≤
        (s'.platform.device.windows t).next

theorem Forward.of_advances
    {s s' : Holdings}
    (h : s.platform.Advances s'.platform) :
    Forward s s' where
  releasing := fun hPlan =>
    ⟨h.spares.nil hPlan.1, h.spares.nil hPlan.2.1,
      h.spares.nil hPlan.2.2⟩
  cursors := h.cursors

theorem forward_step
    (s : Holdings)
    (e : Event) : Forward s (step e s) := by
  cases e with
  | allocate target cache sizes =>
      apply Forward.of_advances
      exact
        Platform.allocate_moves target cache sizes s.platform
  | attach addr => exact .of_advances (s.attach_advances addr)
  | map key => exact .of_advances (s.map_advances key)
  | invalidate key =>
      apply Forward.of_advances
      exact s.through_advances key Handle.invalidate_moves
  | flush key =>
      apply Forward.of_advances
      exact s.through_advances key Handle.flush_moves
  | write key start bytes =>
      apply Forward.of_advances
      exact
        s.through_advances key fun h =>
          h.write_moves start bytes
  | drop key => exact .of_advances (s.drop_advances key)
  | note f => exact ⟨id, fun _ => Nat.le_refl _⟩
  | plan faults =>
      simp only [step]
      split
      · rename_i hPlan
        exact ⟨fun _ => hPlan, fun _ => Nat.le_refl _⟩
      · exact ⟨id, fun _ => Nat.le_refl _⟩

theorem forward_run
    (es : List Event)
    (s : Holdings) : Forward s (Run.after step es s) := by
  induction es generalizing s with
  | nil => exact ⟨id, fun _ => Nat.le_refl _⟩
  | cons e rest ih =>
      have hFirst := forward_step s e
      have hRest := ih (step e s)
      exact
        ⟨fun hPlan => hRest.releasing (hFirst.releasing hPlan),
          fun t =>
            Nat.le_trans (hFirst.cursors t) (hRest.cursors t)⟩

/- No window is left before the end of a run. -/
theorem inside_run
    {s : Holdings}
    {es : List Event}
    (hInside :
      (Run.after step es s).platform.device.CursorsInside) :
    ∀ t ∈ Run.states step es s,
      t.platform.device.CursorsInside := by
  induction es generalizing s with
  | nil =>
      intro t hMem
      rw [List.mem_singleton.mp hMem]
      exact hInside
  | cons e rest ih =>
      intro t hMem
      rcases List.mem_cons.mp hMem with rfl | hLater
      · intro target
        have hNext := (forward_run (e :: rest) t).cursors target
        exact Nat.le_trans hNext (hInside target)
      · exact ih hInside t hLater

/- Holdings of some handles. -/
def ofHandles
    (m : Platform)
    (hs : List Handle) : Holdings :=
  ⟨m, addAll hs Table.empty⟩

theorem keyed_ofHandles
    (m : Platform)
    (hs : List Handle) : (ofHandles m hs).handles.Keyed :=
  keyed_addAll hs Table.keyed_empty

theorem held_ofHandles
    (m : Platform)
    (hs : List Handle) : (ofHandles m hs).held.Perm hs := by
  have hAll := contents_addAll hs Table.empty
  change (ofHandles m hs).held.Perm (hs ++ []) at hAll
  rw [List.append_nil] at hAll
  exact hAll

/- Some holdings that events turn into others. -/
theorem Turns.reaches
    (hTurns : Turns m hs m' hs')
    (rest : List Handle) :
    ∃ t' : Table Handle,
      t'.contents.Perm (hs' ++ rest) ∧
        Run.Reaches step (ofHandles m (hs ++ rest))
          ⟨m', t'⟩ := by
  rcases hTurns _ rest (keyed_ofHandles m (hs ++ rest))
      (held_ofHandles m (hs ++ rest)) with
    ⟨t', _, hContents, hReaches⟩
  exact ⟨t', hContents, hReaches⟩

theorem Turns.releasing
    (hTurns : Turns m hs m' hs')
    (hPlan : Releasing m.faults) : Releasing m'.faults := by
  rcases hTurns.reaches [] with ⟨t', _, es, hAfter⟩
  have hForward :=
    (forward_run es (ofHandles m (hs ++ []))).releasing hPlan
  rw [hAfter] at hForward
  exact hForward

/-
  A device that accounts for handles accounts for what they
  are turned into, among any others, if no window is left.
-/
theorem Turns.keeps
    {rest : List Handle}
    (hTurns : Turns m hs m' hs')
    (hKeeps : m.Keeps (hs ++ rest))
    (hInside : m'.device.CursorsInside) :
    m'.Keeps (hs' ++ rest) := by
  rcases hTurns.reaches rest with ⟨t', hContents, es, hAfter⟩
  have hFirst : (ofHandles m (hs ++ rest)).Sound :=
    ⟨keyed_ofHandles m (hs ++ rest),
      hKeeps.perm (held_ofHandles m (hs ++ rest)).symm⟩
  have hEnd :
      (Run.after step es
        (ofHandles m
          (hs ++ rest))).platform.device.CursorsInside := by
    rw [hAfter]
    exact hInside
  have hLast :=
    sound_run hFirst (inside_run hEnd) _
      (Run.after_mem_states es _)
  rw [hAfter] at hLast
  exact hLast.keeps.perm hContents

end Turns

end Holdings

end Offload
