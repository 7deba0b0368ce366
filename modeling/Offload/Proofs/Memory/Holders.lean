import Offload.Proofs.Memory.Buffers
import Offload.Proofs.Memory.Custody

/-
  What handles and buffers do with the handles they have.

  Obtaining a handle that fails leaves none; mapping one
  that fails leaves it as it was. A buffer is made of all
  segments that were allocated for it or of none, and what
  is done to it later does nothing to its handles but map
  them.

  Main results:
    * `Handle.carries_mapOrRelease`
    * `Buffer.carries_assemble`
    * `Buffer.carries_map`
    * `Allocator.carries_allocateLayout`
-/

namespace Offload

open Holdings

variable {ε : Type}

------------------------------------------------------------
-- The Platform
------------------------------------------------------------

namespace Platform

open Op

/- No regions are answered, or one for each size. -/
def Fits
    (sizes : List Nat)
    (answer : Except Error (List Region)) : Prop :=
  regionsIn answer = [] ∨
    (regionsIn answer).map Region.size = sizes

theorem fits_allocate
    (target : MemoryTarget)
    (cache : CachePolicy)
    (sizes : List Nat)
    (m : Platform) :
    Fits sizes (allocate target cache sizes m).1 := by
  rcases allocate_called target cache sizes m with
    hCalled | ⟨m', hRun, _⟩
  · generalize allocate target cache sizes m = r at hCalled
    cases hCalled with
    | refused _ _ => exact Or.inl rfl
    | answered _ hAnswer =>
        exact
          Or.inr (Device.carved_of_allocate hAnswer).sizes
  · rw [hRun]
    exact Or.inl rfl

theorem carries_allocate
    (target : MemoryTarget)
    (cache : CachePolicy)
    (sizes : List Nat) :
    Carries .ofPlatform [] (allocate target cache sizes)
      (given Device.owners) := by
  apply Carries.of_turns
  intro m
  have hTurns := turns_allocate target cache sizes m
  cases hAnswer : (allocate target cache sizes m).1 with
  | ok regions =>
      rw [hAnswer] at hTurns
      exact hTurns
  | error e =>
      rw [hAnswer] at hTurns
      exact hTurns

theorem carries_allocateOne
    (target : MemoryTarget)
    (cache : CachePolicy)
    (size : Nat) :
    Carries .ofPlatform [] (allocateOne target cache size)
      (given fun region =>
        [Handle.ofRegion region .allocated]) := by
  apply (carries_allocate target cache [size]).bind_of
    (fits_allocate target cache [size])
  · rintro regions (rfl | hOne)
    · exact .fail (List.Perm.refl _)
    · match regions, hOne with
      | [region], _ => exact .pure (List.Perm.refl _)
  · exact fun _ _ => List.Perm.refl _

/- What is recorded concerns no handle. -/
theorem carries_record
    {before : List Handle}
    (f : Telemetry → Telemetry) :
    Carries .ofPlatform before
      (record f : Op ε Platform Unit) fun _ => before :=
  .recorded (fun _ => ⟨rfl, rfl⟩) fun _ => List.Perm.refl _

end Platform

------------------------------------------------------------
-- Handles
------------------------------------------------------------

namespace Handle

open Op

theorem carries_allocate
    (target : MemoryTarget)
    (cache : CachePolicy)
    (size : Nat) :
    Carries .ofPlatform [] (allocate target cache size)
      (given fun h => [h]) := by
  apply (Platform.carries_allocateOne target cache size).bind
  · exact fun _ => .pure (List.Perm.refl _)
  · exact fun _ => List.Perm.refl _

theorem carries_attach
    (addr : Nat) :
    Carries .ofPlatform [] (attach addr)
      (given fun h => [h]) :=
  .of_turns (turns_attach addr)

theorem carries_map
    (h : Handle) :
    Carries .ofPlatform [h] h.map fun r =>
      [mappedOr h r] :=
  .of_turns (turns_map h)

section Uses

variable {before : List Handle}
variable {h : Handle}

/- A use of a handle may be one of a handle among others. -/
theorem carries_among
    {x : Op ε Platform Unit}
    (hx : Carries .ofPlatform [h] x fun _ => [h])
    (hMem : h ∈ before) :
    Carries .ofPlatform before x fun _ => before := by
  have hPerm := List.perm_cons_erase hMem
  exact
    (hx.frame (before.erase h)).perm hPerm fun _ =>
      hPerm.symm

theorem carries_invalidate
    (hMem : h ∈ before) :
    Carries .ofPlatform before h.invalidate fun _ =>
      before :=
  carries_among
    (.of_turns (turns_through .invalidate (fun _ _ => rfl) h))
    hMem

theorem carries_flush
    (hMem : h ∈ before) :
    Carries .ofPlatform before h.flush fun _ => before :=
  carries_among
    (.of_turns (turns_through .flush (fun _ _ => rfl) h))
    hMem

theorem carries_write
    (hMem : h ∈ before)
    (start : Nat)
    (bytes : Bytes) :
    Carries .ofPlatform before
      (h.write start bytes : Op ε _ Unit)
      fun _ => before := by
  apply carries_among (h := h) _ hMem
  apply Carries.of_turns
  intro m
  have hTurns :=
    turns_through (.write · start bytes)
      (x := fun h => h.write start bytes)
      (fun _ _ => rfl) h m
  have hSame :
      (h.write start bytes m : Except ε Unit × _).2 =
        (h.write start bytes m : Except Error Unit × _).2 := by
    unfold write
    cases h.mapping <;> rfl
  rw [hSame]
  exact hTurns

theorem carries_read
    (h : Handle)
    (start count : Nat) :
    Carries .ofPlatform before
      (h.read start count : Op ε _ Bytes)
      fun _ => before := by
  unfold read
  cases h.mapping with
  | none => exact .pure (List.Perm.refl _)
  | some mapping =>
      exact
        .of_result (fun _ => rfl) fun _ => List.Perm.refl _

end Uses

theorem carries_release
    (h : Handle) :
    Carries .ofPlatform [h] (h.release : Op ε _ Unit)
      fun _ => [] := by
  apply Carries.of_turns
  intro m
  rw [h.release_run]
  exact turns_release h m

/- A handle that cannot be mapped is not left behind. -/
theorem carries_mapOrRelease
    (h : Handle) :
    Carries .ofPlatform [h] h.mapOrRelease
      (given fun h => [h]) := by
  apply h.carries_map.attempt_bind
  intro r
  cases r with
  | ok mapped => exact .pure (List.Perm.refl _)
  | error e =>
      apply h.carries_release.bind_of_ok h.release_ok
      exact .fail (List.Perm.refl _)

/- A handle is mapped and put back in its place. -/
theorem carriesAt_mapInPlace
    {σ α : Type}
    {c : Custodian σ}
    {h : Handle}
    {s : σ}
    {y : Op Error σ Handle}
    {x : Handle → Op Error (Handle × σ) α}
    (hMap : CarriesAt c s [h] y fun r => [mappedOr h r])
    (hx :
      ∀ h' s', c.sound s' →
        CarriesAt (.beside (fun h => [h]) (fun _ => True) c)
          (h', s') [] (x h') fun _ => []) :
    CarriesAt (.beside (fun h => [h]) (fun _ => True) c)
      (h, s) []
      (Op.within Lens.snd y >>= fun h' =>
        Op.within Lens.fst (Op.set h') >>= fun _ => x h')
      fun _ => [] := by
  change
    CarriesAt (.beside (fun h => [h]) (fun _ => True) c)
      (h, s) []
      (Op.bind (Op.within Lens.snd y) fun h' =>
        Op.bind (Op.within Lens.fst (Op.set h')) fun _ =>
          x h')
      fun _ => []
  unfold CarriesAt at hMap ⊢
  simp only [Op.bind, Op.within, Lens.snd, Lens.fst, Op.set]
  rcases hRun : y s with ⟨e | h', s'⟩
  · rw [hRun] at hMap
    exact ⟨⟨trivial, hMap.1⟩, hMap.2⟩
  · rw [hRun] at hMap
    have hNext := hx h' s' hMap.1
    exact ⟨hNext.1, hMap.2.trans hNext.2⟩

end Handle

------------------------------------------------------------
-- Buffers
------------------------------------------------------------

namespace Buffer

open Op

theorem carries_releaseAll
    (segments : List Segment) :
    Carries .ofPlatform (segments.map Segment.handle)
      (releaseAll segments : Op ε _ Unit) fun _ => [] := by
  induction segments with
  | nil => exact .pure (List.Perm.refl _)
  | cons s rest ih =>
      apply Carries.bind_of_ok
        (s.handle.carries_release.frame _)
        s.handle.release_ok
      exact ih

theorem carries_release
    (b : Buffer) :
    Carries .ofPlatform b.handles (b.release : Op ε _ Unit)
      fun _ => [] :=
  carries_releaseAll b.segments

/- Segments become a buffer or are released. -/
theorem carries_assemble
    (segments : List Segment)
    (flags : MemoryFlags) :
    Carries .ofPlatform (segments.map Segment.handle)
      (assemble segments flags) (given handles) := by
  unfold assemble
  cases segments with
  | nil => exact .fail (List.Perm.refl _)
  | cons parent rest =>
      simp only
      split
      · apply (carries_releaseAll _).bind_of_ok
          (releaseAll_ok _)
        exact .fail (List.Perm.refl _)
      · apply Carries.attempt_bind
          (parent.handle.carries_map.frame
            (rest.map Segment.handle))
        intro r
        cases r with
        | ok h => exact .pure (List.Perm.refl _)
        | error e =>
            apply Carries.bind_of_ok
              (carries_releaseAll (parent :: rest))
              (releaseAll_ok _)
            exact .fail (List.Perm.refl _)

/- Mapping segments turns their handles into mapped ones. -/
theorem turns_mapEach
    (segments : List Segment)
    (m : Platform) :
    Turns m (segments.map Segment.handle)
      (Op.eachOf Segment.map segments m).2.2
      ((Op.eachOf Segment.map segments m).2.1.map
        Segment.handle) := by
  induction segments generalizing m with
  | nil => exact .refl m []
  | cons s rest ih =>
      have hFirst :=
        (turns_map s.handle m).frame (rest.map Segment.handle)
      simp only [Op.eachOf, Segment.map]
      rcases hRun : s.handle.map m with ⟨e | h, m'⟩
      · rw [hRun] at hFirst
        exact hFirst
      · rw [hRun] at hFirst
        have hSwap :
            ∀ hs : List Handle, ([h] ++ hs).Perm (hs ++ [h]) :=
          fun hs => List.perm_append_comm
        have hRest := ((ih m').frame [h]).perm (hSwap _).symm
        exact (hFirst.perm (hSwap _)).trans hRest

/- A buffer that is used holds its handles. -/
def custodian : Custodian (Buffer × Platform) :=
  .beside handles (fun _ => True) .ofPlatform

theorem carries_mapSegments
    {before : List Handle} :
    Carries custodian before mapSegments fun _ =>
      before := by
  rintro ⟨b, m⟩ ⟨_, hPlan⟩
  have hTurns := turns_mapEach b.segments m
  have hSome :=
    Segment.eachOf_map_ne_nil b.segments_ne_nil m
  refine ⟨⟨trivial, hTurns.releasing hPlan⟩, ?_⟩
  have hHandles :
      (mapSegments (b, m)).2.1.handles =
        (Op.eachOf Segment.map b.segments m).2.1.map
          Segment.handle :=
    congrArg (List.map Segment.handle)
      (b.segments_withSegments hSome)
  simp only [custodian, Custodian.beside,
    Custodian.ofPlatform, List.append_nil]
  rw [hHandles]
  exact hTurns.frame_left before

/- What is done to segments one by one keeps their handles. -/
theorem carries_inOrder
    {before : List Handle}
    {segments : List Segment}
    {f : Segment → Op Error Platform Unit}
    {g : List Segment → Op Error Platform Unit}
    (hNil : g [] = Op.pure ())
    (hCons :
      ∀ s rest, g (s :: rest) = f s >>= fun _ => g rest)
    (hf :
      ∀ s ∈ segments,
        Carries .ofPlatform before (f s) fun _ => before) :
    Carries .ofPlatform before (g segments)
      fun _ => before := by
  induction segments with
  | nil =>
      rw [hNil]
      exact .pure (List.Perm.refl _)
  | cons s rest ih =>
      rw [hCons]
      apply (hf s List.mem_cons_self).bind
      · intro _
        apply ih
        exact fun s' hs' => hf s' (List.mem_cons_of_mem _ hs')
      · exact fun _ => List.Perm.refl _

theorem mem_handles
    {b : Buffer} :
    ∀ s ∈ b.segments, s.handle ∈ b.handles :=
  fun _ hMem => List.mem_map_of_mem hMem

theorem carries_map :
    Carries custodian [] map fun _ => [] := by
  apply carries_mapSegments.bind
  · intro _
    apply Carries.get_bind_at
    rintro ⟨b, m⟩ hSound
    simp only
    split
    · apply CarriesAt.within_snd trivial
      refine carries_inOrder rfl (fun _ _ => rfl) ?_ m hSound.2
      exact fun s hs =>
        Handle.carries_invalidate (mem_handles s hs)
    · exact .unchanged hSound rfl (List.Perm.refl _)
  · exact fun _ => List.Perm.refl _

theorem carries_flush
    (b : Buffer) :
    Carries .ofPlatform b.handles b.flush fun _ =>
      b.handles := by
  unfold flush
  split
  · apply carries_inOrder rfl fun _ _ => rfl
    exact fun s hs => Handle.carries_flush (mem_handles s hs)
  · exact .pure (List.Perm.refl _)

theorem carries_endWriting
    (b : Buffer) :
    Carries .ofPlatform b.handles
      (b.endWriting : Op ε _ Unit) fun _ => b.handles := by
  apply b.carries_flush.orElse (List.Perm.refl _)
  exact fun _ => Platform.carries_record _

end Buffer

------------------------------------------------------------
-- Allocators
------------------------------------------------------------

namespace Allocator

open Op

theorem carries_allocateLayout
    (flags : MemoryFlags)
    (layout : List SegmentSpec) :
    Carries .ofPlatform [] (allocateLayout flags layout)
      (given Buffer.handles) := by
  have hCheck :
      Carries .ofPlatform []
        (Op.ofExcept (Layout.check layout)) fun _ => [] :=
    .ofExcept (List.Perm.refl _)
  apply hCheck.bind
  · intro _
    apply Carries.attempt_bind_of
      (Platform.carries_allocate flags.target flags.cache _)
      (Platform.fits_allocate flags.target flags.cache _)
    intro r hFits
    cases r with
    | error e =>
        apply (Platform.carries_record _).bind_of_ok
          (fun _ => rfl)
        apply (Platform.carries_record _).bind_of_ok
          (fun _ => rfl)
        exact .fail (List.Perm.refl _)
    | ok regions =>
        have hHandles :
            (segmentsOf regions layout).map Segment.handle =
              Device.owners regions := by
          rcases hFits with rfl | hAll
          · rfl
          · exact handles_segmentsOf hAll
        have hBuffer :=
          Buffer.carries_assemble
            (segmentsOf regions layout) flags
        rw [hHandles] at hBuffer
        apply hBuffer.attempt_bind
        intro r
        cases r with
        | error e =>
            apply (Platform.carries_record _).bind_of_ok
              (fun _ => rfl)
            exact .fail (List.Perm.refl _)
        | ok b =>
            apply (Platform.carries_record _).bind_of_ok
              (fun _ => rfl)
            apply (Platform.carries_record _).bind_of_ok
              (fun _ => rfl)
            exact .pure (List.Perm.refl _)
  · exact fun _ => List.Perm.refl _

theorem carries_allocSegments
    (a : Allocator)
    (flags : MemoryFlags)
    (layout : List SegmentSpec) :
    Carries .ofPlatform [] (a.allocSegments flags layout)
      (given Buffer.handles) := by
  unfold allocSegments
  cases a.kind with
  | segmented => exact carries_allocateLayout flags layout
  | contiguous =>
      simp only
      split
      · exact carries_allocateLayout flags layout
      · exact .fail (List.Perm.refl _)

end Allocator

end Offload
