import Offload.Proofs.Run
import Offload.Proofs.Memory.ViewCalls

/-
  The life of a buffer that is mapped again and again.

  A buffer is made, views of it are opened and ended in any
  order, and it is released. Without failures the device
  tends each segment of a cached buffer once for each view
  that is opened and once for each view whose writing ends.
  A segment is mapped at most once and never moves, so views
  that stay open stay valid; a release unmaps the segments
  that are mapped.

  The types of a program may let fewer views be open at a
  time than a run does here.

  Key definitions include:
    * `ViewedBuffer`
    * `ViewedBuffer.perform`
    * `ViewedBuffer.Upheld`
    * `ViewedBuffer.Tended`

  Main results:
    * `ViewedBuffer.Sound.step`
    * `ViewedBuffer.Sound.after`
    * `Buffer.tended_for_life`
-/

namespace Offload

open Segment Platform

------------------------------------------------------------
-- What Views Show
------------------------------------------------------------

namespace ReadView

/- A view has the mapping of every segment, in order. -/
def Shows
    (v : ReadView)
    (b : Buffer) : Prop :=
  v.mappings.map some =
    b.segments.map fun s => s.handle.mapping

variable {v : ReadView}
variable {b b' : Buffer}

/- A buffer with a view is mapped. -/
theorem Shows.isMapped
    (h : v.Shows b) :
    ∀ s ∈ b.segments, s.handle.isMapped = true := by
  intro s hMem
  have hAt : s.handle.mapping ∈ v.mappings.map some := by
    rw [h]
    exact List.mem_map_of_mem hMem
  rcases List.mem_map.mp hAt with ⟨m, _, hSame⟩
  rw [Handle.isMapped, ← hSame]
  rfl

/- A view stays valid when the buffer is mapped again. -/
theorem Shows.of_retains
    (h : v.Shows b)
    (hRetains : List.Forall₂ Retains b.segments b'.segments) :
    v.Shows b' :=
  Eq.trans h (mappings_of_retains hRetains h.isMapped).symm

/- A mapped buffer has a mapping to show of each segment. -/
theorem shows_mappings
    (hMapped : ∀ s ∈ b.segments, s.handle.isMapped = true) :
    Shows ⟨b.mappings⟩ b := by
  simp only [Shows, Buffer.mappings]
  generalize b.segments = segments at hMapped
  induction segments with
  | nil => rfl
  | cons s rest ih =>
      rcases List.forall_mem_cons.mp hMapped with ⟨hIs, hRest⟩
      rcases Option.isSome_iff_exists.mp hIs with ⟨m, hAt⟩
      rw [List.filterMap_cons, List.map_cons, hAt,
        List.map_cons, ih hRest]

end ReadView

namespace Buffer

/- Either way of mapping opens the same view. -/
theorem opens_view
    {b : Buffer}
    {p : Platform}
    (h : Served b.segments p) :
    ∃ v b' p',
      mapRead (b, p) = (.ok v, (b', p')) ∧
        mapWrite (b, p) = (.ok ⟨v, false⟩, (b', p')) ∧
          v.Shows b' ∧
            List.Forall₂ Retains b.segments b'.segments ∧
              Sees ⟨b.unmappedCount, b.upkeep, 0⟩ p p' := by
  rcases map_sees h with
    ⟨b', p', hRun, hRetains, hMapped, hSees⟩
  refine
    ⟨⟨b'.mappings⟩, b', p', ?_, ?_,
      ReadView.shows_mappings hMapped, hRetains, hSees⟩
  · simp only [mapRead, bind, Op.bind, hRun, Op.get]
    rfl
  · simp only [mapWrite, bind, Op.bind, hRun, Op.get]
    rfl

end Buffer

------------------------------------------------------------
-- Buffers and Their Views
------------------------------------------------------------

/- A buffer and the views of it that are open. -/
structure ViewedBuffer where
  buffer : Buffer
  platform : Platform
  readers : List ReadView
  writers : List WriteView

/- What is done with a buffer; `i` is a view that is open. -/
inductive ViewAct where
  | map
  | mapMut
  | dropReader (i : Nat)
  | dropWriter (i : Nat)
  | unmap (i : Nat)

/- Whether a view is opened. -/
def ViewAct.opens : ViewAct → Bool
  | .map => true
  | .mapMut => true
  | _ => false

/- Whether a view is opened that writes. -/
def ViewAct.writes : ViewAct → Bool
  | .mapMut => true
  | _ => false

namespace ViewedBuffer

/- A buffer without views. -/
def ofBuffer
    (b : Buffer)
    (p : Platform) : ViewedBuffer :=
  ⟨b, p, [], []⟩

/- The buffer and the platform. -/
def held : Lens ViewedBuffer (Buffer × Platform) :=
  ⟨fun s => (s.buffer, s.platform),
   fun q s => { s with buffer := q.1, platform := q.2 }⟩

/- End a view that writes; it is gone even if that fails. -/
def finish
    (i : Nat)
    (f : WriteView → Buffer → Op Error Platform Unit) :
    Op Error ViewedBuffer Unit := do
  let s ← Op.get
  match s.writers[i]? with
  | none => Op.pure ()
  | some v =>
    Op.set { s with writers := s.writers.eraseIdx i }
    Op.within
      ⟨platform, fun p s => { s with platform := p }⟩
      (f v s.buffer)

/- Do something; nothing happens to views that are not. -/
def perform : ViewAct → Op Error ViewedBuffer Unit
  | .map => do
    let v ← Op.within held Buffer.mapRead
    Op.modify fun s => { s with readers := v :: s.readers }
  | .mapMut => do
    let v ← Op.within held Buffer.mapWrite
    Op.modify fun s => { s with writers := v :: s.writers }
  | .dropReader i =>
    Op.modify fun s =>
      { s with readers := s.readers.eraseIdx i }
  | .dropWriter i => finish i WriteView.drop
  | .unmap i => finish i WriteView.unmap

/- The state once something was done. -/
def step
    (a : ViewAct)
    (s : ViewedBuffer) : ViewedBuffer :=
  (perform a s).2

/- Whether a view that writes is there and ends. -/
def ends
    (s : ViewedBuffer) : ViewAct → Bool
  | .dropWriter i => i < s.writers.length
  | .unmap i => i < s.writers.length
  | _ => false

/-
  What the device is to see: a view that is opened maps what
  is not mapped and tends all segments, and so does the end
  of writing.
-/
def calls
    (s : ViewedBuffer)
    (a : ViewAct) : ViewCalls where
  maps := if a.opens then s.buffer.unmappedCount else 0
  invalidates := if a.opens then s.buffer.upkeep else 0
  flushes := if s.ends a then s.buffer.upkeep else 0

/- Whether a segment is mapped. -/
def isMappedAt
    (i : Nat)
    (s : ViewedBuffer) : Bool :=
  s.buffer.segments[i]?.any fun t => t.handle.isMapped

/-
  What is done works. The device sees what it is to see, no
  segment moves, and as many as the device mapped come to be
  mapped. A view that writes is there until it ends.
-/
structure Upheld
    (s : ViewedBuffer)
    (a : ViewAct) : Prop where
  answers : (perform a s).1 = .ok ()
  sees : Sees (s.calls a) s.platform (step a s).platform
  retains :
    List.Forall₂ Retains s.buffer.segments
      (step a s).buffer.segments
  maps :
    (s.calls a).maps + (step a s).buffer.unmappedCount =
      s.buffer.unmappedCount
  writers :
    (step a s).writers.length + (if s.ends a then 1 else 0) =
      s.writers.length + if a.writes then 1 else 0

/- The device serves the buffer, and open views are valid. -/
structure Sound
    (s : ViewedBuffer) : Prop where
  served : Served s.buffer.segments s.platform
  readers : ∀ v ∈ s.readers, v.Shows s.buffer
  writers :
    ∀ v ∈ s.writers,
      v.toReadView.Shows s.buffer ∧ v.unmapped = false

------------------------------------------------------------
-- One Step
------------------------------------------------------------

variable {s s' : ViewedBuffer}
variable {a : ViewAct}

/- A segment that is mapped stays mapped. -/
theorem isMappedAt_of_retains
    {i : Nat}
    (h :
      List.Forall₂ Retains s.buffer.segments
        s'.buffer.segments)
    (hAt : s.isMappedAt i = true) :
    s'.isMappedAt i = true := by
  unfold isMappedAt at hAt ⊢
  generalize s.buffer.segments = segments at h hAt
  generalize s'.buffer.segments = segments' at h ⊢
  induction h generalizing i with
  | nil => cases hAt
  | cons hFirst _ ih =>
      cases i with
      | zero =>
          rcases Option.isSome_iff_exists.mp hAt with ⟨m, hIs⟩
          exact Option.isSome_iff_exists.mpr
            ⟨m, hFirst.mapping m hIs⟩
      | succ i => exact ih hAt

/- Views stay valid while no segment moves. -/
theorem Sound.of_sees
    {k : ViewCalls}
    (h : Sound s)
    (hSees : Sees k s.platform s'.platform)
    (hRetains :
      List.Forall₂ Retains s.buffer.segments
        s'.buffer.segments)
    (hReaders :
      ∀ v ∈ s'.readers, v ∈ s.readers ∨ v.Shows s'.buffer)
    (hWriters :
      ∀ v ∈ s'.writers,
        v ∈ s.writers ∨
          v.toReadView.Shows s'.buffer ∧
            v.unmapped = false) :
    Sound s' where
  served := h.served.of_sees hSees (addrs_of_retains hRetains)
  readers := by
    intro v hMem
    rcases hReaders v hMem with hOld | hNew
    · exact (h.readers v hOld).of_retains hRetains
    · exact hNew
  writers := by
    intro v hMem
    rcases hWriters v hMem with hOld | hNew
    · rcases h.writers v hOld with ⟨hShows, hOpen⟩
      exact ⟨hShows.of_retains hRetains, hOpen⟩
    · exact hNew

/- Opening a view maps what is not mapped. -/
theorem Upheld.of_opened
    {v : ReadView}
    (hRun : perform a s = (.ok (), s'))
    (hOpens : a.opens = true)
    (hShows : v.Shows s'.buffer)
    (hRetains :
      List.Forall₂ Retains s.buffer.segments
        s'.buffer.segments)
    (hSees :
      Sees ⟨s.buffer.unmappedCount, s.buffer.upkeep, 0⟩
        s.platform s'.platform)
    (hWriters :
      s'.writers.length =
        s.writers.length + if a.writes then 1 else 0) :
    Upheld s a := by
  have hCalls :
      s.calls a =
        ⟨s.buffer.unmappedCount, s.buffer.upkeep, 0⟩ := by
    cases a <;> first | rfl | cases hOpens
  have hGoes : s.ends a = false := by
    cases a <;> first | rfl | cases hOpens
  have hNone : s'.buffer.unmappedCount = 0 := by
    apply List.countP_eq_zero.mpr
    intro t hMem
    rw [isUnmapped, hShows.isMapped t hMem]
    decide
  constructor
  · rw [hRun]
  · rw [step, hRun, hCalls]
    exact hSees
  · rw [step, hRun]
    exact hRetains
  · rw [step, hRun, hCalls, hNone, Nat.add_zero]
  · rw [step, hRun, hGoes]
    exact hWriters

/- What opens no view and leaves the buffer maps nothing. -/
theorem Upheld.of_same_buffer
    (hRun : perform a s = (.ok (), s'))
    (hOpens : a.opens = false)
    (hBuffer : s'.buffer = s.buffer)
    (hSees :
      Sees ⟨0, 0, if s.ends a then s.buffer.upkeep else 0⟩
        s.platform s'.platform)
    (hWriters :
      s'.writers.length + (if s.ends a then 1 else 0) =
        s.writers.length) :
    Upheld s a := by
  have hReads : a.writes = false := by
    cases a <;> first | rfl | cases hOpens
  constructor
  · rw [hRun]
  · rw [step, hRun, calls, hOpens]
    exact hSees
  · rw [step, hRun, hBuffer]
    exact retains_refl _
  · rw [step, hRun, hBuffer, calls, hOpens]
    exact Nat.zero_add _
  · rw [step, hRun, hReads]
    exact hWriters

/- A view whose writing ends is gone. -/
theorem Sound.finish
    (h : Sound s)
    {i : Nat}
    {f : WriteView → Buffer → Op Error Platform Unit}
    (hf :
      ∀ v ∈ s.writers,
        ∃ p',
          f v s.buffer s.platform = (.ok (), p') ∧
            Sees ⟨0, 0, s.buffer.upkeep⟩ s.platform p')
    (hRun : perform a = finish i f)
    (hOpens : a.opens = false)
    (hEnds : s.ends a = decide (i < s.writers.length)) :
    Upheld s a ∧ Sound (step a s) := by
  cases hView : s.writers[i]? with
  | none =>
      have hSame : perform a s = (.ok (), s) := by
        simp only [hRun, ViewedBuffer.finish, bind, Op.bind,
          Op.get, hView]
        rfl
      have hGone : s.ends a = false := by
        rw [hEnds]
        exact decide_eq_false
          (Nat.not_lt.mpr (List.getElem?_eq_none_iff.mp hView))
      constructor
      · apply Upheld.of_same_buffer hSame hOpens rfl
        · rw [hGone]
          exact .refl _
        · rw [hGone]
          rfl
      · rw [step, hSame]
        exact h
  | some v =>
      rcases hf v (List.mem_of_getElem? hView) with
        ⟨p', hEnd, hSees⟩
      have hStep :
          perform a s =
            (.ok (),
              { s with
                platform := p'
                writers := s.writers.eraseIdx i }) := by
        simp only [hRun, ViewedBuffer.finish, bind, Op.bind,
          Op.get, hView, Op.set, Op.within, hEnd]
      have hHere : s.ends a = true := by
        rw [hEnds]
        exact decide_eq_true
          (List.getElem?_eq_some_iff.mp hView).1
      constructor
      · apply Upheld.of_same_buffer hStep hOpens rfl
        · rw [hHere]
          exact hSees
        · rw [hHere]
          exact
            List.length_eraseIdx_add_one
              (List.getElem?_eq_some_iff.mp hView).1
      · rw [step, hStep]
        exact
          h.of_sees hSees (retains_refl _)
            (fun _ hMem => Or.inl hMem)
            (fun _ hMem => Or.inl (List.mem_of_mem_eraseIdx hMem))

/- What is done keeps views valid. -/
theorem Sound.step
    (h : Sound s)
    (a : ViewAct) : Upheld s a ∧ Sound (step a s) := by
  cases a with
  | map =>
      rcases Buffer.opens_view h.served with
        ⟨v, b, p, hRead, _, hShows, hRetains, hSees⟩
      have hRun :
          perform .map s =
            (.ok (), ⟨b, p, v :: s.readers, s.writers⟩) := by
        simp only [perform, bind, Op.bind, Op.within, held,
          hRead]
        rfl
      constructor
      · exact .of_opened hRun rfl hShows hRetains hSees rfl
      · rw [ViewedBuffer.step, hRun]
        refine
          h.of_sees hSees hRetains ?_ fun _ hMem => Or.inl hMem
        intro w hMem
        rcases List.mem_cons.mp hMem with rfl | hOld
        · exact Or.inr hShows
        · exact Or.inl hOld
  | mapMut =>
      rcases Buffer.opens_view h.served with
        ⟨v, b, p, _, hWrite, hShows, hRetains, hSees⟩
      have hRun :
          perform .mapMut s =
            (.ok (),
              ⟨b, p, s.readers, ⟨v, false⟩ :: s.writers⟩) := by
        simp only [perform, bind, Op.bind, Op.within, held,
          hWrite]
        rfl
      constructor
      · exact .of_opened hRun rfl hShows hRetains hSees rfl
      · rw [ViewedBuffer.step, hRun]
        refine
          h.of_sees hSees hRetains (fun _ hMem => Or.inl hMem) ?_
        intro w hMem
        rcases List.mem_cons.mp hMem with rfl | hOld
        · exact Or.inr ⟨hShows, rfl⟩
        · exact Or.inl hOld
  | dropReader i =>
      constructor
      · exact
          .of_same_buffer (a := .dropReader i) rfl rfl rfl
            (.refl _) rfl
      · exact
          h.of_sees (.refl _) (retains_refl _)
            (fun _ hMem => Or.inl (List.mem_of_mem_eraseIdx hMem))
            fun _ hMem => Or.inl hMem
  | dropWriter i =>
      refine h.finish ?_ rfl rfl rfl
      intro v hMem
      rcases h.writers v hMem with ⟨hShows, hOpen⟩
      exact
        WriteView.drop_sees hOpen hShows.isMapped h.served.flush
  | unmap i =>
      refine h.finish ?_ rfl rfl rfl
      intro v hMem
      rcases h.writers v hMem with ⟨hShows, _⟩
      exact v.unmap_sees hShows.isMapped h.served.flush

------------------------------------------------------------
-- Runs
------------------------------------------------------------

/- All that is done in a run works. -/
theorem Sound.upheld
    (h : Sound s)
    (es : List ViewAct) :
    ∀ m ∈ Run.moves ViewedBuffer.step es s, Upheld m.1 m.2 := by
  rintro ⟨t, a⟩ hMove
  have hSound : Sound t :=
    Run.forall_states (fun _ a h => (h.step a).2) es h t
      (Run.mem_states_of_mem_moves hMove).1
  exact (hSound.step a).1

/- What a run did so far is the sum of what its acts did. -/
theorem Sound.after
    (h : Sound s)
    (es : List ViewAct) :
    Sound (Run.after ViewedBuffer.step es s) ∧
      List.Forall₂ Retains s.buffer.segments
          (Run.after ViewedBuffer.step es s).buffer.segments ∧
        ∃ maps,
          maps +
              (Run.after ViewedBuffer.step es
                s).buffer.unmappedCount =
            s.buffer.unmappedCount ∧
          Sees
            ⟨maps, s.buffer.upkeep * es.countP ViewAct.opens,
              s.buffer.upkeep *
                (Run.moves ViewedBuffer.step es s).countP
                  fun m => m.1.ends m.2⟩
            s.platform
            (Run.after ViewedBuffer.step es s).platform := by
  induction es generalizing s with
  | nil =>
      exact
        ⟨h, retains_refl _, 0, Nat.zero_add _, Sees.refl _⟩
  | cons a rest ih =>
      rcases h.step a with ⟨hUpheld, hNext⟩
      rcases ih hNext with
        ⟨hSound, hRetains, maps, hMaps, hSees⟩
      have hUpkeep := Buffer.upkeep_of_retains hUpheld.retains
      refine
        ⟨hSound, retains_trans hUpheld.retains hRetains,
          (s.calls a).maps + maps, ?_, ?_⟩
      · have hHere := hUpheld.maps
        rw [Run.after, List.foldl_cons, ← Run.after]
        omega
      · have hTimes :
            ∀ (c : Bool) (k : Nat),
              (if c then s.buffer.upkeep else 0) +
                  s.buffer.upkeep * k =
                s.buffer.upkeep * (k + if c then 1 else 0) := by
          intro c k
          cases c <;> simp [Nat.mul_add, Nat.add_comm]
        have hBoth := hUpheld.sees.trans hSees
        rw [hUpkeep, calls, ViewCalls.add_mk, hTimes,
          hTimes] at hBoth
        rw [List.countP_cons, Run.moves, List.countP_cons]
        exact hBoth

/- Every view that writes ends once or is still there. -/
theorem Sound.writers_after
    (h : Sound s)
    (es : List ViewAct) :
    (Run.after ViewedBuffer.step es s).writers.length +
        (Run.moves ViewedBuffer.step es s).countP
          (fun m => m.1.ends m.2) =
      s.writers.length + es.countP ViewAct.writes := by
  induction es generalizing s with
  | nil => rfl
  | cons a rest ih =>
      rcases h.step a with ⟨hUpheld, hNext⟩
      have hHere := hUpheld.writers
      have hLater := ih hNext
      rw [Run.after, List.foldl_cons, ← Run.after, Run.moves,
        List.countP_cons, List.countP_cons]
      dsimp only
      omega

/-
  What holds of a buffer that was made of some segments,
  once some things were done: each of them worked, and the
  segments are those it was made of and did not move. The
  device mapped each segment once at most, and tended all of
  them once for every view that was opened and for every end
  of writing, of which each view has one. Open views are
  valid. A release removes as many mappings as there are,
  and after any number of segments as many as those had.
-/
structure Tended
    (segments : List Segment)
    (p : Platform)
    (start : ViewedBuffer)
    (es : List ViewAct)
    (s : ViewedBuffer) : Prop where
  upheld :
    ∀ m ∈ Run.moves ViewedBuffer.step es start, Upheld m.1 m.2
  retains : List.Forall₂ Retains segments s.buffer.segments
  once :
    ∀ i,
      (if start.isMappedAt i then 1 else 0) +
          (Run.moves ViewedBuffer.step es start).countP
            (fun m =>
              !m.1.isMappedAt i &&
                (ViewedBuffer.step m.2 m.1).isMappedAt i) ≤
        1
  sees :
    ∃ maps,
      maps + s.buffer.unmappedCount =
          segments.countP isUnmapped ∧
        Sees
          ⟨maps, s.buffer.upkeep * es.countP ViewAct.opens,
            s.buffer.upkeep *
              (Run.moves ViewedBuffer.step es start).countP
                fun m => m.1.ends m.2⟩
          p s.platform
  writers :
    s.writers.length +
        (Run.moves ViewedBuffer.step es start).countP
          (fun m => m.1.ends m.2) =
      es.countP ViewAct.writes
  shown :
    ∀ v ∈ s.readers ++ s.writers.map WriteView.toReadView,
      v.Shows s.buffer
  released :
    ∃ p',
      (s.buffer.release s.platform :
          Except Error Unit × Platform) = (.ok (), p') ∧
        Unmaps
          (s.buffer.segments.countP fun t => t.handle.isMapped)
          s.platform p'
  unmapped :
    ∀ k,
      Unmaps
        ((s.buffer.segments.take k).countP fun t =>
          t.handle.isMapped)
        s.platform
        (Buffer.releaseAll (s.buffer.segments.take k)
            s.platform :
          Except Error Unit × Platform).2

end ViewedBuffer

open ViewedBuffer

/-
  A buffer is made, and whatever is done with it and its
  views, it is tended in the way it is to be.
-/
theorem Buffer.tended_for_life
    {segments : List Segment}
    (flags : MemoryFlags)
    {p : Platform}
    (hSome : segments ≠ [])
    (hCount : segments.length ≤ SegmentSpec.maxCount)
    (hServed : Served segments p) :
    ∃ b p',
      assemble segments flags p = (.ok b, p') ∧
        ∀ es,
          Tended segments p (ofBuffer b p') es
            (Run.after step es (ofBuffer b p')) := by
  rcases assemble_sees flags hSome hCount hServed with
    ⟨b, p', made, hRun, hMade, hCounted, hSees⟩
  have hStart : Sound (ofBuffer b p') :=
    ⟨hServed.of_sees hSees (addrs_of_retains hMade), nofun,
      nofun⟩
  refine ⟨b, p', hRun, fun es => ?_⟩
  rcases hStart.after es with
    ⟨hSound, hRetains, maps, hMaps, hSeen⟩
  have hUpkeep := upkeep_of_retains hRetains
  have hUpheld := hStart.upheld es
  have hWriters := hStart.writers_after es
  generalize hEnd : Run.after step es (ofBuffer b p') = s at *
  constructor
  · exact hUpheld
  · exact retains_trans hMade hRetains
  · intro i
    rw [Run.countP_rises]
    · split <;> omega
    · intro t a hMove hAt
      exact isMappedAt_of_retains (hUpheld (t, a) hMove).retains hAt
  · refine ⟨made + maps, ?_, ?_⟩
    · rw [Nat.add_assoc, hMaps]
      exact hCounted
    have hBoth := hSees.trans hSeen
    rw [ViewCalls.add_mk] at hBoth
    rw [hUpkeep]
    simpa using hBoth
  · rw [hWriters]
    exact Nat.zero_add _
  · intro v hMem
    rcases List.mem_append.mp hMem with hReader | hWriter
    · exact hSound.readers v hReader
    · rcases List.mem_map.mp hWriter with ⟨w, hOpen, rfl⟩
      exact (hSound.writers w hOpen).1
  · exact
      ⟨_, Prod.ext (s.buffer.release_ok _) rfl,
        releaseAll_unmaps hSound.served.unmap⟩
  · exact fun _ => releaseAll_unmaps hSound.served.unmap

namespace ViewedBuffer

/- Two segments of a cached allocation. -/
def cachedPair : List Segment :=
  (Allocator.segmentsOf
    (regionsIn
      (Platform.allocate .generic .cached [64, 64]
        (Platform.fresh Device.defaultCapacity)).1)
    [⟨"a", 64⟩, ⟨"b", 64⟩])

/- The platform that has the two segments. -/
def pairPlatform : Platform :=
  (Platform.allocate .generic .cached [64, 64]
    (Platform.fresh Device.defaultCapacity)).2

theorem cachedPair_tended :
    cachedPair ≠ [] ∧
      cachedPair.length ≤ SegmentSpec.maxCount ∧
        Served cachedPair pairPlatform ∧
          ∃ b p',
            Buffer.assemble cachedPair
                  (.of .generic .cached) pairPlatform =
                (.ok b, p') ∧
              ∀ es,
                Tended cachedPair pairPlatform (ofBuffer b p')
                  es (Run.after step es (ofBuffer b p')) :=
  ⟨by decide, by decide, by decide,
    Buffer.tended_for_life _ (by decide) (by decide)
      (by decide)⟩

/- Two views of the two segments, one of them writing. -/
example :
    ((Buffer.assemble cachedPair (.of .generic .cached) >>=
        fun b p =>
          (.ok (), Run.after step [.mapMut, .unmap 0, .map]
            (ofBuffer b p) |>.platform))
      pairPlatform).2.device.counters =
      { pairPlatform.device.counters with
        maps := 2, invalidates := 4, flushes := 2 } := by
  decide

end ViewedBuffer

end Offload
