import Offload.Dispatch.Firmware
import Offload.Proofs.Machine.ServiceMoves
import Offload.Proofs.Memory.Cursors
import Offload.Proofs.Memory.FileLayout

/-
  Samples that firmware copies from one region to another.

  For each sample both regions are attached and mapped, the
  bytes are moved, and the regions are given back. On a
  device whose regions are apart, that moves the bytes of
  the sample, keeps all others, and restores the device.
  Copies to places apart leave each other alone, so that a
  run copies all its samples.

  Key definitions include:
    * `Device.Copied`
    * `Platform.Unfaulted`
    * `Firmware.Copyable`

  Main results:
    * `Handle.visiting_of_unfaulted`
    * `Firmware.transfer_ok`
    * `Firmware.copySample_ok`
    * `Firmware.copySamples_ok`
    * `Firmware.execute_ok`
-/

namespace Offload

namespace Device

------------------------------------------------------------
-- Copied Bytes
------------------------------------------------------------

/-
  For each pair of addresses, `count` bytes were copied from
  the first, in the region at `source`, to the second, in
  the region at `target`. All other bytes are as before.
-/
structure Copied
    (count source target : Nat)
    (pairs : List (Nat × Nat))
    (d d' : Device) : Prop where
  moved :
    ∀ p ∈ pairs, ∀ i < count,
      d'.byteOf target (p.2 + i) = d.byteOf source (p.1 + i)
  kept :
    ∀ base addr,
      (base = target →
        ∀ p ∈ pairs, addr < p.2 ∨ p.2 + count ≤ addr) →
        d'.byteOf base addr = d.byteOf base addr

theorem Copied.nil
    (count source target : Nat)
    (d : Device) : Copied count source target [] d d where
  moved := fun _ hMem => absurd hMem List.not_mem_nil
  kept := fun _ _ _ => rfl

/- Copies to other places leave those made before alone. -/
theorem Copied.append
    {count source target : Nat}
    {ps qs : List (Nat × Nat)}
    {d d' d'' : Device}
    (hFirst : Copied count source target ps d d')
    (hNext : Copied count source target qs d' d'')
    (hOther : source ≠ target)
    (hApart :
      ∀ p ∈ ps, ∀ q ∈ qs,
        p.2 + count ≤ q.2 ∨ q.2 + count ≤ p.2) :
    Copied count source target (ps ++ qs) d d'' where
  moved := by
    intro p hMem i hIndex
    rcases List.mem_append.mp hMem with hPast | hNow
    · have hStays :
          d''.byteOf target (p.2 + i) =
            d'.byteOf target (p.2 + i) := by
        apply hNext.kept
        intro _ q hLater
        have hBeside := hApart p hPast q hLater
        omega
      rw [hStays, hFirst.moved p hPast i hIndex]
    · rw [hNext.moved p hNow i hIndex]
      exact
        hFirst.kept _ _ fun hSame => absurd hSame hOther
  kept := by
    intro base addr hBeside
    rw [hNext.kept, hFirst.kept]
    · intro hBase p hMem
      exact hBeside hBase p (List.mem_append_left _ hMem)
    · intro hBase p hMem
      exact hBeside hBase p (List.mem_append_right _ hMem)

/- Only the bytes before and after matter. -/
theorem Copied.of_bytes
    {count source target : Nat}
    {pairs : List (Nat × Nat)}
    {d d' e e' : Device}
    (h : Copied count source target pairs d d')
    (hBefore :
      ∀ base addr, e.byteOf base addr = d.byteOf base addr)
    (hAfter :
      ∀ base addr,
        e'.byteOf base addr = d'.byteOf base addr) :
    Copied count source target pairs e e' where
  moved := by
    intro p hMem i hIndex
    rw [hAfter, hBefore, h.moved p hMem i hIndex]
  kept := by
    intro base addr hBeside
    rw [hAfter, hBefore, h.kept base addr hBeside]

/- What is read of one region is written to another. -/
theorem copied_write
    {d : Device}
    (hLaid : d.Laid)
    {source target : Mapping}
    {sBase tBase : Nat}
    {r q : LiveRegion}
    (hSource : d.region? sBase = some r)
    (hTarget : d.region? tBase = some q)
    (hFrom : source.file = r.file ∧ source.base = r.offset)
    (hTo : target.file = q.file ∧ target.base = q.offset)
    {start stop count : Nat}
    (hReads : start + count ≤ r.size)
    (hWrites : stop + count ≤ q.size) :
    Copied count sBase tBase [(sBase + start, tBase + stop)] d
      (d.write target stop (d.read source start count)) := by
  have hLength := length_read d source start count
  have hBytes :=
    byteOf_write hLaid hTarget hTo.1 hTo.2
      (hLength.symm ▸ hWrites)
  rw [hLength] at hBytes
  constructor
  · intro p hMem i hIndex
    cases List.mem_singleton.mp hMem
    have hHere :
        tBase + stop ≤ tBase + stop + i ∧
          tBase + stop + i < tBase + stop + count := by
      omega
    rw [hBytes, if_pos ⟨rfl, hHere⟩, Nat.add_sub_cancel_left]
    exact
      read_eq hLaid.filed hSource hFrom.1 hFrom.2 hReads
        hIndex
  · intro base addr hBeside
    rw [hBytes, if_neg]
    intro hHit
    have hOut := hBeside hHit.1 _ List.mem_cons_self
    omega

/- Writing restores a device, up to the bytes of its files. -/
theorem restored_write
    (d : Device)
    (mapping : Mapping)
    (start : Nat)
    (bytes : Bytes) :
    d.Restored (d.write mapping start bytes) := by
  unfold Device.write
  cases d.files.get? mapping.file <;>
    exact ⟨rfl, fun _ => rfl, rfl, rfl⟩

/- So does writing between maintenance of the caches. -/
theorem restored_transfer
    (d : Device)
    (mapping : Mapping)
    (start : Nat)
    (bytes : Bytes) :
    d.Restored
      (d.invalidate.write mapping start bytes).flush := by
  have hInvalidate : d.Restored d.invalidate :=
    ⟨rfl, fun _ => rfl, rfl, rfl⟩
  have hWrite :=
    restored_write d.invalidate mapping start bytes
  exact
    (hInvalidate.trans hWrite).trans
      ⟨rfl, fun _ => rfl, rfl, rfl⟩

/- A device that is restored keeps its regions apart. -/
theorem Laid.of_restored
    {d d' : Device}
    (hLaid : d.Laid)
    (hActs : Run.Reaches act d d')
    (hRestored : d.Restored d') : d'.Laid :=
  hLaid.of_places (hActs.keep filed_act hLaid.filed)
    fun base => by rw [hRestored.region]

theorem Spans.of_restored
    {d d' : Device}
    {base addr count : Nat}
    (hSpans : d.Spans base addr count)
    (hRestored : d.Restored d') :
    d'.Spans base addr count := by
  rcases hSpans with ⟨r, hFound, hRest⟩
  exact ⟨r, (hRestored.region base).trans hFound, hRest⟩

end Device

namespace Platform

/- No call is planned to fail. -/
def Unfaulted
    (m : Platform) : Prop :=
  ∀ call, m.faults call = []

theorem Unfaulted.of_spares
    {m m' : Platform}
    (h : m.Unfaulted)
    (hSpares : m.Spares m') : m'.Unfaulted :=
  fun call => hSpares.nil (h call)

end Platform

namespace Handle

section Visits

variable {m m' : Platform}
variable {id : Nat}
variable {r : LiveRegion}
variable {h : Handle}

/- A visit moves no region. -/
theorem Visiting.places
    (hVisit : Visiting id r h m m')
    (base : Nat) :
    (m'.device.region? base).map LiveRegion.place =
      (m.device.region? base).map LiveRegion.place := by
  rw [hVisit.region]
  by_cases hHere : base = id
  · rw [if_pos hHere, hHere, hVisit.found]
    rfl
  · rw [if_neg hHere]

/- A visit changes no byte. -/
theorem Visiting.byteOf
    (hVisit : Visiting id r h m m')
    (base addr : Nat) :
    m'.device.byteOf base addr = m.device.byteOf base addr :=
  Device.byteOf_congr (hVisit.places base) hVisit.files addr

theorem Visiting.laid
    (hVisit : Visiting id r h m m')
    (hActs : m.Advances m')
    (hLaid : m.device.Laid) : m'.device.Laid :=
  hLaid.of_places
    (hActs.acts.keep Device.filed_act hLaid.filed)
    hVisit.places

/- A visit leaves other regions as they are. -/
theorem Visiting.spans
    (hVisit : Visiting id r h m m')
    {base addr count : Nat}
    (hSpans : m.device.Spans base addr count)
    (hOther : base ≠ id) :
    m'.device.Spans base addr count := by
  rcases hSpans with ⟨s, hFound, hRest⟩
  refine ⟨s, ?_, hRest⟩
  rw [hVisit.region, if_neg hOther, hFound]

/- A handle has a mapping of all of a region. -/
def Shows
    (h : Handle)
    (r : LiveRegion) : Prop :=
  h.size = r.size ∧
    ∃ mapping,
      h.mapping = some mapping ∧ mapping.file = r.file ∧
        mapping.base = r.offset

/- A visit during which the device was restored ends. -/
theorem Visiting.ended
    {ε : Type}
    {p : Platform}
    {d : Device}
    (hVisit : Visiting id r h m m')
    (hFaults : p.Unfaulted)
    (hRestored : m'.device.Restored d) :
    ∃ d',
      (h.release { p with device := d } :
          Except ε Unit × Platform) =
          (.ok (), { p with device := d' }) ∧
        m.device.Restored d' ∧ d'.files = d.files := by
  have hHere :
      m'.device.Restored
        ({ p with device := d } : Platform).device :=
    hRestored
  rcases hVisit.release (ε := ε) hHere (hFaults .unmap)
      (hFaults .detach) with
    ⟨d', hRelease, hBack, hFiles, _⟩
  exact ⟨d', hRelease, hBack, hFiles⟩

theorem Visiting.shows
    (hVisit : Visiting id r h m m')
    (hMapped : h.isMapped = true) : h.Shows r := by
  rcases Option.isSome_iff_exists.mp hMapped with
    ⟨mapping, hMapping⟩
  exact
    ⟨congrArg Region.size hVisit.region_eq, mapping, hMapping,
      hVisit.mapping mapping hMapping⟩

end Visits

/- A region in use is attached and mapped. -/
theorem visiting_of_unfaulted
    {m : Platform}
    {id : Nat}
    {r : LiveRegion}
    (hFaults : m.Unfaulted)
    (hFound : m.device.region? id = some r)
    (hInUse : r.freed = false) :
    ∃ h m',
      IdCache.attachMapped id m = (.ok h, m') ∧
        h.isMapped = true ∧ Visiting id r h m m' := by
  rcases Device.attach_of_region? hFound hInUse with
    ⟨d, hDone⟩
  have hAttached :
      Handle.attach id m =
        (.ok (ofRegion ⟨id, r.size, r.target, r.cache⟩
            .attached),
          { m with device := d }) := by
    simp only [Handle.attach, bind, Op.bind,
      Platform.attach_of_spared (hFaults .attach) hDone]
    rfl
  rcases Visiting.of_attach id m with
    ⟨s, h, m', hAttach, hNone, hVisit⟩ |
      ⟨e, m', hAttach, _, _⟩
  · cases hVisit.found.symm.trans hFound
    simp only [IdCache.attachMapped, bind, Op.bind, hAttach,
      mapOrRelease, Op.attempt]
    rcases hVisit.map hNone with
      ⟨h', m'', hMap, hMapped, hVisit'⟩ |
        ⟨e, m'', hMap, _, _⟩
    · rw [hMap]
      exact ⟨h', m'', rfl, hMapped, hVisit'⟩
    · rcases Device.map_of_region? hVisit.entry with
        ⟨mapping, d', hMapping⟩
      have hMapped :=
        Platform.map_of_spared
          (hFaults.of_spares hVisit.spares .map) hMapping
      simp only [Handle.map, hNone, bind, Op.bind,
        hMapped] at hMap
      cases hMap
  · rw [hAttached] at hAttach
    cases hAttach

end Handle

namespace Firmware

open Platform

/- A sample in a region in use is reached through it. -/
theorem reach_ok
    {m : Platform}
    (hFaults : m.Unfaulted)
    (hLaid : m.device.Laid)
    {base addr count : Nat}
    (hSpans : m.device.Spans base addr count)
    (hCount : 0 < count) :
    ∃ r h m',
      reach addr m = (.ok (h, addr - base), m') ∧
        h.isMapped = true ∧
          Handle.Visiting base r h m m' := by
  have hHolds :=
    Device.containing?_of_spans hLaid hSpans hCount
  rcases hSpans with ⟨r, hFound, hInUse, _, _⟩
  rcases Handle.visiting_of_unfaulted hFaults hFound hInUse
    with ⟨h, m', hAttach, hMapped, hVisit⟩
  refine ⟨r, h, m', ?_, hMapped, hVisit⟩
  have hReach :
      orBadValue (IdCache.attachMapped base) m =
        (.ok h, m') := by
    simp only [orBadValue, Op.mapError, hAttach]
  simp only [reach, bind, Op.bind, Op.get, hHolds]
  simp only [IdCache.attachMapped, bind] at hReach
  simp only [hReach]
  rfl

/- Bytes are copied between two mapped regions. -/
theorem transfer_ok
    {m : Platform}
    (hFaults : m.Unfaulted)
    (hLaid : m.device.Laid)
    {sBase tBase : Nat}
    {r q : LiveRegion}
    (hSource : m.device.region? sBase = some r)
    (hTarget : m.device.region? tBase = some q)
    {s t : Handle}
    (hFrom : s.Shows r)
    (hTo : t.Shows q)
    {count start stop : Nat}
    (hReads : start + count ≤ r.size)
    (hWrites : stop + count ≤ q.size) :
    ∃ d,
      transfer count (s, start) (t, stop) m =
          (.ok (), { m with device := d }) ∧
        m.device.Restored d ∧
          Device.Copied count sBase tBase
            [(sBase + start, tBase + stop)] m.device d := by
  rcases hFrom with ⟨hSize, source, hMapped, hFile⟩
  rcases hTo with ⟨hSize', target, hMapped', hFile'⟩
  let d := m.device.invalidate
  have hLaid' : d.Laid :=
    hLaid.of_places (hLaid.filed.of_same rfl rfl) fun _ => rfl
  have hCopied :=
    Device.copied_write hLaid' hSource hTarget hFile hFile'
      hReads hWrites
  have hFits :
      start + count ≤ s.size ∧ stop + count ≤ t.size := by
    omega
  have hFlush :=
    Platform.flush_of_spared
      (m :=
        { m with
          device :=
            d.write target stop (d.read source start count) })
      (hFaults .flush)
  refine
    ⟨_, ?_, Device.restored_transfer m.device target stop _,
      hCopied.of_bytes (fun _ _ => rfl) fun _ _ => rfl⟩
  simp only [transfer, if_pos hFits, bind, Op.bind,
    orBadValue, Op.mapError, Handle.invalidate,
    Handle.isMapped, hMapped, hMapped', Handle.read,
    Handle.write, Handle.flush, Option.isSome_some, if_true,
    Platform.invalidate_of_spared (hFaults .invalidate),
    Platform.read, Platform.write, Op.gets, Platform.act,
    Op.modify]
  rw [hFlush]

/- One sample is copied. -/
theorem copySample_ok
    {mode : CopyMode}
    {m : Platform}
    (hFaults : m.Unfaulted)
    (hLaid : m.device.Laid)
    (hCount : 0 < min mode.inSize mode.outSize)
    {sBase tBase : Nat}
    (hOther : sBase ≠ tBase)
    {source target : UInt64}
    (hSource :
      m.device.Spans sBase source.toNat
        (min mode.inSize mode.outSize))
    (hTarget :
      m.device.Spans tBase target.toNat
        (min mode.inSize mode.outSize)) :
    ∃ m',
      copySample mode source target m = (.ok (), m') ∧
        m.device.Restored m'.device ∧
          Device.Copied (min mode.inSize mode.outSize) sBase
            tBase [(source.toNat, target.toNat)] m.device
            m'.device := by
  -- Both regions are attached and mapped.
  rcases reach_ok hFaults hLaid hSource hCount with
    ⟨r, s, m₁, hFrom, hMapped₁, hVisit₁⟩
  have hActs₁ : m.Advances m₁ :=
    (reach_moves source.toNat).of_run hFrom
  have hFaults₁ := hFaults.of_spares hVisit₁.spares
  have hLaid₁ := hVisit₁.laid hActs₁ hLaid
  have hTarget₁ := hVisit₁.spans hTarget hOther.symm
  rcases reach_ok hFaults₁ hLaid₁ hTarget₁ hCount with
    ⟨q, t, m₂, hTo, hMapped₂, hVisit₂⟩
  have hActs₂ : m₁.Advances m₂ :=
    (reach_moves target.toNat).of_run hTo
  have hFaults₂ := hFaults₁.of_spares hVisit₂.spares
  have hLaid₂ := hVisit₂.laid hActs₂ hLaid₁
  -- The bytes are copied between them.
  rcases hSource with ⟨r', hFound, _, hLow, hHigh⟩
  cases hFound.symm.trans hVisit₁.found
  rcases hTarget₁ with ⟨q', hFound', _, hLow', hHigh'⟩
  cases hFound'.symm.trans hVisit₂.found
  have hSource₂ :
      m₂.device.region? sBase =
        some { r with attachments := r.attachments + 1 } := by
    rw [hVisit₂.region, if_neg hOther, hVisit₁.region,
      if_pos rfl]
  have hTarget₂ :
      m₂.device.region? tBase =
        some { q with attachments := q.attachments + 1 } := by
    rw [hVisit₂.region, if_pos rfl]
  have hReads :
      source.toNat - sBase + min mode.inSize mode.outSize ≤
        r.size := by
    omega
  have hWrites :
      target.toNat - tBase + min mode.inSize mode.outSize ≤
        q.size := by
    omega
  rcases transfer_ok hFaults₂ hLaid₂ hSource₂ hTarget₂
      (hVisit₁.shows hMapped₁) (hVisit₂.shows hMapped₂) hReads
      hWrites with
    ⟨d₃, hTransfer, hRestored₃, hCopied⟩
  rw [Nat.add_sub_cancel' hLow,
    Nat.add_sub_cancel' hLow'] at hCopied
  -- Both regions are given back.
  rcases hVisit₂.ended (ε := Status) hFaults₂ hRestored₃ with
    ⟨d₄, hRelease₂, hRestored₄, hFiles₄⟩
  rcases hVisit₁.ended (ε := Status) hFaults₂ hRestored₄ with
    ⟨d₅, hRelease₁, hRestored₅, hFiles₅⟩
  refine ⟨{ m₂ with device := d₅ }, ?_, hRestored₅, ?_⟩
  · simp only [copySample, bind, Op.bind, hFrom, Op.attempt,
      hTo, hTransfer]
    simp only [hRelease₂, hRelease₁]
    rfl
  · apply hCopied.of_bytes
    · intro base addr
      exact
        ((hVisit₂.byteOf base addr).trans
          (hVisit₁.byteOf base addr)).symm
    · intro base addr
      apply Device.byteOf_congr
      · rw [hRestored₅.region, hRestored₃.region,
          hVisit₂.places, hVisit₁.places]
      · rw [hFiles₅, hFiles₄]

------------------------------------------------------------
-- Runs
------------------------------------------------------------

/- The addresses of a sample as numbers. -/
def placesOf
    (sample : UInt64 × UInt64) : Nat × Nat :=
  (sample.1.toNat, sample.2.toNat)

/- What the samples of a run need to be copied. -/
structure Copyable
    (d : Device)
    (count sBase tBase : Nat)
    (samples : List (UInt64 × UInt64)) : Prop where
  spans :
    ∀ p ∈ samples.map placesOf,
      d.Spans sBase p.1 count ∧ d.Spans tBase p.2 count
  apart :
    (samples.map placesOf).Pairwise fun p q =>
      p.2 + count ≤ q.2 ∨ q.2 + count ≤ p.2

/- All samples are copied. -/
theorem copySamples_ok
    {mode : CopyMode}
    {m : Platform}
    (hFaults : m.Unfaulted)
    (hLaid : m.device.Laid)
    (hCount : 0 < min mode.inSize mode.outSize)
    {sBase tBase : Nat}
    (hOther : sBase ≠ tBase)
    {samples : List (UInt64 × UInt64)}
    (hSamples :
      Copyable m.device (min mode.inSize mode.outSize) sBase
        tBase samples) :
    ∃ m',
      copySamples mode samples m = (.ok (), m') ∧
        m.device.Restored m'.device ∧ m'.device.Laid ∧
          Device.Copied (min mode.inSize mode.outSize) sBase
            tBase (samples.map placesOf) m.device
            m'.device := by
  induction samples generalizing m with
  | nil =>
      exact
        ⟨m, rfl, .refl _, hLaid, .nil _ _ _ m.device⟩
  | cons sample rest ih =>
      have hSpans := hSamples.spans
      have hApart := hSamples.apart
      simp only [List.map_cons, List.forall_mem_cons,
        List.pairwise_cons] at hSpans hApart
      rcases copySample_ok hFaults hLaid hCount hOther
          hSpans.1.1 hSpans.1.2 with
        ⟨m₁, hFirst, hRestored, hCopied⟩
      have hActs : m.Advances m₁ :=
        (copySample_moves mode sample.1 sample.2).of_run
          hFirst
      have hLaid₁ := hLaid.of_restored hActs.acts hRestored
      have hRest :
          Copyable m₁.device (min mode.inSize mode.outSize)
            sBase tBase rest :=
        ⟨fun p hMem =>
          ⟨(hSpans.2 p hMem).1.of_restored hRestored,
            (hSpans.2 p hMem).2.of_restored hRestored⟩,
          hApart.2⟩
      rcases ih (hFaults.of_spares hActs.spares) hLaid₁ hRest
        with ⟨m₂, hLater, hRestored', hLaid₂, hCopied'⟩
      refine
        ⟨m₂, ?_, hRestored.trans hRestored', hLaid₂,
          hCopied.append hCopied' hOther ?_⟩
      · simp only [copySamples, bind, Op.bind, hFirst, hLater]
      · intro p hMem q hLaterMem
        cases List.mem_singleton.mp hMem
        exact hApart.1 q hLaterMem

/-
  A run that is not made to fail copies its samples and ends
  well, whatever failures are planned.
-/
theorem execute_ok
    {f : Firmware}
    {mode : CopyMode}
    {r : RunRecord}
    {m : Platform}
    (hCopy : f.setup.copy = some mode)
    (hFault : f.runFault = none)
    (hLaid : m.device.Laid)
    (hCount : 0 < min mode.inSize mode.outSize)
    {sBase tBase : Nat}
    (hOther : sBase ≠ tBase)
    (hSamples :
      Copyable m.device (min mode.inSize mode.outSize) sBase
        tBase (r.inputs.zip r.outputs)) :
    ∃ m',
      execute r (f, m) =
          (.ok [], ({ f with log := r :: f.log }, m')) ∧
        m'.faults = m.faults ∧
          m.device.Restored m'.device ∧ m'.device.Laid ∧
            Device.Copied (min mode.inSize mode.outSize) sBase
              tBase ((r.inputs.zip r.outputs).map placesOf)
              m.device m'.device := by
  rcases copySamples_ok
      (m := { m with faults := FaultPlan.none })
      (fun _ => rfl) hLaid hCount hOther hSamples with
    ⟨m', hRun, hRestored, hLaid', hCopied⟩
  refine
    ⟨{ m' with faults := m.faults }, ?_, rfl, hRestored,
      hLaid', hCopied⟩
  simp only [execute, bind, Op.bind, Op.get, hFault, hCopy,
    Op.within, Lens.snd, Platform.direct, hRun]
  rfl

end Firmware

end Offload
