import Offload.Machine.Engines
import Offload.Stage.Resources
import Offload.Proofs.Dispatch.CopyCustody
import Offload.Proofs.Memory.PoolCustody

/-
  What a machine does with handles.

  A machine holds the handles of its pools and its caches.
  Using one of them leaves the others alone. What a stage
  loads is a buffer of the caller's, and what it dumps is
  attached and mapped for the time of the dump.

  Key definitions include:
    * `Machine.custodian`

  Main results:
    * `Machine.carriesAt_onRow`
    * `Machine.carries_onPool`
    * `Machine.carries_onCache`
    * `StageResources.carries_loadInput`
    * `StageResources.carries_dump`
-/

namespace Offload

open Holdings

variable {ε : Type}

------------------------------------------------------------
-- Tables
------------------------------------------------------------

namespace Table

variable {α : Type}

/- The handles in the rows of a table. -/
def handles
    (f : α → List Handle)
    (t : Table α) : List Handle :=
  t.contents.flatMap f

theorem Keyed.handles_erase
    {t : Table α}
    (hKeyed : t.Keyed)
    {key : Nat}
    {a : α}
    (hFound : t.get? key = some a)
    (f : α → List Handle) :
    (t.handles f).Perm (f a ++ (t.erase key).handles f) :=
  (hKeyed.contents_erase hFound).flatMap_right f

theorem Keyed.handles_set
    {t : Table α}
    (hKeyed : t.Keyed)
    {key : Nat}
    {a : α}
    (hFound : t.get? key = some a)
    (b : α)
    (f : α → List Handle) :
    ((t.set key b).handles f).Perm
      (f b ++ (t.erase key).handles f) :=
  (hKeyed.contents_set hFound b).flatMap_right f

end Table

namespace Machine

open Op

------------------------------------------------------------
-- Parts
------------------------------------------------------------

/- The handles of all pools and of all caches. -/
def held
    (m : Machine) : List Handle :=
  m.pools.handles Pool.idleHandles ++
    m.caches.handles IdCache.leased

/- The tables of pools and of caches are in order. -/
structure InOrder
    (m : Machine) : Prop where
  pools : m.pools.Keyed
  caches : m.caches.Keyed
  leases : ∀ c ∈ m.caches.contents, c.leases.Keyed
  releasing : Releasing m.platform.faults

/- A machine and what its pools and caches hold. -/
def custodian : Custodian Machine where
  platform := platform
  held := held
  sound := InOrder

theorem carries_onPlatform
    {α : Type}
    {before : List Handle}
    {x : Op ε Platform α}
    {after : Except ε α → List Handle}
    (hx : Carries .ofPlatform before x after) :
    Carries custodian before (onPlatform x) after := by
  apply Carries.part _ hx
  intro m hOrder
  refine ⟨m.held, hOrder.releasing, rfl, List.Perm.refl _, ?_⟩
  intro p hPlan
  exact
    ⟨⟨hOrder.pools, hOrder.caches, hOrder.leases, hPlan⟩, rfl,
      List.Perm.refl _⟩

------------------------------------------------------------
-- Rows
------------------------------------------------------------

/- What a row of a part holds, the machine holds. -/
def Rows
    {τ : Type}
    (part : Lens Machine (Table τ))
    (d : Custodian (τ × Platform)) : Prop :=
  ∀ (m : Machine) (key : Nat) (row : τ),
    m.InOrder → (part.get m).get? key = some row →
      ∃ rest,
        custodian.Splits d m (row, m.platform)
          (fun r =>
            part.set ((part.get m).set key r.1)
              { m with platform := r.2 })
          rest

theorem rows_pools : Rows poolsPart Pool.custodian := by
  intro m key p hOrder hFound
  refine
    ⟨(m.pools.erase key).handles Pool.idleHandles ++
        m.caches.handles IdCache.leased,
      ⟨trivial, hOrder.releasing⟩, rfl, ?_, ?_⟩
  · have hPerm :=
      hOrder.pools.handles_erase hFound Pool.idleHandles
    simp only [custodian, held, Pool.custodian,
      Custodian.beside, Custodian.ofPlatform, List.append_nil]
    rw [← List.append_assoc]
    exact hPerm.append_right _
  · rintro ⟨p', platform⟩ ⟨_, hPlan⟩
    have hPerm :=
      hOrder.pools.handles_set hFound p' Pool.idleHandles
    refine
      ⟨⟨hOrder.pools.set key p', hOrder.caches,
        hOrder.leases, hPlan⟩, rfl, ?_⟩
    simp only [custodian, held, Pool.custodian,
      Custodian.beside, Custodian.ofPlatform, List.append_nil]
    rw [← List.append_assoc]
    exact hPerm.symm.append_right _

theorem rows_caches : Rows cachesPart IdCache.custodian := by
  intro m key c hOrder hFound
  have hSplit := hOrder.caches.contents_erase hFound
  have hMem : c ∈ m.caches.contents :=
    hSplit.mem_iff.mpr List.mem_cons_self
  refine
    ⟨(m.caches.erase key).handles IdCache.leased ++
        m.pools.handles Pool.idleHandles,
      ⟨hOrder.leases c hMem, hOrder.releasing⟩, rfl, ?_, ?_⟩
  · have hPerm :=
      hOrder.caches.handles_erase hFound IdCache.leased
    simp only [custodian, held, IdCache.custodian,
      Custodian.beside, Custodian.ofPlatform, List.append_nil]
    rw [← List.append_assoc]
    exact
      List.perm_append_comm.trans (hPerm.append_right _)
  · rintro ⟨c', platform⟩ ⟨hKeyed, hPlan⟩
    have hPerm :=
      hOrder.caches.handles_set hFound c' IdCache.leased
    have hLeases :
        ∀ x ∈ (m.caches.set key c').contents,
          x.leases.Keyed := by
      intro x hx
      have hSet := hOrder.caches.contents_set hFound c'
      rcases List.mem_cons.mp (hSet.mem_iff.mp hx) with
        rfl | hOther
      · exact hKeyed
      · apply hOrder.leases
        exact
          hSplit.mem_iff.mpr (List.mem_cons_of_mem c hOther)
    refine
      ⟨⟨hOrder.pools, hOrder.caches.set key c', hLeases,
        hPlan⟩, rfl, ?_⟩
    simp only [custodian, held, IdCache.custodian,
      Custodian.beside, Custodian.ofPlatform, List.append_nil]
    rw [← List.append_assoc]
    exact
      (hPerm.symm.append_right _).trans List.perm_append_comm

section Rows

variable {τ α : Type}
variable {part : Lens Machine (Table τ)}
variable {d : Custodian (τ × Platform)}
variable {before : List Handle}
variable {x : Op ε (τ × Platform) α}
variable {after : Except ε α → List Handle}

theorem carriesAt_onRow
    (hRows : Rows part d)
    {m : Machine}
    (hOrder : m.InOrder)
    {key : Nat}
    {row : τ}
    (hFound : (part.get m).get? key = some row)
    (hx : Carries d before x after)
    (fallback : Except ε α) :
    CarriesAt custodian m before (onRow part key fallback x)
      after := by
  rcases hRows m key row hOrder hFound with ⟨rest, hSplits⟩
  apply CarriesAt.of_part hSplits (hx _ hSplits.sound)
  unfold onRow
  rw [hFound]

/- Where the row is missing, the handles given stay. -/
theorem carries_onRow
    (hRows : Rows part d)
    (hx : Carries d before x after)
    {fallback : Except ε α}
    (hNone : before.Perm (after fallback))
    (key : Nat) :
    Carries custodian before (onRow part key fallback x)
      after := by
  intro m hOrder
  cases hFound : (part.get m).get? key with
  | some row =>
      exact carriesAt_onRow hRows hOrder hFound hx fallback
  | none =>
      have hRun : onRow part key fallback x m = (fallback, m) := by
        unfold onRow
        rw [hFound]
      apply CarriesAt.unchanged hOrder
      · rw [hRun]
      · rw [hRun]
        exact hNone

end Rows

section Shared

variable {α : Type}
variable {before : List Handle}
variable {after : Except Error α → List Handle}

theorem carries_onPool
    {x : Op Error (Pool × Platform) α}
    (hx : Carries Pool.custodian before x after)
    (hNone : ∀ e, before.Perm (after (.error e)))
    (key : Nat) :
    Carries custodian before (onPool key x) after :=
  carries_onRow rows_pools hx (hNone _) key

theorem carries_onCache
    {x : Op Error (IdCache × Platform) α}
    (hx : Carries IdCache.custodian before x after)
    (hNone : ∀ e, before.Perm (after (.error e)))
    (key : Nat) :
    Carries custodian before (onCache key x) after :=
  carries_onRow rows_caches hx (hNone _) key

theorem carries_onPoolSilently
    {x : Op ε (Pool × Platform) Unit}
    (hx : Carries Pool.custodian [] x fun _ => [])
    (key : Nat) :
    Carries custodian [] (onPoolSilently key x)
      fun _ => [] :=
  carries_onRow rows_pools hx (List.Perm.refl _) key

theorem carries_onCacheSilently
    {x : Op ε (IdCache × Platform) Unit}
    (hx : Carries IdCache.custodian [] x fun _ => [])
    (key : Nat) :
    Carries custodian [] (onCacheSilently key x)
      fun _ => [] :=
  carries_onRow rows_caches hx (List.Perm.refl _) key

end Shared

/- A pool or a cache that holds nothing yet is added. -/
theorem carries_addPool
    {p : Pool}
    (hIdle : p.idle = []) :
    Carries custodian [] (add poolsPart p : Op ε _ Nat)
      fun _ => [] := by
  intro m hOrder
  refine
    ⟨⟨hOrder.pools.insert p, hOrder.caches, hOrder.leases,
      hOrder.releasing⟩, .of_perm ?_ _⟩
  have hNone : p.idleHandles = [] := by
    rw [Pool.idleHandles, hIdle, List.flatMap_nil]
  have hSame :
      (m.pools.insert p).2.handles Pool.idleHandles =
        m.pools.handles Pool.idleHandles := by
    change
      p.idleHandles ++ m.pools.handles Pool.idleHandles = _
    rw [hNone, List.nil_append]
  exact
    (List.Perm.of_eq hSame.symm).append_right
      (m.caches.handles IdCache.leased)

theorem carries_addCache
    {c : IdCache}
    (hLeases : c.leases = Table.empty) :
    Carries custodian [] (add cachesPart c : Op ε _ Nat)
      fun _ => [] := by
  intro m hOrder
  have hKeyed :
      ∀ x ∈ (m.caches.insert c).2.contents,
        x.leases.Keyed := by
    intro x hx
    rcases List.mem_cons.mp hx with rfl | hOld
    · rw [hLeases]
      exact Table.keyed_empty
    · exact hOrder.leases x hOld
  refine
    ⟨⟨hOrder.pools, hOrder.caches.insert c, hKeyed,
      hOrder.releasing⟩, .of_perm ?_ _⟩
  have hNone : c.leased = [] := by
    rw [IdCache.leased, hLeases]
    rfl
  have hSame :
      (m.caches.insert c).2.handles IdCache.leased =
        m.caches.handles IdCache.leased := by
    change c.leased ++ m.caches.handles IdCache.leased = _
    rw [hNone, List.nil_append]
  exact
    (List.Perm.of_eq hSame.symm).append_left
      (m.pools.handles Pool.idleHandles)

/- Allocators hold no handles. -/
theorem carries_onRegistry
    {α : Type}
    {x : Op ε (Registry × Platform) α}
    {after : Except ε α → List Handle}
    (hx : Carries .bystander [] x after) :
    Carries custodian [] (onRegistry x) after := by
  apply Carries.part _ hx
  intro m hOrder
  refine
    ⟨m.held, ⟨trivial, hOrder.releasing⟩, rfl,
      List.Perm.refl _, ?_⟩
  rintro ⟨registry, platform⟩ ⟨_, hPlan⟩
  exact
    ⟨⟨hOrder.pools, hOrder.caches, hOrder.leases, hPlan⟩, rfl,
      List.Perm.refl _⟩

theorem carries_log
    {before : List Handle}
    (level : Level)
    (message : String)
    (fields : List (String × String)) :
    Carries custodian before
      (log level message fields : Op ε _ Unit)
      fun _ => before :=
  carries_onPlatform (Platform.carries_record _)

end Machine

------------------------------------------------------------
-- Stages
------------------------------------------------------------

namespace Registry

open Op

theorem carries_getOrCreate
    (name : String)
    (make : Allocator) :
    Carries .bystander [] (getOrCreate name make : Op ε _ _)
      fun _ => [] := by
  apply Carries.get_bind
  rintro ⟨r, m⟩
  simp only
  split
  · exact .pure (List.Perm.refl _)
  · apply (Platform.carries_record _).within_snd.bind_of_ok
      fun _ => rfl
    have hSet :
        ∀ r' : Registry,
          Carries .bystander []
            (Op.within Lens.fst (Op.set r') :
              Op ε (Registry × Platform) Unit)
            fun _ => [] := fun r' =>
      .modify_bystander fun _ => r'
    apply (hSet _).bind_of_ok fun _ => rfl
    exact .pure (List.Perm.refl _)

theorem carries_contiguous :
    Carries .bystander [] (contiguous : Op ε _ _)
      fun _ => [] := by
  apply (carries_getOrCreate _ _).bind
  · exact fun _ => .pure (List.Perm.refl _)
  · exact fun _ => List.Perm.refl _

end Registry

namespace StageResources

open Op

theorem carries_readInput
    (path : String) :
    Carries Machine.custodian [] (readInput path)
      fun _ => [] := by
  apply Carries.get_bind
  intro m
  split
  · exact .fail (List.Perm.refl _)
  · exact .fail (List.Perm.refl _)
  · exact .pure (List.Perm.refl _)

theorem carries_fill
    (bytes : Bytes) :
    Carries Buffer.custodian [] (fill bytes)
      fun _ => [] := by
  apply Buffer.carries_map.bind
  · intro _
    apply Carries.get_bind_at
    rintro ⟨b, m⟩ ⟨_, hPlan⟩
    have hFirst : b.parent.handle ∈ b.handles :=
      List.mem_cons_self
    have hWrite :
        CarriesAt Buffer.custodian (b, m) []
          (Op.within Lens.snd
            (b.parent.handle.write 0 bytes) :
            Op Error _ Unit)
          fun _ => [] :=
      .within_snd trivial
        (Handle.carries_write hFirst 0 bytes m hPlan)
    apply hWrite.bind
    · intro _ _
      exact
        .within_snd (t := b) trivial
          (b.carries_flush _ hWrite.1.2)
    · exact fun _ _ => List.Perm.refl _
  · exact fun _ => List.Perm.refl _

/- What is loaded is a buffer, and nothing else is left. -/
theorem carries_loadInput
    (r : StageResources)
    (path : String) :
    Carries Machine.custodian [] (r.loadInput path)
      (given Buffer.handles) := by
  apply (carries_readInput path).bind
  · intro bytes
    apply
      (Machine.carries_onRegistry
        Registry.carries_contiguous).bind
    · intro allocator
      apply
        (Machine.carries_onPlatform
          (Allocator.carries_allocateLayout r.debugFlags
            _)).bind
      · intro fresh
        have hFill :
            Carries .ofPlatform fresh.handles
              (Op.beside fresh (fill bytes) : Op Error _ _)
              (handsBack Buffer.handles fun _ => []) :=
          (carries_fill bytes).beside trivial
        apply (Machine.carries_onPlatform hFill).bind
        · rintro ⟨result, b⟩
          cases result with
          | error e =>
              apply
                (Machine.carries_onPlatform
                  b.carries_release).bind_of_ok
                  fun m => b.release_ok m.platform
              exact .fail (List.Perm.refl _)
          | ok _ =>
              apply (Machine.carries_log _ _ _).bind_of_ok
                fun _ => rfl
              exact .pure (List.Perm.refl _)
        · exact fun _ => List.Perm.refl _
      · exact fun _ => List.Perm.refl _
    · exact fun _ => List.Perm.refl _
  · exact fun _ => List.Perm.refl _

theorem carries_writeFile
    {before : List Handle}
    (path : String)
    (bytes : Bytes) :
    Carries Machine.custodian before (writeFile path bytes)
      fun _ => before := by
  intro m hOrder
  unfold CarriesAt writeFile
  simp only [Op.change]
  cases m.files.write path bytes with
  | error fault => exact ⟨hOrder, .refl _ _⟩
  | ok files =>
      exact
        ⟨⟨hOrder.pools, hOrder.caches, hOrder.leases,
          hOrder.releasing⟩, .refl _ _⟩

/- A handle beside a machine. -/
def heldBeside : Custodian (Handle × Machine) :=
  .beside (fun h => [h]) (fun _ => True) Machine.custodian

/- The handle of a dump stays in its place, mapped or not. -/
theorem carries_dumpRegion
    (r : StageResources)
    (path : String)
    (size : Nat) :
    Carries heldBeside [] (r.dumpRegion path size)
      fun _ => [] := by
  apply Carries.get_bind_at
  rintro ⟨h, m⟩ ⟨_, hOrder⟩
  have hMap :=
    Machine.carries_onPlatform h.carries_map m hOrder
  apply Handle.carriesAt_mapInPlace hMap
  intro h' m' hOrder'
  simp only [← Op.within_snd_bind]
  refine CarriesAt.within_snd (t := h') trivial ?_
  refine Carries.bind (Machine.carries_onPlatform
    (Handle.carries_invalidate List.mem_cons_self)) ?_
    (fun _ => List.Perm.refl _) m' hOrder'
  intro _
  apply
    (Machine.carries_onPlatform (h'.carries_read 0 _)).bind
  · intro bytes
    apply (carries_writeFile path bytes).bind
    · exact fun _ => Machine.carries_log _ _ _
    · exact fun _ => List.Perm.refl _
  · exact fun _ => List.Perm.refl _

theorem carries_dump
    (r : StageResources)
    (job : Job) :
    Carries Machine.custodian [] (r.dump job)
      fun _ => [] := by
  unfold dump
  split
  · exact .pure (List.Perm.refl _)
  · split
    · exact .fail (List.Perm.refl _)
    · rename_i path _ _ output _
      apply
        (Machine.carries_onPlatform
          (Handle.carries_attach output.binding.addr)).bind
      · intro h
        have hDump :
            Carries Machine.custodian [h]
              (Op.beside h
                (r.dumpRegion path output.binding.size) :
                Op Error _ _)
              (handsBack (fun h => [h]) fun _ => []) :=
          (r.carries_dumpRegion path
            output.binding.size).beside trivial
        apply hDump.bind
        · rintro ⟨result, h'⟩
          apply
            (Machine.carries_onPlatform
              h'.carries_release).bind_of_ok
              fun m => h'.release_ok m.platform
          exact .ofExcept (List.Perm.refl _)
        · exact fun _ => List.Perm.refl _
      · exact fun _ => List.Perm.refl _

end StageResources

end Offload
