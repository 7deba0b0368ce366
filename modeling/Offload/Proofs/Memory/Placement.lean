import Mathlib.Algebra.GroupWithZero.Nat
import Mathlib.Data.List.Basic
import Mathlib.Data.List.Pairwise
import Offload.Memory.Device
import Offload.Proofs.Run
import Offload.Proofs.Memory.Regions

/-
  Where the regions of a device lie.

  The cursor of a window only moves up, while freeing gives
  the bytes of the budget back. As long as no cursor leaves
  its window, regions lie in the windows of their targets
  and have no address in common. A cursor that leaves its
  window puts a region into the window of another target,
  and nothing stops it.

  Key definitions include:
    * `Device.Placed`
    * `Device.CursorsInside`
    * `Device.Packed`

  Main results:
    * `Device.packed_step`
    * `Device.placed_iff_cursorsInside`
    * `Device.placed_fails_after_sweep`
-/

namespace Offload

namespace Device

------------------------------------------------------------
-- Placement
------------------------------------------------------------

/- The first address behind a target's window. -/
def windowEnd
    (t : MemoryTarget) : Nat :=
  windowStart t + windowStride

/- Two entries of the table without a common address. -/
def Apart
    (a b : Nat × LiveRegion) : Prop :=
  a.1 + a.2.size ≤ b.1 ∨ b.1 + b.2.size ≤ a.1

instance
    (a b : Nat × LiveRegion) : Decidable (Apart a b) :=
  inferInstanceAs
    (Decidable
      (a.1 + a.2.size ≤ b.1 ∨ b.1 + b.2.size ≤ a.1))

/-
  Every region lies in the window of its target, and no two
  regions have an address in common.
-/
structure Placed
    (d : Device) : Prop where
  inside :
    ∀ e ∈ d.regions,
      windowStart e.2.target ≤ e.1 ∧
        e.1 + e.2.size ≤ windowEnd e.2.target
  apart : d.regions.Pairwise Apart

/- No cursor has left its window. -/
def CursorsInside
    (d : Device) : Prop :=
  ∀ t, (d.windows t).next ≤ windowEnd t

instance
    (d : Device) : Decidable d.CursorsInside :=
  decidable_of_iff
    (∀ t ∈ MemoryTarget.all,
      (d.windows t).next ≤ windowEnd t)
    ⟨fun h t => h t (by cases t <;> decide),
     fun h t _ => h t⟩

/-
  Regions have at least one byte and lie between the start
  of the window of their target and its cursor.
-/
structure Packed
    (d : Device) : Prop where
  reached : ∀ t, windowStart t ≤ (d.windows t).next
  behind :
    ∀ e ∈ d.regions,
      windowStart e.2.target ≤ e.1 ∧ 0 < e.2.size ∧
        e.1 + e.2.size ≤ (d.windows e.2.target).next
  apart : d.regions.Pairwise Apart

instance : Std.Symm Apart where
  symm _ _ h := Or.symm h

/- Regions with a byte that are apart start apart. -/
theorem Apart.addr_ne
    {a b : Nat × LiveRegion}
    (h : Apart a b)
    (ha : 0 < a.2.size)
    (hb : 0 < b.2.size) : a.1 ≠ b.1 := by
  unfold Apart at h
  omega

/- Windows of different targets have no common address. -/
theorem windowEnd_le_windowStart
    {t u : MemoryTarget}
    (hNe : t ≠ u) :
    windowEnd t ≤ windowStart u ∨
      windowEnd u ≤ windowStart t := by
  have hIndex : t.index ≠ u.index := by
    intro hEq
    apply hNe
    cases t <;> cases u <;> first | rfl | cases hEq
  simp only [windowEnd, windowStart, windowStride]
  omega

theorem Packed.placed
    {d : Device}
    (hPacked : d.Packed)
    (hInside : d.CursorsInside) : d.Placed where
  inside := by
    intro e he
    have hBehind := hPacked.behind e he
    have hCursor := hInside e.2.target
    omega
  apart := hPacked.apart

------------------------------------------------------------
-- Tables of Regions Apart
------------------------------------------------------------

/- An entry is put into a table that it is apart from. -/
theorem pairwise_put
    {addr : Nat}
    {r : LiveRegion}
    {rs : List (Nat × LiveRegion)}
    (hTable : rs.Pairwise Apart)
    (hApart :
      ∀ e ∈ rs, e.1 ≠ addr → Apart (addr, r) e) :
    (put addr r rs).Pairwise Apart := by
  apply List.Pairwise.cons
  · intro e he
    have hMem : e ∈ rs ∧ e.1 ≠ addr := by
      simpa [without] using he
    exact hApart e hMem.1 hMem.2
  · exact hTable.sublist List.filter_sublist

/- Carved regions are entered apart from each other. -/
theorem pairwise_enter
    {file : Nat}
    {rs : List (Nat × LiveRegion)}
    {cs : List (Nat × Region)}
    (hTable : rs.Pairwise Apart)
    (hCarved :
      cs.Pairwise fun a b => a.2.addr + a.2.size ≤ b.2.addr)
    (hApart :
      ∀ c ∈ cs, ∀ e ∈ rs, Apart (entryOf file c) e) :
    (enter file rs cs).Pairwise Apart := by
  induction cs generalizing rs with
  | nil => exact hTable
  | cons c rest ih =>
      have hOrder := List.pairwise_cons.mp hCarved
      apply ih
      · apply pairwise_put hTable
        intro e he _
        exact hApart c List.mem_cons_self e he
      · exact hOrder.2
      · intro d hRest e he
        rcases mem_put.mp he with rfl | hOld
        · exact Or.inr (hOrder.1 d hRest)
        · exact hApart d (List.mem_cons_of_mem _ hRest) e
            hOld.1

------------------------------------------------------------
-- One Call
------------------------------------------------------------

theorem packed_fresh
    (page : PageSize)
    (capacity : MemoryTarget → Nat) :
    (fresh page capacity).Packed where
  reached := fun t => Nat.le_refl (windowStart t)
  behind := by
    intro e he
    cases he
  apart := List.Pairwise.nil

/- An entry that changed stays apart from the others. -/
theorem Packed.updated
    {d d' : Device}
    {addr : Nat}
    {old new : LiveRegion}
    (hPacked : d.Packed)
    (h : Updated d d' addr old new) : d'.Packed := by
  have hOld : (addr, old) ∈ d.regions :=
    mem_of_region? h.found
  have hNew :
      ∀ e ∈ d.regions, e.1 ≠ addr →
        Apart (addr, new) e := by
    intro e he hAddr
    have hApart : Apart (addr, old) e := by
      apply hPacked.apart.forall hOld he
      intro hEq
      exact hAddr (congrArg Prod.fst hEq).symm
    simpa [Apart, h.size] using hApart
  constructor
  · intro t
    rw [h.cursors]
    exact hPacked.reached t
  · intro e he
    rw [h.cursors]
    rcases h.mem_regions he with rfl | hKept
    · simpa [h.size, h.target] using
        hPacked.behind (addr, old) hOld
    · exact hPacked.behind e hKept
  · rcases h.table with hPut | hWithout
    · rw [hPut]
      exact pairwise_put hPacked.apart hNew
    · rw [hWithout]
      exact hPacked.apart.sublist List.filter_sublist

/- What an allocation carves lies behind the old cursor. -/
theorem mem_carvedBy
    {d d' : Device}
    {target : MemoryTarget}
    {cache : CachePolicy}
    {sizes : List Nat}
    {answer : List Region}
    (h : d.allocate target cache sizes = .ok (answer, d'))
    {c : Nat × Region}
    (hMem : c ∈ d.carvedBy target cache sizes) :
    (d.windows target).next ≤ c.2.addr ∧ 0 < c.2.size ∧
      c.2.addr + c.2.size ≤ (d'.windows target).next ∧
      c.2.target = target := by
  rcases allocate_ok h with ⟨_, hNonzero, _, hCursor⟩
  rcases mem_carve hMem with ⟨hLow, hHigh, hTarget, hSize⟩
  have hStart := d.page.le_up (d.windows target).next
  have hPositive : c.2.size ≠ 0 := by
    intro hZero
    exact hNonzero (hZero ▸ hSize)
  rw [hCursor target, if_pos rfl]
  exact ⟨by omega, by omega, by omega, hTarget⟩

/-
  An allocation that leaves no window has no address in
  common with a region that is already there.
-/
theorem Packed.carvedBy_apart
    {d d' : Device}
    {target : MemoryTarget}
    {cache : CachePolicy}
    {sizes : List Nat}
    {answer : List Region}
    (hPacked : d.Packed)
    (hInside : d'.CursorsInside)
    (h : d.allocate target cache sizes = .ok (answer, d'))
    (file : Nat)
    {c : Nat × Region}
    (hCarved : c ∈ d.carvedBy target cache sizes)
    {e : Nat × LiveRegion}
    (hMem : e ∈ d.regions) :
    Apart (entryOf file c) e := by
  rcases mem_carvedBy h hCarved with
    ⟨hLow, _, hHigh, _⟩
  have hBehind := hPacked.behind e hMem
  by_cases hSame : e.2.target = target
  · rw [hSame] at hBehind
    apply Or.inr
    exact Nat.le_trans hBehind.2.2 hLow
  · have hCursor := (allocate_ok h).2.2.2 e.2.target
    rw [if_neg hSame] at hCursor
    have hOther := hInside e.2.target
    have hOwn := hInside target
    have hReached := hPacked.reached target
    rcases windowEnd_le_windowStart hSame with
      hBefore | hAfter
    · apply Or.inr
      change e.1 + e.2.size ≤ c.2.addr
      omega
    · apply Or.inl
      change c.2.addr + c.2.size ≤ e.1
      omega

/- An allocation that leaves no window keeps all in place. -/
theorem Packed.allocated
    {d d' : Device}
    {target : MemoryTarget}
    {cache : CachePolicy}
    {sizes : List Nat}
    {answer : List Region}
    (hPacked : d.Packed)
    (hInside : d'.CursorsInside)
    (h :
      d.allocate target cache sizes = .ok (answer, d')) :
    d'.Packed := by
  rcases allocate_ok h with ⟨_, _, ⟨file, hTable⟩, hCursor⟩
  have hGrown :
      ∀ t, (d.windows t).next ≤ (d'.windows t).next := by
    intro t
    rw [hCursor t]
    split
    · rename_i hEq
      have hStart := d.page.le_up (d.windows target).next
      rw [hEq]
      omega
    · exact Nat.le_refl _
  constructor
  · intro t
    exact Nat.le_trans (hPacked.reached t) (hGrown t)
  · intro e he
    rw [hTable] at he
    rcases mem_enter he with hOld | ⟨c, hCarved, rfl⟩
    · have hBehind := hPacked.behind e hOld
      have hNext := hGrown e.2.target
      exact
        ⟨hBehind.1, hBehind.2.1, by omega⟩
    · rcases mem_carvedBy h hCarved with
        ⟨hLow, hSize, hHigh, hTarget⟩
      have hReached := hPacked.reached target
      simp only [entryOf, liveOf, hTarget]
      exact ⟨by omega, hSize, hHigh⟩
  · rw [hTable]
    apply pairwise_enter hPacked.apart
    · exact pairwise_carve _ _ _ _ _
    · intro c hCarved e he
      exact hPacked.carvedBy_apart hInside h file hCarved he

/- An allocation ends at the cursor it leaves behind. -/
theorem exists_mem_at_cursor
    {d d' : Device}
    {target : MemoryTarget}
    {cache : CachePolicy}
    {sizes : List Nat}
    {answer : List Region}
    (h :
      d.allocate target cache sizes = .ok (answer, d')) :
    ∃ e ∈ d'.regions,
      e.2.target = target ∧
        e.1 + e.2.size = (d'.windows target).next := by
  rcases allocate_ok h with
    ⟨hNonempty, _, ⟨file, hTable⟩, hCursor⟩
  let size := sizes.getLast hNonempty
  have hSizes : sizes.dropLast ++ [size] = sizes :=
    List.dropLast_append_getLast hNonempty
  have hSum : sizes.dropLast.sum + size = sizes.sum := by
    simpa using congrArg List.sum hSizes
  rw [hTable, carvedBy, ← hSizes, carve_concat, enter_append]
  refine ⟨_, mem_put.mpr (Or.inl rfl), rfl, ?_⟩
  rw [hCursor target, if_pos rfl, ← hSum]
  simp [liveOf]
  omega

/- Regions stay in place while no cursor leaves its window. -/
theorem packed_step
    {d : Device}
    (c : Call)
    (hPacked : d.Packed)
    (hInside : (step c d).CursorsInside) :
    (step c d).Packed := by
  rcases step_cases c d with
    hSame | ⟨target, cache, sizes, answer, hOk⟩ |
      ⟨addr, old, new, hUpdated⟩
  · rw [hSame]
    exact hPacked
  · exact hPacked.allocated hInside hOk
  · exact hPacked.updated hUpdated

/- A cursor that leaves its window puts a region outside. -/
theorem cursorsInside_step
    {d : Device}
    (c : Call)
    (hInside : d.CursorsInside)
    (hPlaced : (step c d).Placed) :
    (step c d).CursorsInside := by
  rcases step_cases c d with
    hSame | ⟨target, cache, sizes, answer, hOk⟩ |
      ⟨addr, old, new, hUpdated⟩
  · rw [hSame]
    exact hInside
  · intro t
    by_cases hEq : t = target
    · rcases exists_mem_at_cursor hOk with
        ⟨e, he, hTarget, hEnd⟩
      rw [hEq, ← hEnd, ← hTarget]
      exact (hPlaced.inside e he).2
    · rw [(allocate_ok hOk).2.2.2 t, if_neg hEq]
      exact hInside t
  · intro t
    rw [hUpdated.cursors t]
    exact hInside t

------------------------------------------------------------
-- Look-Up
------------------------------------------------------------

/- Whether an entry is in use and holds an address. -/
def Holds
    (addr : Nat)
    (e : Nat × LiveRegion) : Bool :=
  !e.2.freed && e.1 ≤ addr && addr < e.1 + e.2.size

/- At most one of the entries that are apart is found. -/
theorem length_filter_holds
    {rs : List (Nat × LiveRegion)}
    (hTable : rs.Pairwise Apart)
    (addr : Nat) :
    (rs.filter (Holds addr)).length ≤ 1 := by
  have hApart :
      (rs.filter (Holds addr)).Pairwise Apart :=
    hTable.sublist List.filter_sublist
  have hHolds :
      ∀ e ∈ rs.filter (Holds addr),
        e.1 ≤ addr ∧ addr < e.1 + e.2.size := by
    intro e he
    have hFound := (List.mem_filter.mp he).2
    simp only [Holds, Bool.and_eq_true,
      decide_eq_true_eq] at hFound
    exact ⟨hFound.1.2, hFound.2⟩
  match hFilter : rs.filter (Holds addr) with
  | [] => simp
  | [_] => simp
  | a :: b :: rest =>
      rw [hFilter] at hApart hHolds
      have hPair : Apart a b :=
        (List.pairwise_cons.mp hApart).1 b List.mem_cons_self
      have ha := hHolds a (by simp)
      have hb := hHolds b (by simp)
      unfold Apart at hPair
      omega

/- What is found does not depend on the order of the table. -/
theorem Placed.containing?_perm
    {d : Device}
    (hPlaced : d.Placed)
    {table : List (Nat × LiveRegion)}
    (hPerm : table.Perm d.regions)
    (addr : Nat) :
    containing? { d with regions := table } addr =
      d.containing? addr := by
  have hFilter :
      (table.filter (Holds addr)).Perm
        (d.regions.filter (Holds addr)) :=
    hPerm.filter _
  have hEq :
      table.filter (Holds addr) =
        d.regions.filter (Holds addr) := by
    have hLength :=
      length_filter_holds hPlaced.apart addr
    match hFound : d.regions.filter (Holds addr) with
    | [] =>
        rw [hFound] at hFilter
        exact hFilter.eq_nil
    | [_] =>
        rw [hFound] at hFilter
        exact hFilter.eq_singleton
    | _ :: _ :: _ =>
        rw [hFound] at hLength
        simp at hLength
  change
    (table.find? (Holds addr)).map Prod.fst =
      (d.regions.find? (Holds addr)).map Prod.fst
  rw [← List.head?_filter, ← List.head?_filter, hEq]

/- An allocation that leaves no window replaces no region. -/
theorem Packed.mem_allocated
    {d d' : Device}
    {target : MemoryTarget}
    {cache : CachePolicy}
    {sizes : List Nat}
    {answer : List Region}
    (hPacked : d.Packed)
    (hInside : d'.CursorsInside)
    (h : d.allocate target cache sizes = .ok (answer, d'))
    {e : Nat × LiveRegion}
    (hMem : e ∈ d.regions) : e ∈ d'.regions := by
  rcases allocate_ok h with ⟨_, _, ⟨file, hTable⟩, _⟩
  rw [hTable]
  apply mem_enter_of_mem hMem
  intro c hCarved hAddr
  have hApart :=
    hPacked.carvedBy_apart hInside h file hCarved hMem
  exact
    hApart.addr_ne (mem_carvedBy h hCarved).2.1
      (hPacked.behind e hMem).2.1 hAddr.symm

------------------------------------------------------------
-- Whole Runs
------------------------------------------------------------

/- All states of a run without a cursor outside are packed. -/
theorem packed_of_cursorsInside
    {page : PageSize}
    {capacity : MemoryTarget → Nat}
    {calls : List Call}
    (hInside :
      ∀ d ∈ Run.states step calls (fresh page capacity),
        d.CursorsInside) :
    ∀ d ∈ Run.states step calls (fresh page capacity),
      d.Packed := by
  apply Run.forall_states_of_moves (packed_fresh page capacity)
  intro d c hMove hPacked
  exact
    packed_step c hPacked
      (hInside _ (Run.mem_states_of_mem_moves hMove).2)

/-
  Regions lie in their windows and apart from each other all
  through a run exactly if no cursor leaves its window. In
  such a run no allocation replaces a region, and what holds
  an address does not depend on the order of the table.
-/
theorem placed_iff_cursorsInside
    (page : PageSize)
    (capacity : MemoryTarget → Nat)
    (calls : List Call) :
    ((∀ d ∈ Run.states step calls (fresh page capacity),
        d.Placed) ↔
      ∀ d ∈ Run.states step calls (fresh page capacity),
        d.CursorsInside) ∧
    ((∀ d ∈ Run.states step calls (fresh page capacity),
        d.CursorsInside) →
      (∀ d target cache sizes,
        (d, .allocate target cache sizes) ∈
            Run.moves step calls (fresh page capacity) →
          ∀ e ∈ d.regions,
            e ∈ (step (.allocate target cache sizes)
              d).regions) ∧
      ∀ d ∈ Run.states step calls (fresh page capacity),
        ∀ table, table.Perm d.regions →
          ∀ addr,
            containing? { d with regions := table } addr =
              d.containing? addr) := by
  refine ⟨⟨?_, ?_⟩, fun hInside => ⟨?_, ?_⟩⟩
  · intro hPlaced
    apply Run.forall_states_of_moves
    · intro t
      exact Nat.le_add_right _ _
    · intro d c hMove hInside
      exact
        cursorsInside_step c hInside
          (hPlaced _ (Run.mem_states_of_mem_moves hMove).2)
  · intro hInside d hd
    exact
      (packed_of_cursorsInside hInside d hd).placed
        (hInside d hd)
  · intro d target cache sizes hMove e he
    have hStates := Run.mem_states_of_mem_moves hMove
    have hPacked :=
      packed_of_cursorsInside hInside d hStates.1
    rcases step_of_perform (.allocate target cache sizes) d
        (x := d.allocate target cache sizes) rfl with
      hSame | ⟨answer, hOk⟩
    · rw [hSame]
      exact he
    · exact
        hPacked.mem_allocated (hInside _ hStates.2) hOk he
  · intro d hd table hPerm addr
    have hPlaced :=
      (packed_of_cursorsInside hInside d hd).placed
        (hInside d hd)
    exact hPlaced.containing?_perm hPerm addr

------------------------------------------------------------
-- A Cursor Outside
------------------------------------------------------------

/-
  Allocate and free all the default budget of a target, as
  often as it fits into the window.
-/
def sweep : List Call :=
  (List.range 64).flatMap fun i =>
    [.allocate .generic .uncached [2 ^ 30],
     .free
      ⟨windowBase + 2 ^ 30 * i, 2 ^ 30, .generic, .uncached⟩]

/-
  Two allocations behind a sweep: the second one belongs to
  the window that was swept.
-/
def overrun : List Call :=
  sweep ++
    [.allocate .onChip .uncached [8192],
     .allocate .generic .uncached [4096]]

/-
  Default budgets are no larger than a window, and still the
  cursor of one gets out: its next region takes the place of
  a live region in the window of another target.
-/
theorem placed_fails_after_sweep :
    (∀ t, defaultCapacity t ≤ windowStride) ∧
      ¬ ∀ d ∈
          Run.states step overrun (fresh .usual defaultCapacity),
        d.Placed := by
  have hTable :
      (Run.after step overrun
          (fresh .usual defaultCapacity)).regions.map
        (fun e => (e.1, e.2.size, e.2.target)) =
      [(windowStart .onChip, 4096, .generic)] := by
    decide +kernel
  refine ⟨?_, ?_⟩
  · intro t
    cases t <;> decide
  · intro hPlaced
    have hMem :
        (windowStart .onChip, 4096, MemoryTarget.generic) ∈
          (Run.after step overrun
              (fresh .usual defaultCapacity)).regions.map
            (fun e => (e.1, e.2.size, e.2.target)) := by
      rw [hTable]
      exact List.mem_singleton_self _
    rcases List.mem_map.mp hMem with ⟨e, he, hEntry⟩
    simp only [Prod.mk.injEq] at hEntry
    rcases hEntry with ⟨hAddr, hSize, hTarget⟩
    have hEnd :=
      ((hPlaced _ (Run.after_mem_states _ _)).inside e he).2
    rw [hAddr, hSize, hTarget] at hEnd
    exact absurd hEnd (by decide)

end Device

end Offload
