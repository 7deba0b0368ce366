import Mathlib.Data.List.Sort
import Offload.Proofs.Memory.SharedCache

/-
  Tables of slots in use, and two ways of looking through
  them.

  A search through the mask goes from one set bit to the
  next. The bits are in step with the slots however often
  slots are filled and the table is cleared, so the search
  passes the filled slots in order and ends where a search
  through all slots ends. The same walk through the bits
  that are not set passes the empty slots.

  Key definitions include:
    * `Slots.walk`
    * `Slots.scan`
    * `Slots.Event`
    * `Slots.step`
    * `Slots.Exact`

  Main results:
    * `Slots.walk_eq_filter`
    * `Slots.Sound.exact`
    * `Slots.sound_step`
    * `SharedCache.reaches_slots`
    * `SharedCache.tables_exact`
-/

namespace Offload

namespace Slots

------------------------------------------------------------
-- Walking through a Mask
------------------------------------------------------------

/- The set bits of a mask as a search comes by them. -/
def walk
    (mask : UInt64) : List Nat :=
  if _ : mask = 0 then
    []
  else
    lowestBit mask :: walk (dropLowest mask)
termination_by mask.toNat
decreasing_by exact dropLowest_lt mask ‹_›

theorem mem_walk
    {mask : UInt64}
    {i : Nat} : i ∈ walk mask ↔ hasBit mask i = true := by
  fun_induction walk mask with
  | case1 => simp [hasBit_zero]
  | case2 mask hMask ih =>
      rw [List.mem_cons, ih, hasBit_dropLowest hMask,
        Bool.and_eq_true, decide_eq_true_eq]
      constructor
      · rintro (rfl | ⟨hBit, _⟩)
        · exact (lowestBit_spec hMask).1
        · exact hBit
      · intro hBit
        by_cases hLow : i = lowestBit mask
        · exact Or.inl hLow
        · exact Or.inr ⟨hBit, hLow⟩

/- A search never goes back. -/
theorem walk_pairwise
    (mask : UInt64) : (walk mask).Pairwise (· < ·) := by
  fun_induction walk mask with
  | case1 => exact List.Pairwise.nil
  | case2 mask hMask ih =>
      refine List.pairwise_cons.mpr ⟨fun i hMem => ?_, ih⟩
      have hBit := mem_walk.mp hMem
      rw [hasBit_dropLowest hMask, Bool.and_eq_true,
        decide_eq_true_eq] at hBit
      by_contra hLe
      have hBelow : i < lowestBit mask :=
        Nat.lt_of_le_of_ne (Nat.le_of_not_lt hLe) hBit.2
      have hUnset := (lowestBit_spec hMask).2 i hBelow
      rw [hBit.1] at hUnset
      cases hUnset

/- A walk passes the places whose bits are set, in order. -/
theorem walk_eq_filter
    {mask : UInt64}
    {n : Nat}
    {p : Nat → Bool}
    (h : ∀ i, hasBit mask i = (decide (i < n) && p i)) :
    walk mask = (List.range n).filter p := by
  apply (walk_pairwise mask).eq_of_mem_iff
  · exact List.Pairwise.filter p List.pairwise_lt_range
  · intro i
    rw [mem_walk, h, List.mem_filter, List.mem_range,
      Bool.and_eq_true, decide_eq_true_eq]

/- As many bits are counted as a walk passes. -/
theorem countBits_eq_length_walk
    (mask : UInt64) :
    countBits mask = (walk mask).length := by
  have hWalk :
      walk mask = (List.range 64).filter (hasBit mask) := by
    apply walk_eq_filter
    intro i
    cases hBit : hasBit mask i with
    | false => simp
    | true => simp [hasBit_lt hBit]
  rw [hWalk, countBits, List.countP_eq_length_filter]

------------------------------------------------------------
-- Looking through All Slots
------------------------------------------------------------

/- What is in a slot, if it is filled. -/
def at?
    (s : Slots)
    (i : Nat) : Option Slot :=
  s.entries[i]?.join

/- Whether a slot is filled. -/
def isFilled
    (s : Slots)
    (i : Nat) : Bool :=
  (s.at? i).isSome

/- Whether a slot is filled with an id. -/
def holds
    (s : Slots)
    (id i : Nat) : Bool :=
  (s.at? i).any fun slot => slot.id = id

/- The first slot with an id, all slots looked through. -/
def scan
    (s : Slots)
    (id : Nat) : Option Nat :=
  (List.range s.capacity).find? (s.holds id)

/- A search through a mask ends at its first bit that fits. -/
theorem findIn_eq_walk
    (s : Slots)
    (id : Nat)
    (mask : UInt64) :
    s.findIn id mask =
      ((walk mask).find? (s.holds id)).bind s.at? := by
  fun_induction findIn s id mask with
  | case1 =>
      rw [walk]
      rfl
  | case2 mask hMask slot hEntry hId =>
      have hHere : s.at? (lowestBit mask) = some slot := by
        rw [at?, hEntry]
        rfl
      rw [walk, dif_neg hMask, List.find?_cons_of_pos]
      · exact hHere.symm
      · simp [holds, hHere, hId]
  | case3 mask hMask slot hEntry hId ih =>
      have hHere : s.at? (lowestBit mask) = some slot := by
        rw [at?, hEntry]
        rfl
      rw [walk, dif_neg hMask, List.find?_cons_of_neg]
      · exact ih
      · simp [holds, hHere, hId]
  | case4 mask hMask hEntry ih =>
      have hHere : s.at? (lowestBit mask) = none := by
        rw [Option.eq_none_iff_forall_ne_some]
        intro slot hSlot
        exact hEntry slot (Option.join_eq_some_iff.mp hSlot)
      rw [walk, dif_neg hMask, List.find?_cons_of_neg]
      · exact ih
      · simp [holds, hHere]

------------------------------------------------------------
-- Exact Tables
------------------------------------------------------------

/-
  Bits are set for the filled slots and for nothing else,
  and no id fills two of them. A search through the mask
  looks at the filled slots in order and ends where a search
  through all slots does. The first empty slot is found,
  unless all are filled, and the filled ones are counted.
  The words that this takes are those of their numbers, up
  to a table with a slot for every bit.
-/
structure Exact
    (capacity : Nat)
    (s : Slots) : Prop where
  size : s.entries.length = capacity
  bits : ∀ i, hasBit s.occupied i = s.isFilled i
  beyond : ∀ i, capacity ≤ i → hasBit s.occupied i = false
  distinct :
    ∀ i j slot slot',
      s.at? i = some slot → s.at? j = some slot' →
        slot.id = slot'.id → i = j
  walked :
    walk s.occupied = (List.range capacity).filter s.isFilled
  scanned :
    ∀ id,
      (walk s.occupied).find? (s.holds id) = s.scan id ∧
        s.find? id = (s.scan id).bind s.at?
  free :
    s.freeIndex? =
      (List.range capacity).find? fun i => !s.isFilled i
  full :
    s.freeIndex? = none ↔ ∀ i < capacity, s.isFilled i = true
  counted :
    s.count = (List.range capacity).countP s.isFilled
  masked : (fullMask capacity).toNat = 2 ^ capacity - 1
  shifted :
    ∀ i,
      s.freeIndex? = some i →
        i < capacity ∧
          ((1 : UInt64) <<< UInt64.ofNat i).toNat = 2 ^ i

section Sound

variable {s : Slots}

theorem Sound.hasBit_eq
    (hSound : s.Sound)
    (i : Nat) : hasBit s.occupied i = s.isFilled i := by
  rw [Bool.eq_iff_iff, hSound.bits, isFilled,
    Option.isSome_iff_exists]
  simp only [at?, Option.join_eq_some_iff]

/- There is nothing in a slot that there is not. -/
theorem isFilled_of_le
    {i : Nat}
    (h : s.capacity ≤ i) : s.isFilled i = false := by
  rw [isFilled, at?, List.getElem?_eq_none h]
  rfl

/- The filled slots are among the slots that there are. -/
theorem isFilled_eq
    (s : Slots)
    (i : Nat) :
    s.isFilled i =
      (decide (i < s.capacity) && s.isFilled i) := by
  by_cases hi : i < s.capacity
  · simp [hi]
  · simp [isFilled_of_le (Nat.le_of_not_lt hi)]

theorem Sound.walk_occupied
    (hSound : s.Sound) :
    walk s.occupied =
      (List.range s.capacity).filter s.isFilled :=
  walk_eq_filter fun i =>
    (hSound.hasBit_eq i).trans (s.isFilled_eq i)

/- The free index is the first at which a walk would look. -/
theorem freeIndex?_eq_head?
    (s : Slots) :
    s.freeIndex? =
      (walk
        ((~~~ s.occupied) &&&
          fullMask s.capacity)).head? := by
  by_cases hNone :
      (~~~ s.occupied) &&& fullMask s.capacity = 0
  · rw [walk, dif_pos hNone]
    simp only [freeIndex?, if_pos hNone, List.head?_nil]
  · rw [walk, dif_neg hNone]
    simp only [freeIndex?, if_neg hNone, List.head?_cons]

theorem Sound.freeIndex?_eq
    (hSound : s.Sound) :
    s.freeIndex? =
      (List.range s.capacity).find?
        fun i => !s.isFilled i := by
  rw [freeIndex?_eq_head?, ← List.head?_filter]
  congr 1
  apply walk_eq_filter
  intro i
  rw [hSound.hasBit_free, hSound.hasBit_eq]

/- A filled slot with an id is a filled slot. -/
theorem isFilled_of_holds
    {id i : Nat}
    (h : s.holds id i = true) : s.isFilled i = true := by
  unfold holds at h
  unfold isFilled
  cases hHere : s.at? i with
  | none =>
      rw [hHere] at h
      cases h
  | some slot => rfl

theorem Sound.scanned
    (hSound : s.Sound)
    (id : Nat) :
    (walk s.occupied).find? (s.holds id) = s.scan id := by
  rw [hSound.walk_occupied, List.find?_filter, scan]
  congr 1
  funext i
  cases hHolds : s.holds id i with
  | false => simp
  | true => simp [isFilled_of_holds hHolds]

/- No id is found at two places. -/
theorem Sound.place_unique
    (hSound : s.Sound)
    {i j : Nat}
    {slot slot' : Slot}
    (hi : s.at? i = some slot)
    (hj : s.at? j = some slot')
    (hId : slot.id = slot'.id) : i = j := by
  have hDistinct := hSound.distinct
  rw [List.Nodup, List.pairwise_map, filled,
    List.pairwise_filterMap, List.pairwise_iff_getElem]
    at hDistinct
  have hAt :
      ∀ {k slot}, s.at? k = some slot →
        ∃ hk : k < s.entries.length,
          s.entries[k] = some slot := by
    intro k slot hk
    exact
      List.getElem?_eq_some_iff.mp
        (Option.join_eq_some_iff.mp hk)
  rcases hAt hi with ⟨hInI, hHereI⟩
  rcases hAt hj with ⟨hInJ, hHereJ⟩
  rcases Nat.lt_trichotomy i j with hLt | hEq | hGt
  · exact
      absurd hId
        (hDistinct i j hInI hInJ hLt _ hHereI _ hHereJ)
  · exact hEq
  · exact
      absurd hId.symm
        (hDistinct j i hInJ hInI hGt _ hHereJ _ hHereI)

theorem toNat_fullMask
    {capacity : Nat}
    (h : capacity ≤ maxCapacity) :
    (fullMask capacity).toNat = 2 ^ capacity - 1 := by
  apply Nat.eq_of_testBit_eq
  intro i
  rw [Nat.testBit_two_pow_sub_one]
  exact hasBit_fullMask h i

/- A sound table is exact. -/
theorem Sound.exact
    (hSound : s.Sound) : s.Exact s.capacity where
  size := rfl
  bits := hSound.hasBit_eq
  beyond := by
    intro i hi
    rw [hSound.hasBit_eq]
    exact isFilled_of_le hi
  distinct := fun _ _ _ _ => hSound.place_unique
  walked := hSound.walk_occupied
  scanned := by
    intro id
    refine ⟨hSound.scanned id, ?_⟩
    rw [← hSound.scanned]
    exact findIn_eq_walk s id s.occupied
  free := hSound.freeIndex?_eq
  full := by
    rw [hSound.freeIndex?_eq, List.find?_eq_none]
    simp
  counted := by
    rw [count, countBits_eq_length_walk,
      hSound.walk_occupied, List.countP_eq_length_filter]
  masked := toNat_fullMask hSound.small
  shifted := by
    intro i hFree
    have hi := (hSound.entry_of_freeIndex? hFree).1
    exact
      ⟨hi, toNat_one_shiftLeft
        (Nat.lt_of_lt_of_le hi hSound.small)⟩

end Sound

------------------------------------------------------------
-- Filling and Clearing
------------------------------------------------------------

/-
  A slot is filled for an id, with what the device answered,
  or all slots are emptied. A lookup that the device refuses
  does nothing to the table and is no event.
-/
inductive Event where
  | fill (slot : Slot)
  | clear

/-
  The table after an event. An id that has no slot gets the
  one that is free, if there is one.
-/
def step
    (e : Event)
    (s : Slots) : Slots :=
  match e with
  | .fill slot =>
    match s.find? slot.id, s.freeIndex? with
    | none, some index => s.fill index slot
    | _, _ => s
  | .clear => empty s.capacity

theorem capacity_empty
    (capacity : Nat) :
    (empty capacity).capacity = capacity := by
  simp [Slots.capacity, empty]

theorem capacity_fill
    (s : Slots)
    (index : Nat)
    (slot : Slot) :
    (s.fill index slot).capacity = s.capacity := by
  simp [Slots.capacity, Slots.fill]

section Steps

variable {s : Slots}
variable {slot slot' : Slot}
variable {index : Nat}

theorem step_of_known
    (hFind : s.find? slot.id = some slot') :
    step (.fill slot) s = s := by
  simp only [step, hFind]

theorem step_of_full
    (hFree : s.freeIndex? = none) :
    step (.fill slot) s = s := by
  simp only [step, hFree]
  cases s.find? slot.id <;> rfl

/- A slot is filled if its id has none and one is free. -/
theorem step_fill
    (hFind : s.find? slot.id = none)
    (hFree : s.freeIndex? = some index) :
    step (.fill slot) s = s.fill index slot := by
  simp only [step, hFind, hFree]

/- Every event leaves a sound table, with as many slots. -/
theorem sound_step
    (e : Event)
    (hSound : s.Sound) :
    (step e s).Sound ∧ (step e s).capacity = s.capacity := by
  cases e with
  | clear =>
      exact
        ⟨sound_empty hSound.small, capacity_empty s.capacity⟩
  | fill slot =>
      cases hFind : s.find? slot.id with
      | some slot' =>
          rw [step_of_known hFind]
          exact ⟨hSound, rfl⟩
      | none =>
          cases hFree : s.freeIndex? with
          | none =>
              rw [step_of_full hFree]
              exact ⟨hSound, rfl⟩
          | some index =>
              rw [step_fill hFind hFree]
              have hEmpty :=
                (hSound.entry_of_freeIndex? hFree).2
              have hNew :=
                hSound.find?_eq_none_iff.mp hFind
              exact
                ⟨hSound.fill hEmpty hNew,
                  s.capacity_fill index slot⟩

end Steps

/- Tables stay exact whatever is filled and cleared. -/
theorem exact_states
    {capacity : Nat}
    (h : capacity ≤ maxCapacity)
    (es : List Event) :
    ∀ s ∈ Run.states step es (empty capacity),
      s.Exact capacity := by
  have hSound :
      ∀ s ∈ Run.states step es (empty capacity),
        s.Sound ∧ s.capacity = capacity := by
    apply Run.forall_states
    · intro s e hBefore
      have hAfter := sound_step e hBefore.1
      exact ⟨hAfter.1, hAfter.2.trans hBefore.2⟩
    · exact ⟨sound_empty h, capacity_empty capacity⟩
  intro s hMem
  rcases hSound s hMem with ⟨hTable, rfl⟩
  exact hTable.exact

end Slots

------------------------------------------------------------
-- Lookups as Events
------------------------------------------------------------

namespace IdCache

variable {c : IdCache}
variable {m : Platform}
variable {id index : Nat}

/- The table of one cache becomes that of the other. -/
def Retabled
    (x y : IdCache × Platform) : Prop :=
  Run.Reaches Slots.step x.1.slots y.1.slots

instance : Std.Refl Retabled where
  refl x := Run.Reaches.refl x.1.slots

instance : IsTrans (IdCache × Platform) Retabled where
  trans _ _ _ hFirst hNext := Run.Reaches.trans hFirst hNext

/- Whatever is done beside the table leaves it. -/
theorem Retabled.of_same
    {x y : IdCache × Platform}
    (h : y.1.slots = x.1.slots) : Retabled x y :=
  ⟨[], h.symm⟩

theorem change_retables
    {ε : Type}
    {f : IdCache → IdCache}
    (hSame : ∀ c, (f c).slots = c.slots) :
    Op.Moves Retabled
      (change f : Op ε (IdCache × Platform) Unit) :=
  fun x => .of_same (hSame x.1)

theorem onPlatform_retables
    {ε α : Type}
    (x : Op ε Platform α) :
    Op.Moves Retabled (onPlatform x) :=
  fun _ => .of_same rfl

theorem noteBypass_retables
    {ε : Type}
    (id : Nat) :
    Op.Moves Retabled
      (noteBypass id : Op ε (IdCache × Platform) Unit) := by
  refine Op.Moves.bind (change_retables fun _ => rfl) ?_
  intro _
  refine Op.Moves.bind (onPlatform_retables _) ?_
  intro _
  apply Op.Moves.seeing
  exact fun _ => onPlatform_retables _

theorem letGo_retables
    {ε : Type}
    (key : Nat) :
    Op.Moves Retabled
      (letGo key : Op ε (IdCache × Platform) Unit) := by
  apply Op.Moves.seeing
  rintro ⟨c, m⟩
  dsimp only
  cases c.leases.get? key with
  | none => exact Op.Moves.pure ()
  | some l =>
      dsimp only
      split
      · exact change_retables fun _ => rfl
      · refine Op.Moves.bind (change_retables fun _ => rfl) ?_
        exact fun _ => onPlatform_retables _

theorem letGoAll_retables
    {ε : Type}
    (slots : List Slot) :
    Op.Moves Retabled
      (letGoAll slots : Op ε (IdCache × Platform) Unit) := by
  induction slots with
  | nil => exact Op.Moves.pure ()
  | cons slot rest ih =>
      exact (letGo_retables slot.lease).bind fun _ => ih

/- To empty the table is an event, and so is all of it. -/
theorem clear_retables
    {ε : Type} :
    Op.Moves Retabled
      (clear : Op ε (IdCache × Platform) Unit) := by
  apply Op.Moves.get_bind
  rintro ⟨c, m⟩
  have hEmpty :
      Retabled (c, m)
        ({ c with slots := Slots.empty c.slots.capacity },
          m) :=
    ⟨[.clear], rfl⟩
  exact
    IsTrans.trans _ _ _ hEmpty
      (letGoAll_retables (ε := ε) c.slots.filled _)

/- An id gets the free slot, or the device refuses. -/
theorem fill_retables
    (hFind : c.slots.find? id = none)
    (hFree : c.slots.freeIndex? = some index) :
    Retabled (c, m) (fill index id (c, m)).2 := by
  rcases hAttach : attachMapped id m with ⟨e | h, m'⟩
  · rw [fill_of_refused hAttach]
    exact .of_same rfl
  · rcases fill_of_attached (c := c) hAttach index with
      ⟨p, hFill, _⟩
    have hStep :
        Slots.step (.fill (c.slotFor id h)) c.slots =
          c.slots.fill index (c.slotFor id h) :=
      Slots.step_fill hFind hFree
    rw [hFill]
    exact ⟨[.fill (c.slotFor id h)], hStep⟩

theorem resolve_retables
    (id : Nat) : Op.Moves Retabled (resolve id) := by
  rintro ⟨c, m⟩
  cases hFind : c.slots.find? id with
  | some slot =>
      rcases resolve_of_find? hFind m with ⟨p, hRun, _⟩
      rw [hRun]
      exact .of_same (slots_share _ _)
  | none =>
      cases hFree : c.slots.freeIndex? with
      | some index =>
          have hFilled := fill_retables (m := m) hFind hFree
          rcases hFill : fill index id (c, m) with
            ⟨e | slot, y⟩
          · rw [resolve_of_unfilled hFind hFree hFill]
            rw [hFill] at hFilled
            exact hFilled
          · rw [resolve_of_fill hFind hFree hFill]
            rw [hFill] at hFilled
            exact
              IsTrans.trans _ _ _ hFilled
                (.of_same (slots_share slot.lease y.1))
      | none =>
          rcases resolve_of_full hFind hFree m with
            ⟨p, _, _, hOk, hError⟩
          rcases hAttach : attachMapped id p with ⟨e | h, m'⟩
          · rw [hError e m' hAttach]
            exact .of_same rfl
          · rw [hOk h m' hAttach]
            exact .of_same rfl

theorem resolvePhys_retables
    (id : Nat) : Op.Moves Retabled (resolvePhys id) := by
  apply Op.Moves.get_bind
  rintro ⟨c, m⟩
  dsimp only
  cases hFind : c.slots.find? id with
  | some slot => exact .of_same rfl
  | none =>
      dsimp only
      cases hFree : c.slots.freeIndex? with
      | some index =>
          have hFilled := fill_retables (m := m) hFind hFree
          simp only [bind, Op.bind]
          rcases hFill : fill index id (c, m) with
            ⟨e | slot, y⟩
          · rw [hFill] at hFilled
            exact hFilled
          · rw [hFill] at hFilled
            exact hFilled
      | none =>
          refine
            Op.Moves.bind (noteBypass_retables id) ?_ (c, m)
          intro _
          refine Op.Moves.bind (onPlatform_retables _) ?_
          intro h
          refine Op.Moves.bind (onPlatform_retables _) ?_
          exact fun _ => Op.Moves.pure h.addr

end IdCache

------------------------------------------------------------
-- Tables in Use
------------------------------------------------------------

namespace SharedCache

/- Whatever is done fills slots or clears the table. -/
theorem reaches_slots
    (s : SharedCache)
    (e : Event) :
    Run.Reaches Slots.step s.cache.slots
      (step e s).cache.slots := by
  cases e with
  | resolve id => exact IdCache.resolve_retables id s.pair
  | resolvePhys id =>
      exact IdCache.resolvePhys_retables id s.pair
  | copy place =>
      simp only [step]
      cases s.held[place]? with
      | none => exact .refl _
      | some r =>
          exact ⟨[], (IdCache.slots_share r.lease _).symm⟩
  | drop place =>
      simp only [step]
      cases s.held[place]? with
      | none => exact .refl _
      | some r =>
          exact
            IdCache.letGo_retables (ε := Error) r.lease s.pair
  | clear => exact IdCache.clear_retables (ε := Error) s.pair
  | others m hs => exact .refl _

/-
  A table may have as many slots as a word has bits. It is
  exact after any fills and clearings, and these are all
  that callers do to the table of a cache, whatever the
  device answers. A search comes to an end, since dropping
  the lowest bit of a mask drops this bit and no other.
-/
theorem tables_exact
    {capacity : Nat}
    (hLeast : 1 ≤ capacity)
    (hMost : capacity ≤ 64) :
    ∃ c,
      IdCache.create capacity = .ok c ∧
        (∀ es, ∀ s ∈ Run.states Slots.step es c.slots,
          s.Exact capacity) ∧
        (∀ m others es,
          ∀ t ∈ Run.states step es (of c m others),
            Run.Reaches Slots.step c.slots t.cache.slots ∧
              t.cache.slots.Exact capacity) ∧
        ∀ mask : UInt64, mask ≠ 0 →
          Slots.hasBit mask (Slots.lowestBit mask) = true ∧
            (∀ i < Slots.lowestBit mask,
              Slots.hasBit mask i = false) ∧
            (∀ i,
              Slots.hasBit (Slots.dropLowest mask) i =
                (Slots.hasBit mask i &&
                  decide (i ≠ Slots.lowestBit mask))) ∧
            (Slots.dropLowest mask).toNat < mask.toNat := by
  have hCreate :
      IdCache.create capacity =
        .ok (IdCache.ofCapacity capacity) := by
    have hRange : ¬ (capacity = 0 ∨ capacity > 64) := by omega
    exact if_neg hRange
  have hRun := Slots.exact_states hMost
  refine ⟨_, hCreate, hRun, ?_, ?_⟩
  · intro m others es t hMem
    have hReached :
        Run.Reaches Slots.step
          (IdCache.ofCapacity capacity).slots
          t.cache.slots := by
      revert t
      apply Run.forall_states
      · intro t e hBefore
        exact hBefore.trans (reaches_slots t e)
      · exact .refl _
    refine ⟨hReached, ?_⟩
    rcases hReached with ⟨fills, hTable⟩
    exact
      hRun fills _ (hTable ▸ Run.after_mem_states fills _)
  · intro mask hMask
    have hLowest := Slots.lowestBit_spec hMask
    exact
      ⟨hLowest.1, hLowest.2, Slots.hasBit_dropLowest hMask,
        Slots.dropLowest_lt mask hMask⟩

/-
  An id with a slot does not get another, and after the
  table is cleared its slots are given away anew.
-/
def reassigned : List Slots.Event :=
  [.fill ⟨9, 9, 0⟩, .fill ⟨4, 4, 1⟩, .fill ⟨9, 9, 2⟩, .clear,
    .fill ⟨7, 7, 3⟩, .fill ⟨4, 4, 4⟩]

/- This is done to a table with a slot for every bit. -/
theorem reassigned_exact :
    1 ≤ 64 ∧ 64 ≤ 64 ∧
      ∃ c,
        IdCache.create 64 = .ok c ∧
          (∀ s ∈ Run.states Slots.step reassigned c.slots,
            s.Exact 64) ∧
          (Run.after Slots.step reassigned c.slots).occupied =
            3 ∧
          (Run.after Slots.step reassigned c.slots).scan 4 =
            some 1 ∧
          (Run.after Slots.step reassigned c.slots).scan 9 =
            none := by
  refine ⟨by decide, by decide, ?_⟩
  have hLeast : 1 ≤ 64 := by decide
  rcases tables_exact hLeast (Nat.le_refl 64) with
    ⟨c, hCreate, hExact, _⟩
  refine ⟨c, hCreate, hExact reassigned, ?_⟩
  cases hCreate
  decide +kernel

end SharedCache

end Offload
