import Mathlib.Data.List.Count
import Mathlib.Data.List.Nodup
import Mathlib.Data.List.Perm.Basic
import Mathlib.Data.Nat.Bitwise
import Offload.Memory.IdCache

/-
  Slots and the mask that says which of them are filled.

  The mask is a word, one bit per slot. Looking for the
  lowest bit and dropping it goes through the set bits, so
  that a search through the mask is a search among the
  filled slots, and the bits that are not set are the slots
  that are left.

  Key definitions include:
    * `Slots.Sound`

  Main results:
    * `Slots.Sound.find?_eq_some_iff`
    * `Slots.Sound.freeIndex?_eq_none_iff`
    * `Slots.Sound.fill`
    * `Slots.Sound.count_eq`
-/

namespace Offload

namespace Slots

------------------------------------------------------------
-- Bits
------------------------------------------------------------

theorem hasBit_lt
    {mask : UInt64}
    {i : Nat}
    (h : hasBit mask i = true) : i < 64 := by
  by_contra hFar
  have hSmall : mask.toNat < 2 ^ i :=
    Nat.lt_of_lt_of_le mask.toNat_lt
      (Nat.pow_le_pow_right (by decide) (Nat.not_lt.mp hFar))
  rw [hasBit, Nat.testBit_lt_two_pow hSmall] at h
  cases h

/- Masks with the same bits are equal. -/
theorem ext_hasBit
    {mask mask' : UInt64}
    (h : ∀ i, hasBit mask i = hasBit mask' i) :
    mask = mask' :=
  UInt64.toNat_inj.mp (Nat.eq_of_testBit_eq h)

theorem hasBit_zero
    (i : Nat) : hasBit 0 i = false := by
  simp [hasBit]

theorem hasBit_and
    (mask mask' : UInt64)
    (i : Nat) :
    hasBit (mask &&& mask') i =
      (hasBit mask i && hasBit mask' i) := by
  simp [hasBit, UInt64.toNat_and]

theorem hasBit_or
    (mask mask' : UInt64)
    (i : Nat) :
    hasBit (mask ||| mask') i =
      (hasBit mask i || hasBit mask' i) := by
  simp [hasBit, UInt64.toNat_or]

theorem hasBit_not
    (mask : UInt64)
    {i : Nat}
    (h : i < 64) :
    hasBit (~~~ mask) i = !hasBit mask i := by
  have hSize : UInt64.size - 1 - mask.toNat =
      2 ^ 64 - (mask.toNat + 1) := by
    change 2 ^ 64 - 1 - mask.toNat = _
    omega
  rw [hasBit, UInt64.toNat_not, hSize,
    Nat.testBit_two_pow_sub_succ mask.toNat_lt]
  simp [hasBit, h]

/- The mask of one bit. -/
theorem toNat_one_shiftLeft
    {i : Nat}
    (h : i < 64) :
    ((1 : UInt64) <<< UInt64.ofNat i).toNat = 2 ^ i := by
  have hSmall : 2 ^ i < 2 ^ 64 :=
    Nat.pow_lt_pow_right (by decide) h
  have hWord : (UInt64.ofNat i).toNat % 64 = i := by
    rw [UInt64.toNat_ofNat']
    omega
  rw [UInt64.toNat_shiftLeft, hWord, UInt64.toNat_one,
    Nat.one_shiftLeft, Nat.mod_eq_of_lt hSmall]

theorem hasBit_one_shiftLeft
    {i : Nat}
    (h : i < 64)
    (j : Nat) :
    hasBit ((1 : UInt64) <<< UInt64.ofNat i) j =
      decide (i = j) := by
  rw [hasBit, toNat_one_shiftLeft h, Nat.testBit_two_pow]

/- A mask with as many bits as there are slots. -/
theorem hasBit_fullMask
    {capacity : Nat}
    (h : capacity ≤ maxCapacity)
    (i : Nat) :
    hasBit (fullMask capacity) i = decide (i < capacity) := by
  unfold fullMask
  by_cases hAll : capacity ≥ 64
  · have hEq : capacity = 64 := Nat.le_antisymm h hAll
    rw [if_pos hAll, hEq]
    exact Nat.testBit_two_pow_sub_one 64 i
  · have hSmall : capacity < 64 := Nat.not_le.mp hAll
    have hOne : (1 : UInt64) ≤
        (1 : UInt64) <<< UInt64.ofNat capacity := by
      rw [UInt64.le_iff_toNat_le,
        toNat_one_shiftLeft hSmall]
      exact Nat.one_le_two_pow
    rw [if_neg hAll, hasBit, UInt64.toNat_sub_of_le _ _ hOne,
      toNat_one_shiftLeft hSmall, UInt64.toNat_one,
      Nat.testBit_two_pow_sub_one]

------------------------------------------------------------
-- The Lowest Bit
------------------------------------------------------------

/- The lowest set bit is set, and none below it is. -/
theorem lowestBit_spec
    {mask : UInt64}
    (h : mask ≠ 0) :
    hasBit mask (lowestBit mask) = true ∧
      ∀ i < lowestBit mask, hasBit mask i = false := by
  unfold lowestBit
  cases hFound : (List.range 64).find? (hasBit mask) with
  | none =>
      refine absurd (ext_hasBit fun i => ?_) h
      rw [hasBit_zero]
      by_contra hSet
      have hBit : hasBit mask i = true := by simpa using hSet
      exact
        List.find?_eq_none.mp hFound i
          (List.mem_range.mpr (hasBit_lt hBit)) hBit
  | some k =>
      rcases List.find?_range_eq_some.mp hFound with
        ⟨hBit, _, hBelow⟩
      exact ⟨hBit, fun i hi => by simpa using hBelow i hi⟩

/-
  A number is a power of two times an odd number. To take
  one from it clears that power and sets all bits below.
-/
theorem testBit_and_pred
    {n k : Nat}
    (hBit : n.testBit k = true)
    (hBelow : ∀ i < k, n.testBit i = false)
    (i : Nat) :
    (n &&& (n - 1)).testBit i =
      (n.testBit i && decide (i ≠ k)) := by
  have hMod : n % 2 ^ k = 0 := by
    apply Nat.eq_of_testBit_eq
    intro j
    rw [Nat.testBit_mod_two_pow, Nat.zero_testBit]
    by_cases hj : j < k
    · simp [hBelow j hj]
    · simp [hj]
  have hOdd : n / 2 ^ k % 2 = 1 := by
    simpa [Nat.testBit_eq_decide_div_mod_eq] using hBit
  let m := n / 2 ^ k / 2
  have hPos : 0 < 2 ^ k := Nat.two_pow_pos k
  have hSplit : n = 2 ^ k * (2 * m + 1) + 0 := by
    have hDiv := Nat.div_add_mod n (2 ^ k)
    have hHalf : n / 2 ^ k = 2 * m + 1 := by omega
    rw [hHalf] at hDiv
    omega
  have hPred : n - 1 = 2 ^ k * (2 * m) + (2 ^ k - 1) := by
    rw [hSplit, Nat.mul_add]
    omega
  have hLess : 2 ^ k - 1 < 2 ^ k := by omega
  rw [Nat.testBit_and, hPred,
    Nat.testBit_two_pow_mul_add _ hLess, hSplit,
    Nat.testBit_two_pow_mul_add _ hPos]
  by_cases hi : i < k
  · simp [hi]
  · simp only [hi, if_false]
    rcases Nat.eq_or_lt_of_le (Nat.not_lt.mp hi) with
      rfl | hAbove
    · simp
    · rcases Nat.exists_eq_add_of_lt hAbove with ⟨j, rfl⟩
      have hShift : k + j + 1 - k = j + 1 := by omega
      have hHalf : (2 * m + 1) / 2 = m := by omega
      have hOther : ¬ k + j + 1 = k := by omega
      simp [hShift, Nat.testBit_succ, hHalf, hOther]

/- Dropping the lowest bit leaves the others. -/
theorem hasBit_dropLowest
    {mask : UInt64}
    (h : mask ≠ 0)
    (i : Nat) :
    hasBit (dropLowest mask) i =
      (hasBit mask i && decide (i ≠ lowestBit mask)) := by
  have hSpec := lowestBit_spec h
  have hOne : (1 : UInt64) ≤ mask := by
    rw [UInt64.le_iff_toNat_le, UInt64.toNat_one]
    exact
      Nat.one_le_iff_ne_zero.mpr fun hZero =>
        h (UInt64.toNat_inj.mp hZero)
  rw [hasBit, dropLowest, UInt64.toNat_and,
    UInt64.toNat_sub_of_le _ _ hOne, UInt64.toNat_one]
  exact testBit_and_pred hSpec.1 hSpec.2 i

------------------------------------------------------------
-- Filled Slots
------------------------------------------------------------

/-
  Bits say which slots are filled, there is a bit for every
  slot, and no id fills two slots.
-/
structure Sound
    (s : Slots) : Prop where
  small : s.capacity ≤ maxCapacity
  bits :
    ∀ i,
      hasBit s.occupied i = true ↔
        ∃ slot, s.entries[i]? = some (some slot)
  distinct : (s.filled.map Slot.id).Nodup

theorem sound_empty
    {capacity : Nat}
    (h : capacity ≤ maxCapacity) : (empty capacity).Sound where
  small := by
    simpa [Slots.capacity, empty] using h
  bits := by
    intro i
    simp [empty, hasBit_zero, List.getElem?_replicate]
  distinct := by
    simp [filled, empty, List.filterMap_replicate_of_none]

theorem mem_filled
    {s : Slots}
    {slot : Slot} :
    slot ∈ s.filled ↔
      ∃ i : Nat, s.entries[i]? = some (some slot) := by
  rw [filled, List.mem_filterMap, ← List.mem_iff_getElem?]
  simp

/- A search finds a slot of the id at a bit of the mask. -/
theorem of_findIn_eq_some
    {s : Slots}
    {id : Nat}
    {mask : UInt64}
    {slot : Slot}
    (h : s.findIn id mask = some slot) :
    slot ∈ s.filled ∧ slot.id = id := by
  fun_induction findIn s id mask with
  | case1 => cases h
  | case2 mask _ slot' hEntry hId =>
      cases h
      exact ⟨mem_filled.mpr ⟨_, hEntry⟩, hId⟩
  | case3 _ _ _ _ _ ih => exact ih h
  | case4 _ _ _ ih => exact ih h

/- A search that finds nothing looked at every bit. -/
theorem ne_of_findIn_eq_none
    {s : Slots}
    {id : Nat}
    {mask : UInt64}
    (h : s.findIn id mask = none)
    {i : Nat}
    (hBit : hasBit mask i = true)
    {slot : Slot}
    (hEntry : s.entries[i]? = some (some slot)) :
    slot.id ≠ id := by
  fun_induction findIn s id mask with
  | case1 =>
      rw [hasBit_zero] at hBit
      cases hBit
  | case2 => cases h
  | case3 mask hMask slot' hHere hOther ih =>
      by_cases hLow : i = lowestBit mask
      · rw [hLow, hHere] at hEntry
        cases hEntry
        exact hOther
      · apply ih h
        rw [hasBit_dropLowest hMask, hBit]
        simpa using hLow
  | case4 mask hMask hHere ih =>
      by_cases hLow : i = lowestBit mask
      · exact absurd (hLow ▸ hEntry) (hHere slot)
      · apply ih h
        rw [hasBit_dropLowest hMask, hBit]
        simpa using hLow

section Sound

variable {s : Slots}
variable {id i : Nat}
variable {slot : Slot}

/- The slot of an id is the one that has it. -/
theorem Sound.find?_eq_some_iff
    (hSound : s.Sound) :
    s.find? id = some slot ↔
      slot ∈ s.filled ∧ slot.id = id := by
  constructor
  · exact of_findIn_eq_some
  · rintro ⟨hMem, hId⟩
    rcases mem_filled.mp hMem with ⟨i, hEntry⟩
    cases hFind : s.find? id with
    | none =>
        have hBit := (hSound.bits i).mpr ⟨slot, hEntry⟩
        exact
          absurd hId (ne_of_findIn_eq_none hFind hBit hEntry)
    | some slot' =>
        rcases of_findIn_eq_some hFind with ⟨hMem', hId'⟩
        rw [List.inj_on_of_nodup_map hSound.distinct hMem'
          hMem (hId'.trans hId.symm)]

theorem Sound.find?_eq_none_iff
    (hSound : s.Sound) :
    s.find? id = none ↔ id ∉ s.filled.map Slot.id := by
  rw [List.mem_map, Option.eq_none_iff_forall_ne_some]
  constructor
  · rintro hNone ⟨slot, hMem, hId⟩
    exact hNone slot (hSound.find?_eq_some_iff.mpr ⟨hMem, hId⟩)
  · intro hNone slot hFind
    exact hNone ⟨slot, hSound.find?_eq_some_iff.mp hFind⟩

theorem length_filled
    (s : Slots) :
    s.filled.length = s.entries.countP Option.isSome :=
  List.length_filterMap_eq_countP

theorem length_filled_le
    (s : Slots) : s.filled.length ≤ s.capacity := by
  rw [length_filled]
  exact List.countP_le_length

/- A slot without a bit is empty. -/
theorem Sound.entry_eq_none
    (hSound : s.Sound)
    (hi : i < s.capacity)
    (hBit : hasBit s.occupied i = false) :
    s.entries[i]? = some none := by
  have hEntry := List.getElem?_eq_getElem hi
  cases hHere : s.entries[i] with
  | none => rw [hEntry, hHere]
  | some slot =>
      have hSet :=
        (hSound.bits i).mpr
          ⟨slot, hEntry.trans (by rw [hHere])⟩
      rw [hBit] at hSet
      cases hSet

/- The bits of the slots that are left. -/
theorem Sound.hasBit_free
    (hSound : s.Sound)
    (i : Nat) :
    hasBit ((~~~ s.occupied) &&& fullMask s.capacity) i =
      (decide (i < s.capacity) && !hasBit s.occupied i) := by
  rw [hasBit_and, hasBit_fullMask hSound.small, Bool.and_comm]
  by_cases hi : i < s.capacity
  · rw [hasBit_not _ (Nat.lt_of_lt_of_le hi hSound.small)]
  · simp [hi]

/- A free index is one of an empty slot. -/
theorem Sound.entry_of_freeIndex?
    (hSound : s.Sound)
    (hFree : s.freeIndex? = some i) :
    i < s.capacity ∧ s.entries[i]? = some none := by
  simp only [freeIndex?] at hFree
  split at hFree
  · cases hFree
  · rename_i hSome
    cases hFree
    have hBit := (lowestBit_spec hSome).1
    rw [hSound.hasBit_free] at hBit
    have hBoth := Bool.and_eq_true_iff.mp hBit
    have hi := of_decide_eq_true hBoth.1
    exact
      ⟨hi, hSound.entry_eq_none hi
        (Bool.not_eq_true' _ ▸ hBoth.2)⟩

/- There is no free index exactly if all slots are filled. -/
theorem Sound.freeIndex?_eq_none_iff
    (hSound : s.Sound) :
    s.freeIndex? = none ↔ s.filled.length = s.capacity := by
  constructor
  · intro hNone
    have hZero :
        (~~~ s.occupied) &&& fullMask s.capacity = 0 := by
      by_contra hSome
      simp only [freeIndex?, if_neg hSome] at hNone
      cases hNone
    rw [length_filled]
    refine List.countP_eq_length.mpr fun e hMem => ?_
    rcases List.mem_iff_getElem?.mp hMem with ⟨i, hEntry⟩
    have hi : i < s.capacity :=
      (List.getElem?_eq_some_iff.mp hEntry).1
    have hBit := hSound.hasBit_free i
    rw [hZero, hasBit_zero] at hBit
    have hSet : hasBit s.occupied i = true := by
      simpa [hi] using hBit.symm
    rcases (hSound.bits i).mp hSet with ⟨slot, hFilled⟩
    rw [hEntry] at hFilled
    cases hFilled
    rfl
  · intro hFull
    rw [length_filled] at hFull
    rw [Option.eq_none_iff_forall_ne_some]
    intro i hFree
    have hEmpty := (hSound.entry_of_freeIndex? hFree).2
    exact
      absurd
        (List.countP_eq_length.mp hFull none
          (List.mem_iff_getElem?.mpr ⟨i, hEmpty⟩))
        Bool.false_ne_true

/- To fill an empty slot adds it to the filled ones. -/
theorem filled_fill
    (hEmpty : s.entries[i]? = some none)
    (slot : Slot) :
    (s.fill i slot).filled.Perm (slot :: s.filled) := by
  rcases List.getElem?_eq_some_iff.mp hEmpty with ⟨hi, hNone⟩
  have hBefore :
      s.filled =
        ((s.entries.take i).filterMap id) ++
          ((s.entries.drop (i + 1)).filterMap id) := by
    conv_lhs =>
      rw [filled, ← List.take_append_drop i s.entries,
        List.drop_eq_getElem_cons hi, hNone]
    simp
  have hAfter :
      (s.fill i slot).filled =
        ((s.entries.take i).filterMap id) ++
          slot :: ((s.entries.drop (i + 1)).filterMap id) := by
    simp [filled, fill, List.set_eq_take_append_cons_drop, hi]
  rw [hBefore, hAfter]
  exact List.perm_middle

/- A slot is filled with a new id. -/
theorem Sound.fill
    (hSound : s.Sound)
    (hEmpty : s.entries[i]? = some none)
    (hNew : slot.id ∉ s.filled.map Slot.id) :
    (s.fill i slot).Sound where
  small := by
    simpa [Slots.capacity, Slots.fill] using hSound.small
  bits := by
    have hi : i < s.capacity :=
      (List.getElem?_eq_some_iff.mp hEmpty).1
    have hSmall := Nat.lt_of_lt_of_le hi hSound.small
    intro j
    simp only [Slots.fill, hasBit_or,
      hasBit_one_shiftLeft hSmall, Bool.or_eq_true,
      decide_eq_true_eq, hSound.bits j]
    by_cases hj : i = j
    · rw [← hj, List.getElem?_set_self hi]
      simp
    · rw [List.getElem?_set_ne hj]
      simp [hj]
  distinct := by
    rw [((filled_fill hEmpty slot).map Slot.id).nodup_iff]
    exact List.nodup_cons.mpr ⟨hNew, hSound.distinct⟩

/- The bits that are set are as many as the filled slots. -/
theorem Sound.count_eq
    (hSound : s.Sound) : s.count = s.filled.length := by
  have hEntries :
      (List.range s.capacity).map
          (fun i => s.entries[i]?.join) =
        s.entries := by
    apply List.ext_getElem
    · simp [Slots.capacity]
    · intro i _ hi
      simp [List.getElem?_eq_getElem hi]
  have hBit :
      ∀ i,
        hasBit s.occupied i =
          (s.entries[i]?.join).isSome := by
    intro i
    rw [Bool.eq_iff_iff, hSound.bits, Option.isSome_iff_exists]
    simp [Option.join_eq_some_iff]
  have hBeyond :
      (List.range' s.capacity (64 - s.capacity)).countP
        (hasBit s.occupied) = 0 := by
    refine List.countP_eq_zero.mpr fun i hMem => ?_
    rcases List.mem_range'.mp hMem with ⟨j, _, rfl⟩
    rw [hBit, List.getElem?_eq_none (by
      simp [Slots.capacity])]
    exact Bool.false_ne_true
  have hSplit :
      List.range 64 =
        List.range s.capacity ++
          List.range' s.capacity (64 - s.capacity) := by
    have hSmall : s.capacity ≤ 64 := hSound.small
    have hJoin :=
      List.range'_append_1 (s := 0) (m := s.capacity)
        (n := 64 - s.capacity)
    rw [Nat.zero_add, Nat.add_sub_cancel' hSmall] at hJoin
    rw [List.range_eq_range', List.range_eq_range', hJoin]
  rw [count, countBits, hSplit, List.countP_append, hBeyond,
    length_filled, Nat.add_zero]
  conv_rhs => rw [← hEntries, List.countP_map]
  exact List.countP_congr fun i _ => by
    rw [hBit]
    rfl

end Sound

end Slots

end Offload
