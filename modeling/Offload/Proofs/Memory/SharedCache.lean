import Offload.Proofs.Memory.CacheLookups
import Offload.Proofs.Run

/-
  An id cache that several callers use.

  Callers look ids up, copy and drop what they were given,
  and clear the cache, in any order, while others use the
  device as well and may let any attachment or mapping fail.
  The cache is then a map from ids to handles that only
  grows, up to its capacity, until it is cleared. The device
  is attached to an id as long as a slot or a caller has it.

  Key definitions include:
    * `SharedCache`
    * `SharedCache.Event`
    * `SharedCache.step`
    * `SharedCache.Orderly`

  Main results:
    * `SharedCache.lawful_step`
    * `SharedCache.extends_run`
    * `SharedCache.orderly_lookups`
-/

namespace Offload

------------------------------------------------------------
-- Growing Caches
------------------------------------------------------------

namespace IdCache

/-
  What was cached still is, under the same handle, and a
  full table is the same table.
-/
structure Extends
    (c c' : IdCache) : Prop where
  cached :
    ∀ id h, c.cached? id = some h → c'.cached? id = some h
  full : c.IsFull → c'.slots = c.slots
  capacity : c'.slots.capacity = c.slots.capacity

section Extends

variable {c c' c'' : IdCache}
variable {id : Nat}
variable {h : Handle}
variable {x y : IdCache × Platform}

theorem Extends.refl
    (c : IdCache) : Extends c c :=
  ⟨fun _ _ hSame => hSame, fun _ => rfl, rfl⟩

theorem Extends.trans
    (hFirst : Extends c c')
    (hNext : Extends c' c'') : Extends c c'' where
  cached := fun id h hCached =>
    hNext.cached id h (hFirst.cached id h hCached)
  full := by
    intro hFull
    have hSlots := hFirst.full hFull
    have hFull' : c'.IsFull := by
      rw [IsFull, ids, hSlots]
      exact hFull
    exact (hNext.full hFull').trans hSlots
  capacity := hNext.capacity.trans hFirst.capacity

/- Slots and the handles of their leases are the same. -/
theorem Extends.of_same
    (hSlots : c'.slots = c.slots)
    (hCached : ∀ i, c'.cached? i = c.cached? i) :
    Extends c c' where
  cached := by
    intro i h hKnown
    rw [hCached]
    exact hKnown
  full := fun _ => hSlots
  capacity := by rw [hSlots]

theorem Filled.extends
    (hFilled : Filled id h x y) : Extends x.1 y.1 where
  cached := by
    intro i h' hKnown
    have hOther : i ≠ id := by
      intro hSame
      rw [hSame, hFilled.new] at hKnown
      cases hKnown
    rw [hFilled.cached, if_neg hOther]
    exact hKnown
  full := by
    intro hFull
    exact absurd hFull (Nat.ne_of_lt hFilled.room)
  capacity := hFilled.capacity

theorem Failed.extends
    (hFailed : Failed id x y) : Extends x.1 y.1 := by
  apply Extends.of_same hFailed.slots
  intro i
  simp only [cached?, handleAt, hFailed.slots,
    hFailed.leases]

/- Whatever a lookup does, the cache grows. -/
theorem Resolves.extends
    {r : Except Error Resolved × (IdCache × Platform)}
    (hResolves : Resolves id x r) :
    Extends x.1 r.2.1 := by
  cases hResolves with
  | hit hHit => exact .of_same hHit.slots hHit.cached
  | filled hFilled => exact hFilled.extends
  | bypassed hBypassed =>
      exact .of_same hBypassed.slots hBypassed.cached
  | failed hFailed => exact hFailed.extends

theorem ResolvesPhys.extends
    {r : Except Error Nat × (IdCache × Platform)}
    (hResolves : ResolvesPhys id x r) :
    Extends x.1 r.2.1 := by
  cases hResolves with
  | hit hHit => exact .of_same hHit.slots hHit.cached
  | filled hFilled => exact hFilled.extends
  | bypassed hBypassed =>
      exact .of_same hBypassed.slots hBypassed.cached
  | failed hFailed => exact hFailed.extends

end Extends

end IdCache

------------------------------------------------------------
-- States and Events
------------------------------------------------------------

/-
  A cache and the platform, what callers were given and did
  not drop yet, and the handles that others have.
-/
structure SharedCache where
  cache : IdCache
  platform : Platform
  held : List Resolved
  others : List Handle

namespace SharedCache

/-
  What is done in one go. `copy` and `drop` name what a
  caller has by its place; `others` is what anyone else does
  to the platform, with the handles they have afterwards.
-/
inductive Event where
  | resolve (id : Nat)
  | resolvePhys (id : Nat)
  | copy (place : Nat)
  | drop (place : Nat)
  | clear
  | others (m : Platform) (hs : List Handle)

/- A cache that nobody has used. -/
def of
    (c : IdCache)
    (m : Platform)
    (others : List Handle) : SharedCache :=
  ⟨c, m, [], others⟩

/- The cache beside the platform. -/
def pair
    (s : SharedCache) : IdCache × Platform :=
  (s.cache, s.platform)

/- The leases that callers have shares of. -/
def shares
    (s : SharedCache) : List Nat :=
  s.held.map Resolved.lease

/- The leases that slots and other callers hold. -/
def holdersBeside
    (place : Nat)
    (s : SharedCache) : List Nat :=
  s.cache.slots.filled.map Slot.lease ++
    (s.held.eraseIdx place).map Resolved.lease

/- What was resolved, if anything was. -/
def given : Except Error Resolved → List Resolved
  | .ok r => [r]
  | .error _ => []

/- The state after an event. -/
def step
    (e : Event)
    (s : SharedCache) : SharedCache :=
  match e with
  | .resolve id =>
    let r := IdCache.resolve id s.pair
    ⟨r.2.1, r.2.2, given r.1 ++ s.held, s.others⟩
  | .resolvePhys id =>
    let r := IdCache.resolvePhys id s.pair
    ⟨r.2.1, r.2.2, s.held, s.others⟩
  | .copy place =>
    match s.held[place]? with
    | none => s
    | some r =>
      { s with
        cache := IdCache.share r.lease s.cache
        held := r :: s.held }
  | .drop place =>
    match s.held[place]? with
    | none => s
    | some r =>
      let y := Op.exec
        (IdCache.letGo r.lease : Op Error _ Unit) s.pair
      ⟨y.1, y.2, s.held.eraseIdx place, s.others⟩
  | .clear =>
    let y := Op.exec (IdCache.clear : Op Error _ Unit) s.pair
    ⟨y.1, y.2, s.held, s.others⟩
  | .others m hs => { s with platform := m, others := hs }

/-
  Others may do anything to the device that accounts for
  their handles and leaves those of the cache.
-/
def Respects
    (s : SharedCache) : Event → Prop
  | .others m hs => m.Keeps (hs ++ s.cache.leased)
  | _ => True

/- The cache keeps to the law with its callers. -/
def Lawful
    (s : SharedCache) : Prop :=
  IdCache.Lawful s.shares s.others s.pair

section Steps

variable {s : SharedCache}

/- A new cache keeps to the law. -/
theorem lawful_of
    {capacity : Nat}
    {c : IdCache}
    {m : Platform}
    {others : List Handle}
    (hCreate : IdCache.create capacity = .ok c)
    (hKeeps : m.Keeps others) :
    (of c m others).Lawful ∧ c.slots.capacity = capacity := by
  unfold IdCache.create at hCreate
  split at hCreate
  · cases hCreate
  · rename_i hRange
    cases hCreate
    have hSmall : capacity ≤ Slots.maxCapacity :=
      Nat.not_lt.mp (not_or.mp hRange).2
    have hFilled := IdCache.filled_empty capacity
    refine ⟨?_, ?_⟩
    · constructor
      · exact Slots.sound_empty hSmall
      · refine ⟨Table.keyed_empty, ?_⟩
        intro key
        simp [of, pair, shares, IdCache.ofCapacity, hFilled,
          Table.get?, Table.empty]
      · intro slot hMem
        simp [of, pair, IdCache.ofCapacity, hFilled] at hMem
      · intro h hMem
        cases hMem
      · exact hKeeps.perm (by simp [of, pair, IdCache.leased,
          IdCache.ofCapacity, Table.contents, Table.empty])
    · simp [IdCache.ofCapacity, Slots.capacity, Slots.empty]

/- The shares of callers do not come in an order. -/
theorem Lawful.of_perm
    {shares shares' : List Nat}
    {others : List Handle}
    {x : IdCache × Platform}
    (h : IdCache.Lawful shares others x)
    (hPerm : shares.Perm shares') :
    IdCache.Lawful shares' others x :=
  { h with shared := h.shared.perm (hPerm.append_left _) }

/- The share of a caller and those that are left. -/
theorem shares_eraseIdx
    {place : Nat}
    {r : Resolved}
    (hPlace : s.held[place]? = some r) :
    s.shares.Perm
      (r.lease ::
        (s.held.eraseIdx place).map Resolved.lease) := by
  rcases List.getElem?_eq_some_iff.mp hPlace with
    ⟨hIn, rfl⟩
  exact
    (List.getElem_cons_eraseIdx_perm hIn).symm.map
      Resolved.lease

/- Every event keeps to the law. -/
theorem lawful_step
    (h : s.Lawful)
    {e : Event}
    (hRespects : s.Respects e) : (step e s).Lawful := by
  cases e with
  | resolve id =>
      have hLawful := (IdCache.Lawful.resolve h id).2
      simp only [step, Lawful, shares, pair] at hLawful ⊢
      cases hAnswer :
          (IdCache.resolve id (s.cache, s.platform)).1 with
      | ok r =>
          rw [hAnswer] at hLawful
          exact hLawful
      | error e =>
          rw [hAnswer] at hLawful
          exact hLawful
  | resolvePhys id =>
      exact (IdCache.Lawful.resolvePhys h id).2
  | copy place =>
      simp only [step]
      cases hPlace : s.held[place]? with
      | none => exact h
      | some r =>
          have hMem : r.lease ∈ s.shares :=
            List.mem_map_of_mem (List.mem_of_getElem? hPlace)
          exact
            IdCache.Lawful.share h
              (List.mem_append_right _ hMem)
  | drop place =>
      simp only [step]
      cases hPlace : s.held[place]? with
      | none => exact h
      | some r =>
          rcases IdCache.Lawful.letGo (ε := Error)
              (Lawful.of_perm h (shares_eraseIdx hPlace)) with
            ⟨y, hRun, hLawful, _⟩
          simp only [Op.exec, pair, hRun]
          exact hLawful
  | clear =>
      rcases IdCache.Lawful.clear (ε := Error) h with
        ⟨y, hRun, _, hLawful⟩
      simp only [step, Op.exec, pair, hRun]
      exact hLawful
  | others m hs => exact { h with keeps := hRespects }

/- Until the cache is cleared, every event lets it grow. -/
theorem extends_step
    (h : s.Lawful)
    {e : Event}
    (hEvent : e ≠ .clear) :
    IdCache.Extends s.cache (step e s).cache := by
  cases e with
  | resolve id => exact (IdCache.Lawful.resolve h id).1.extends
  | resolvePhys id =>
      exact (IdCache.Lawful.resolvePhys h id).1.extends
  | copy place =>
      simp only [step]
      cases s.held[place]? with
      | none => exact .refl _
      | some r =>
          exact
            .of_same (IdCache.slots_share _ _)
              (IdCache.cached?_share _ _)
  | drop place =>
      simp only [step]
      cases hPlace : s.held[place]? with
      | none => exact .refl _
      | some r =>
          rcases IdCache.Lawful.letGo (ε := Error)
              (Lawful.of_perm h (shares_eraseIdx hPlace)) with
            ⟨y, hRun, _, hSlots, hAt, _⟩
          simp only [Op.exec, pair, hRun]
          apply IdCache.Extends.of_same hSlots
          intro i
          simp only [IdCache.cached?, hSlots]
          cases hFind : s.cache.slots.find? i with
          | none => rfl
          | some slot =>
              have hMem := (Slots.of_findIn_eq_some hFind).1
              exact
                hAt _
                  (List.mem_append_left _
                    (List.mem_map_of_mem hMem))
  | clear => exact absurd rfl hEvent
  | others m hs => exact .refl _

/- The number of slots never changes. -/
theorem capacity_step
    (h : s.Lawful)
    (e : Event) :
    (step e s).cache.slots.capacity =
      s.cache.slots.capacity := by
  by_cases hEvent : e = .clear
  · rcases IdCache.Lawful.clear (ε := Error) h with
      ⟨y, hRun, hCleared, _⟩
    rw [hEvent]
    simp only [step, Op.exec, pair, hRun]
    exact hCleared.capacity
  · exact (extends_step h hEvent).capacity

/- An id is attached for its slot or for a caller. -/
theorem Lawful.attached_iff
    (h : s.Lawful)
    (id : Nat) :
    (∃ handle ∈ s.cache.leased, handle.addr = id) ↔
      id ∈ s.cache.ids ∨
        ∃ r ∈ s.held, ∃ handle,
          s.cache.handle? r = some handle ∧
            handle.addr = id := by
  constructor
  · rintro ⟨handle, hMem, hId⟩
    rcases h.shared.mem_leased_iff.mp hMem with
      ⟨key, hHolder, hAt⟩
    rcases List.mem_append.mp hHolder with hSlot | hHeld
    · rcases List.mem_map.mp hSlot with ⟨slot, hMem, rfl⟩
      rcases h.slotted slot hMem with ⟨_, h', hAt', hAddr⟩
      rw [hAt] at hAt'
      cases hAt'
      refine Or.inl (List.mem_map.mpr ⟨slot, hMem, ?_⟩)
      rw [← hAddr, hId]
    · rcases List.mem_map.mp hHeld with ⟨r, hMem, rfl⟩
      exact Or.inr ⟨r, hMem, handle, hAt, hId⟩
  · rintro (hCached | ⟨r, hHeld, handle, hAt, hId⟩)
    · rcases List.mem_map.mp hCached with ⟨slot, hSlot, hId⟩
      rcases h.slotted slot hSlot with ⟨_, h', hAt, hAddr⟩
      refine ⟨h', ?_, hAddr.trans hId⟩
      exact
        h.shared.mem_leased_iff.mpr
          ⟨_, List.mem_append_left _
            (List.mem_map_of_mem hSlot), hAt⟩
    · refine ⟨handle, ?_, hId⟩
      exact
        h.shared.mem_leased_iff.mpr
          ⟨_, List.mem_append_right _
            (List.mem_map_of_mem hHeld), hAt⟩

/- Dropping a share is nothing to the device but the last. -/
theorem Lawful.drops
    (h : s.Lawful)
    {place : Nat}
    {r : Resolved}
    (hPlace : s.held[place]? = some r) :
    (r.lease ∈ s.holdersBeside place →
      (step (.drop place) s).platform = s.platform) ∧
    (r.lease ∉ s.holdersBeside place →
      (step (.drop place) s).cache.handle? r = none) := by
  rcases IdCache.Lawful.letGo (ε := Error)
      (Lawful.of_perm h (shares_eraseIdx hPlace)) with
    ⟨y, hRun, _, _, _, hSame, hGone⟩
  simp only [step, hPlace, Op.exec, pair, hRun]
  exact ⟨hSame, hGone⟩

/- A known id is answered from its slot. -/
theorem Lawful.again
    (h : s.Lawful)
    {id : Nat}
    {handle : Handle}
    (hKnown : s.cache.cached? id = some handle) :
    (∃ r y,
      IdCache.resolve id s.pair = (.ok r, y) ∧
        y.1.handle? r = some handle ∧
        IdCache.Hit id handle s.pair y) ∧
      ∃ y,
        IdCache.resolvePhys id s.pair = (.ok id, y) ∧
          IdCache.Hit id handle s.pair y := by
  constructor
  · have hResolves := (IdCache.Lawful.resolve h id).1
    change
      IdCache.Resolves id s.pair (IdCache.resolve id s.pair)
      at hResolves
    generalize IdCache.resolve id s.pair = answer at hResolves
    cases hResolves with
    | hit hHit _ hAt =>
        have hSame := hKnown.symm.trans hHit.known
        cases hSame
        exact ⟨_, _, rfl, hAt, hHit⟩
    | filled hFilled =>
        cases hKnown.symm.trans hFilled.new
    | bypassed hBypassed =>
        cases hKnown.symm.trans hBypassed.new
    | failed hFailed =>
        cases hKnown.symm.trans hFailed.new
  · have hResolves := (IdCache.Lawful.resolvePhys h id).1
    change
      IdCache.ResolvesPhys id s.pair
        (IdCache.resolvePhys id s.pair) at hResolves
    generalize IdCache.resolvePhys id s.pair = answer
      at hResolves
    cases hResolves with
    | hit hHit =>
        have hSame := hKnown.symm.trans hHit.known
        cases hSame
        exact ⟨_, rfl, hHit⟩
    | filled hFilled =>
        cases hKnown.symm.trans hFilled.new
    | bypassed hBypassed =>
        cases hKnown.symm.trans hBypassed.new
    | failed hFailed =>
        cases hKnown.symm.trans hFailed.new

end Steps

------------------------------------------------------------
-- Whole Runs
------------------------------------------------------------

/- Others respect the cache all through a run. -/
def Respected
    (es : List Event)
    (first : SharedCache) : Prop :=
  ∀ s e, (s, e) ∈ Run.moves step es first → s.Respects e

section Runs

variable {es : List Event}
variable {first : SharedCache}

theorem lawful_states
    (hFirst : first.Lawful)
    (hRespected : Respected es first) :
    ∀ s ∈ Run.states step es first,
      s.Lawful ∧
        s.cache.slots.capacity =
          first.cache.slots.capacity := by
  apply Run.forall_states_of_moves
  · exact ⟨hFirst, rfl⟩
  intro s e hMove h
  exact
    ⟨lawful_step h.1 (hRespected s e hMove),
      (capacity_step h.1 e).trans h.2⟩

/- Without clearing, the cache grows all through a run. -/
theorem extends_run
    (hFirst : first.Lawful)
    (hRespected : Respected es first)
    (hUncleared : .clear ∉ es) :
    ∀ s ∈ Run.states step es first,
      s.Lawful ∧
        IdCache.Extends first.cache s.cache := by
  apply Run.forall_states_of_moves
  · exact ⟨hFirst, .refl _⟩
  intro s e hMove h
  have hEvent : e ≠ .clear := by
    intro hSame
    exact
      hUncleared (hSame ▸ Run.event_mem_of_mem_moves hMove)
  exact
    ⟨lawful_step h.1 (hRespected s e hMove),
      h.2.trans (extends_step h.1 hEvent)⟩

/-
  In all states of a run there are at most so many ids, each
  with one slot, and the device accounts for the handles of
  the cache. Lookups are hits, fill a slot, find the table
  full or fail. Until the cache is cleared, an id with a
  slot is answered with the same handle, and a full table
  stays the same. To clear the cache leaves what callers
  have, and an id is attached exactly as long as it has a
  slot or a caller.
-/
structure Orderly
    (capacity : Nat)
    (es : List Event)
    (first : SharedCache) : Prop where
  bounded :
    ∀ s ∈ Run.states step es first,
      s.cache.ids.Nodup ∧
        s.cache.slots.count = s.cache.ids.length ∧
        s.cache.slots.capacity = capacity ∧
        s.cache.ids.length ≤ capacity
  known :
    ∀ s ∈ Run.states step es first, ∀ id,
      (id ∈ s.cache.ids ↔ (s.cache.cached? id).isSome) ∧
        ∀ h, s.cache.cached? id = some h →
          h.addr = id ∧ h.isMapped = true
  balanced :
    ∀ s ∈ Run.states step es first,
      s.platform.device.Balanced (s.others ++ s.cache.leased)
  resolves :
    ∀ s ∈ Run.states step es first, ∀ id,
      IdCache.Resolves id s.pair (IdCache.resolve id s.pair)
  resolvesPhys :
    ∀ s ∈ Run.states step es first, ∀ id,
      IdCache.ResolvesPhys id s.pair
        (IdCache.resolvePhys id s.pair)
  again :
    ∀ front back id h,
      es = front ++ back → .clear ∉ back →
        (Run.after step front first).cache.cached? id =
            some h →
          ∀ s ∈ Run.states step back
              (Run.after step front first),
            (∃ r y,
              IdCache.resolve id s.pair = (.ok r, y) ∧
                y.1.handle? r = some h ∧
                IdCache.Hit id h s.pair y) ∧
              ∃ y,
                IdCache.resolvePhys id s.pair =
                    (.ok id, y) ∧
                  IdCache.Hit id h s.pair y
  full :
    ∀ front back,
      es = front ++ back → .clear ∉ back →
        (Run.after step front first).cache.IsFull →
          ∀ s ∈ Run.states step back
              (Run.after step front first),
            s.cache.slots =
              (Run.after step front first).cache.slots
  clears :
    ∀ s ∈ Run.states step es first,
      ∃ y,
        (IdCache.clear s.pair : Except Error Unit × _) =
            (.ok (), y) ∧
          IdCache.Cleared s.shares s.pair y
  drops :
    ∀ s ∈ Run.states step es first, ∀ place r,
      s.held[place]? = some r →
        (r.lease ∈ s.holdersBeside place →
          (step (.drop place) s).platform = s.platform) ∧
        (r.lease ∉ s.holdersBeside place →
          (step (.drop place) s).cache.handle? r = none)
  attached :
    ∀ s ∈ Run.states step es first, ∀ id,
      (∃ h ∈ s.cache.leased, h.addr = id) ↔
        id ∈ s.cache.ids ∨
          ∃ r ∈ s.held, ∃ h,
            s.cache.handle? r = some h ∧ h.addr = id

/- The ids with a slot are those with a cached handle. -/
theorem Lawful.mem_ids_iff
    {s : SharedCache}
    (h : s.Lawful)
    (id : Nat) :
    id ∈ s.cache.ids ↔ (s.cache.cached? id).isSome := by
  cases hFind : s.cache.slots.find? id with
  | none =>
      have hNot : id ∉ s.cache.ids :=
        h.sound.find?_eq_none_iff.mp hFind
      rw [IdCache.cached?_of_find?_eq_none hFind]
      simpa using hNot
  | some slot =>
      rcases IdCache.Lawful.cached?_of_find? h hFind with
        ⟨handle, hCached, _⟩
      have hSlot := h.sound.find?_eq_some_iff.mp hFind
      have hMem : id ∈ s.cache.ids :=
        List.mem_map.mpr ⟨slot, hSlot⟩
      have hSome : s.cache.cached? id = some handle := hCached
      rw [hSome]
      exact ⟨fun _ => rfl, fun _ => hMem⟩

/-
  Whatever callers and others do, and whichever attachments
  and mappings fail, a cache is used in an orderly way.
-/
theorem orderly_lookups
    {capacity : Nat}
    {c : IdCache}
    (hCreate : IdCache.create capacity = .ok c)
    {m : Platform}
    {others : List Handle}
    (hKeeps : m.Keeps others)
    (es : List Event)
    (hRespected : Respected es (of c m others)) :
    Orderly capacity es (of c m others) := by
  rcases lawful_of hCreate hKeeps with ⟨hFirst, hCapacity⟩
  have hLawful := lawful_states hFirst hRespected
  have hFront :
      ∀ front back, es = front ++ back →
        (Run.after step front (of c m others)).Lawful ∧
          Respected back
            (Run.after step front (of c m others)) := by
    rintro front back rfl
    refine
      ⟨(hLawful _
        (Run.after_mem_states_append front back _)).1, ?_⟩
    intro s e hMove
    exact
      hRespected s e (Run.moves_append_right front back _ hMove)
  constructor
  · intro s hMem
    rcases hLawful s hMem with ⟨h, hSame⟩
    have hLength : s.cache.ids.length =
        s.cache.slots.filled.length :=
      List.length_map _
    have hLe := s.cache.slots.length_filled_le
    refine
      ⟨h.sound.distinct, ?_, hSame.trans hCapacity, ?_⟩
    · rw [hLength]
      exact h.sound.count_eq
    · have hSlots : s.cache.slots.capacity = capacity :=
        hSame.trans hCapacity
      omega
  · intro s hMem id
    have h := (hLawful s hMem).1
    refine ⟨h.mem_ids_iff id, ?_⟩
    intro handle hKnown
    rcases IdCache.Lawful.handle_of_cached? h hKnown with
      ⟨hAddr, hMapped, _⟩
    exact ⟨hAddr, hMapped⟩
  · intro s hMem
    exact (hLawful s hMem).1.keeps.accounted.balanced
  · intro s hMem id
    exact (IdCache.Lawful.resolve (hLawful s hMem).1 id).1
  · intro s hMem id
    exact
      (IdCache.Lawful.resolvePhys (hLawful s hMem).1 id).1
  · intro front back id h hSplit hUncleared hKnown s hMem
    rcases hFront front back hSplit with ⟨hStart, hRest⟩
    rcases extends_run hStart hRest hUncleared s hMem with
      ⟨hLater, hExtends⟩
    exact hLater.again (hExtends.cached id h hKnown)
  · intro front back hSplit hUncleared hFull s hMem
    rcases hFront front back hSplit with ⟨hStart, hRest⟩
    exact
      (extends_run hStart hRest hUncleared s hMem).2.full
        hFull
  · intro s hMem
    rcases IdCache.Lawful.clear (ε := Error)
        (hLawful s hMem).1 with
      ⟨y, hRun, hCleared, _⟩
    exact ⟨y, hRun, hCleared⟩
  · intro s hMem place r hPlace
    exact (hLawful s hMem).1.drops hPlace
  · intro s hMem id
    exact (hLawful s hMem).1.attached_iff id

end Runs

/- A fresh device on which others have allocated two regions. -/
def twoRegions : Except Error (List Region) × Platform :=
  Platform.allocate .generic .uncached [64, 64]
    (Platform.fresh Device.defaultCapacity)

/-
  A table of one slot is filled, found full, cleared while a
  caller has its handle, and filled again.
-/
def refilled : List Event :=
  [.resolve Device.windowBase,
    .resolve (Device.windowBase + 64),
    .resolvePhys (Device.windowBase + 64), .clear,
    .resolvePhys (Device.windowBase + 64), .drop 0, .drop 0]

/- Such a run is orderly, and one id stays attached. -/
theorem refilled_orderly :
    ∃ c,
      IdCache.create 1 = .ok c ∧
        Orderly 1 refilled
          (of c twoRegions.2
            (Device.owners (regionsIn twoRegions.1))) ∧
        (Run.after step refilled
            (of c twoRegions.2
              (Device.owners
                (regionsIn twoRegions.1)))).cache.ids =
          [Device.windowBase + 64] := by
  have hFresh :
      (Platform.fresh Device.defaultCapacity).Keeps [] :=
    ⟨Device.accounted_fresh _ _, rfl, rfl, rfl⟩
  have hKeeps :=
    hFresh.allocate .generic .uncached [64, 64]
      (by decide +kernel)
  rw [List.append_nil] at hKeeps
  refine ⟨_, rfl, orderly_lookups rfl hKeeps refilled ?_, ?_⟩
  · intro s e hMove
    have hEvent := Run.event_mem_of_mem_moves hMove
    cases e with
    | others m hs => simp [refilled] at hEvent
    | _ => trivial
  · decide +kernel

end SharedCache

end Offload
