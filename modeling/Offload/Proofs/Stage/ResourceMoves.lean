import Offload.Proofs.Machine.ServiceMoves
import Offload.Stage.Resources

/-
  What a stage does with its resources.

  To make, use and release the resources of a stage, things
  are done on the platform, and allocators, pools and files
  are changed. A relation that allows these steps allows all
  of it, whatever fails on the way.

  Key definitions include:
    * `Machine.Stages`

  Main results:
    * `StageResources.prepare_moves`
    * `StageResources.activate_moves`
    * `StageResources.dump_moves`
    * `StageResources.drop_moves`
-/

namespace Offload

------------------------------------------------------------
-- Parts of a Machine
------------------------------------------------------------

namespace Machine

/-
  A preorder that allows what stages do: what is done on a
  platform, and to change allocators, files and pools.
-/
class Stages (R : Machine → Machine → Prop) : Prop
    extends Std.Refl R, IsTrans Machine R where
  frame : Platform.Frame (Through R)
  shelved : ∀ (m : Machine) (registry : Registry)
      (files : FileTree) (pools : Table Pool),
    R m
      { m with
        registry := registry
        files := files
        pools := pools }

attribute [instance] Stages.frame

variable {ε α : Type}
variable {R : Machine → Machine → Prop}
variable [Stages R]

theorem pools_moves
    (pools : Table Pool)
    (m : Machine) : R m { m with pools := pools } :=
  Stages.shelved m m.registry m.files pools

theorem onRegistry_moves
    {x : Op ε (Registry × Platform) α}
    (hx : Op.Moves (Op.Second (Through R)) x) :
    Op.Moves R (onRegistry x) := by
  intro m
  rcases hRun : x (m.registry, m.platform) with
    ⟨result, registry, p⟩
  have hMove : Through R m.platform p := hx.of_run hRun
  have hEnd :
      (onRegistry x m).2 =
        { m with platform := p, registry := registry } := by
    simp only [onRegistry, Op.within, Lens.both, registryPart,
      platformPart, hRun]
  rw [hEnd]
  exact
    IsTrans.trans _ _ _ (hMove m)
      (Stages.shelved { m with platform := p } registry
        m.files m.pools)

theorem onPool_moves
    {x : Op Error (Pool × Platform) α}
    (hx : Op.Moves (Op.Second (Through R)) x)
    (pool : Nat) : Op.Moves R (onPool pool x) :=
  onRow_moves pools_moves hx pool _

theorem onPoolSilently_moves
    {x : Op ε (Pool × Platform) Unit}
    (hx : Op.Moves (Op.Second (Through R)) x)
    (pool : Nat) : Op.Moves R (onPoolSilently pool x) :=
  onRow_moves pools_moves hx pool _

theorem record_moves
    (level : Level)
    (message : String)
    (fields : List (String × String)) :
    Op.Moves R
      (log level message fields : Op ε Machine Unit) :=
  onPlatform_moves (Platform.log_moves _ _ _)

theorem logMaybe_moves
    (event : Option LogEvent) :
    Op.Moves R (logMaybe event : Op ε Machine Unit) := by
  cases event with
  | none => exact Std.Refl.refl
  | some e => exact record_moves e.level e.message e.fields

end Machine

------------------------------------------------------------
-- Resources
------------------------------------------------------------

namespace StageResources

open Machine

variable {ε : Type}
variable {R : Machine → Machine → Prop}
variable [Stages R]

theorem prepare_moves
    (c : StageConfig) : Op.Moves R (prepare c) := by
  have hAllocator :
      Op.Moves R
        (allocatorFor c.output :
          Op Error Machine Allocator) := by
    apply onRegistry_moves
    split
    · exact Registry.segmented_moves
    · exact Registry.contiguous_moves
  have hPool : Op.Moves R (preparePool c) := by
    refine (logMaybe_moves _).bind ?_
    intro _
    refine hAllocator.bind ?_
    intro allocator
    refine Op.Moves.bind (Op.Moves.ofExcept _) ?_
    exact fun pool m => pools_moves _ m
  refine hPool.bind ?_
  intro pool
  refine (record_moves _ _ _).bind ?_
  exact fun _ => Op.Moves.pure _

theorem readInput_moves
    (path : String) : Op.Moves R (readInput path) := by
  apply Op.Moves.seeing
  intro m
  rcases m.files.read path with fault | _ | _
  · exact Op.Moves.fail _
  · exact Op.Moves.fail _
  · exact Op.Moves.pure _

theorem fill_moves
    {P : Platform → Platform → Prop}
    [Platform.Frame P]
    (bytes : Bytes) :
    Op.Moves (Op.Second P) (fill bytes) := by
  refine Buffer.map_moves.bind ?_
  intro _
  apply Op.Moves.seeing
  rintro ⟨b, m⟩
  refine (b.parent.handle.write_moves 0 _).within_snd.bind ?_
  exact fun _ => b.flush_moves.within_snd

/- A loaded input that is not kept is released again. -/
theorem loadInput_moves
    (r : StageResources)
    (path : String) : Op.Moves R (r.loadInput path) := by
  refine (readInput_moves path).bind ?_
  intro bytes
  refine (onRegistry_moves Registry.contiguous_moves).bind ?_
  intro allocator
  refine (onPlatform_moves (allocator.alloc_moves _ _)).bind ?_
  intro fresh
  refine
    (onPlatform_moves
      ((fill_moves bytes).beside fresh)).bind ?_
  rintro ⟨_ | _, b⟩
  · refine (onPlatform_moves b.release_moves).bind ?_
    exact fun _ => Op.Moves.fail _
  · refine (record_moves _ _ _).bind ?_
    exact fun _ => Op.Moves.pure _

theorem dropInput_moves :
    Op.Moves (Op.Second R)
      (dropInput : Op ε (StageResources × Machine) Unit) := by
  apply Op.Moves.seeing
  rintro ⟨r, m⟩
  refine Op.Moves.bind (Op.Moves.within_fst _) ?_
  intro _
  cases r.debugInput with
  | none => exact Op.Moves.pure ()
  | some b =>
      exact (onPlatform_moves b.release_moves).within_snd

theorem activate_moves :
    Op.Moves (Op.Second R) activate := by
  have hInput : Op.Moves (Op.Second R) activateInput := by
    apply Op.Moves.seeing
    rintro ⟨r, m⟩
    dsimp only
    cases r.debugPath with
    | none => exact Op.Moves.pure ()
    | some path =>
        refine (loadInput_moves r path).within_snd.bind ?_
        intro b
        refine dropInput_moves.bind ?_
        exact fun _ => Op.Moves.within_fst _
  refine hInput.bind ?_
  intro _
  apply Op.Moves.seeing
  rintro ⟨r, m⟩
  dsimp only
  cases r.pool with
  | none => exact Op.Moves.fail _
  | some pool =>
      exact
        (onPool_moves (Pool.setActive_moves true)
          pool).within_snd

theorem writeFile_moves
    (path : String)
    (bytes : Bytes) : Op.Moves R (writeFile path bytes) := by
  intro m
  simp only [writeFile, Op.change]
  cases m.files.write path bytes with
  | error fault => exact Std.Refl.refl m
  | ok files => exact Stages.shelved m m.registry _ m.pools

theorem dumpRegion_moves
    (r : StageResources)
    (path : String)
    (size : Nat) :
    Op.Moves (Op.Second R) (r.dumpRegion path size) := by
  apply Op.Moves.seeing
  rintro ⟨h, m⟩
  dsimp only
  refine (onPlatform_moves h.map_moves).within_snd.bind ?_
  intro h'
  refine Op.Moves.bind (Op.Moves.within_fst _) ?_
  intro _
  refine
    (onPlatform_moves h'.invalidate_moves).within_snd.bind ?_
  intro _
  refine
    (onPlatform_moves (h'.read_moves 0 _)).within_snd.bind ?_
  intro bytes
  refine (writeFile_moves path _).within_snd.bind ?_
  exact fun _ => (record_moves _ _ _).within_snd

theorem dump_moves
    (r : StageResources)
    (job : Job) : Op.Moves R (r.dump job) := by
  unfold dump
  cases r.dumpPath? job with
  | none => exact Op.Moves.pure ()
  | some path =>
      dsimp only
      cases job.primaryOutput? with
      | none => exact Op.Moves.fail _
      | some output =>
          refine
            (onPlatform_moves
              (Handle.attach_moves _)).bind ?_
          intro h
          refine
            ((dumpRegion_moves r path _).beside h).bind ?_
          rintro ⟨result, h'⟩
          refine (onPlatform_moves h'.release_moves).bind ?_
          exact fun _ => Op.Moves.ofExcept _

theorem drop_moves
    (r : StageResources) :
    Op.Moves R (r.drop : Op ε Machine Unit) := by
  have hRelease :
      Op.Moves (Op.Second R)
        (release : Op ε (StageResources × Machine) Unit) := by
    refine dropInput_moves.bind ?_
    intro _
    apply Op.Moves.seeing
    rintro ⟨r', m⟩
    refine Op.Moves.bind (Op.Moves.within_fst _) ?_
    intro _
    dsimp only
    cases r'.pool with
    | none => exact Op.Moves.pure ()
    | some pool =>
        refine (onPoolSilently_moves ?_ pool).within_snd
        apply Op.Moves.seeing
        rintro ⟨p, m⟩
        dsimp only
        split
        · exact Pool.stop_moves
        · exact Op.Moves.pure ()
  exact fun m => hRelease (r, m)

end StageResources

end Offload
