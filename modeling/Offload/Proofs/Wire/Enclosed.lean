import Mathlib.Data.List.Basic
import Offload.Wire.Message
import Offload.Proofs.Archive.Contents
import Offload.Proofs.Archive.Visited
import Offload.Proofs.Wire.RoundTrip

/-
  What a frame that was read really holds.

  Offsets and counts in a frame may be anything. Whoever
  reads a message from it has found the bytes of all its
  arguments in the frame, each in a place of its own: so a
  message is never larger than its frame.

  Key definitions include:
    * `Param.contents`
    * `Frame.Laid`
    * `Frame.Encloses`

  Main results:
    * `Param.ordered_format`
    * `Frame.encloses_of_readList`
    * `messages_enclosed`
-/

namespace Offload

------------------------------------------------------------
-- Arguments
------------------------------------------------------------

namespace Param

/- The bytes that an argument keeps elsewhere. -/
def contents : Param → Bytes
  | .bytes b => b
  | .addrs as => addrBytes as
  | _ => []

/- The number of these bytes. -/
def contentsSize : Param → Nat
  | .bytes b => b.length
  | .addrs as => 8 * as.length
  | _ => 0

/- The alignment of these bytes. -/
def contentsAlign : Param → Nat
  | .addrs _ => 8
  | _ => 1

theorem length_contents
    (p : Param) : p.contents.length = p.contentsSize := by
  cases p with
  | word n => rfl
  | long n => rfl
  | bytes b => rfl
  | addrs as =>
      rw [contents, contentsSize, length_addrBytes,
        Nat.mul_comm]

/- Eight bytes are one address. -/
theorem addrsOf_append
    {first rest : Bytes}
    (hFirst : first.length = 8) :
    addrsOf (first ++ rest) =
      UInt64.ofNat (Bytes.toNat first) :: addrsOf rest := by
  match first, hFirst with
  | [b0, b1, b2, b3, b4, b5, b6, b7], _ => rfl

/- Bytes that addresses were read from are those of them. -/
theorem addrBytes_addrsOf
    {count : Nat}
    {run : Bytes}
    (hLength : run.length = count * 8) :
    addrBytes (addrsOf run) = run := by
  induction count generalizing run with
  | zero =>
      rw [Nat.zero_mul] at hLength
      rw [List.length_eq_zero_iff.mp hLength]
      rfl
  | succ count ih =>
      have hFirst : (run.take 8).length = 8 := by
        rw [List.length_take]
        omega
      have hRest : (run.drop 8).length = count * 8 := by
        rw [List.length_drop]
        omega
      have hNumber : Bytes.toNat (run.take 8) < 2 ^ 64 := by
        have hBelow := Bytes.toNat_lt (run.take 8)
        rwa [hFirst] at hBelow
      have hWord :
          Bytes.ofNat 8 (Bytes.toNat (run.take 8)) =
            run.take 8 := by
        have hSame := Bytes.ofNat_toNat (run.take 8)
        rwa [hFirst] at hSame
      calc
        addrBytes (addrsOf run)
        _ = addrBytes
              (addrsOf (run.take 8 ++ run.drop 8)) := by
          rw [List.take_append_drop]
        _ = Bytes.ofNat 8 (Bytes.toNat (run.take 8)) ++
              addrBytes (addrsOf (run.drop 8)) := by
          rw [addrsOf_append hFirst, addrBytes,
            List.flatMap_cons, UInt64.toNat_ofNat',
            Nat.mod_eq_of_lt hNumber]
          rfl
        _ = run := by
          rw [hWord, ih hRest, List.take_append_drop]

/- An archive has the bytes of an argument in a place. -/
structure LiesIn
    (a : Archive)
    (p : Param)
    (place : Window) : Prop where
  aligned : place.low % p.contentsAlign = 0
  high_eq : place.high = place.low + p.contentsSize
  holds : a.Holds place.low p.contents

theorem LiesIn.size_eq
    {a : Archive}
    {p : Param}
    {place : Window}
    (h : p.LiesIn a place) : place.size = p.contentsSize := by
  rw [Window.size, h.high_eq, Nat.add_sub_cancel_left]

/- Whoever reads an argument takes the window from its bytes. -/
theorem lies_of_readRun
    {a : Archive}
    {own size align : Nat}
    {w w' : Window}
    {run : Bytes}
    {p : Param}
    (hEnd : w.high ≤ a.size)
    (hAlign : p.contentsAlign = align)
    (hContents :
      ∀ count, run.length = count * size → p.contents = run)
    (h :
      (a.readRun own size align).run w = some (run, w')) :
    ∃ place,
      p.LiesIn a place ∧
        place.Within w.low w.high ∧
        w' = ⟨place.high, w.high⟩ := by
  rcases Archive.readRun_some hEnd h with
    ⟨target, count, hLength, hHolds, hAligned, hWithin, hRest⟩
  have hSame := hContents count hLength
  refine ⟨_, ⟨?_, ?_, ?_⟩, hWithin, hRest⟩
  · rw [hAlign]
    exact hAligned
  · rw [← length_contents, hSame]
  · rw [hSame]
    exact hHolds

/- An argument without such bytes takes nothing. -/
theorem lies_of_bare
    {a : Archive}
    {w : Window}
    {p : Param}
    (hOrdered : w.low ≤ w.high)
    (hAlign : p.contentsAlign = 1)
    (hContents : p.contents = []) :
    ∃ place,
      p.LiesIn a place ∧
        place.Within w.low w.high ∧
        w = ⟨place.high, w.high⟩ := by
  refine
    ⟨⟨w.low, w.low⟩, ⟨?_, ?_, ?_⟩,
      ⟨Nat.le_refl _, Nat.le_refl _, hOrdered⟩, rfl⟩
  · rw [hAlign, Nat.mod_one]
  · rw [← length_contents, hContents]
    rfl
  · rw [hContents]
    exact List.nil_prefix

/- Arguments are read with their bytes one behind the other. -/
theorem ordered_format :
    format.Ordered fun a p => p.LiesIn a := by
  intro a own p w w' hOrdered hEnd h
  change (read a own).run w = some (p, w') at h
  unfold read at h
  split at h
  · cases h
    exact lies_of_bare hOrdered rfl rfl
  · cases h
    exact lies_of_bare hOrdered rfl rfl
  · simp only [StateT.run_bind, Option.bind_eq_bind,
      Option.bind_eq_some_iff] at h
    rcases h with ⟨⟨run, u⟩, hRun, hAnswer⟩
    cases hAnswer
    exact lies_of_readRun hEnd rfl (fun _ _ => rfl) hRun
  · simp only [StateT.run_bind, Option.bind_eq_bind,
      Option.bind_eq_some_iff] at h
    rcases h with ⟨⟨run, u⟩, hRun, hAnswer⟩
    cases hAnswer
    exact
      lies_of_readRun hEnd rfl
        (fun _ hLength => addrBytes_addrsOf hLength) hRun
  · cases h

end Param

------------------------------------------------------------
-- Frames
------------------------------------------------------------

namespace Frame

/-
  How the arguments of a message lie in an archive: the bytes
  of each in a place of its own, the cells of all, and the
  root at the end, one behind the other and aligned.
-/
structure Laid
    (a : Archive)
    (params : List Param)
    (places : List Window)
    (cells root : Window) : Prop where
  contents :
    List.Forall₂ (fun p => p.LiesIn a) params places
  cells_aligned : cells.low % 8 = 0
  cells_high : cells.high = cells.low + 16 * params.length
  root_aligned : root.low % 8 = 0
  root_high : root.high = root.low + 24
  root_last : root.high = a.size
  inside :
    ∀ w ∈ places ++ [cells, root], w.Within 0 a.size
  apart : (places ++ [cells, root]).Pairwise Window.Before

/-
  A frame has room for a message with some arguments, and
  has the bytes of the arguments one behind the other.
-/
structure Encloses
    (bytes : Bytes)
    (params : List Param) : Prop where
  laid :
    ∃ places cells root,
      Laid (bytes.drop 4).toArray params places cells root
  room :
    4 + 24 + 16 * params.length +
        (params.map Param.contentsSize).sum ≤
      bytes.length

/- What was unwrapped is what is behind the length. -/
theorem archive_of_unwrap
    {bytes : Bytes}
    {a : Archive}
    (h : unwrap bytes = some a) :
    4 ≤ bytes.length ∧ a = (bytes.drop 4).toArray := by
  unfold unwrap at h
  split at h
  · cases h
  · rename_i hLong
    dsimp only at h
    split at h
    · cases h
      exact ⟨Nat.not_lt.mp hLong, rfl⟩
    · cases h

/- Together the places are no larger than the archive. -/
theorem Laid.sizes_le
    {a : Archive}
    {params : List Param}
    {places : List Window}
    {cells root : Window}
    (h : Laid a params places cells root) :
    24 + 16 * params.length +
        (params.map Param.contentsSize).sum ≤
      a.size := by
  have hSum := Window.sum_sizes_le h.apart h.inside
  have hContents :
      places.map Window.size =
        params.map Param.contentsSize := by
    have hAll := h.contents
    clear h hSum
    induction hAll with
    | nil => rfl
    | cons hFirst _ ih =>
        rw [List.map_cons, List.map_cons, hFirst.size_eq, ih]
  have hCells : cells.size = 16 * params.length := by
    rw [Window.size, h.cells_high, Nat.add_sub_cancel_left]
  have hRoot : root.size = 24 := by
    rw [Window.size, h.root_high, Nat.add_sub_cancel_left]
  rw [List.map_append, List.sum_append, hContents,
    List.map_cons, List.map_cons, List.map_nil,
    List.sum_cons, List.sum_cons, List.sum_nil, hCells, hRoot]
    at hSum
  omega

/- A root that is read with its list encloses the list. -/
theorem encloses_of_readList
    {bytes : Bytes}
    {a : Archive}
    {params : List Param}
    {own field : Nat}
    {w : Window}
    (hFrame : unwrap bytes = some a)
    (hSize : own + 24 = a.size)
    (hAlign : own % 8 = 0)
    (h :
      (Param.format.readList a field).run ⟨0, own⟩ =
        some (params, w)) :
    Encloses bytes params := by
  have hBefore : own ≤ a.size := by
    omega
  rcases Param.ordered_format.readList_some hBefore h with
    ⟨places, cells, hAll, hCellsAlign, hCellsHigh, hApart,
      hWithin⟩
  have hSplit :
      ∀ root : Window,
        places ++ [cells, root] =
          places ++ [cells] ++ [root] := by
    intro root
    rw [List.append_assoc]
    rfl
  have hLaid :
      Laid a params places cells ⟨own, own + 24⟩ := by
    refine
      ⟨hAll, hCellsAlign, ?_, hAlign, rfl, hSize, ?_, ?_⟩
    · rw [hCellsHigh, Nat.mul_comm]
      rfl
    · rw [hSplit]
      intro v hv
      rcases List.mem_append.mp hv with hInner | hRoot
      · exact
          (hWithin v hInner).mono (Nat.le_refl _) hBefore
      · rw [List.mem_singleton.mp hRoot]
        exact
          ⟨Nat.zero_le _, Nat.le_add_right _ _,
            Nat.le_of_eq hSize⟩
    · rw [hSplit]
      apply List.pairwise_append.mpr
      refine ⟨hApart, List.pairwise_singleton _ _, ?_⟩
      intro v hv root hRoot
      rw [List.mem_singleton.mp hRoot]
      exact (hWithin v hv).le_high
  rcases archive_of_unwrap hFrame with ⟨hLong, rfl⟩
  have hRoom := hLaid.sizes_le
  rw [List.size_toArray, List.length_drop] at hRoom
  exact ⟨⟨places, cells, _, hLaid⟩, by omega⟩

end Frame

------------------------------------------------------------
-- Messages
------------------------------------------------------------

theorem Request.params_of_readRoot
    {a : Archive}
    {own : Nat}
    {w w' : Window}
    {r : Request}
    (h : (readRoot a own).run w = some (r, w')) :
    (Param.format.readList a (own + 12)).run w =
      some (r.params, w') := by
  simp only [readRoot, StateT.run_bind, Option.bind_eq_bind,
    Option.bind_eq_some_iff] at h
  rcases h with
    ⟨⟨domain, u⟩, hDomain, ⟨opcode, v⟩, hOpcode,
      ⟨params, z⟩, hParams, hAnswer⟩
  cases (Reader.ofOption_some hDomain).2
  cases (Reader.ofOption_some hOpcode).2
  cases hAnswer
  exact hParams

theorem Response.outputs_of_readRoot
    {a : Archive}
    {own : Nat}
    {w w' : Window}
    {r : Response}
    (h : (readRoot a own).run w = some (r, w')) :
    (Param.format.readList a (own + 12)).run w =
      some (r.outputs, w') := by
  simp only [readRoot, StateT.run_bind, Option.bind_eq_bind,
    Option.bind_eq_some_iff] at h
  rcases h with ⟨⟨outputs, z⟩, hOutputs, hAnswer⟩
  cases hAnswer
  exact hOutputs

/- Whatever was read from bytes is really in them. -/
theorem messages_enclosed
    (bytes : Bytes) :
    (∀ r,
      Request.decode bytes = .ok r →
        Frame.Encloses bytes r.params) ∧
    ∀ r,
      Response.decode bytes = .ok r →
        Frame.Encloses bytes r.outputs := by
  constructor
  · intro r h
    rcases Option.bind_eq_some_iff.mp (Frame.orLost_ok h) with
      ⟨a, hFrame, hRoot⟩
    rcases Archive.readRoot_some hRoot with
      ⟨own, w, hSize, hAlign, hRead⟩
    exact
      Frame.encloses_of_readList hFrame hSize hAlign
        (Request.params_of_readRoot hRead)
  · intro r h
    rcases Option.bind_eq_some_iff.mp (Frame.orLost_ok h) with
      ⟨a, hFrame, hRoot⟩
    rcases Archive.readRoot_some hRoot with
      ⟨own, w, hSize, hAlign, hRead⟩
    exact
      Frame.encloses_of_readList hFrame hSize hAlign
        (Response.outputs_of_readRoot hRead)

/- An argument whose bytes begin among those of another. -/
example :
    (Request.of .getStatus
        [.bytes [1, 2, 3], .bytes [4]]).encode.map
        (fun frame => Request.decode (frame.set 32 230)) =
      .ok (.error .messageLost) :=
  rfl

end Offload
