import Mathlib.Data.List.Basic
import Offload.Wire.Message
import Offload.Proofs.Archive.Lists

/-
  Messages are read as they were written.

  Main results:
    * `Param.faithful_format`
    * `Request.decode_encode`
    * `Response.decode_encode`
-/

namespace Offload

------------------------------------------------------------
-- Arguments
------------------------------------------------------------

namespace Param

@[simp]
theorem length_addrBytes
    (as : List UInt64) :
    (addrBytes as).length = as.length * 8 := by
  induction as with
  | nil => rfl
  | cons n rest ih =>
      rw [addrBytes, List.flatMap_cons, List.length_append,
        Bytes.length_ofNat, ← addrBytes, ih,
        List.length_cons]
      omega

theorem addrsOf_addrBytes
    (as : List UInt64) : addrsOf (addrBytes as) = as := by
  induction as with
  | nil => rfl
  | cons n rest ih =>
      have hFirst :
          addrsOf (addrBytes (n :: rest)) =
            UInt64.ofNat
                (Bytes.toNat (Bytes.ofNat 8 n.toNat)) ::
              addrsOf (addrBytes rest) :=
        rfl
      rw [hFirst, ih, Bytes.toNat_ofNat n.toNat_lt,
        UInt64.ofNat_toNat]

/- The cells of arguments that refer to a run of items. -/
theorem run_cell
    {own target count tag : Nat}
    {cell : Bytes}
    (h :
      (do
        let r ← CellFormat.reference (own + 4) target count
        return Bytes.ofNat 4 tag ++ r ++ Bytes.zeros 4) =
        some cell) :
    ∃ r,
      CellFormat.reference (own + 4) target count = some r ∧
        cell = Bytes.ofNat 4 tag ++ r ++ Bytes.zeros 4 := by
  simp only [Option.bind_eq_bind, Option.bind_eq_some_iff,
    Option.pure_def, Option.some.injEq] at h
  rcases h with ⟨r, hReference, hCell⟩
  exact ⟨r, hReference, hCell.symm⟩

theorem length_cell
    {own position : Nat}
    {p : Param}
    {cell : Bytes}
    (h : p.cell own position = some cell) :
    cell.length = 16 := by
  cases p with
  | word n =>
      simp only [Param.cell, Option.some.injEq] at h
      simp [← h]
  | long n =>
      simp only [Param.cell, Option.some.injEq] at h
      simp [← h]
  | bytes b =>
      rcases run_cell h with ⟨r, hReference, rfl⟩
      simp [CellFormat.length_reference hReference]
  | addrs as =>
      rcases run_cell h with ⟨r, hReference, rfl⟩
      simp [CellFormat.length_reference hReference]

section Reading

variable {a : Archive}
variable {own position : Nat}
variable {cell : Bytes}
variable {w : Window}

theorem read_word
    {n : UInt32}
    (hCell : (word n).cell own position = some cell)
    (hOwn : a.Holds own cell) :
    (read a own).run w = some (word n, w) := by
  simp only [Param.cell, Option.some.injEq] at hCell
  subst hCell
  have hTag : a.byte own = 0 :=
    Archive.byte_of_holds (by decide) hOwn.left.left
  have hNumber := hOwn.left.right
  rw [Bytes.length_ofNat] at hNumber
  simp only [read, hTag]
  rw [Archive.number_of_holds n.toNat_lt hNumber,
    UInt32.ofNat_toNat]
  rfl

theorem read_long
    {n : UInt64}
    (hCell : (long n).cell own position = some cell)
    (hOwn : a.Holds own cell) :
    (read a own).run w = some (long n, w) := by
  simp only [Param.cell, Option.some.injEq] at hCell
  subst hCell
  have hTag : a.byte own = 1 :=
    Archive.byte_of_holds (by decide) hOwn.left
  have hNumber := hOwn.right
  rw [Bytes.length_ofNat] at hNumber
  simp only [read, hTag]
  rw [Archive.number_of_holds n.toNat_lt hNumber,
    UInt64.ofNat_toNat]
  rfl

theorem read_bytes
    {b : Bytes}
    (hSize : a.size < 2 ^ 32)
    (hCell : (bytes b).cell own position = some cell)
    (hOwn : a.Holds own cell)
    (hData : a.Holds position b)
    (hLow : w.low ≤ position)
    (hHigh : position + b.length ≤ w.high) :
    (read a own).run w =
      some (bytes b, ⟨position + b.length, w.high⟩) := by
  rcases run_cell hCell with ⟨r, hReference, rfl⟩
  have hTag : a.byte own = 2 :=
    Archive.byte_of_holds (by decide) hOwn.left.left
  have hField := hOwn.left.right
  rw [Bytes.length_ofNat] at hField
  have hFits := hData.length_le
  have hRun :=
    Archive.readRun_of_holds hReference hField hData
      (Nat.mul_one _).symm (by omega) hLow hHigh
      (Nat.mod_one position)
  simp only [read, hTag, StateT.run_bind, hRun]
  rfl

theorem read_addrs
    {as : List UInt64}
    (hSize : a.size < 2 ^ 32)
    (hCell : (addrs as).cell own position = some cell)
    (hOwn : a.Holds own cell)
    (hData :
      a.Holds (Word.alignUp 8 position) (addrBytes as))
    (hLow : w.low ≤ position)
    (hHigh :
      Word.alignUp 8 position + (addrBytes as).length ≤
        w.high) :
    (read a own).run w =
      some
        (addrs as,
          ⟨Word.alignUp 8 position + (addrBytes as).length,
            w.high⟩) := by
  rcases run_cell hCell with ⟨r, hReference, rfl⟩
  change
    CellFormat.reference (own + 4) (Word.alignUp 8 position)
      as.length = some r at hReference
  have hTag : a.byte own = 3 :=
    Archive.byte_of_holds (by decide) hOwn.left.left
  have hField := hOwn.left.right
  rw [Bytes.length_ofNat] at hField
  have hFits := hData.length_le
  rw [length_addrBytes] at hFits
  have hFrom : position ≤ Word.alignUp 8 position :=
    Word.le_alignUp (by decide) position
  have hRun :=
    Archive.readRun_of_holds hReference hField hData
      (length_addrBytes as) (by omega)
      (Nat.le_trans hLow hFrom) hHigh
      (Word.alignUp_mod 8 position)
  simp only [read, hTag, StateT.run_bind, hRun]
  change some (addrs (addrsOf (addrBytes as)), _) = _
  rw [addrsOf_addrBytes]

end Reading

/- Arguments are read back as they were written. -/
theorem faithful_format : format.Faithful where
  size_pos := by decide
  length_cell := length_cell
  read_cell := by
    intro a own position p cell w hSize hCell hOwn hData
      hLow hHigh
    change p.cell own position = some cell at hCell
    change a.Holds position (p.data position) at hData
    change position + (p.data position).length ≤ w.high
      at hHigh
    change ∃ low ≤ position + (p.data position).length,
      (read a own).run w = some (p, ⟨low, w.high⟩)
    cases p with
    | word n => exact ⟨w.low, hLow, read_word hCell hOwn⟩
    | long n => exact ⟨w.low, hLow, read_long hCell hOwn⟩
    | bytes b =>
        exact
          ⟨_, Nat.le_refl _,
            read_bytes hSize hCell hOwn hData hLow hHigh⟩
    | addrs as =>
        have hAligned :
            position + (Bytes.zeros
              (Word.padding 8 position)).length =
            Word.alignUp 8 position := by
          rw [Bytes.length_zeros,
            Word.add_padding (by decide) position]
        have hItems := hData.right
        rw [hAligned] at hItems
        simp only [data, List.length_append,
          ← Nat.add_assoc, hAligned] at hHigh ⊢
        exact
          ⟨_, Nat.le_refl _,
            read_addrs hSize hCell hOwn hItems hLow hHigh⟩

end Param

------------------------------------------------------------
-- Frames
------------------------------------------------------------

namespace Frame

theorem orLost_ok
    {α : Type}
    {x : Option α}
    {y : α}
    (h : orLost x = .ok y) : x = some y := by
  cases x with
  | none => cases h
  | some z =>
      cases h
      rfl

/- A frame is unwrapped to the archive it was made from. -/
theorem wrap_some
    {body frame : Bytes}
    (h : wrap body = some frame) :
    body.length < 2 ^ 32 ∧
      unwrap frame = some body.toArray := by
  simp only [wrap, Option.ite_none_right_eq_some,
    Option.some.injEq] at h
  rcases h with ⟨hLength, rfl⟩
  refine ⟨hLength, ?_⟩
  have hPrefix : (Bytes.ofNat 4 body.length).length = 4 :=
    Bytes.length_ofNat 4 body.length
  rw [unwrap, if_neg (by simp)]
  simp only [List.drop_left' hPrefix,
    List.take_left' hPrefix]
  rw [if_pos (Bytes.toNat_ofNat hLength)]

/-
  The root in a frame is read if it can be read from where
  it lies and from where its list begins.
-/
theorem readRoot_unwrap
    {α : Type}
    {root : Nat → Nat → Option Bytes}
    {items : List Param}
    {frame : Bytes}
    {size : Nat}
    {inner : Archive → Nat → Reader α}
    {x : α}
    (hFrame :
      (Param.format.archive 8 root items).bind wrap =
        some frame)
    (hRoot :
      ∀ {a : Archive} {own cells : Nat} {tail : Bytes},
        root own cells = some tail →
          a.Holds own tail →
            (∀ field run,
              CellFormat.reference field cells
                  items.length = some run →
                a.Holds field run →
                  ∃ w,
                    (Param.format.readList a field).run
                        ⟨0, own⟩ =
                      some (items, w)) →
              tail.length = size ∧
                ∃ w,
                  (inner a own).run ⟨0, own⟩ =
                    some (x, w)) :
    (do
      let a ← unwrap frame
      a.readRoot size 8 (inner a)) = some x := by
  rcases Option.bind_eq_some_iff.mp hFrame with
    ⟨body, hArchive, hWrap⟩
  rcases wrap_some hWrap with ⟨hSize, hUnwrap⟩
  rcases Param.faithful_format.readList_archive
      (by decide) hArchive hSize with
    ⟨own, cells, tail, hTail, hAlign, hLength, hHeld, hList⟩
  rcases hRoot hTail hHeld hList with ⟨hTailSize, w, hInner⟩
  rw [hTailSize] at hLength
  rw [hUnwrap]
  exact Archive.readRoot_of_run hLength hAlign hInner

end Frame

------------------------------------------------------------
-- Requests
------------------------------------------------------------

theorem Opcode.ofCode?_code
    (o : Opcode) : Opcode.ofCode? o.code = some o := by
  cases o <;> rfl

theorem ComputeDomain.ofCode?_code
    (d : ComputeDomain) :
    ComputeDomain.ofCode? d.code = some d := by
  cases d <;> rfl

namespace Request

/- The parts of a root, one behind the other. -/
theorem root_some
    {r : Request}
    {own cells : Nat}
    {tail : Bytes}
    (h : r.root own cells = some tail) :
    ∃ params,
      CellFormat.reference (own + 12) cells
          r.params.length = some params ∧
        tail =
          Bytes.ofNat 8 r.seq.toNat ++
            Bytes.ofNat 1 r.domain.code ++
            Bytes.ofNat 1 r.opcode.code ++
            Bytes.zeros 2 ++ params ++ Bytes.zeros 4 := by
  simp only [root, Option.bind_eq_bind,
    Option.bind_eq_some_iff, Option.pure_def,
    Option.some.injEq] at h
  rcases h with ⟨params, hReference, hTail⟩
  exact ⟨params, hReference, hTail.symm⟩

/- The request in a frame is the one that was sent in it. -/
theorem decode_encode
    {r : Request}
    {frame : Bytes}
    (h : r.encode = .ok frame) :
    decode frame = .ok r := by
  refine congrArg Frame.orLost
    (Frame.readRoot_unwrap (Frame.orLost_ok h) ?_)
  intro a own cells tail hTail hHeld hList
  rcases root_some hTail with ⟨params, hReference, rfl⟩
  refine
    ⟨by simp [CellFormat.length_reference hReference], ?_⟩
  have hParams := hHeld.left.right
  have hOpcode := hHeld.left.left.left.right
  have hDomain := hHeld.left.left.left.left.right
  have hSeq := hHeld.left.left.left.left.left
  simp only [List.length_append, Bytes.length_ofNat,
    Bytes.length_zeros] at hParams hOpcode hDomain
  have hDomainCode : a.byte (own + 8) = r.domain.code :=
    Archive.byte_of_holds (by cases r.domain <;> decide)
      hDomain
  have hOpcodeCode : a.byte (own + 9) = r.opcode.code :=
    Archive.byte_of_holds (by cases r.opcode <;> decide)
      hOpcode
  have hNumber : a.number 8 own = r.seq.toNat :=
    Archive.number_of_holds r.seq.toNat_lt hSeq
  rcases hList (own + 12) params hReference hParams with
    ⟨w, hRead⟩
  exact
    ⟨w, by
      simp [readRoot, hDomainCode, hOpcodeCode, hNumber,
        ComputeDomain.ofCode?_code, Opcode.ofCode?_code,
        hRead]⟩

end Request

------------------------------------------------------------
-- Responses
------------------------------------------------------------

namespace Response

/- The parts of a root, one behind the other. -/
theorem root_some
    {r : Response}
    {own cells : Nat}
    {tail : Bytes}
    (h : r.root own cells = some tail) :
    ∃ outputs,
      CellFormat.reference (own + 12) cells
          r.outputs.length = some outputs ∧
        tail =
          Bytes.ofNat 8 r.seq.toNat ++
            Bytes.ofNat 4 r.status.toUInt32.toNat ++
            outputs ++ Bytes.zeros 4 := by
  simp only [root, Option.bind_eq_bind,
    Option.bind_eq_some_iff, Option.pure_def,
    Option.some.injEq] at h
  rcases h with ⟨outputs, hReference, hTail⟩
  exact ⟨outputs, hReference, hTail.symm⟩

/- The response in a frame is the one that was sent in it. -/
theorem decode_encode
    {r : Response}
    {frame : Bytes}
    (h : r.encode = .ok frame) :
    decode frame = .ok r := by
  refine congrArg Frame.orLost
    (Frame.readRoot_unwrap (Frame.orLost_ok h) ?_)
  intro a own cells tail hTail hHeld hList
  rcases root_some hTail with ⟨outputs, hReference, rfl⟩
  refine
    ⟨by simp [CellFormat.length_reference hReference], ?_⟩
  have hOutputs := hHeld.left.right
  have hStatus := hHeld.left.left.right
  have hSeq := hHeld.left.left.left
  simp only [List.length_append, Bytes.length_ofNat]
    at hOutputs hStatus
  have hCode :
      a.number 4 (own + 8) = r.status.toUInt32.toNat :=
    Archive.number_of_holds r.status.toUInt32.toNat_lt
      hStatus
  have hNumber : a.number 8 own = r.seq.toNat :=
    Archive.number_of_holds r.seq.toNat_lt hSeq
  rcases hList (own + 12) outputs hReference hOutputs with
    ⟨w, hRead⟩
  exact
    ⟨w, by simp [readRoot, hCode, hNumber, hRead]⟩

end Response

end Offload
