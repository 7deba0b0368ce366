import Mathlib.Data.List.Basic
import Offload.Wire.Message
import Offload.Proofs.Archive.Lists
import Offload.Proofs.Archive.Sizes
import Offload.Proofs.Wire.RoundTrip

/-
  Messages as whole frames.

  A message whose archive is short enough for its offsets
  can always be sent; cut short or followed by more bytes,
  its frame is no longer one.

  Key definitions include:
    * `Frame.Exact`

  Main results:
    * `Frame.unwrap_of_prefix`
    * `messages_exact`
-/

namespace Offload

/- Arguments need no more room than their data and cells. -/
theorem Param.roomFor_format
    (p : Param) : format.RoomFor p := by
  intro own position hOwn hData
  change own + 16 < Archive.offsetLimit at hOwn
  change position + (p.data position).length <
    Archive.offsetLimit at hData
  change ∃ cell, p.cell own position = some cell
  have hField : own + 4 < Archive.offsetLimit := by
    omega
  cases p with
  | word n => exact ⟨_, rfl⟩
  | long n => exact ⟨_, rfl⟩
  | bytes b =>
      have hTarget : position < Archive.offsetLimit := by
        omega
      rcases CellFormat.reference_of_lt hField hTarget
          b.length with ⟨run, hRun⟩
      exact
        ⟨_, by simp [Param.cell, dataPosition, hRun]; rfl⟩
  | addrs as =>
      have hTarget :
          Word.alignUp 8 position < Archive.offsetLimit := by
        have hPadding :
            position + Word.padding 8 position =
              Word.alignUp 8 position :=
          Word.add_padding (by decide) position
        simp only [data, List.length_append,
          Bytes.length_zeros] at hData
        omega
      rcases CellFormat.reference_of_lt hField hTarget
          as.length with ⟨run, hRun⟩
      exact
        ⟨_, by simp [Param.cell, dataPosition, hRun]; rfl⟩

------------------------------------------------------------
-- Frames of Another Length
------------------------------------------------------------

namespace Frame

/- The bytes that tell the length of an archive. -/
def prefixSize : Nat :=
  4

theorem length_wrap
    {body frame : Bytes}
    (h : wrap body = some frame) :
    frame.length = prefixSize + body.length := by
  simp only [wrap, Option.ite_none_right_eq_some,
    Option.some.injEq] at h
  rw [← h.2, List.length_append, Bytes.length_ofNat,
    prefixSize]

/- A frame is as long as it says. -/
theorem length_of_unwrap
    {bytes : Bytes}
    {a : Archive}
    (h : unwrap bytes = some a) :
    prefixSize ≤ bytes.length ∧
      bytes.length =
        prefixSize +
          Bytes.toNat (bytes.take prefixSize) := by
  unfold unwrap at h
  split at h
  · cases h
  · rename_i hLong
    dsimp only at h
    split at h
    · rename_i hStated
      rw [List.length_drop] at hStated
      simp only [prefixSize]
      omega
    · cases h

/-
  Of two runs of bytes with the same stated length only one
  of that length is a frame.
-/
theorem unwrap_of_take_eq
    {frame bytes : Bytes}
    {a : Archive}
    (hFrame : unwrap frame = some a)
    (hStated :
      prefixSize ≤ bytes.length →
        bytes.take prefixSize = frame.take prefixSize)
    (hLength : bytes.length ≠ frame.length) :
    unwrap bytes = none := by
  cases hBytes : unwrap bytes with
  | none => rfl
  | some b =>
      rcases length_of_unwrap hFrame with ⟨_, hFirst⟩
      rcases length_of_unwrap hBytes with ⟨hLong, hSecond⟩
      rw [hStated hLong] at hSecond
      omega

theorem unwrap_of_prefix
    {frame part : Bytes}
    {a : Archive}
    (hFrame : unwrap frame = some a)
    (hPart : part <+: frame)
    (hProper : part ≠ frame) :
    unwrap part = none := by
  apply unwrap_of_take_eq hFrame
  · intro hLong
    rcases hPart with ⟨rest, rfl⟩
    exact (List.take_append_of_le_length hLong).symm
  · intro hLength
    exact hProper (hPart.eq_of_length hLength)

theorem unwrap_append
    {frame more : Bytes}
    {a : Archive}
    (hFrame : unwrap frame = some a)
    (hMore : more ≠ []) :
    unwrap (frame ++ more) = none := by
  have hLong := (length_of_unwrap hFrame).1
  apply unwrap_of_take_eq hFrame
  · intro _
    exact List.take_append_of_le_length hLong
  · have hPositive : 0 < more.length :=
      List.length_pos_iff.mpr hMore
    rw [List.length_append]
    omega

------------------------------------------------------------
-- Exact Formats
------------------------------------------------------------

/-
  A format of values as frames of a known length. What was
  written is read back; whatever stays below the reach of
  offsets can be written; a frame that was cut short or has
  bytes behind it is lost.
-/
structure Exact
    {α : Type}
    (encode : α → Except DispatchError Bytes)
    (decode : Bytes → Except DispatchError α)
    (archiveSize : α → Nat) : Prop where
  read_back :
    ∀ {x : α} {frame : Bytes},
      encode x = .ok frame → decode frame = .ok x
  length :
    ∀ {x : α} {frame : Bytes},
      encode x = .ok frame →
        frame.length = prefixSize + archiveSize x
  encodes :
    ∀ {x : α},
      archiveSize x < Archive.offsetLimit →
        ∃ frame, encode x = .ok frame
  cut_short :
    ∀ {x : α} {frame part : Bytes},
      encode x = .ok frame →
        part <+: frame →
          part ≠ frame → decode part = .error .messageLost
  followed :
    ∀ {x : α} {frame more : Bytes},
      encode x = .ok frame →
        more ≠ [] →
          decode (frame ++ more) = .error .messageLost

/-
  Roots of a fixed size that refer to the arguments of a
  value make an exact format, if they are read back.
-/
theorem exact_of_root
    {α : Type}
    {root : α → Nat → Nat → Option Bytes}
    {items : α → List Param}
    {rootSize : Nat}
    {read : Archive → Option α}
    (hLength :
      ∀ {x : α} {own cells : Nat} {tail : Bytes},
        root x own cells = some tail →
          tail.length = rootSize)
    (hRoot :
      ∀ {x : α} {own cells : Nat},
        own + rootSize < Archive.offsetLimit →
          cells ≤ own →
            ∃ tail, root x own cells = some tail)
    (hRead :
      ∀ {x : α} {frame : Bytes},
        orLost
            ((Param.format.archive 8 (root x)
              (items x)).bind wrap) = .ok frame →
          orLost ((unwrap frame).bind read) = .ok x) :
    Exact
      (fun x =>
        orLost
          ((Param.format.archive 8 (root x)
            (items x)).bind wrap))
      (fun bytes => orLost ((unwrap bytes).bind read))
      (fun x =>
        Param.format.archiveSize 8 rootSize (items x)) := by
  have hWrapped :
      ∀ {x : α} {frame : Bytes},
        orLost
            ((Param.format.archive 8 (root x)
              (items x)).bind wrap) = .ok frame →
          ∃ body,
            Param.format.archive 8 (root x) (items x) =
                some body ∧
              wrap body = some frame := by
    intro x frame h
    exact Option.bind_eq_some_iff.mp (orLost_ok h)
  constructor
  · exact hRead
  · intro x frame h
    rcases hWrapped h with ⟨body, hArchive, hWrap⟩
    rw [length_wrap hWrap,
      Param.faithful_format.length_archive (by decide)
        hLength hArchive]
  · intro x hSize
    have hWritten :
        ∃ body,
          Param.format.archive 8 (root x) (items x) =
            some body :=
      CellFormat.archive_of_archiveSize
        Param.faithful_format (by decide) hRoot
        (fun p _ => p.roomFor_format) hSize
    rcases hWritten with ⟨body, hArchive⟩
    have hBody :=
      Param.faithful_format.length_archive (by decide)
        hLength hArchive
    have hFits : body.length < 0x1_0000_0000 := by
      unfold Archive.offsetLimit at hSize
      omega
    exact
      ⟨_, by
        simp [hArchive, wrap, hFits, orLost]
        rfl⟩
  · intro x frame part h hPart hProper
    rcases hWrapped h with ⟨body, _, hWrap⟩
    have hLost :=
      unwrap_of_prefix (wrap_some hWrap).2 hPart hProper
    simp [hLost, orLost]
  · intro x frame more h hMore
    rcases hWrapped h with ⟨body, _, hWrap⟩
    have hLost := unwrap_append (wrap_some hWrap).2 hMore
    simp [hLost, orLost]

end Frame

------------------------------------------------------------
-- Messages
------------------------------------------------------------

/- The bytes of the archive of a request. -/
def Request.archiveSize
    (r : Request) : Nat :=
  Param.format.archiveSize 8 24 r.params

/- The bytes of the archive of a response. -/
def Response.archiveSize
    (r : Response) : Nat :=
  Param.format.archiveSize 8 24 r.outputs

theorem Request.length_root
    {r : Request}
    {own cells : Nat}
    {tail : Bytes}
    (h : r.root own cells = some tail) :
    tail.length = 24 := by
  rcases root_some h with ⟨params, hReference, rfl⟩
  simp [CellFormat.length_reference hReference]

theorem Request.root_of_lt
    {r : Request}
    {own cells : Nat}
    (hOwn : own + 24 < Archive.offsetLimit)
    (hCells : cells ≤ own) :
    ∃ tail, r.root own cells = some tail := by
  have hReference :
      ∃ params,
        CellFormat.reference (own + 12) cells
            r.params.length =
          some params :=
    CellFormat.reference_of_lt (by omega) (by omega) _
  rcases hReference with ⟨params, hParams⟩
  exact ⟨_, by simp [root, hParams]; rfl⟩

theorem Response.length_root
    {r : Response}
    {own cells : Nat}
    {tail : Bytes}
    (h : r.root own cells = some tail) :
    tail.length = 24 := by
  rcases root_some h with ⟨outputs, hReference, rfl⟩
  simp [CellFormat.length_reference hReference]

theorem Response.root_of_lt
    {r : Response}
    {own cells : Nat}
    (hOwn : own + 24 < Archive.offsetLimit)
    (hCells : cells ≤ own) :
    ∃ tail, r.root own cells = some tail := by
  have hReference :
      ∃ outputs,
        CellFormat.reference (own + 12) cells
            r.outputs.length =
          some outputs :=
    CellFormat.reference_of_lt (by omega) (by omega) _
  rcases hReference with ⟨outputs, hOutputs⟩
  exact ⟨_, by simp [root, hOutputs]; rfl⟩

/-
  Requests and responses are read back from the frames that
  were made for them and from nothing shorter or longer, and
  frames are made for all whose archives are in the reach of
  offsets.
-/
theorem messages_exact :
    Frame.Exact Request.encode Request.decode
        Request.archiveSize ∧
      Frame.Exact Response.encode Response.decode
        Response.archiveSize := by
  constructor
  · exact
      Frame.exact_of_root Request.length_root
        Request.root_of_lt Request.decode_encode
  · exact
      Frame.exact_of_root Response.length_root
        Response.root_of_lt Response.decode_encode

end Offload
