import Mathlib.Data.List.Basic
import Offload.Metadata.Codec
import Offload.Proofs.Archive.Lists
import Offload.Proofs.Archive.Sizes
import Offload.Proofs.Archive.Texts

/-
  Records are read as they were written.

  A field keeps the bytes of its key and of its value one
  behind the other, and its reader visits them in that order.
  A record has an archive, if that is in the reach of
  offsets, unless a text is too long for its length to be
  marked.

  Key definitions include:
    * `MetadataField.texts`
    * `Metadata.archiveSize`

  Main results:
    * `MetadataField.faithful_format`
    * `Metadata.decode?_encode?`
    * `Metadata.archive_readable`
-/

namespace Offload

------------------------------------------------------------
-- Values
------------------------------------------------------------

namespace MetadataValue

/- The texts of a value. -/
def texts : MetadataValue → List String
  | .string s => [s]
  | _ => []

section Places

variable {own position : Nat}
variable {run : Bytes}

/- The place of a text that is a value has the text's own. -/
theorem place_string
    {s : String}
    (h : (string s).place own position = some run) :
    ∃ text,
      TextFormat.place (own + 4) position s = some text ∧
        run = Bytes.ofNat 4 0 ++ text ++ Bytes.zeros 4 := by
  simp only [place, Option.bind_eq_bind,
    Option.bind_eq_some_iff, Option.pure_def,
    Option.some.injEq] at h
  rcases h with ⟨text, hText, hRun⟩
  exact ⟨text, hText, hRun.symm⟩

theorem length_place
    {v : MetadataValue}
    (h : v.place own position = some run) :
    run.length = 16 := by
  cases v with
  | string s =>
      rcases place_string h with ⟨text, hText, rfl⟩
      simp [TextFormat.length_place hText]
  | int n =>
      simp only [place, Option.some.injEq] at h
      simp [← h]
  | uint n =>
      simp only [place, Option.some.injEq] at h
      simp [← h]
  | bool b =>
      simp only [place, Option.some.injEq] at h
      simp [← h]

end Places

/- A text that has a place as a value is short enough. -/
theorem lt_lengthLimit_of_place
    {own position : Nat}
    {v : MetadataValue}
    {run : Bytes}
    (h : v.place own position = some run) :
    ∀ s ∈ v.texts,
      (Utf8.encode s).length < TextFormat.lengthLimit := by
  cases v with
  | string s =>
      rcases place_string h with ⟨text, hText, _⟩
      intro t ht
      rw [List.mem_singleton.mp ht]
      exact TextFormat.lt_lengthLimit_of_place hText
  | int n => exact nofun
  | uint n => exact nofun
  | bool b => exact nofun

theorem place_of_lt
    {own position : Nat}
    {v : MetadataValue}
    (hOwn : own + 16 < Archive.offsetLimit)
    (hPosition : position < Archive.offsetLimit)
    (hTexts :
      ∀ s ∈ v.texts,
        (Utf8.encode s).length < TextFormat.lengthLimit) :
    ∃ run, v.place own position = some run := by
  cases v with
  | string s =>
      have hText :
          ∃ text,
            TextFormat.place (own + 4) position s =
              some text :=
        TextFormat.place_of_lt (by omega) hPosition
          (hTexts s (List.mem_singleton_self s))
      rcases hText with ⟨text, hText⟩
      exact
        ⟨Bytes.ofNat 4 0 ++ text ++ Bytes.zeros 4, by
          simp [place, hText]⟩
  | int n => exact ⟨_, rfl⟩
  | uint n => exact ⟨_, rfl⟩
  | bool b => exact ⟨_, rfl⟩

section Reading

variable {a : Archive}
variable {own position : Nat}
variable {run : Bytes}
variable {w : Window}

theorem read_string
    {s : String}
    (hPlace : (string s).place own position = some run)
    (hOwn : a.Holds own run)
    (hData : a.Holds position (TextFormat.data s))
    (hLow : w.low ≤ position)
    (hHigh :
      position + (TextFormat.data s).length ≤ w.high) :
    ∃ low ≤ position + (TextFormat.data s).length,
      (read a own).run w =
        some (string s, ⟨low, w.high⟩) := by
  rcases place_string hPlace with ⟨text, hText, rfl⟩
  have hTag : a.byte own = 0 :=
    Archive.byte_of_holds (by decide) hOwn.left.left
  have hField := hOwn.left.right
  rw [Bytes.length_ofNat] at hField
  rcases TextFormat.read_of_holds hText hField hData hLow
      hHigh with ⟨low, hTaken, hRead⟩
  refine ⟨low, hTaken, ?_⟩
  simp only [read, hTag, StateT.run_bind, hRead]
  rfl

theorem read_int
    {n : Int64}
    (hPlace : (int n).place own position = some run)
    (hOwn : a.Holds own run) :
    (read a own).run w = some (int n, w) := by
  simp only [place, Option.some.injEq] at hPlace
  subst hPlace
  have hTag : a.byte own = 1 :=
    Archive.byte_of_holds (by decide) hOwn.left
  have hNumber := hOwn.right
  rw [Bytes.length_ofNat] at hNumber
  simp only [read, hTag]
  rw [Archive.number_of_holds n.toUInt64.toNat_lt hNumber,
    UInt64.ofNat_toNat, Int64.toInt64_toUInt64]
  rfl

theorem read_uint
    {n : UInt64}
    (hPlace : (uint n).place own position = some run)
    (hOwn : a.Holds own run) :
    (read a own).run w = some (uint n, w) := by
  simp only [place, Option.some.injEq] at hPlace
  subst hPlace
  have hTag : a.byte own = 2 :=
    Archive.byte_of_holds (by decide) hOwn.left
  have hNumber := hOwn.right
  rw [Bytes.length_ofNat] at hNumber
  simp only [read, hTag]
  rw [Archive.number_of_holds n.toNat_lt hNumber,
    UInt64.ofNat_toNat]
  rfl

theorem read_bool
    {b : Bool}
    (hPlace : (bool b).place own position = some run)
    (hOwn : a.Holds own run) :
    (read a own).run w = some (bool b, w) := by
  simp only [place, Option.some.injEq] at hPlace
  subst hPlace
  have hTag : a.byte own = 3 :=
    Archive.byte_of_holds (by decide) hOwn.left.left
  have hFlag := hOwn.left.right
  rw [Bytes.length_ofNat] at hFlag
  have hByte : a.byte (own + 1) = b.toNat :=
    Archive.byte_of_holds (by cases b <;> decide) hFlag
  simp only [read, hTag, hByte]
  cases b <;> rfl

/- A value is read back from its place and its data. -/
theorem read_of_holds
    {v : MetadataValue}
    (hPlace : v.place own position = some run)
    (hOwn : a.Holds own run)
    (hData : a.Holds position v.data)
    (hLow : w.low ≤ position)
    (hHigh : position + v.data.length ≤ w.high) :
    ∃ low ≤ position + v.data.length,
      (read a own).run w = some (v, ⟨low, w.high⟩) := by
  cases v with
  | string s =>
      exact read_string hPlace hOwn hData hLow hHigh
  | int n => exact ⟨w.low, hLow, read_int hPlace hOwn⟩
  | uint n => exact ⟨w.low, hLow, read_uint hPlace hOwn⟩
  | bool b => exact ⟨w.low, hLow, read_bool hPlace hOwn⟩

end Reading

end MetadataValue

------------------------------------------------------------
-- Fields
------------------------------------------------------------

namespace MetadataField

/- The texts of a field: its key and those of its value. -/
def texts
    (f : MetadataField) : List String :=
  f.key :: f.value.texts

/- The cell of a field is its key and its value. -/
theorem cell_some
    {own position : Nat}
    {f : MetadataField}
    {run : Bytes}
    (h : f.cell own position = some run) :
    ∃ key value,
      TextFormat.place own position f.key = some key ∧
        f.value.place (own + 8)
            (position + (TextFormat.data f.key).length) =
          some value ∧
        run = key ++ value := by
  simp only [cell, Option.bind_eq_bind,
    Option.bind_eq_some_iff, Option.pure_def,
    Option.some.injEq] at h
  rcases h with ⟨key, hKey, value, hValue, hRun⟩
  exact ⟨key, value, hKey, hValue, hRun.symm⟩

/-
  Fields are read back as they were written: the key takes
  of the window what its bytes end with, and the value goes
  on from there.
-/
theorem faithful_format : format.Faithful where
  size_pos := by decide
  length_cell := by
    intro own position f run h
    rcases cell_some h with ⟨key, value, hKey, hValue, rfl⟩
    rw [List.length_append, TextFormat.length_place hKey,
      MetadataValue.length_place hValue]
    rfl
  read_cell := by
    intro a own position f run w _ hCell hOwn hData hLow hHigh
    rcases cell_some hCell with
      ⟨key, value, hKey, hValue, rfl⟩
    change
      a.Holds position
        (TextFormat.data f.key ++ f.value.data) at hData
    change
      position +
          (TextFormat.data f.key ++ f.value.data).length ≤
        w.high at hHigh
    change
      ∃ low ≤
          position +
            (TextFormat.data f.key ++ f.value.data).length,
        (read a own).run w = some (f, ⟨low, w.high⟩)
    have hBehind := hOwn.right
    rw [TextFormat.length_place hKey] at hBehind
    rw [List.length_append, ← Nat.add_assoc] at hHigh ⊢
    rcases TextFormat.read_of_holds hKey hOwn.left hData.left
        hLow (by omega) with ⟨low, hTaken, hReadKey⟩
    rcases MetadataValue.read_of_holds (w := ⟨low, w.high⟩)
        hValue hBehind hData.right hTaken hHigh with
      ⟨low', hTaken', hReadValue⟩
    refine ⟨low', hTaken', ?_⟩
    simp [read, hReadKey, hReadValue]

/- The texts of a cell were all short enough for a place. -/
theorem lt_lengthLimit_of_cell
    {own position : Nat}
    {f : MetadataField}
    {run : Bytes}
    (h : f.cell own position = some run) :
    ∀ s ∈ f.texts,
      (Utf8.encode s).length < TextFormat.lengthLimit := by
  rcases cell_some h with ⟨key, value, hKey, hValue, _⟩
  intro s hs
  rcases List.mem_cons.mp hs with rfl | hInValue
  · exact TextFormat.lt_lengthLimit_of_place hKey
  · exact
      MetadataValue.lt_lengthLimit_of_place hValue s hInValue

/- Fields with such texts need no more than their own room. -/
theorem roomFor_format
    {f : MetadataField}
    (hTexts :
      ∀ s ∈ f.texts,
        (Utf8.encode s).length < TextFormat.lengthLimit) :
    format.RoomFor f := by
  intro own position hOwn hData
  change own + 24 < Archive.offsetLimit at hOwn
  change
    position +
        (TextFormat.data f.key ++ f.value.data).length <
      Archive.offsetLimit at hData
  change ∃ cell, f.cell own position = some cell
  rw [List.length_append] at hData
  have hKey :
      ∃ key,
        TextFormat.place own position f.key = some key :=
    TextFormat.place_of_lt (by omega) (by omega)
      (hTexts f.key List.mem_cons_self)
  have hValue :
      ∃ value,
        f.value.place (own + 8)
            (position + (TextFormat.data f.key).length) =
          some value :=
    MetadataValue.place_of_lt (by omega) (by omega)
      (fun s hs => hTexts s (List.mem_cons_of_mem _ hs))
  rcases hKey with ⟨key, hKey⟩
  rcases hValue with ⟨value, hValue⟩
  exact ⟨key ++ value, by simp [cell, hKey, hValue]⟩

end MetadataField

------------------------------------------------------------
-- Records
------------------------------------------------------------

namespace Metadata

/- The texts of a record. -/
def texts
    (m : Metadata) : List String :=
  m.fields.flatMap MetadataField.texts

/- The bytes of the archive of a record. -/
def archiveSize
    (m : Metadata) : Nat :=
  MetadataField.format.archiveSize 4 8 m.fields

theorem length_encode?
    {m : Metadata}
    {bytes : Bytes}
    (h : m.encode? = some bytes) :
    bytes.length = m.archiveSize :=
  MetadataField.faithful_format.length_archive (by decide)
    CellFormat.length_reference h

/- A record is what its archive holds. -/
theorem decode?_encode?
    {m : Metadata}
    {bytes : Bytes}
    (h : m.encode? = some bytes)
    (hSize : bytes.length < 2 ^ 32) :
    decode? bytes = some m := by
  rcases MetadataField.faithful_format.readList_archive
      (by decide) h hSize with
    ⟨own, cells, tail, hTail, hAlign, hLength, hHeld, hList⟩
  rw [CellFormat.length_reference hTail] at hLength
  rcases hList own tail hTail hHeld with ⟨w, hRead⟩
  have hRoot :
      Archive.readRoot bytes.toArray 8 4
          (fun own =>
            MetadataField.format.readList bytes.toArray own) =
        some m.fields :=
    Archive.readRoot_of_run hLength hAlign hRead
  simp only [decode?, hRoot, Option.map_some]

/-
  Within the reach of offsets a record has an archive exactly
  if all its texts are short enough for their lengths to be
  marked.
-/
theorem encode?_isSome_iff
    {m : Metadata}
    (hSize : m.archiveSize < Archive.offsetLimit) :
    (∃ bytes, m.encode? = some bytes) ↔
      ∀ s ∈ m.texts,
        (Utf8.encode s).length < TextFormat.lengthLimit := by
  constructor
  · rintro ⟨bytes, h⟩ s hs
    rcases List.mem_flatMap.mp hs with ⟨f, hField, hText⟩
    simp only [encode?, CellFormat.archive,
      Option.bind_eq_bind, Option.bind_eq_some_iff,
      Option.pure_def, Option.some.injEq] at h
    rcases h with ⟨cells, hCells, _⟩
    rcases CellFormat.cell_of_cellsOf hCells f hField with
      ⟨own, position, cell, hCell⟩
    exact
      MetadataField.lt_lengthLimit_of_cell hCell s hText
  · intro hTexts
    apply
      CellFormat.archive_of_archiveSize
        MetadataField.faithful_format (by decide) _ _ hSize
    · intro own cells hOwn hCells
      exact
        CellFormat.reference_of_lt (by omega) (by omega) _
    · intro f hField
      apply MetadataField.roomFor_format
      intro s hs
      exact hTexts s (List.mem_flatMap.mpr ⟨f, hField, hs⟩)

/-
  Every record is read back from its archive, field by field
  in order, and has one unless it has a text that is too long
  to be referred to. Whatever a text contains, its place is
  read in the form in which it was written: up to eight bytes
  in place, all longer texts elsewhere.
-/
theorem archive_readable
    (m : Metadata) :
    (∀ bytes,
      m.encode? = some bytes →
        bytes.length < Archive.offsetLimit →
          decode? bytes = some m) ∧
    (m.archiveSize < Archive.offsetLimit →
      ((∃ bytes,
          m.encode? = some bytes ∧
            bytes.length = m.archiveSize) ↔
        ∀ s ∈ m.texts,
          (Utf8.encode s).length <
            TextFormat.lengthLimit)) ∧
    ∀ s ∈ m.texts, ∀ own position run,
      TextFormat.place own position s = some run →
        ∀ a : Archive,
          a.Holds own run →
            (TextFormat.isMarked (a.byte own) = true ↔
              8 < (Utf8.encode s).length) := by
  refine ⟨?_, ?_, ?_⟩
  · intro bytes h hSize
    unfold Archive.offsetLimit at hSize
    exact decode?_encode? h (by omega)
  · intro hSize
    rw [← encode?_isSome_iff hSize]
    constructor
    · rintro ⟨bytes, h, _⟩
      exact ⟨bytes, h⟩
    · rintro ⟨bytes, h⟩
      exact ⟨bytes, h, length_encode? h⟩
  · intro s _ own position run hPlace a hOwn
    rw [TextFormat.isMarked_of_holds hPlace hOwn,
      decide_eq_true_iff]
    rfl

/- Texts of eight and of nine bytes, and one of none. -/
example :
    let m : Metadata :=
      ⟨[⟨"eight888", .string "nine99999"⟩, ⟨"", .int (-1)⟩]⟩
    m.encode?.bind decode? = some m := by
  decide +kernel

end Metadata

end Offload
