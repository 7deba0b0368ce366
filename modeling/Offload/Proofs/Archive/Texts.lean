import Mathlib.Data.List.Basic
import Mathlib.Data.List.TakeWhile
import Offload.Archive.Text
import Offload.Proofs.Archive.Contents
import Offload.Proofs.Archive.Sizes

/-
  Texts are read from an archive as they were written.

  No byte of a text is the filler, so a short text ends
  where the filler begins. The first byte of a text does not
  continue a character, and neither does the filler, so a
  text that is kept in place is not taken for a length.

  Main results:
    * `Utf8.decode?_encode`
    * `TextFormat.unmark_mark`
    * `TextFormat.isMarked_of_holds`
    * `TextFormat.read_of_holds`
-/

namespace Offload

------------------------------------------------------------
-- Bytes of Texts
------------------------------------------------------------

namespace Utf8

/- A text is read back from its bytes. -/
theorem decode?_encode
    (s : String) : decode? (encode s) = some s := by
  unfold decode? encode String.fromUTF8?
  rw [Array.toArray_toList]
  exact dif_pos s.isValidUTF8

/- The bytes of a text are those of its characters. -/
theorem encode_eq
    (s : String) :
    encode s = s.toList.flatMap String.utf8EncodeChar := by
  have hBytes :
      (s.toList.flatMap String.utf8EncodeChar).toByteArray =
        s.toByteArray :=
    String.utf8Encode_toList
  rw [encode, String.toUTF8_eq_toByteArray, ← hBytes,
    List.toList_data_toByteArray]

/- Whether a byte does not continue a character. -/
def Begins
    (b : UInt8) : Prop :=
  b.toNat / 64 ≠ 2

theorem begins_ofNat
    {n : Nat}
    (hByte : n < 256)
    (hFirst : n / 64 ≠ 2) : Begins (UInt8.ofNat n) := by
  rwa [Begins, UInt8.toNat_ofNat', Nat.mod_eq_of_lt hByte]

theorem ofNat_ne_filler
    {n : Nat}
    (hLow : n < 255) :
    UInt8.ofNat n ≠ TextFormat.filler := by
  intro hEq
  have hNumber := congrArg UInt8.toNat hEq
  rw [UInt8.toNat_ofNat', Nat.mod_eq_of_lt (by omega)]
    at hNumber
  change n = 255 at hNumber
  omega

/-
  The bytes of a character: the first does not continue one,
  and none is the filler. There is a case for each number of
  bytes.
-/
theorem encodeChar_cases
    (c : Char) :
    ∃ first rest,
      String.utf8EncodeChar c = first :: rest ∧
        Begins first ∧
        ∀ b ∈ first :: rest, b ≠ TextFormat.filler := by
  unfold String.utf8EncodeChar
  generalize c.val.toNat = v
  dsimp only
  split
  · refine ⟨_, _, rfl, begins_ofNat (by omega) (by omega), ?_⟩
    simp only [List.forall_mem_cons]
    exact ⟨ofNat_ne_filler (by omega), nofun⟩
  split
  · refine ⟨_, _, rfl, begins_ofNat (by omega) (by omega), ?_⟩
    simp only [List.forall_mem_cons]
    exact
      ⟨ofNat_ne_filler (by omega),
        ofNat_ne_filler (by omega), nofun⟩
  split
  · refine ⟨_, _, rfl, begins_ofNat (by omega) (by omega), ?_⟩
    simp only [List.forall_mem_cons]
    exact
      ⟨ofNat_ne_filler (by omega),
        ofNat_ne_filler (by omega),
        ofNat_ne_filler (by omega), nofun⟩
  · refine ⟨_, _, rfl, begins_ofNat (by omega) (by omega), ?_⟩
    simp only [List.forall_mem_cons]
    exact
      ⟨ofNat_ne_filler (by omega),
        ofNat_ne_filler (by omega),
        ofNat_ne_filler (by omega),
        ofNat_ne_filler (by omega), nofun⟩

theorem ne_filler_of_mem
    {s : String}
    {b : UInt8}
    (hMem : b ∈ encode s) : b ≠ TextFormat.filler := by
  rw [encode_eq] at hMem
  rcases List.mem_flatMap.mp hMem with ⟨c, _, hByte⟩
  rcases encodeChar_cases c with ⟨first, rest, hChar, _, hNone⟩
  exact hNone b (hChar ▸ hByte)

/- A text begins with a character. -/
theorem begins_of_encode
    {s : String}
    {first : UInt8}
    {rest : Bytes}
    (h : encode s = first :: rest) : Begins first := by
  rw [encode_eq] at h
  cases hChars : s.toList with
  | nil =>
      rw [hChars] at h
      cases h
  | cons c others =>
      rcases encodeChar_cases c with
        ⟨b, continued, hChar, hBegins, _⟩
      rw [hChars, List.flatMap_cons, hChar] at h
      rw [← (List.cons.inj h).1]
      exact hBegins

end Utf8

------------------------------------------------------------
-- Marked Lengths
------------------------------------------------------------

namespace TextFormat

theorem mark_lt
    {length : Nat}
    (hLength : length < lengthLimit) :
    mark length < 256 ^ 4 := by
  unfold lengthLimit at hLength
  unfold mark
  omega

theorem unmark_mark
    (length : Nat) : unmark (mark length) = length := by
  unfold unmark mark
  omega

/- The first byte of a marked length tells that it is one. -/
theorem isMarked_mark
    (length : Nat) :
    isMarked (mark length % 256) = true := by
  unfold isMarked mark
  rw [beq_iff_eq]
  omega

------------------------------------------------------------
-- Places of Texts
------------------------------------------------------------

/- A text that is short enough is kept in place. -/
theorem place_of_short
    {own position : Nat}
    {s : String}
    (hShort : (Utf8.encode s).length ≤ inPlace) :
    place own position s =
      some
        (Utf8.encode s ++
          List.replicate
            (inPlace - (Utf8.encode s).length) filler) :=
  if_pos hShort

/- The place of a longer text has its length and an offset. -/
theorem place_of_long
    {own position : Nat}
    {s : String}
    {run : Bytes}
    (hLong : inPlace < (Utf8.encode s).length)
    (h : place own position s = some run) :
    (Utf8.encode s).length < lengthLimit ∧
      ∃ offset,
        Archive.offset? own position = some offset ∧
          run =
            Bytes.ofNat 4 (mark (Utf8.encode s).length) ++
              offset := by
  unfold place at h
  dsimp only at h
  rw [if_neg (Nat.not_le.mpr hLong)] at h
  split at h
  · rename_i hLimit
    simp only [Option.bind_eq_bind, Option.bind_eq_some_iff,
      Option.pure_def, Option.some.injEq] at h
    rcases h with ⟨offset, hOffset, hRun⟩
    exact ⟨hLimit, offset, hOffset, hRun.symm⟩
  · cases h

theorem length_place
    {own position : Nat}
    {s : String}
    {run : Bytes}
    (h : place own position s = some run) :
    run.length = 8 := by
  by_cases hShort : (Utf8.encode s).length ≤ inPlace
  · rw [place_of_short hShort, Option.some.injEq] at h
    unfold inPlace at h hShort
    rw [← h, List.length_append, List.length_replicate]
    omega
  · rcases place_of_long (Nat.not_le.mp hShort) h with
      ⟨_, offset, hOffset, rfl⟩
    simp [Archive.length_offset? hOffset]

theorem lt_lengthLimit_of_place
    {own position : Nat}
    {s : String}
    {run : Bytes}
    (h : place own position s = some run) :
    (Utf8.encode s).length < lengthLimit := by
  by_cases hShort : (Utf8.encode s).length ≤ inPlace
  · unfold inPlace at hShort
    unfold lengthLimit
    omega
  · exact (place_of_long (Nat.not_le.mp hShort) h).1

/-
  Within the reach of offsets every text has a place whose
  length can be marked.
-/
theorem place_of_lt
    {own position : Nat}
    {s : String}
    (hOwn : own < Archive.offsetLimit)
    (hPosition : position < Archive.offsetLimit)
    (hLength : (Utf8.encode s).length < lengthLimit) :
    ∃ run, place own position s = some run := by
  rcases Archive.offset?_of_lt hOwn hPosition with
    ⟨offset, hOffset⟩
  by_cases hShort : (Utf8.encode s).length ≤ inPlace
  · exact ⟨_, place_of_short hShort⟩
  · exact
      ⟨Bytes.ofNat 4 (mark (Utf8.encode s).length) ++ offset,
        by simp [place, hShort, hLength, hOffset]⟩

------------------------------------------------------------
-- Reading Texts
------------------------------------------------------------

section Reading

variable {a : Archive}
variable {own position : Nat}
variable {s : String}
variable {run : Bytes}

/-
  The first byte of a place tells how the text was written,
  whatever its content or its length.
-/
theorem isMarked_of_holds
    (hPlace : place own position s = some run)
    (hOwn : a.Holds own run) :
    isMarked (a.byte own) =
      decide (inPlace < (Utf8.encode s).length) := by
  by_cases hShort : (Utf8.encode s).length ≤ inPlace
  · rw [place_of_short hShort, Option.some.injEq] at hPlace
    subst hPlace
    have hFirst :
        ∃ b rest,
          Utf8.encode s ++
              List.replicate
                (inPlace - (Utf8.encode s).length) filler =
            b :: rest ∧
          Utf8.Begins b := by
      cases hBytes : Utf8.encode s with
      | nil =>
          exact ⟨filler, _, rfl, by simp [Utf8.Begins, filler]⟩
      | cons b rest =>
          exact ⟨b, _, rfl, Utf8.begins_of_encode hBytes⟩
    rcases hFirst with ⟨b, rest, hRun, hBegins⟩
    rw [hRun] at hOwn
    rw [Archive.byte_of_holds_cons hOwn, isMarked,
      decide_eq_false (Nat.not_lt.mpr hShort)]
    exact beq_false_of_ne hBegins
  · rw [Nat.not_le] at hShort
    rcases place_of_long hShort hPlace with
      ⟨_, offset, _, rfl⟩
    rw [Archive.byte_of_holds_ofNat hOwn.left,
      isMarked_mark, decide_eq_true hShort]

/- A short text is read from its place alone. -/
theorem read_of_short
    {w : Window}
    (hShort : (Utf8.encode s).length ≤ inPlace)
    (hPlace : place own position s = some run)
    (hOwn : a.Holds own run) :
    (read a own).run w = some (s, w) := by
  have hForm := isMarked_of_holds hPlace hOwn
  rw [decide_eq_false (Nat.not_lt.mpr hShort)] at hForm
  have hSlice := Archive.slice_of_holds hOwn
  rw [length_place hPlace] at hSlice
  rw [place_of_short hShort, Option.some.injEq] at hPlace
  have hBytes :
      run.takeWhile (fun b => b != filler) =
        Utf8.encode s := by
    rw [← hPlace, List.takeWhile_append_of_pos,
      List.takeWhile_replicate]
    · simp
    · intro b hb
      simpa using Utf8.ne_filler_of_mem hb
  unfold read
  rw [hForm, if_neg Bool.false_ne_true]
  change
    (Reader.ofOption
        (Utf8.decode? ((a.slice own 8).takeWhile _))).run w =
      _
  rw [hSlice, hBytes, Utf8.decode?_encode]
  rfl

/- A longer text is read from where its offset leads. -/
theorem read_of_long
    {w : Window}
    (hLong : inPlace < (Utf8.encode s).length)
    (hPlace : place own position s = some run)
    (hOwn : a.Holds own run)
    (hData : a.Holds position (Utf8.encode s))
    (hLow : w.low ≤ position)
    (hHigh :
      position + (Utf8.encode s).length ≤ w.high) :
    (read a own).run w =
      some
        (s, ⟨position + (Utf8.encode s).length, w.high⟩) := by
  have hForm := isMarked_of_holds hPlace hOwn
  rw [decide_eq_true hLong] at hForm
  rcases place_of_long hLong hPlace with
    ⟨hLimit, offset, hOffset, rfl⟩
  have hNumber :
      a.number 4 own = mark (Utf8.encode s).length :=
    Archive.number_of_holds (mark_lt hLimit) hOwn.left
  have hBehind := hOwn.right
  rw [Bytes.length_ofNat] at hBehind
  have hTarget :
      a.target? own (own + 4) = some position :=
    Archive.target?_of_holds hOffset hBehind
  have hVisit :
      (Reader.visit position (Utf8.encode s).length 1
          (pure
            (a.slice position (Utf8.encode s).length))).run
          w =
        some
          (Utf8.encode s,
            ⟨position + (Utf8.encode s).length, w.high⟩) := by
    have hSlice :
        (pure (a.slice position (Utf8.encode s).length) :
            Reader Bytes).run ⟨w.low, position⟩ =
          some (Utf8.encode s, ⟨w.low, position⟩) := by
      rw [Archive.slice_of_holds hData]
      rfl
    exact
      Reader.visit_run hLow hHigh (Nat.mod_one position)
        hSlice
  unfold read
  rw [if_pos hForm]
  simp only [hNumber, unmark_mark, hTarget,
    if_neg (Nat.not_le.mpr hLong), StateT.run_bind,
    Reader.ofOption_some_run]
  rw [Option.bind_eq_bind, Option.bind_some, hVisit]
  change
    (Reader.ofOption (Utf8.decode? (Utf8.encode s))).run _ = _
  rw [Utf8.decode?_encode]
  rfl

/-
  A text is read back from its place and its data. Of a
  window that the data lies in it takes no more than what
  ends with the data.
-/
theorem read_of_holds
    {w : Window}
    (hPlace : place own position s = some run)
    (hOwn : a.Holds own run)
    (hData : a.Holds position (data s))
    (hLow : w.low ≤ position)
    (hHigh : position + (data s).length ≤ w.high) :
    ∃ low ≤ position + (data s).length,
      (read a own).run w = some (s, ⟨low, w.high⟩) := by
  by_cases hShort : (Utf8.encode s).length ≤ inPlace
  · exact
      ⟨w.low, by omega, read_of_short hShort hPlace hOwn⟩
  · have hMoved : data s = Utf8.encode s := if_neg hShort
    rw [hMoved] at hData hHigh ⊢
    exact
      ⟨_, Nat.le_refl _,
        read_of_long (Nat.not_le.mp hShort) hPlace hOwn hData
          hLow hHigh⟩

end Reading

end TextFormat

end Offload
