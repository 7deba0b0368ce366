import Mathlib.Data.List.Basic
import Offload.Metadata.Codec
import Offload.Metadata.Frame

/-
  Frames in records.

  Of several fields with one key the first counts: giving a
  key a value replaces the first, and removing a key takes
  the first out, so that the second counts from then on. A
  frame is therefore read back from any record that it was
  written into, except that the id of a copy shows through
  if the record had it twice and the frame has none.

  Main results:
    * `Metadata.get?_remove_eq_none_iff`
    * `FrameMeta.ofMetadata_applyTo`
    * `FrameMeta.reads_back_iff`
    * `FrameMeta.copied_twice_shows_through`
-/

namespace Offload

------------------------------------------------------------
-- Records
------------------------------------------------------------

namespace Metadata

variable {key other : String}
variable {value : MetadataValue}

theorem find?_place_self
    (key : String)
    (value : MetadataValue)
    (fields : List MetadataField) :
    (place key value fields).find? (hasKey key) =
      some ⟨key, value⟩ := by
  induction fields with
  | nil => simp [place, hasKey]
  | cons f rest ih =>
      by_cases hKey : f.key = key
      · simp [place, hKey, hasKey]
      · have hMiss : hasKey key f = false := by
          simpa [hasKey] using hKey
        rw [place, if_neg hKey, List.find?_cons, hMiss]
        exact ih

theorem find?_place_other
    (hOther : other ≠ key)
    (value : MetadataValue)
    (fields : List MetadataField) :
    (place key value fields).find? (hasKey other) =
      fields.find? (hasKey other) := by
  induction fields with
  | nil => simp [place, hasKey, hOther.symm]
  | cons f rest ih =>
      by_cases hKey : f.key = key
      · simp [place, hKey, hasKey, hOther.symm]
      · rw [place, if_neg hKey, List.find?_cons,
          List.find?_cons, ih]

/- A key has the value that it was given. -/
@[simp]
theorem get?_set_self
    (m : Metadata)
    (key : String)
    (value : MetadataValue) :
    (m.set key value).get? key = some value := by
  rw [get?, set, find?_place_self, Option.map_some]

/- Other keys keep their values. -/
theorem get?_set_other
    (hOther : other ≠ key)
    (m : Metadata)
    (value : MetadataValue) :
    (m.set key value).get? other = m.get? other := by
  rw [get?, set, find?_place_other hOther, get?]

theorem get?_remove_other
    (hOther : other ≠ key)
    (m : Metadata) :
    (m.remove key).get? other = m.get? other := by
  rw [get?, remove, get?]
  congr 1
  induction m.fields with
  | nil => rfl
  | cons f rest ih =>
      rw [List.eraseP_cons]
      cases hKey : hasKey key f with
      | true =>
          have hSame : f.key = key := by
            simpa [hasKey] using hKey
          have hMiss : hasKey other f = false := by
            simpa [hasKey, hSame] using hOther.symm
          rw [cond_true, List.find?_cons, hMiss]
      | false =>
          rw [cond_false, List.find?_cons, List.find?_cons,
            ih]

/- How many fields of a record have a key. -/
def occurrences
    (m : Metadata)
    (key : String) : Nat :=
  m.fields.countP (hasKey key)

/- A key has a value exactly if a field has the key. -/
theorem get?_eq_none_iff
    (m : Metadata)
    (key : String) :
    m.get? key = none ↔ m.occurrences key = 0 := by
  rw [get?, Option.map_eq_none_iff, List.find?_eq_none,
    occurrences, List.countP_eq_zero]

/- Giving a key a value leaves no other key more often. -/
theorem occurrences_set_other
    (hOther : other ≠ key)
    (m : Metadata)
    (value : MetadataValue) :
    (m.set key value).occurrences other =
      m.occurrences other := by
  rw [occurrences, set, occurrences]
  induction m.fields with
  | nil => simp [place, hasKey, hOther.symm]
  | cons f rest ih =>
      by_cases hKey : f.key = key
      · simp [place, hKey, hasKey, List.countP_cons]
      · rw [place, if_neg hKey, List.countP_cons,
          List.countP_cons, ih]

/- Removing a key takes one field with it out. -/
theorem occurrences_remove
    (m : Metadata)
    (key : String) :
    (m.remove key).occurrences key =
      m.occurrences key - 1 := by
  rw [occurrences, remove, occurrences]
  induction m.fields with
  | nil => rfl
  | cons f rest ih =>
      rw [List.eraseP_cons]
      cases hKey : hasKey key f with
      | true => simp [hKey]
      | false => simp [hKey, ih]

/- A removed key is gone unless it was there twice. -/
theorem get?_remove_eq_none_iff
    (m : Metadata)
    (key : String) :
    (m.remove key).get? key = none ↔
      m.occurrences key ≤ 1 := by
  rw [get?_eq_none_iff, occurrences_remove]
  omega

theorem require_of_get?
    {m : Metadata}
    (hValue : m.get? key = some value) :
    m.require key = .ok value := by
  rw [require, hValue]

theorem requireString_of_get?
    {m : Metadata}
    {s : String}
    (hValue : m.get? key = some (.string s)) :
    m.requireString key = .ok s := by
  rw [requireString, require_of_get? hValue]
  rfl

theorem requireInt_of_get?
    {m : Metadata}
    {n : Int64}
    (hValue : m.get? key = some (.int n)) :
    m.requireInt key = .ok n := by
  rw [requireInt, require_of_get? hValue]
  rfl

theorem requireUInt_of_get?
    {m : Metadata}
    {n : UInt64}
    (hValue : m.get? key = some (.uint n)) :
    m.requireUInt key = .ok n := by
  rw [requireUInt, require_of_get? hValue]
  rfl

end Metadata

------------------------------------------------------------
-- Frames
------------------------------------------------------------

namespace FrameMeta

theorem get?_applyCopy_other
    {key : String}
    (hOther : key ≠ pcieBufferIdKey)
    (copy : Option Int64)
    (m : Metadata) :
    (applyCopy copy m).get? key = m.get? key := by
  cases copy with
  | none => exact Metadata.get?_remove_other hOther m
  | some id => exact Metadata.get?_set_other hOther m _

/- A frame leaves all keys alone that are not its own. -/
theorem get?_applyTo_other
    {key : String}
    (hOther : key ∉ keys)
    (f : FrameMeta)
    (m : Metadata) :
    (f.applyTo m).get? key = m.get? key := by
  simp only [keys, List.mem_cons, List.not_mem_nil, or_false,
    not_or] at hOther
  rcases hOther with
    ⟨hId, hName, hOffset, hFrame, hStream, hTime, hCopy⟩
  rw [applyTo, get?_applyCopy_other hCopy,
    Metadata.get?_set_other hTime,
    Metadata.get?_set_other hStream,
    Metadata.get?_set_other hFrame,
    Metadata.get?_set_other hOffset,
    Metadata.get?_set_other hName,
    Metadata.get?_set_other hId]

/- The keys of a frame that are always set. -/
theorem get?_applyTo
    (f : FrameMeta)
    (m : Metadata) :
    (f.applyTo m).get? bufferIdKey = some (.int f.bufferId) ∧
      (f.applyTo m).get? bufferNameKey =
        some (.string f.bufferName) ∧
      (f.applyTo m).get? bufferOffsetKey =
        some (.int f.bufferOffset) ∧
      (f.applyTo m).get? frameIdKey =
        some (.int f.frameId) ∧
      (f.applyTo m).get? streamIdKey =
        some (.string f.streamId) ∧
      (f.applyTo m).get? timestampKey =
        some (.uint f.timestamp) := by
  refine ⟨?_, ?_, ?_, ?_, ?_, ?_⟩ <;>
    rw [applyTo, get?_applyCopy_other (by decide)]
  · simp [Metadata.get?_set_other, bufferIdKey,
      bufferNameKey, bufferOffsetKey, frameIdKey,
      streamIdKey, timestampKey]
  · simp [Metadata.get?_set_other, bufferNameKey,
      bufferOffsetKey, frameIdKey, streamIdKey,
      timestampKey]
  · simp [Metadata.get?_set_other, bufferOffsetKey,
      frameIdKey, streamIdKey, timestampKey]
  · simp [Metadata.get?_set_other, frameIdKey, streamIdKey,
      timestampKey]
  · simp [Metadata.get?_set_other, streamIdKey,
      timestampKey]
  · simp [timestampKey]

/-
  Whatever a record had before, it gives back all of a frame
  that is written into it but the id of a copy.
-/
theorem ofMetadata_applyTo
    (f : FrameMeta)
    (m : Metadata) :
    ofMetadata (f.applyTo m) =
      (copyOf (f.applyTo m)).map fun copy =>
        { f with pcieBufferId := copy } := by
  rcases f.get?_applyTo m with
    ⟨hId, hName, hOffset, hFrame, hStream, hTime⟩
  rw [ofMetadata, Metadata.requireUInt_of_get? hTime,
    Metadata.requireInt_of_get? hId,
    Metadata.requireString_of_get? hName,
    Metadata.requireInt_of_get? hOffset,
    Metadata.requireInt_of_get? hFrame,
    Metadata.requireString_of_get? hStream]
  cases copyOf (f.applyTo m) <;> rfl

/- A copy is read exactly if its key has its id, or none. -/
theorem copyOf_eq_ok_iff
    {m : Metadata}
    {copy : Option Int64} :
    copyOf m = .ok copy ↔
      m.get? pcieBufferIdKey = copy.map MetadataValue.int := by
  unfold copyOf
  cases m.get? pcieBufferIdKey with
  | none => cases copy <;> simp
  | some value => cases value <;> cases copy <;> simp

/- A frame without a copy takes one field with its id out. -/
theorem get?_applyTo_copy_eq_none_iff
    {f : FrameMeta}
    (hNone : f.pcieBufferId = none)
    (m : Metadata) :
    (f.applyTo m).get? pcieBufferIdKey = none ↔
      m.occurrences pcieBufferIdKey ≤ 1 := by
  rw [applyTo, hNone, applyCopy,
    Metadata.get?_remove_eq_none_iff,
    Metadata.occurrences_set_other (by decide),
    Metadata.occurrences_set_other (by decide),
    Metadata.occurrences_set_other (by decide),
    Metadata.occurrences_set_other (by decide),
    Metadata.occurrences_set_other (by decide),
    Metadata.occurrences_set_other (by decide)]

/- The copy of a frame is read back from most records. -/
theorem copyOf_applyTo_iff
    (f : FrameMeta)
    (m : Metadata) :
    copyOf (f.applyTo m) = .ok f.pcieBufferId ↔
      (f.pcieBufferId = none →
        m.occurrences pcieBufferIdKey ≤ 1) := by
  rw [copyOf_eq_ok_iff]
  cases hCopy : f.pcieBufferId with
  | none =>
      rw [Option.map_none,
        get?_applyTo_copy_eq_none_iff hCopy]
      simp
  | some id =>
      have hSet :
          (f.applyTo m).get? pcieBufferIdKey =
            some (.int id) := by
        rw [applyTo, hCopy]
        exact Metadata.get?_set_self _ _ _
      simp [hSet]

/-
  A frame that is written into a record is read back from it
  exactly if it has the id of a copy or the record did not
  have that key more than once. What is read otherwise
  differs in the id of the copy only, and all keys that are
  not those of a frame keep their values.
-/
theorem reads_back_iff
    (f : FrameMeta)
    (m : Metadata) :
    (ofMetadata (f.applyTo m) = .ok f ↔
      (f.pcieBufferId = none →
        m.occurrences pcieBufferIdKey ≤ 1)) ∧
    (∀ g,
      ofMetadata (f.applyTo m) = .ok g →
        g = { f with pcieBufferId := g.pcieBufferId }) ∧
    ∀ key ∉ keys,
      (f.applyTo m).get? key = m.get? key := by
  rw [ofMetadata_applyTo, ← copyOf_applyTo_iff]
  refine ⟨?_, ?_, fun key hOther =>
    get?_applyTo_other hOther f m⟩
  · cases copyOf (f.applyTo m) with
    | error e => simp [Except.map]
    | ok copy =>
        constructor
        · intro hSame
          have hFrame := Except.ok.inj hSame
          rw [← hFrame]
        · intro hSame
          rw [Except.ok.inj hSame]
          rfl
  · intro g hRead
    cases hCopy : copyOf (f.applyTo m) with
    | error e =>
        rw [hCopy] at hRead
        cases hRead
    | ok copy =>
        rw [hCopy] at hRead
        cases hRead
        rfl

------------------------------------------------------------
-- A Key That Occurs Twice
------------------------------------------------------------

/- A record that has the id of a copy twice. -/
def copiedTwice : Metadata :=
  ⟨[⟨pcieBufferIdKey, .int 1⟩, ⟨pcieBufferIdKey, .int 2⟩]⟩

/-
  The record has an archive that it is read back from. A
  frame without a copy that is written into it is read back
  with the copy that came second.
-/
theorem copied_twice_shows_through :
    (∃ bytes,
      copiedTwice.encode? = some bytes ∧
        Metadata.decode? bytes = some copiedTwice) ∧
    ofMetadata (blank.applyTo copiedTwice) =
      .ok { blank with pcieBufferId := some 2 } ∧
    ofMetadata (blank.applyTo copiedTwice) ≠ .ok blank := by
  refine ⟨⟨(copiedTwice.encode?).getD [], ?_, ?_⟩, ?_, ?_⟩
  · decide +kernel
  · decide +kernel
  · decide +kernel
  · decide +kernel

end FrameMeta

end Offload
