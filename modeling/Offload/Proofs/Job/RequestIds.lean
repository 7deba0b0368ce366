import Mathlib.Algebra.GroupWithZero.Nat
import Mathlib.Data.List.Basic
import Offload.Job.RequestId

/-
  When two jobs have the same id.

  Each step of the hash can be undone: the multiplier is odd
  and so has an inverse. What two runs of the hash differ in
  is therefore never lost in the bytes that both read after
  it. The hash and the frame number fill one half of an id
  each, and neither reaches into the half of the other.

  Key definitions include:
    * `DifferOnce`

  Main results:
    * `Fnv.hash_eq_iff`
    * `RequestId.stageHash_ofParts`
    * `RequestId.ofParts_eq_iff`
    * `RequestId.derive_separates`
-/

namespace Offload

------------------------------------------------------------
-- One Different Byte
------------------------------------------------------------

/- As many bytes, with others at exactly one place. -/
def DifferOnce
    (xs ys : List UInt8) : Prop :=
  xs.length = ys.length ∧ ∃! i : Nat, xs[i]? ≠ ys[i]?

/- What is before and behind the place is the same. -/
theorem DifferOnce.split
    {xs ys : List UInt8}
    (h : DifferOnce xs ys) :
    ∃ front x y back,
      x ≠ y ∧ xs = front ++ x :: back ∧
        ys = front ++ y :: back := by
  rcases h with ⟨hLength, i, hDiffer, hOnly⟩
  have hi : i < xs.length := by
    by_contra hFar
    have hx := List.getElem?_eq_none (Nat.le_of_not_lt hFar)
    have hy : ys[i]? = none :=
      List.getElem?_eq_none (hLength ▸ Nat.le_of_not_lt hFar)
    exact hDiffer (hx.trans hy.symm)
  have hHere : i < ys.length := hLength ▸ hi
  have hSet : ys = xs.set i ys[i] := by
    apply List.ext_getElem?
    intro j
    by_cases hj : i = j
    · rw [← hj, List.getElem?_set_self hi,
        List.getElem?_eq_getElem hHere]
    · rw [List.getElem?_set_ne hj]
      by_contra hNe
      exact hj (hOnly j (Ne.symm hNe)).symm
  refine
    ⟨xs.take i, xs[i], ys[i], xs.drop (i + 1), ?_, ?_, ?_⟩
  · intro hSame
    apply hDiffer
    rw [List.getElem?_eq_getElem hi,
      List.getElem?_eq_getElem hHere, hSame]
  · rw [← List.drop_eq_getElem_cons hi,
      List.take_append_drop]
  · rw [List.set_eq_take_append_cons_drop, if_pos hi] at hSet
    exact hSet

------------------------------------------------------------
-- Hashing
------------------------------------------------------------

namespace Fnv

/- The number that undoes the multiplier. -/
def primeInverse : UInt32 :=
  899433627

theorem mul_prime_injective :
    Function.Injective
      (fun state : UInt32 => state * prime) := by
  have hUndo : prime * primeInverse = 1 := by decide
  intro state state' hSame
  have hBoth := congrArg (· * primeInverse) hSame
  simpa only [UInt32.mul_assoc, hUndo, UInt32.mul_one]
    using hBoth

/- A byte that is mixed in does not confuse two states. -/
theorem step_injective_state
    (byte : UInt8) :
    Function.Injective (fun state => step state byte) := by
  intro state state' hSame
  exact
    (UInt32.xor_left_inj byte.toUInt32).mp
      (mul_prime_injective hSame)

/- A state does not confuse two bytes that are mixed in. -/
theorem step_injective_byte
    (state : UInt32) : Function.Injective (step state) := by
  intro byte byte' hSame
  exact
    UInt8.toUInt32_inj.mp
      ((UInt32.xor_right_inj state).mp
        (mul_prime_injective hSame))

/- Bytes that follow do not confuse two states. -/
theorem foldl_step_injective
    (bytes : List UInt8) :
    Function.Injective
      (fun state => bytes.foldl step state) := by
  induction bytes with
  | nil => exact fun _ _ hSame => hSame
  | cons byte rest ih =>
      exact ih.comp (step_injective_state byte)

/- A byte among the same others makes the hash. -/
theorem hash_eq_iff
    (front back : List UInt8)
    (x y : UInt8) :
    hash (front ++ x :: back) = hash (front ++ y :: back) ↔
      x = y := by
  simp only [hash, List.foldl_append, List.foldl_cons]
  constructor
  · intro hSame
    exact
      step_injective_byte _
        (foldl_step_injective back hSame)
  · rintro rfl
    rfl

/- After the same bytes, one different byte is noticed. -/
theorem hash_ne_of_differOnce
    (front : List UInt8)
    {xs ys : List UInt8}
    (h : DifferOnce xs ys) :
    hash (front ++ xs) ≠ hash (front ++ ys) := by
  rcases h.split with ⟨before, x, y, back, hNe, rfl, rfl⟩
  rw [← List.append_assoc, ← List.append_assoc]
  exact fun hSame => hNe ((hash_eq_iff _ back x y).mp hSame)

end Fnv

------------------------------------------------------------
-- Halves of an Id
------------------------------------------------------------

namespace RequestId

theorem toNat_upper
    (hash : UInt32) :
    (hash.toUInt64 <<< 32).toNat = hash.toNat * 2 ^ 32 := by
  have hHash : hash.toNat < 2 ^ 32 := hash.toNat_lt
  have hWidth : (32 : UInt64).toNat % 64 = 32 := by decide
  rw [UInt64.toNat_shiftLeft, UInt32.toNat_toUInt64, hWidth,
    Nat.shiftLeft_eq]
  apply Nat.mod_eq_of_lt
  omega

theorem toNat_lower
    (frame : UInt64) :
    (frame &&& 0xFFFFFFFF).toNat = frame.toNat % 2 ^ 32 := by
  rw [UInt64.toNat_and]
  exact Nat.and_two_pow_sub_one_eq_mod _ 32

/- The hash fills the upper half, the frame the lower. -/
theorem toNat_ofParts
    (hash : UInt32)
    (frame : UInt64) :
    (ofParts hash frame).raw.toNat =
      hash.toNat * 2 ^ 32 + frame.toNat % 2 ^ 32 := by
  have hFrame : frame.toNat % 2 ^ 32 < 2 ^ 32 :=
    Nat.mod_lt _ (Nat.two_pow_pos 32)
  rw [ofParts, UInt64.toNat_or, toNat_upper, toNat_lower,
    ← Nat.shiftLeft_eq,
    ← Nat.shiftLeft_add_eq_or_of_lt hFrame]

theorem toNat_frame_ofParts
    (hash : UInt32)
    (frame : UInt64) :
    (ofParts hash frame).frame.toNat =
      frame.toNat % 2 ^ 32 := by
  rw [RequestId.frame, UInt64.toNat_toUInt32, toNat_ofParts,
    Nat.mul_add_mod_self_right, Nat.mod_mod]

theorem stageHash_ofParts
    (hash : UInt32)
    (frame : UInt64) :
    (ofParts hash frame).stageHash = hash := by
  have hHash : hash.toNat < 2 ^ 32 := hash.toNat_lt
  have hWidth : (32 : UInt64).toNat % 64 = 32 := by decide
  apply UInt32.toNat_inj.mp
  rw [stageHash, UInt64.toNat_toUInt32,
    UInt64.toNat_shiftRight, toNat_ofParts, hWidth,
    Nat.shiftRight_eq_div_pow]
  omega

/- Ids are the same exactly if both halves are. -/
theorem ofParts_eq_iff
    (hash hash' : UInt32)
    (frame frame' : UInt64) :
    ofParts hash frame = ofParts hash' frame' ↔
      hash = hash' ∧
        frame.toNat % 2 ^ 32 = frame'.toNat % 2 ^ 32 := by
  constructor
  · intro hSame
    have hHash := congrArg RequestId.stageHash hSame
    have hFrame := congrArg (·.frame.toNat) hSame
    simp only [stageHash_ofParts] at hHash
    simp only [toNat_frame_ofParts] at hFrame
    exact ⟨hHash, hFrame⟩
  · rintro ⟨rfl, hFrame⟩
    have hRaw :
        (ofParts hash frame).raw =
          (ofParts hash frame').raw := by
      apply UInt64.toNat_inj.mp
      rw [toNat_ofParts, toNat_ofParts, hFrame]
    exact congrArg RequestId.mk hRaw

/-
  Streams whose names differ in one byte have different
  hashes under each stage, whatever the frames, and so
  different ids. Of one stage and stream, frames have the
  same id exactly if they agree modulo `2 ^ 32`; that much
  of the frame is in the id, and nothing of it in the hash.
-/
theorem derive_separates
    (node : String) :
    (∀ s s' : String,
      DifferOnce (Utf8.encode s) (Utf8.encode s') →
        ∀ f g : UInt64,
          (derive node s f).stageHash ≠
              (derive node s' g).stageHash ∧
            derive node s f ≠ derive node s' g) ∧
      ∀ (stream : String) (f g : UInt64),
        (derive node stream f = derive node stream g ↔
          f.toNat % 2 ^ 32 = g.toNat % 2 ^ 32) ∧
        (derive node stream f).frame.toNat =
          f.toNat % 2 ^ 32 ∧
        (derive node stream f).stageHash =
          (derive node stream g).stageHash := by
  constructor
  · intro s s' hDiffer f g
    have hHash :
        (derive node s f).stageHash ≠
          (derive node s' g).stageHash := by
      rw [derive, derive, stageHash_ofParts,
        stageHash_ofParts]
      exact Fnv.hash_ne_of_differOnce _ hDiffer
    exact
      ⟨hHash, fun hSame =>
        hHash (congrArg RequestId.stageHash hSame)⟩
  · intro stream f g
    refine ⟨?_, toNat_frame_ofParts _ f, ?_⟩
    · rw [derive, derive, ofParts_eq_iff]
      exact and_iff_right rfl
    · rw [derive, derive, stageHash_ofParts,
        stageHash_ofParts]

/- Two names that differ in the second byte of a letter. -/
theorem accents_separated :
    DifferOnce (Utf8.encode "caf\u00e9")
        (Utf8.encode "caf\u00e8") ∧
      (derive "detess" "caf\u00e9" 41).stageHash ≠
        (derive "detess" "caf\u00e8" 7).stageHash ∧
      derive "detess" "caf\u00e9" 41 ≠
        derive "detess" "caf\u00e8" 7 := by
  have hDiffer :
      DifferOnce (Utf8.encode "caf\u00e9")
        (Utf8.encode "caf\u00e8") := by
    refine ⟨by decide, 4, by decide, ?_⟩
    intro i hNe
    by_contra hi
    have hBytes :
        Utf8.encode "caf\u00e8" =
          (Utf8.encode "caf\u00e9").set 4 0xA8 := by
      decide
    rw [hBytes, List.getElem?_set_ne (Ne.symm hi)] at hNe
    exact hNe rfl
  exact
    ⟨hDiffer, (derive_separates "detess").1 _ _ hDiffer 41 7⟩

end RequestId

end Offload
