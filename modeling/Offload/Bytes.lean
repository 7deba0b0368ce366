/-
  Runs of bytes and little-endian numbers.

  Key definitions include:
    * `Bytes`
    * `Bytes.ofNat`
    * `Bytes.toNat`
-/

namespace Offload

/- A run of bytes. -/
abbrev Bytes := List UInt8

namespace Bytes

/- A number in `width` bytes, lowest byte first. -/
def ofNat : Nat → Nat → Bytes
  | 0, _ => []
  | width + 1, n =>
    UInt8.ofNat n :: ofNat width (n / 256)

/- The number in bytes, lowest byte first. -/
def toNat : Bytes → Nat
  | [] => 0
  | b :: rest => b.toNat + 256 * toNat rest

/- A run of zeros. -/
def zeros
    (count : Nat) : Bytes :=
  List.replicate count 0

end Bytes

end Offload
