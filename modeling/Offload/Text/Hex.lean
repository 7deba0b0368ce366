import Offload.Bytes

/-
  Hexadecimal text of numbers and bytes.

  Key definitions include:
    * `Hex.digits`
    * `Hex.address`
    * `Hex.padded`
    * `Hex.ofBytes`
    * `Hex.toBytes?`
-/

namespace Offload

namespace Hex

/- Lower-case digits without leading zeros. -/
def digits
    (n : Nat) : List Char :=
  Nat.toDigits 16 n

/- Digits after `0x`, as addresses are written. -/
def address
    (n : Nat) : String :=
  "0x" ++ String.ofList (digits n)

/- Digits after `0x`, filled with zeros to `width` digits. -/
def padded
    (width n : Nat) : String :=
  let ds := digits n
  "0x" ++ String.ofList
    (List.replicate (width - ds.length) '0' ++ ds)

------------------------------------------------------------
-- Bytes
------------------------------------------------------------

/- Two digits for each byte. -/
def ofBytes
    (bytes : Bytes) : String :=
  String.ofList (bytes.flatMap fun b =>
    [Nat.digitChar (b.toNat / 16),
     Nat.digitChar (b.toNat % 16)])

/- The value of a digit. -/
def digit?
    (c : Char) : Option Nat :=
  if '0' ≤ c ∧ c ≤ '9' then some (c.toNat - 48)
  else if 'a' ≤ c ∧ c ≤ 'f' then some (c.toNat - 87)
  else if 'A' ≤ c ∧ c ≤ 'F' then some (c.toNat - 55)
  else none

/- The bytes that pairs of digits stand for. -/
def pairs? : List Char → Option Bytes
  | [] => some []
  | [_] => none
  | c :: d :: rest =>
    match digit? c, digit? d, pairs? rest with
    | some h, some l, some bs =>
      some (UInt8.ofNat (16 * h + l) :: bs)
    | _, _, _ => none

/- The bytes that a text stands for. -/
def toBytes?
    (s : String) : Option Bytes :=
  pairs? s.toList

end Hex

end Offload
