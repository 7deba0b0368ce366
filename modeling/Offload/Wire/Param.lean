import Offload.Archive.Sequence

/-
  Arguments of messages to the accelerator's firmware.

  Key definitions include:
    * `Param`
    * `Param.format`
-/

namespace Offload

/- An argument. -/
inductive Param where
  | word (n : UInt32)
  | long (n : UInt64)
  | bytes (b : Bytes)
  | addrs (as : List UInt64)
deriving DecidableEq

namespace Param

/- The number, if the argument is a 32-bit one. -/
def word? : Param → Option UInt32
  | .word n => some n
  | _ => none

/- The number, if the argument is a 64-bit one. -/
def long? : Param → Option UInt64
  | .long n => some n
  | _ => none

/- The bytes, if the argument is bytes. -/
def bytes? : Param → Option Bytes
  | .bytes b => some b
  | _ => none

/- The addresses, if the argument is addresses. -/
def addrs? : Param → Option (List UInt64)
  | .addrs as => some as
  | _ => none

------------------------------------------------------------
-- Writing
------------------------------------------------------------

/- The bytes of a list of addresses. -/
def addrBytes
    (as : List UInt64) : Bytes :=
  as.flatMap fun n => Bytes.ofNat 8 n.toNat

/- The position of an argument's data, appended at one. -/
def dataPosition
    (position : Nat) : Param → Nat
  | .addrs _ => Word.alignUp 8 position
  | _ => position

/- What an argument appends at a position. -/
def data
    (position : Nat) : Param → Bytes
  | .bytes b => b
  | .addrs as =>
    Bytes.zeros (Word.padding 8 position) ++ addrBytes as
  | _ => []

/- The cell of an argument. -/
def cell
    (own position : Nat)
    (p : Param) : Option Bytes :=
  let target := p.dataPosition position
  match p with
  | .word n =>
    some (Bytes.ofNat 4 0 ++ Bytes.ofNat 4 n.toNat
      ++ Bytes.zeros 8)
  | .long n =>
    some (Bytes.ofNat 8 1 ++ Bytes.ofNat 8 n.toNat)
  | .bytes b => do
    let r ← CellFormat.reference (own + 4) target b.length
    return Bytes.ofNat 4 2 ++ r ++ Bytes.zeros 4
  | .addrs as => do
    let r ← CellFormat.reference (own + 4) target as.length
    return Bytes.ofNat 4 3 ++ r ++ Bytes.zeros 4

------------------------------------------------------------
-- Reading
------------------------------------------------------------

/- The addresses in bytes. -/
def addrsOf
    (bytes : Bytes) : List UInt64 :=
  match bytes with
  | b0 :: b1 :: b2 :: b3 :: b4 :: b5 :: b6 :: b7 :: rest =>
    UInt64.ofNat
      (Bytes.toNat [b0, b1, b2, b3, b4, b5, b6, b7])
      :: addrsOf rest
  | _ => []

/- Read the cell at a position. -/
def read
    (a : Archive)
    (own : Nat) : Reader Param :=
  match a.byte own with
  | 0 => pure (.word (UInt32.ofNat (a.number 4 (own + 4))))
  | 1 => pure (.long (UInt64.ofNat (a.number 8 (own + 8))))
  | 2 => do
    let b ← a.readRun (own + 4) 1 1
    return .bytes b
  | 3 => do
    let b ← a.readRun (own + 4) 8 8
    return .addrs (addrsOf b)
  | _ => Reader.fail

/- Arguments as cells. -/
def format : CellFormat Param where
  size := 16
  data := data
  cell := cell
  read := read

end Param

end Offload
