import Offload.Archive.Sequence
import Offload.Archive.Text
import Offload.Metadata

/-
  Metadata records as archives.

  Key definitions include:
    * `MetadataField.format`
    * `Metadata.encode?`
    * `Metadata.decode?`
-/

namespace Offload

------------------------------------------------------------
-- Values
------------------------------------------------------------

namespace MetadataValue

/- The bytes that a value keeps elsewhere. -/
def data : MetadataValue → Bytes
  | .string s => TextFormat.data s
  | _ => []

/-
  The value at a position, given the position of the bytes
  it keeps elsewhere.
-/
def place
    (own position : Nat) : MetadataValue → Option Bytes
  | .string s => do
    let text ← TextFormat.place (own + 4) position s
    return Bytes.ofNat 4 0 ++ text ++ Bytes.zeros 4
  | .int n =>
    some (Bytes.ofNat 8 1
      ++ Bytes.ofNat 8 n.toUInt64.toNat)
  | .uint n =>
    some (Bytes.ofNat 8 2 ++ Bytes.ofNat 8 n.toNat)
  | .bool b =>
    some (Bytes.ofNat 1 3
      ++ Bytes.ofNat 1 b.toNat ++ Bytes.zeros 14)

/- Read the value at a position. -/
def read
    (a : Archive)
    (own : Nat) : Reader MetadataValue :=
  match a.byte own with
  | 0 => do
    let s ← TextFormat.read a (own + 4)
    return .string s
  | 1 =>
    pure (.int
      (UInt64.ofNat (a.number 8 (own + 8))).toInt64)
  | 2 => pure (.uint (UInt64.ofNat (a.number 8 (own + 8))))
  | 3 =>
    match a.byte (own + 1) with
    | 0 => pure (.bool false)
    | 1 => pure (.bool true)
    | _ => Reader.fail
  | _ => Reader.fail

end MetadataValue

------------------------------------------------------------
-- Fields
------------------------------------------------------------

namespace MetadataField

/- What a field appends: its key, then its value. -/
def data
    (_ : Nat)
    (f : MetadataField) : Bytes :=
  TextFormat.data f.key ++ f.value.data

/- The cell of a field. -/
def cell
    (own position : Nat)
    (f : MetadataField) : Option Bytes := do
  let key ← TextFormat.place own position f.key
  let value ← f.value.place (own + 8)
    (position + (TextFormat.data f.key).length)
  return key ++ value

/- Read the cell at a position. -/
def read
    (a : Archive)
    (own : Nat) : Reader MetadataField := do
  let key ← TextFormat.read a own
  let value ← MetadataValue.read a (own + 8)
  return ⟨key, value⟩

/- Fields as cells. -/
def format : CellFormat MetadataField where
  size := 24
  data := data
  cell := cell
  read := read

end MetadataField

------------------------------------------------------------
-- Records
------------------------------------------------------------

namespace Metadata

/- The archive of a record. -/
def encode?
    (m : Metadata) : Option Bytes :=
  MetadataField.format.archive 4
    (fun own cells =>
      CellFormat.reference own cells m.fields.length)
    m.fields

/- The record in an archive. -/
def decode?
    (bytes : Bytes) : Option Metadata :=
  let a : Archive := bytes.toArray
  (a.readRoot 8 4 fun own =>
    MetadataField.format.readList a own).map Metadata.mk

end Metadata

end Offload
