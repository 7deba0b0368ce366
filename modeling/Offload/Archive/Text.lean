import Offload.Archive.Window
import Offload.Text.Utf8

/-
  Texts in an archive.

  A text of at most eight bytes is kept in place, filled up
  with `0xff`, which is never part of a text. A longer text
  is kept elsewhere; its place holds the length, marked so
  that it cannot be taken for a text, and the offset.

  Key definitions include:
    * `TextFormat.data`
    * `TextFormat.place`
    * `TextFormat.read`
-/

namespace Offload

namespace TextFormat

/- The most bytes a text kept in place can have. -/
def inPlace : Nat :=
  8

/- The first length that cannot be marked. -/
def lengthLimit : Nat :=
  0x4000_0000

/- The byte that fills up a short text. -/
def filler : UInt8 :=
  255

/- The bytes that a text keeps elsewhere. -/
def data
    (s : String) : Bytes :=
  let bytes := Utf8.encode s
  if bytes.length ≤ inPlace then [] else bytes

/-
  A length with the bits `10` in the place of the two
  highest bits of the first byte.
-/
def mark
    (length : Nat) : Nat :=
  length % 64 + 128 + length / 64 * 256

/- The length that was marked. -/
def unmark
    (word : Nat) : Nat :=
  word % 64 + word / 256 * 64

/- Whether a first byte is that of a marked length. -/
def isMarked
    (first : Nat) : Bool :=
  first / 64 == 2

/-
  The place of a text at a position, given the position of
  the bytes it keeps elsewhere.
-/
def place
    (own position : Nat)
    (s : String) : Option Bytes :=
  let bytes := Utf8.encode s
  if bytes.length ≤ inPlace then
    some (bytes
      ++ List.replicate (inPlace - bytes.length) filler)
  else if bytes.length < lengthLimit then do
    let offset ← Archive.offset? own position
    return Bytes.ofNat 4 (mark bytes.length) ++ offset
  else
    none

/- Read the text at a position. -/
def read
    (a : Archive)
    (own : Nat) : Reader String :=
  if isMarked (a.byte own) then do
    let length := unmark (a.number 4 own)
    if length ≤ inPlace then
      Reader.fail
    else
      let target ← Reader.ofOption (a.target? own (own + 4))
      let bytes ← Reader.visit target length 1
        (pure (a.slice target length))
      Reader.ofOption (Utf8.decode? bytes)
  else
    Reader.ofOption
      (Utf8.decode?
        ((a.slice own inPlace).takeWhile fun b =>
          b != filler))

end TextFormat

end Offload
