/-
  Text as UTF-8 bytes.

  Key definitions include:
    * `Utf8.encode`
    * `Utf8.decode?`
-/

namespace Offload

namespace Utf8

/- The bytes of a text. -/
def encode
    (s : String) : List UInt8 :=
  s.toUTF8.data.toList

/- The text of bytes, if they are well-formed. -/
def decode?
    (bytes : List UInt8) : Option String :=
  String.fromUTF8? ⟨bytes.toArray⟩

end Utf8

end Offload
