import Offload.Text.Hex
import Offload.Text.Markless

/-
  Text between quotes, as names are shown in descriptions.

  A quote and a backslash are escaped, the common controls
  have letters, and a character that leaves no mark of its
  own on paper is written by its code point.

  Key definitions include:
    * `Quoted.escape`
    * `Quoted.encode`
-/

namespace Offload

namespace Quoted

/- The written form of one character. -/
def escape
    (c : Char) : List Char :=
  match c.toNat with
  | 0 => ['\\', '0']
  | 9 => ['\\', 't']
  | 10 => ['\\', 'n']
  | 13 => ['\\', 'r']
  | 34 => ['\\', c]
  | 92 => ['\\', c]
  | n =>
    if isMarkless c then
      ['\\', 'u', '\x7b'] ++ Hex.digits n ++ ['\x7d']
    else
      [c]

/- A text between quotes. -/
def encode
    (s : String) : String :=
  String.ofList
    ('"' :: s.toList.flatMap escape ++ ['"'])

end Quoted

end Offload
