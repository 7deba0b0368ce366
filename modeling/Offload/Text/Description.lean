import Offload.Text.Quoted

/-
  One-line descriptions of values: a name with its fields in
  braces, alternatives with their content in parentheses,
  and lists in brackets.

  Key definitions include:
    * `Description.record`
    * `Description.openRecord`
    * `Description.option`
    * `Description.list`
-/

namespace Offload

namespace Description

/- One field with its value. -/
def field
    (f : String × String) : String :=
  f.1 ++ ": " ++ f.2

/- A name with all its fields. -/
def record
    (name : String)
    (fields : List (String × String)) : String :=
  name ++ " \x7b "
    ++ ", ".intercalate (fields.map field) ++ " \x7d"

/- A name with some of its fields; two dots stand for the rest. -/
def openRecord
    (name : String)
    (fields : List (String × String)) : String :=
  name ++ " \x7b "
    ++ ", ".intercalate (fields.map field ++ [".."])
    ++ " \x7d"

/- A name around one value. -/
def around
    (name inner : String) : String :=
  name ++ "(" ++ inner ++ ")"

/- An optional value. -/
def option
    {α : Type}
    (describe : α → String) : Option α → String
  | none => "None"
  | some a => around "Some" (describe a)

/- A list of values. -/
def list
    {α : Type}
    (describe : α → String)
    (xs : List α) : String :=
  "[" ++ ", ".intercalate (xs.map describe) ++ "]"

/- A truth value. -/
def bool
    (b : Bool) : String :=
  if b then "true" else "false"

/- A number. -/
def nat
    (n : Nat) : String :=
  toString n

end Description

end Offload
