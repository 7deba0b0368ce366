import Offload.Error

/-
  Records of named values attached to a buffer.

  Key definitions include:
    * `MetadataValue`
    * `Metadata`
    * `Metadata.set`
    * `Metadata.get?`
    * `Metadata.remove`
-/

namespace Offload

/- A value in a record. -/
inductive MetadataValue where
  | string (s : String)
  | int (n : Int64)
  | uint (n : UInt64)
  | bool (b : Bool)
deriving DecidableEq

/- The name of a value's type. -/
def MetadataValue.typeName : MetadataValue → String
  | .string _ => "string"
  | .int _ => "int64"
  | .uint _ => "uint64"
  | .bool _ => "bool"

/- A named value. -/
structure MetadataField where
  key : String
  value : MetadataValue
deriving DecidableEq

/-
  A record with its fields in the order they were added. If
  a key occurs more than once, the first field counts.
-/
structure Metadata where
  fields : List MetadataField
deriving DecidableEq

namespace Metadata

/- A record without fields. -/
def empty : Metadata :=
  ⟨[]⟩

/- Whether a field has a key. -/
def hasKey
    (key : String)
    (f : MetadataField) : Bool :=
  f.key == key

/- Replace the first field with a key, or add one. -/
def place
    (key : String)
    (value : MetadataValue) :
    List MetadataField → List MetadataField
  | [] => [⟨key, value⟩]
  | f :: rest =>
    if f.key = key then
      ⟨f.key, value⟩ :: rest
    else
      f :: place key value rest

/- Give a key a value. -/
def set
    (m : Metadata)
    (key : String)
    (value : MetadataValue) : Metadata :=
  ⟨place key value m.fields⟩

/- The value of a key. -/
def get?
    (m : Metadata)
    (key : String) : Option MetadataValue :=
  (m.fields.find? (hasKey key)).map MetadataField.value

/- Remove the first field with a key. -/
def remove
    (m : Metadata)
    (key : String) : Metadata :=
  ⟨m.fields.eraseP (hasKey key)⟩

/- The value of a key that must be there. -/
def require
    (m : Metadata)
    (key : String) : Except Error MetadataValue :=
  match m.get? key with
  | some v => .ok v
  | none =>
    .error (.configMismatch
      ("metadata has no '" ++ key ++ "' field"))

/- The refusal of a value of another type. -/
def mistyped
    (key expected : String)
    (found : MetadataValue) : Error :=
  .configMismatch
    ("metadata field '" ++ key ++ "' is "
      ++ found.typeName ++ ", expected " ++ expected)

/- The text of a key. -/
def requireString
    (m : Metadata)
    (key : String) : Except Error String := do
  match ← m.require key with
  | .string s => .ok s
  | other => .error (mistyped key "string" other)

/- The signed number of a key. -/
def requireInt
    (m : Metadata)
    (key : String) : Except Error Int64 := do
  match ← m.require key with
  | .int n => .ok n
  | other => .error (mistyped key "int64" other)

/- The unsigned number of a key. -/
def requireUInt
    (m : Metadata)
    (key : String) : Except Error UInt64 := do
  match ← m.require key with
  | .uint n => .ok n
  | other => .error (mistyped key "uint64" other)

end Metadata

end Offload
