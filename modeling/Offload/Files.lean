import Offload.Error
import Offload.Bytes

/-
  A tree of files.

  Paths are read from the working directory unless they
  start with a slash. The tree is kept as the list of its
  files and directories by the names on the way to them
  from the top.

  Key definitions include:
    * `Path.join`
    * `Path.check`
    * `FileNode`
    * `FileTree`
    * `FileTree.read`
    * `FileTree.write`
    * `FileTree.makeDirectory`
    * `FileTree.isFile`
-/

namespace Offload

------------------------------------------------------------
-- Paths
------------------------------------------------------------

namespace Path

/- The most bytes a name on a path may have. -/
def maxName : Nat :=
  255

/- The most bytes a path may have. -/
def maxLength : Nat :=
  4095

/- Whether a path starts at the top. -/
def isAbsolute
    (path : String) : Bool :=
  path.toList.head? == some '/'

/- Whether a path ends in a slash. -/
def endsInSlash
    (path : String) : Bool :=
  path.toList.getLast? == some '/'

/- The names on a path. -/
def names
    (path : String) : List String :=
  path.splitOn "/"

/- A path without the slashes at its end. -/
def bare
    (path : String) : String :=
  String.ofList
    (path.toList.reverse.dropWhile (· == '/')).reverse

/- A path below a directory. -/
def join
    (dir path : String) : String :=
  if isAbsolute path || dir == "" then path
  else if endsInSlash dir then dir ++ path
  else dir ++ "/" ++ path

/- Refuse a text that cannot be a path in any tree. -/
def check
    (path : String) : Except FileFault Unit :=
  if path.toList.contains '\x00' then
    .error (.other
      "file name contained an unexpected NUL byte")
  else if path = "" then
    .error .notFound
  else if path.utf8ByteSize > maxLength then
    .error .nameTooLong
  else
    .ok ()

end Path

------------------------------------------------------------
-- The Tree
------------------------------------------------------------

/- What can be at a path. -/
inductive FileNode where
  | directory
  | file (bytes : Bytes)
deriving DecidableEq

/-
  Files and directories. The top has no names on the way to
  it and is always there.
-/
structure FileTree where
  nodes : List (List String × FileNode)

namespace FileTree

/-
  The place of the working directory. Its last step is a dot,
  which stays where it is on every path, so no path from
  outside leads there.
-/
def workingPlace : List String :=
  ["tmp", "."]

/- An empty working directory. -/
def empty : FileTree :=
  ⟨[(["tmp"], .directory), (workingPlace, .directory)]⟩

/- The place a path starts from. -/
def start
    (path : String) : List String :=
  if Path.isAbsolute path then [] else workingPlace

/- What is at a place. -/
def node?
    (t : FileTree)
    (place : List String) : Option FileNode :=
  if place.isEmpty then some .directory
  else t.nodes.lookup place

/- Put a file or directory at a place. -/
def put
    (t : FileTree)
    (place : List String)
    (n : FileNode) : FileTree :=
  ⟨(place, n) :: t.nodes.filter fun e => e.1 != place⟩

/-
  Follow names from a place on. Every place that is left
  must be a directory; the last one need not exist. Above
  the top is the top.
-/
def follow
    (t : FileTree) :
    List String → List String →
      Except FileFault (List String)
  | place, [] => .ok place
  | place, name :: rest =>
    match t.node? place with
    | none => .error .notFound
    | some (.file _) => .error .notDirectory
    | some .directory =>
      if name.utf8ByteSize > Path.maxName then
        .error .nameTooLong
      else if name = "" ∨ name = "." then
        follow t place rest
      else if name = ".." then
        follow t place.dropLast rest
      else
        follow t (place ++ [name]) rest

/- The place a path leads to. -/
def locate
    (t : FileTree)
    (path : String) : Except FileFault (List String) := do
  Path.check path
  t.follow (start path) (Path.names path)

/- The content of a file. -/
def read
    (t : FileTree)
    (path : String) : Except FileFault Bytes := do
  let place ← t.locate path
  match t.node? place with
  | none => .error .notFound
  | some .directory => .error .isDirectory
  | some (.file bytes) => .ok bytes

/-
  Give a file a content. A slash at the end asks for a
  directory, which has none.
-/
def write
    (t : FileTree)
    (path : String)
    (bytes : Bytes) : Except FileFault FileTree := do
  Path.check path
  let place ←
    t.follow (start path) (Path.names (Path.bare path))
  if Path.endsInSlash path then
    .error .isDirectory
  else
    match t.node? place with
    | some .directory => .error .isDirectory
    | _ => .ok (t.put place (.file bytes))

/- Whether there is a file at a path. -/
def isFile
    (t : FileTree)
    (path : String) : Bool :=
  (t.read path).isOk

/-
  Make a directory in one that is there. A slash at its end
  makes no difference.
-/
def makeDirectory
    (t : FileTree)
    (path : String) : Except FileFault FileTree := do
  Path.check path
  let place ←
    t.follow (start path) (Path.names (Path.bare path))
  match t.node? place with
  | some _ => .error .alreadyThere
  | none => .ok (t.put place .directory)

end FileTree

end Offload
