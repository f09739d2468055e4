/-
The files that a run sees, as a tree under its working directory and one under
the root.

Reading follows a path component by component and answers what an operating
system answers: which component is missing, is no directory, or is too long.
Writing replaces a file as a whole, as a rename does, so a reader sees either
the old contents or the new.
-/
import CertRotation.Error
import CertRotation.Text.Blank
import CertRotation.Text.Utf8

namespace CertRotation

/-- What a path can lead to. -/
inductive Node where
  | file (data : Bytes)
  | directory
deriving DecidableEq, Repr

/-- Files and directories by the components of their paths. -/
structure FileTree where
  nodes : List (List String × Node)
deriving Repr

namespace FileTree

/-- A working directory without files. -/
def empty : FileTree := ⟨[]⟩

/-- Octets of a path component, and of a whole path, at most. -/
def maxName : Nat := 255
def maxPath : Nat := 4095

/-- The components of a path; empty ones and single points say nothing. -/
def components (path : String) : List String :=
  ((Text.splitAll '/' path.toList).map String.ofList).filter fun c => c ≠ "" ∧ c ≠ "."

/-- Where the components of a path lead from: the working directory, or the root, which
stands beside it under a name that no component has. -/
def origin (path : String) : List String :=
  if path.toList.head? = some '/' then ["/"] else []

/-- Where a component leads from a place.  Nothing is above the root, and the directories above the
working directory are named by the steps up to them. -/
def enter (at_ : List String) (c : String) : List String :=
  if c ≠ ".." then at_ ++ [c]
  else if at_ = ["/"] then at_
  else if at_.getLast?.all (· = "..") then at_ ++ [".."]
  else at_.dropLast

/-- The place in a tree that a path names. -/
def place (path : String) : List String :=
  (components path).foldl enter (origin path)

/-- A place that is always there: the root, the working directory, and all above it. -/
def isOrigin (at_ : List String) : Bool :=
  at_.all (· = "..") || at_ == ["/"]

/-- What stands at the given components; an origin is a directory. -/
def node? (t : FileTree) (at_ : List String) : Option Node :=
  if isOrigin at_ then some .directory
  else
    match t.nodes.lookup at_ with
    | some n => some n
    | none => if t.nodes.any (fun (p, _) => at_.isPrefixOf p) then some .directory else none

/-- Follows the components that are left from a place already reached. -/
def follow (t : FileTree) (at_ : List String) : List String → Except IoError Node
  | [] =>
    match t.node? at_ with
    | some n => .ok n
    | none => .error .notFound
  | c :: rest =>
    match t.node? at_ with
    | none => .error .notFound
    | some (.file _) => .error .notDirectory
    | some .directory =>
      if maxName < c.utf8ByteSize then .error .nameTooLong else follow t (enter at_ c) rest

/-- Whether a path says that it leads to a directory. -/
def endsInSlash (path : String) : Bool :=
  path.toList.getLast? == some '/'

/-- The contents of the file at a path. -/
def read (t : FileTree) (path : String) : Except IoError Bytes :=
  if path.toList.contains '\x00' then .error .nulInPath
  else if path = "" then .error .notFound
  else if maxPath < path.utf8ByteSize then .error .nameTooLong
  else
    match t.follow (origin path) (components path) with
    | .error e => .error e
    | .ok .directory => .error .isDirectory
    | .ok (.file data) => if endsInSlash path then .error .notDirectory else .ok data

/-- Puts a node at a path, in place of what was there. -/
def put (t : FileTree) (path : String) (n : Node) : FileTree :=
  ⟨(place path, n) :: t.nodes.filter (·.1 ≠ place path)⟩

/-- Writes a file as a whole. -/
def write (t : FileTree) (path : String) (data : Bytes) : FileTree :=
  t.put path (.file data)

/-- Makes a directory. -/
def mkdir (t : FileTree) (path : String) : FileTree :=
  t.put path .directory

/-- Removes a file; `none` where there is none. -/
def remove? (t : FileTree) (path : String) : Option FileTree :=
  match t.nodes.lookup (place path) with
  | some (.file _) => some ⟨t.nodes.filter (·.1 ≠ place path)⟩
  | _ => none

end FileTree
end CertRotation
