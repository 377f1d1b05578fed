import DnsResponder.Replay.Failure

namespace DnsResponder
namespace Replay

/-!
# Files by path

The files of a replay are named by paths.  A path is followed through a tree of directories name by
name, and the first name that leads nowhere decides why nothing is read.  A replay works in a
directory that holds its files and nothing else.  Around it lies only what every system has, so that
a whole replay is a function of its arguments and its files.
-/

def maxEntryNameSize : Nat := 255

def maxPathSize : Nat := 4095

/-- A file with its content, or a directory with its entries. -/
inductive Node
  | file (content : Bytes)
  | directory (entries : List (String × Node))

/-- A node that a path has led to, under the directories above it, the nearest first. -/
structure Place where
  node : Node
  above : List Node := []

namespace Place

/-- The place one directory up.  There is nothing above the root, so it is its own parent. -/
def parent (place : Place) : Place :=
  match place.above with
  | [] => place
  | node :: above => ⟨node, above⟩

def root (place : Place) : Place :=
  match place.above.getLast? with
  | none => place
  | some node => ⟨node, []⟩

/-- Follow one name.  Nothing can be followed from a file, not even the names that stay where they
are. -/
def follow (place : Place) (name : String) : Except ReadError Place :=
  match place.node with
  | .file _ => .error .notDirectory
  | .directory entries =>
    if name = "" ∨ name = "." then .ok place
    else if name = ".." then .ok place.parent
    else if maxEntryNameSize < name.utf8ByteSize then .error .nameTooLong
    else
      match entries.lookup name with
      | some node => .ok ⟨node, place.node :: place.above⟩
      | none => .error .missing

/-- Follow a path, from the root if it begins there. -/
def followPath (place : Place) (path : String) : Except ReadError Place := do
  if path = "" then
    throw .missing
  if maxPathSize < path.utf8ByteSize then
    throw .nameTooLong
  (path.splitOn "/").foldlM follow (if path.startsWith "/" then place.root else place)

/-- The content of the file that a path leads to. -/
def read (place : Place) (path : String) : Except ReadError Bytes := do
  match (← place.followPath path).node with
  | .file content => return content
  | .directory _ => throw .directory

/-- The directory of a replay, among the temporary ones.  The empty device is the only file outside
of it. -/
def ofFiles (files : List (String × Bytes)) : Place :=
  let temporary := Node.directory []
  let devices := Node.directory [("null", .file [])]
  let others := ["bin", "etc", "home", "lib", "opt", "proc", "root", "run", "sys", "usr", "var"]
  let root := Node.directory <|
    ("dev", devices) :: ("tmp", temporary) :: others.map fun name => (name, .directory [])
  { node := .directory (files.map fun (name, content) => (name, .file content))
    above := [temporary, root] }

@[simp]
theorem parent_root (place : Place) : place.root.parent = place.root := by
  unfold root
  split
  next atTop => simp [parent, List.getLast?_eq_none_iff.mp atTop]
  next => rfl

end Place
end Replay
end DnsResponder
