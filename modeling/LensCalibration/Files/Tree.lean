import LensCalibration.Files.Fault

/-!
# File trees

A file system as a tree of directories and files, together with the directory that relative paths
start from.  The steps of a path are separated by slashes; an empty one means nothing.  A single dot
stays in a directory, two dots leave it, and each step has to start from a directory that is there.
Links, permissions and a device that is full are left out.
-/

namespace LensCalibration.Files

mutual

inductive Node where
  | file (bytes : ByteArray)
  | directory (entries : Entries)

inductive Entries where
  | nil
  | cons (name : String) (node : Node) (rest : Entries)

end

namespace Entries

def find? : Entries → String → Option Node
  | .nil, _ => none
  | .cons entry node rest, name => if entry = name then some node else rest.find? name

/-- Put a node under a name, in the place of what is there. -/
def insert : Entries → String → Node → Entries
  | .nil, name, node => .cons name node .nil
  | .cons entry old rest, name, node =>
      if entry = name then .cons entry node rest else .cons entry old (rest.insert name node)

/-- The entries of the directory of that name, if there is one. -/
def inside (entries : Entries) (name : String) : Entries :=
  match entries.find? name with
  | some (.directory inner) => inner
  | _ => .nil

end Entries

/-! ## Places -/

/-- The names that lead from the root to a node.  A path may have other steps than these. -/
abbrev Place := List String

def Node.at? : Node → Place → Option Node
  | node, [] => some node
  | .file _, _ :: _ => none
  | .directory entries, name :: names =>
      match entries.find? name with
      | none => none
      | some node => node.at? names

/-- Put a node at a place; directories on the way to it are made where they are missing. -/
def Entries.put (new : Node) : Entries → Place → Entries
  | entries, [] => entries
  | entries, [name] => entries.insert name new
  | entries, name :: next :: names =>
      entries.insert name (.directory ((entries.inside name).put new (next :: names)))

structure Tree where
  root : Entries
  workingDirectory : Place
  /-- How many bytes the name of a file may have. -/
  longestName : Nat
  /-- How many bytes a path may have. -/
  longestPath : Nat

namespace Tree

def empty : Tree := ⟨.nil, [], 255, 4095⟩

def node? (tree : Tree) (place : Place) : Option Node :=
  (Node.directory tree.root).at? place

def put (tree : Tree) (place : Place) (node : Node) : Tree :=
  { tree with root := tree.root.put node place }

end Tree

/-! ## Paths -/

structure Path where
  fromRoot : Bool
  steps : List String
  /-- Whether a slash is at the end, which only a directory admits. -/
  asDirectory : Bool
  deriving DecidableEq, Repr

def Path.ofString (text : String) : Path :=
  let steps := (text.toList.splitOn '/').map String.ofList
  ⟨steps.head? = some "", steps.filter (· ≠ ""), steps.getLast? = some ""⟩

def stay : String := "."

def leave : String := ".."

/-- The directory above the root is the root. -/
def move (here : Place) (step : String) : Place :=
  if step = stay then here else if step = leave then here.dropLast else here ++ [step]

namespace Tree

def path (tree : Tree) (text : String) : Except Fault Path :=
  if Char.ofNat 0 ∈ text.toList then .error .containsNul
  else if text = "" then .error .missing
  else if tree.longestPath < text.utf8ByteSize then .error .nameTooLong
  else .ok (Path.ofString text)

def start (tree : Tree) (path : Path) : Place :=
  if path.fromRoot then [] else tree.workingDirectory

/-- Why nothing is at a place. -/
def absence (tree : Tree) (place : Place) : Fault :=
  if place.getLast?.any (tree.longestName < ·.utf8ByteSize) then .nameTooLong else .missing

/-- Where the steps lead to, whether or not something is there. -/
def follow (tree : Tree) (here : Place) : List String → Except Fault Place
  | [] => .ok here
  | step :: steps =>
      match tree.node? here with
      | none => .error (tree.absence here)
      | some (.file _) => .error .notDirectory
      | some (.directory _) => tree.follow (move here step) steps

def locate (tree : Tree) (text : String) : Except Fault (Path × Place) := do
  let path ← tree.path text
  let place ← tree.follow (tree.start path) path.steps
  return (path, place)

/-! ## Reading and writing -/

def read (tree : Tree) (text : String) : Except Fault ByteArray := do
  let (path, place) ← tree.locate text
  match tree.node? place with
  | none => .error (tree.absence place)
  | some (.directory _) => .error .isDirectory
  | some (.file bytes) => if path.asDirectory then .error .notDirectory else .ok bytes

/-- Give a file new contents; it is created where there is none. -/
def write (tree : Tree) (text : String) (bytes : ByteArray) : Except Fault Tree := do
  let (path, place) ← tree.locate text
  if path.asDirectory then .error .isDirectory
  else
    match tree.node? place with
    | some (.directory _) => .error .isDirectory
    | some (.file _) => .ok (tree.put place (.file bytes))
    | none =>
        if tree.absence place = .missing then .ok (tree.put place (.file bytes))
        else .error (tree.absence place)

/-- Make the directories that the steps start from, where there are none. -/
def makeWay (tree : Tree) (here : Place) : List String → Except Fault Tree
  | [] => .ok tree
  | step :: steps =>
      match tree.node? here with
      | none => (tree.put here (.directory .nil)).makeWay (move here step) steps
      | some (.file _) => .error .notDirectory
      | some (.directory _) => tree.makeWay (move here step) steps

/-- Write a file, and make the directories on the way to it. -/
def place (tree : Tree) (text : String) (bytes : ByteArray) : Except Fault Tree := do
  let path ← tree.path text
  (← tree.makeWay (tree.start path) path.steps).write text bytes

end Tree

end LensCalibration.Files
