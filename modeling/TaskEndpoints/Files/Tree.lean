import TaskEndpoints.Text.Encoding
import TaskEndpoints.Text.Split

/-!
# Trees of files

A tree of files below one working directory, and paths into it. Looking up a path walks it name by
name, and every way in which the walk can stop is a cause of its own.

## Implementation notes

A node is stored under the names that lead to it. The working directory itself is always there; what
lies above it is unknown and counts as missing.
-/

namespace TaskEndpoints

/-- A path: its names in order, without empty names and without `.`. -/
structure FilePath where
  /-- Whether the path starts at the root of the file system. -/
  absolute : Bool
  names : List String
deriving DecidableEq, Repr

namespace FilePath

/-- Split a text at slashes and drop the names that lead nowhere. -/
def ofString (s : String) : FilePath :=
  let pieces := (Text.splitAtEvery '/' s.toList).map String.ofList
  ⟨s.toList.head? = some '/', pieces.filter fun name => name != "" && name != "."⟩

/-- The text of a path. -/
def text (p : FilePath) : String :=
  let joined := "/".intercalate p.names
  if p.absolute then "/" ++ joined else if p.names.isEmpty then "." else joined

/-- The path of an entry of a directory. -/
def child (p : FilePath) (name : String) : FilePath :=
  let tail := ofString name
  if tail.absolute then tail else ⟨p.absolute, p.names ++ tail.names⟩

/-- The path of the directory that holds a path. -/
def parent (p : FilePath) : FilePath := ⟨p.absolute, p.names.dropLast⟩

end FilePath

/-- Why a file operation fails. -/
inductive FileFault where
  | notFound
  | alreadyExists
  /-- A name on the way is no directory. -/
  | notDirectory
  /-- A directory stands where a file is needed. -/
  | isDirectory
  /-- A name or the whole path is too long. -/
  | nameTooLong
deriving DecidableEq, Repr

/-- The number and wording of each fault. -/
def FileFault.message : FileFault → String
  | .notFound => "[Errno 2] No such file or directory"
  | .alreadyExists => "[Errno 17] File exists"
  | .notDirectory => "[Errno 20] Not a directory"
  | .isDirectory => "[Errno 21] Is a directory"
  | .nameTooLong => "[Errno 36] File name too long"

/-- A failed file operation. -/
inductive FileError where
  | fault (kind : FileFault) (path : String)
  | nullInPath
deriving DecidableEq, Repr

/-- The wording of each cause. -/
def FileError.message : FileError → String
  | .fault kind path => kind.message ++ ": " ++ Text.quoted path
  | .nullInPath => "embedded null byte"

/-- What a tree holds at one place. -/
inductive FileNode where
  | file (octets : List UInt8)
  | directory
deriving DecidableEq, Repr

/-- The nodes of a tree under the names that lead to them. -/
structure FileTree where
  nodes : List (List String × FileNode)
deriving DecidableEq, Repr

namespace FileTree

/-- The tree that holds nothing but its working directory. -/
def empty : FileTree := ⟨[]⟩

/-- The node at a place. -/
def node? (t : FileTree) (place : List String) : Option FileNode :=
  if place.isEmpty then some .directory else t.nodes.lookup place

/-- Put a node at a place, instead of what is there. -/
def put (t : FileTree) (place : List String) (node : FileNode) : FileTree :=
  if t.nodes.any (·.1 == place) then
    ⟨t.nodes.map fun e => if e.1 == place then (place, node) else e⟩
  else ⟨t.nodes ++ [(place, node)]⟩

/-- Take away the node at a place. -/
def remove (t : FileTree) (place : List String) : FileTree :=
  ⟨t.nodes.filter (·.1 != place)⟩

/-- Put a node at a place together with the directories that lead to it. -/
def plant (t : FileTree) (place : List String) (node : FileNode) : FileTree :=
  let ways := (List.range place.length).drop 1 |>.map place.take
  let prepared := ways.foldl
    (fun tree way => if (tree.node? way).isSome then tree else tree.put way .directory) t
  if place.isEmpty then prepared else prepared.put place node

/-- The longest name, in octets. -/
def nameLimit : Nat := 255

/-- The longest path, in octets. -/
def pathLimit : Nat := 4095

/-- Walk from a place along names; the answer is the place reached, which may hold nothing. -/
def walk (t : FileTree) (place : List String) : List String → Except FileFault (List String)
  | [] => .ok place
  | name :: rest =>
    if nameLimit < name.utf8ByteSize then .error .nameTooLong
    else if name = ".." then
      if place.isEmpty then .error .notFound else walk t place.dropLast rest
    else
      let next := place ++ [name]
      match t.node? next with
      | some .directory => walk t next rest
      | some (.file _) => if rest.isEmpty then .ok next else .error .notDirectory
      | none => if rest.isEmpty then .ok next else .error .notFound

/-- The place that a path leads to. -/
def locate (t : FileTree) (p : FilePath) : Except FileError (List String) :=
  if p.text.toList.contains '\x00' then .error .nullInPath
  else if pathLimit < p.text.utf8ByteSize then .error (.fault .nameTooLong p.text)
  else if p.absolute then .error (.fault .notFound p.text)
  else (t.walk [] p.names).mapError (.fault · p.text)

/-- The content of a file. -/
def read (t : FileTree) (p : FilePath) : Except FileError (List UInt8) := do
  match t.node? (← t.locate p) with
  | some (.file octets) => return octets
  | some .directory => .error (.fault .isDirectory p.text)
  | none => .error (.fault .notFound p.text)

/-- Make one directory. -/
def makeDirectory (t : FileTree) (p : FilePath) : Except FileError FileTree := do
  let place ← t.locate p
  if (t.node? place).isSome then .error (.fault .alreadyExists p.text)
  else return t.put place .directory

/-- Decide whether a path leads to a directory. -/
def isDirectory (t : FileTree) (p : FilePath) : Bool :=
  match t.locate p with
  | .ok place => t.node? place == some .directory
  | .error _ => false

/-- Make one directory unless it is there already. -/
def ensureDirectory (t : FileTree) (p : FilePath) : Except FileError FileTree :=
  match t.makeDirectory p with
  | .ok made => .ok made
  | .error e => if t.isDirectory p then .ok t else .error e

/-- Make a directory and, where something is missing on the way, the directories that lead to it. The
count bounds the number of names. -/
def ensureDirectories (t : FileTree) (p : FilePath) : Nat → Except FileError FileTree
  | 0 => t.ensureDirectory p
  | count + 1 => match t.makeDirectory p with
    | .ok made => .ok made
    | .error (.fault .notFound path) =>
      if p.names.isEmpty || p.absolute then .error (.fault .notFound path)
      else do (← t.ensureDirectories p.parent count).ensureDirectory p
    | .error e => if t.isDirectory p then .ok t else .error e

/-- Open a file for appending: it is there afterwards, and what it held is kept. -/
def openAppend (t : FileTree) (p : FilePath) : Except FileError (FileTree × List String) := do
  let place ← t.locate p
  match t.node? place with
  | some (.file _) => return (t, place)
  | some .directory => .error (.fault .isDirectory p.text)
  | none => return (t.put place (.file []), place)

/-- The files of the tree with their paths and contents. -/
def files (t : FileTree) : List (String × List UInt8) :=
  t.nodes.filterMap fun e => match e.2 with
    | .file octets => some ("/".intercalate e.1, octets)
    | .directory => none

end FileTree

end TaskEndpoints
