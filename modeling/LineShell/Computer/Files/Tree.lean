import LineShell.Computer.Files.Path

/-!
# The file tree

Files, directories, links and devices, held in memory.  Each of them is a node with a number; a
directory gives names to the numbers of nodes, so one file may have several names, and a file that
has lost its last name is still there for whoever has it open.  `walk` resolves a path in the way a
system does: links are followed, only a directory can be passed through, and the first obstacle on
the way decides the fault.
-/

namespace LineShell

/-- The content of a file: some bytes, and zeros after them that are only counted. -/
structure Content where
  bytes : ByteArray
  zeros : Nat

namespace Content

/-- No content. -/
def empty : Content := ⟨.empty, 0⟩

/-- The content with some bytes. -/
def ofBytes (bytes : List UInt8) : Content := ⟨⟨bytes.toArray⟩, 0⟩

/-- The number of bytes. -/
def size (c : Content) : Nat :=
  c.bytes.size + c.zeros

/-- At most `n` bytes from an offset on. -/
def slice (c : Content) (offset n : Nat) : List UInt8 :=
  let known := (c.bytes.extract offset (offset + n)).toList
  let zeros := min (n - known.length) (c.size - max offset c.bytes.size)
  known ++ List.replicate zeros 0

/-- All bytes. -/
def toBytes (c : Content) : List UInt8 :=
  c.bytes.toList ++ List.replicate c.zeros 0

/-- The content with all its bytes at hand, at least as many as given. -/
def filled (c : Content) (size : Nat) : ByteArray :=
  let missing := max c.size size - c.bytes.size
  if missing = 0 then c.bytes else c.bytes ++ ⟨Array.replicate missing 0⟩

/-- The content with bytes written over it from an offset on. -/
def write (c : Content) (offset : Nat) (bytes : List UInt8) : Content :=
  let new : ByteArray := ⟨bytes.toArray⟩
  if c.zeros = 0 ∧ c.bytes.size = offset then ⟨c.bytes ++ new, 0⟩
  else
    let old := c.filled offset
    ⟨old.extract 0 offset ++ new ++ old.extract (offset + new.size) old.size, 0⟩

/-- The content cut off or filled up to a size. -/
def resized (c : Content) (size : Nat) : Content :=
  let kept := c.bytes.extract 0 size
  ⟨kept, size - kept.size⟩

end Content

/-- The number of a node. -/
abbrev NodeId := Nat

/-- What a device does. -/
inductive Device where
  /-- It takes everything and gives nothing. -/
  | sink
  /-- It takes nothing. -/
  | full
  /-- It takes everything and gives zeros without end. -/
  | zeros
  /-- It takes everything and gives bytes of any kind without end. -/
  | noise
  /-- It stands for a terminal that is not there. -/
  | terminal
deriving DecidableEq, Repr

/-- What a node is. -/
inductive Kind where
  /-- A directory: the names in it, and the directory around it. -/
  | directory (entries : List (Text × NodeId)) (parent : NodeId)
  | file (content : Content)
  | link (target : Text)
  /-- What one process writes into it another one reads. -/
  | pipe
  | device (d : Device)
  /-- What a process has opened as a descriptor. -/
  | descriptor (n : Nat)
  /-- A program of the system, which is known by its name. -/
  | program (name : Text)

/-- What stands in the file tree. -/
structure Node where
  kind : Kind
  /-- The permissions. -/
  mode : Nat
  /-- When it was altered, in microseconds. -/
  time : Int

namespace Node

/-- It is a directory. -/
def isDirectory (node : Node) : Bool :=
  node.kind matches .directory ..

/-- It is a link. -/
def isLink (node : Node) : Bool :=
  node.kind matches .link _

/-- It is a file with content. -/
def isFile (node : Node) : Bool :=
  match node.kind with
  | .file _ => true
  | .program _ => true
  | _ => false

/-- Its owner may read it. -/
def isReadable (node : Node) : Bool :=
  node.mode / 0o400 % 2 = 1

/-- Its owner may write it. -/
def isWritable (node : Node) : Bool :=
  node.mode / 0o200 % 2 = 1

/-- Its owner may run it, or look up names in it. -/
def isRunnable (node : Node) : Bool :=
  node.mode / 0o100 % 2 = 1

/-- Somebody may run it. -/
def isExecutable (node : Node) : Bool :=
  node.mode % 2 = 1 || node.mode / 8 % 2 = 1 || node.mode / 64 % 2 = 1

/-- The size that the system tells. -/
def size (node : Node) : Nat :=
  match node.kind with
  | .directory .. => 4096
  | .file content => content.size
  | .link target => target.length
  | _ => 0

/-- The content of a file. -/
def content? (node : Node) : Option Content :=
  match node.kind with
  | .file content => some content
  | _ => none

end Node

/-- The nodes of a file tree, by their numbers.  Number zero is the root. -/
structure FileTree where
  nodes : Array Node

namespace FileTree

/-- The root. -/
def root : NodeId := 0

/-- A tree with nothing but the root. -/
def empty : FileTree :=
  ⟨#[⟨.directory [] root, 0o755, 0⟩]⟩

/-- The node of a number. -/
def node? (tree : FileTree) (id : NodeId) : Option Node :=
  tree.nodes[id]?

/-- The number is that of a directory. -/
def isDirectory (tree : FileTree) (id : NodeId) : Bool :=
  (tree.node? id).any Node.isDirectory

/-- The tree with a node altered. -/
def update (tree : FileTree) (id : NodeId) (f : Node → Node) : FileTree :=
  ⟨tree.nodes.modify id f⟩

/-- The tree with one more node, which has no name so far. -/
def add (tree : FileTree) (node : Node) : NodeId × FileTree :=
  (tree.nodes.size, ⟨tree.nodes.push node⟩)

/-- The names in a directory, with what they stand for. -/
def entries (tree : FileTree) (id : NodeId) : List (Text × NodeId) :=
  match (tree.node? id).map Node.kind with
  | some (.directory entries _) => entries
  | _ => []

/-- What a name stands for in a directory. -/
def entry? (tree : FileTree) (id : NodeId) (name : Text) : Option NodeId :=
  (tree.entries id).lookup name

/-- The directory around a directory. -/
def parent (tree : FileTree) (id : NodeId) : NodeId :=
  match (tree.node? id).map Node.kind with
  | some (.directory _ parent) => parent
  | _ => root

/-- The tree with other names in a directory. -/
def setEntries (tree : FileTree) (id : NodeId) (now : Int)
    (f : List (Text × NodeId) → List (Text × NodeId)) : FileTree :=
  tree.update id fun node =>
    match node.kind with
    | .directory entries parent => { node with kind := .directory (f entries) parent, time := now }
    | _ => node

/-- The tree with a name for a node in a directory, where it stood for no other one.  A directory
then lies in that one. -/
def bind (tree : FileTree) (directory : NodeId) (name : Text) (now : Int) (id : NodeId) :
    FileTree :=
  let tree := tree.setEntries directory now fun entries =>
    entries.filter (·.1 ≠ name) ++ [(name, id)]
  tree.update id fun node =>
    match node.kind with
    | .directory entries _ => { node with kind := .directory entries directory }
    | _ => node

/-- The tree without a name in a directory. -/
def unbind (tree : FileTree) (directory : NodeId) (name : Text) (now : Int) : FileTree :=
  tree.setEntries directory now (·.filter (·.1 ≠ name))

/-- The directory has not been removed: it has a name in the one around it. -/
def isKept (tree : FileTree) (directory : NodeId) : Bool :=
  directory = root || (tree.entries (tree.parent directory)).any (·.2 = directory)

/-- The names that lead from the root to a directory, found in at most `fuel` steps. -/
def placeWithin (tree : FileTree) : (fuel : Nat) → NodeId → Place
  | 0, _ => []
  | fuel + 1, id =>
    if id = root then []
    else
      let parent := tree.parent id
      match (tree.entries parent).find? (·.2 = id) with
      | some (name, _) => placeWithin tree fuel parent ++ [name]
      | none => []

/-- The path of a directory from the root. -/
def pathOf (tree : FileTree) (id : NodeId) : Text :=
  Path.ofPlace (tree.placeWithin tree.nodes.size id)

/-- One directory lies in another one or is the same. -/
def isWithin (tree : FileTree) (fuel : Nat) (id outer : NodeId) : Bool :=
  id = outer || match fuel with
    | 0 => false
    | fuel + 1 => id ≠ root && isWithin tree fuel (tree.parent id) outer

/-- How many names a node has. -/
def nameCount (tree : FileTree) (id : NodeId) : Nat :=
  (List.range tree.nodes.size).foldl (fun n directory =>
    n + (tree.entries directory).countP (·.2 = id)) 0

/-- Names may be looked up in a directory. -/
def isOpen (tree : FileTree) (directory : NodeId) : Bool :=
  (tree.node? directory).all Node.isRunnable

/-- Names in a directory may be altered. -/
def isAlterable (tree : FileTree) (directory : NodeId) : Bool :=
  (tree.node? directory).all fun node => node.isRunnable && node.isWritable

/-- The names in a directory, if they may be read. -/
def listed (tree : FileTree) (id : NodeId) : Except FileFault (List (Text × NodeId)) :=
  if (tree.node? id).all Node.isReadable then .ok (tree.entries id) else .error .denied

/-- Where a path leads. -/
inductive Walk where
  /-- To a node, which has a name in a directory unless the path ends with dots or at the root. -/
  | found (entry : Option (NodeId × Text)) (id : NodeId)
  /-- To a name that is still free in a directory; slashes may follow it. -/
  | absent (directory : NodeId) (name : Text) (slashed : Bool)
deriving DecidableEq, Repr

/-- How many links may be followed on one way. -/
def linkLimit : Nat := 40

/-- Walks from a directory, which was reached by an entry, along the names to come, where `links`
links may still be followed.  A link at the end of the way is followed only if `follow` says so. -/
def walkFrom (tree : FileTree) (follow : Bool) (links : Nat) (entry : Option (NodeId × Text))
    (directory : NodeId) (names : List Text) : Except FileFault Walk :=
  match names with
  | [] => .ok (.found entry directory)
  | name :: rest =>
    if name = [] then tree.walkFrom follow links entry directory rest
    else if ¬ tree.isOpen directory then .error .denied
    else if name = ['.'] then tree.walkFrom follow links none directory rest
    else if name = ['.', '.'] then tree.walkFrom follow links none (tree.parent directory) rest
    else if Path.longestName < name.length then .error .nameTooLong
    else
      match tree.entry? directory name with
      | none =>
        if rest.all (· = []) then .ok (.absent directory name (rest ≠ [])) else .error .missing
      | some id =>
        match (tree.node? id).map Node.kind with
        | some (.directory ..) => tree.walkFrom follow links (some (directory, name)) id rest
        | some (.link target) =>
          if rest = [] ∧ ¬ follow then .ok (.found (some (directory, name)) id)
          else if target = [] then .error .missing
          else
            match links with
            | 0 => .error .tooManyLinks
            | links + 1 =>
              tree.walkFrom follow links none (if Path.isAbsolute target then root else directory)
                (Path.names target ++ rest)
        | _ =>
          if rest = [] then .ok (.found (some (directory, name)) id) else .error .notDirectory
termination_by (links, names.length)

/-- Resolves a path from a current directory. -/
def walk (tree : FileTree) (follow : Bool) (directory : NodeId) (path : Text) :
    Except FileFault Walk :=
  if path = [] then .error .missing
  else if Path.longest < path.length then .error .nameTooLong
  else
    tree.walkFrom follow linkLimit none (if Path.isAbsolute path then root else directory)
      (Path.names path)

/-- The number of the node that a path leads to. -/
def find (tree : FileTree) (follow : Bool) (directory : NodeId) (path : Text) :
    Except FileFault NodeId := do
  match ← tree.walk follow directory path with
  | .found _ id => return id
  | .absent .. => throw .missing

/-- The node that a path leads to. -/
def nodeAt (tree : FileTree) (follow : Bool) (directory : NodeId) (path : Text) :
    Except FileFault Node := do
  match tree.node? (← tree.find follow directory path) with
  | some node => return node
  | none => throw .missing

/-- The size of what a path leads to, as the system tells it. -/
def sizeAt (tree : FileTree) (directory : NodeId) (path : Text) : Except OsError Nat :=
  if '\x00' ∈ path then .error .nulInPath
  else
    match tree.nodeAt true directory path with
    | .ok node => .ok node.size
    | .error fault => .error fault.toOsError

end FileTree

end LineShell
