import LineShell.Computer.Files.Tree

/-!
# Changes of the file tree

What processes ask for by paths: files, directories and links are made, named, renamed and removed.
Each change happens as a whole or is refused with a fault and changes nothing.  A change is about
the last name of a path, which is found in the directory that the names before it lead to.
-/

namespace LineShell

/-- Where the last name of a path stands. -/
structure Spot where
  directory : NodeId
  /-- The name.  A path of nothing but slashes has none. -/
  name : Text
  /-- What the name stands for, if it does. -/
  node : Option NodeId
  /-- Slashes follow the name. -/
  slashed : Bool
deriving DecidableEq, Repr

namespace Spot

/-- The name is not one of a directory's own making. -/
def isProper (s : Spot) : Bool :=
  s.name ≠ [] && s.name ≠ ['.'] && s.name ≠ ['.', '.']

end Spot

namespace FileTree

/-- Where the last name of a path stands, seen from a current directory. -/
def spot (tree : FileTree) (directory : NodeId) (path : Text) : Except FileFault Spot := do
  if path = [] then throw .missing
  if Path.longest < path.length then throw .nameTooLong
  let names := (Path.names path).filter (· ≠ [])
  let start := if Path.isAbsolute path then root else directory
  match names.getLast? with
  | none => return ⟨root, [], some root, true⟩
  | some name =>
    match ← tree.walkFrom true linkLimit none start names.dropLast with
    | .absent .. => throw .missing
    | .found _ inner =>
      if ¬ tree.isDirectory inner then throw .notDirectory
      if ¬ tree.isOpen inner then throw .denied
      if Path.longestName < name.length then throw .nameTooLong
      let node :=
        if name = ['.'] then some inner
        else if name = ['.', '.'] then some (tree.parent inner)
        else tree.entry? inner name
      return ⟨inner, name, node, Path.isSlashed path⟩

/-- A node is put at the last name of a path, which has to be free.  Only a directory may be meant by
a name with slashes behind it. -/
def plant (tree : FileTree) (directory : NodeId) (path : Text) (now : Int) (node : Node) :
    Except FileFault (NodeId × FileTree) := do
  let s ← tree.spot directory path
  if s.node.isSome then throw .taken
  if s.slashed ∧ ¬ node.isDirectory then throw .missing
  if ¬ tree.isKept s.directory then throw .missing
  if ¬ tree.isAlterable s.directory then throw .denied
  let (id, tree) := tree.add node
  return (id, tree.bind s.directory s.name now id)

/-- A name is taken away from what is no directory. -/
def remove (tree : FileTree) (directory : NodeId) (path : Text) (now : Int) :
    Except FileFault FileTree := do
  let s ← tree.spot directory path
  if ¬ s.isProper then throw .isDirectory
  match s.node with
  | none => throw .missing
  | some id =>
    if ¬ tree.isAlterable s.directory then throw .denied
    if tree.isDirectory id then throw .isDirectory
    if s.slashed then throw .notDirectory
    return tree.unbind s.directory s.name now

/-- A directory is taken away, which has to be empty. -/
def removeDirectory (tree : FileTree) (directory : NodeId) (path : Text) (now : Int) :
    Except FileFault FileTree := do
  let s ← tree.spot directory path
  if s.name = ['.'] then throw .invalid
  if s.name = ['.', '.'] then throw .notEmpty
  if s.name = [] then throw .busy
  match s.node with
  | none => throw .missing
  | some id =>
    if ¬ tree.isAlterable s.directory then throw .denied
    if ¬ tree.isDirectory id then throw .notDirectory
    if ¬ (tree.entries id).isEmpty then throw .notEmpty
    return tree.unbind s.directory s.name now

/-- What a path names is named by another path, in the stead of what that one named.  A directory
takes the place of an empty one only, and never goes into itself. -/
def rename (tree : FileTree) (directory : NodeId) (old new : Text) (now : Int) :
    Except FileFault FileTree := do
  let s ← tree.spot directory old
  let t ← tree.spot directory new
  if ¬ (s.isProper && t.isProper) then throw .busy
  match s.node with
  | none => throw .missing
  | some id =>
    let isDirectory := tree.isDirectory id
    if ¬ isDirectory ∧ (s.slashed ∨ t.slashed) then throw .notDirectory
    if isDirectory ∧ tree.isWithin tree.nodes.size t.directory id then throw .invalid
    if ¬ tree.isKept t.directory then throw .missing
    if t.node = some id then return tree
    if ¬ (tree.isAlterable s.directory && tree.isAlterable t.directory) then throw .denied
    if let some other := t.node then
      if tree.isDirectory other then
        if ¬ isDirectory then throw .isDirectory
        if ¬ (tree.entries other).isEmpty then throw .notEmpty
      else if isDirectory then throw .notDirectory
    return (tree.unbind s.directory s.name now).bind t.directory t.name now id

/-- What a path leads to gets one more name.  A link at its end is followed only if `follow` says so,
and a directory has one name only. -/
def giveName (tree : FileTree) (follow : Bool) (directory : NodeId) (old new : Text) (now : Int) :
    Except FileFault FileTree := do
  let id ← tree.find follow directory old
  let t ← tree.spot directory new
  if t.node.isSome then throw .taken
  if t.slashed then throw .missing
  if tree.isDirectory id then throw .notPermitted
  if ¬ tree.isKept t.directory then throw .missing
  if ¬ tree.isAlterable t.directory then throw .denied
  return tree.bind t.directory t.name now id

/-- The tree with other permissions of a node. -/
def setMode (tree : FileTree) (id : NodeId) (mode : Nat) : FileTree :=
  tree.update id fun node => { node with mode }

/-- The tree with another time of a node. -/
def setTime (tree : FileTree) (id : NodeId) (time : Int) : FileTree :=
  tree.update id fun node => { node with time }

/-- The tree with other content of a file. -/
def setContent (tree : FileTree) (id : NodeId) (now : Int) (f : Content → Content) : FileTree :=
  tree.update id fun node =>
    match node.kind with
    | .file content => { node with kind := .file (f content), time := now }
    | _ => node

end FileTree

end LineShell
