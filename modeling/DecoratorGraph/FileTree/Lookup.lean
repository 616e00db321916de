import DecoratorGraph.FileTree.Basic
/-!
# From paths to places

A path is walked piece by piece from the root or from the working directory. Links on the way
and at the end are followed, `..` goes to the directory above, and a trailing slash asks for a
directory. The last piece may name something that is not there.
-/

namespace DecoratorGraph

def Path.pieces (p : Path) : List String := (Text.split '/' p.text.toList).map String.ofList

namespace FileTree

def longestName : Nat := 255

/-- Every path is shorter than this many bytes. -/
def pathLimit : Nat := 4096

/-- Walks along pieces from a directory. At a link the walk is left to `onLink`, which gets
the directory where the target starts and the pieces from there on. -/
def walk (t : FileTree) (onLink : Place → List String → Except IoError Place) :
    Place → List String → Except IoError Place
  | p, [] => .ok p
  | p, piece :: rest =>
    if piece = "" ∨ piece = "." then walk t onLink p rest
    else if piece = ".." then walk t onLink p.dropLast rest
    else if longestName < piece.utf8ByteSize then .error .nameTooLong
    else
      match t.node? (p ++ [piece]) with
      | none => if rest = [] then .ok (p ++ [piece]) else .error .notFound
      | some .directory => walk t onLink (p ++ [piece]) rest
      | some (.file _ _ _) => if rest = [] then .ok (p ++ [piece]) else .error .notADirectory
      | some (.link target) =>
        onLink (if target.isAbsolute then [] else p) (target.pieces ++ rest)

/-- Walks along pieces and follows fewer links than `n`. -/
def follow (t : FileTree) : Nat → Place → List String → Except IoError Place
  | 0, _, _ => .error .tooManyLinks
  | n + 1, p, pieces => t.walk (t.follow n) p pieces

/-- One more than the number of links that are followed for one path. -/
def linkLimit : Nat := 41

def followPieces (t : FileTree) (path : Path) (pieces : List String) : Except IoError Place :=
  t.follow linkLimit (if path.isAbsolute then [] else t.workingDirectory) pieces

def checkPath (path : Path) : Except IoError Unit :=
  if path.text.toList.contains '\x00' then .error .nulInPath
  else if path.text = "" then .error .notFound
  else if pathLimit ≤ path.text.utf8ByteSize then .error .nameTooLong
  else .ok ()

def locate (t : FileTree) (path : Path) : Except IoError Place := do
  checkPath path
  t.followPieces path path.pieces

/-- The pieces of a path without the empty ones at its end, in reverse. -/
def reversedPieces (path : Path) : List String :=
  path.pieces.reverse.dropWhile fun piece => piece == ""

/-- The directory around the last piece of a path, and that piece; none for the root. A link
that the last piece names is not followed. -/
def locateEntry (t : FileTree) (path : Path) : Except IoError (Option (Place × String)) := do
  checkPath path
  match reversedPieces path with
  | [] => .ok none
  | last :: before => do
    let directory ← t.followPieces path (before.reverse ++ [""])
    if longestName < last.utf8ByteSize then .error .nameTooLong
    else .ok (some (directory, last))

def nodeAt (t : FileTree) (path : Path) : Except IoError (Place × FileNode) := do
  let p ← t.locate path
  match t.node? p with
  | some n => .ok (p, n)
  | none => .error .notFound

def exists? (t : FileTree) (path : Path) : Bool := (t.nodeAt path).isOk

/-- Whether a path leads to a directory. -/
def isDirectory (t : FileTree) (path : Path) : Bool :=
  match t.nodeAt path with
  | .ok (_, n) => n.isDirectory
  | .error _ => false

def isFile (t : FileTree) (path : Path) : Bool :=
  match t.nodeAt path with
  | .ok (_, n) => n.isFile
  | .error _ => false

/-! ### What stands below a directory -/

/-- Whether names lead from a directory, at a place and with a path, through directories only to
a file. A directory is opened by its path, so a path that is too long leads no further. -/
def reaches (t : FileTree) : Path → Place → Place → Bool
  | _, _, [] => false
  | _, p, [name] => (t.node? (p ++ [name])).any FileNode.isFile
  | path, p, name :: rest =>
    t.node? (p ++ [name]) == some .directory && (checkPath (path.join ⟨name⟩)).isOk &&
      t.reaches (path.join ⟨name⟩) (p ++ [name]) rest

def below? (p q : Place) : Option Place :=
  if p.isPrefixOf q then some (q.drop p.length) else none

/-- The files that can be reached from a directory without following links, as places below
it: each directory in the order of its names. -/
def filesBelow (t : FileTree) (path : Path) (p : Place) : List Place :=
  (t.entries.filterMap fun e => (below? p e.1).filter (t.reaches path p)).mergeSort Place.precedes

end FileTree

end DecoratorGraph
