import DecoratorGraph.FileTree.Lookup
import DecoratorGraph.Text.Utf8
/-!
# Reading and writing files

What can be asked of a file tree and how it is changed. A change that fails leaves the tree as
it is, except where it is made of several changes: then those before the failure stay.
-/

namespace DecoratorGraph.FileTree

/-! ### Reading -/

structure Status where
  modified : Int
  size : Nat
  deriving DecidableEq, Repr

def directorySize : Nat := 4096

def status (t : FileTree) (path : Path) : Except IoError Status := do
  match ← t.nodeAt path with
  | (_, .file content _ modified) => .ok ⟨modified, content.length⟩
  | (p, _) => .ok ⟨t.touchedAt p, directorySize⟩

def readBytes (t : FileTree) (path : Path) : Except IoError (List UInt8) := do
  match ← t.nodeAt path with
  | (_, .file content _ _) => .ok content
  | _ => .error .isADirectory

def readText (t : FileTree) (path : Path) : Except IoError String := do
  let bytes ← t.readBytes path
  match Text.Utf8.decode? bytes with
  | some text => .ok text
  | none => .error .notText

def entryCount (t : FileTree) (path : Path) : Except IoError Nat := do
  match ← t.nodeAt path with
  | (p, .directory) => .ok (t.children p).length
  | _ => .error .notADirectory

/-! ### Writing -/

/-- Puts the content of a file at a place where a file or nothing is. -/
def putContent (t : FileTree) (p : Place) (content : List UInt8) : Except IoError FileTree :=
  match t.node? p with
  | none => .ok ((t.put p (.file content false t.now)).touch p.dropLast)
  | some (.file _ executable _) => .ok (t.put p (.file content executable t.now))
  | some .directory => .error .isADirectory
  | some (.link _) => .error .tooManyLinks

def write (t : FileTree) (path : Path) (content : List UInt8) : Except IoError FileTree :=
  if path.text.toList.getLast? = some '/' then
    match t.locateEntry path with
    | .ok _ => .error .isADirectory
    | .error e => .error e
  else do
    let p ← t.locate path
    t.putContent p content

def setAttributes (t : FileTree) (path : Path) (modified : Int) (executable : Bool) :
    Except IoError FileTree := do
  match ← t.nodeAt path with
  | (p, .file content already _) => .ok (t.put p (.file content (already || executable) modified))
  | _ => .error .isADirectory

def newPlace (t : FileTree) (path : Path) : Except IoError Place := do
  match ← t.locateEntry path with
  | none => .error .alreadyExists
  | some (directory, name) =>
    if name = "." ∨ name = ".." then .error .alreadyExists
    else
      match t.node? (directory ++ [name]) with
      | some _ => .error .alreadyExists
      | none => .ok (directory ++ [name])

def makeDirectory (t : FileTree) (path : Path) : Except IoError FileTree := do
  let p ← t.newPlace path
  .ok (((t.put p .directory).touch p).touch p.dropLast)

def makeLink (t : FileTree) (path target : Path) : Except IoError FileTree :=
  if target.text = "" then .error .notFound
  else do
    let p ← t.newPlace path
    .ok ((t.put p (.link target)).touch p.dropLast)

/-- Makes the first of a list of directories, each of which is to stand in the next one, and
before it those of the others that are missing. -/
def makeChain (t : FileTree) : List Path → FileTree × Except IoError Unit
  | [] => (t, .ok ())
  | path :: above =>
    if path.text = "" then (t, .ok ())
    else
      match t.makeDirectory path with
      | .ok made => (made, .ok ())
      | .error .notFound =>
        match t.makeChain above with
        | (t, .error e) => (t, .error e)
        | (t, .ok ()) =>
          match t.makeDirectory path with
          | .ok made => (made, .ok ())
          | .error e => if t.isDirectory path then (t, .ok ()) else (t, .error e)
      | .error e => if t.isDirectory path then (t, .ok ()) else (t, .error e)

end FileTree

/-- A path and the paths of the directories around it, as far as they are written. -/
def Path.ancestors (p : Path) : List Path := climb p.components.length p
where
  climb : Nat → Path → List Path
    | 0, p => [p]
    | n + 1, p =>
      match p.parent? with
      | some q => p :: climb n q
      | none => [p]

namespace FileTree

def makeDirectories (t : FileTree) (path : Path) : FileTree × Except IoError Unit :=
  t.makeChain path.ancestors

def makeParents (t : FileTree) (path : Path) : FileTree × Except IoError Unit :=
  match path.parent? with
  | some directory => t.makeDirectories directory
  | none => (t, .ok ())

/-- Writes a text file and makes the directories around it. -/
def writeText (t : FileTree) (path : Path) (text : String) : FileTree × Except IoError Unit :=
  match t.makeParents path with
  | (t, .error e) => (t, .error e)
  | (t, .ok ()) =>
    match t.write path (Text.Utf8.encode text) with
    | .ok t => (t, .ok ())
    | .error e => (t, .error e)

/-! ### Removing -/

/-- Takes away the entry that a path names, with all that is below it, unless it is of a kind
that `refused` gives an error for. The working directory is emptied but stays, and that counts
as a failure. -/
def removeEntry (t : FileTree) (refused : FileNode → Option IoError) (path : Path) :
    FileTree × Except IoError Unit :=
  match t.locateEntry path with
  | .error e => (t, .error e)
  | .ok none => (t, .error .invalidArgument)
  | .ok (some (directory, name)) =>
    if name = "." then
      ((t.children directory).foldl (fun t child => t.prune (directory ++ [child.1])) t,
        .error .invalidArgument)
    else
      match t.node? (directory ++ [name]) with
      | none => (t, .error .notFound)
      | some n =>
        match refused n with
        | some e => (t, .error e)
        | none => ((t.prune (directory ++ [name])).touch directory, .ok ())

def remove (t : FileTree) (path : Path) : FileTree × Except IoError Unit :=
  t.removeEntry (fun _ => none) path

/-- Takes away a directory with all that is below it, or a link, but no file. -/
def removeDirectory (t : FileTree) (path : Path) : FileTree × Except IoError Unit :=
  t.removeEntry (fun n => if n.isFile then some .notADirectory else none) path

/-! ### Differences -/

def contentAt? (t : FileTree) (p : Place) : Option (List UInt8) :=
  match t.node? p with
  | some (.file content _ _) => some content
  | _ => none

/-- The files of a tree that are new or have other bytes than in an earlier tree. -/
def changedFrom (before after : FileTree) : List (Place × List UInt8) :=
  after.entries.filterMap fun e =>
    match e.2 with
    | .file content _ _ =>
      if before.contentAt? e.1 = some content then none else some (e.1, content)
    | _ => none

end DecoratorGraph.FileTree
