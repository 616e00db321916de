import DecoratorGraph.Declaration
import DecoratorGraph.FileTree.Access
/-!
# Stored parses

A parse is stored together with the state of its file, so that a later look at the file tells
whether the parse still holds.
-/

namespace DecoratorGraph

/-- The state of a file, as far as it is looked at to notice changes: when it was modified, in
nanoseconds, and its size. -/
structure FileState where
  timestamp : Nat
  size : Nat
  deriving DecidableEq, Repr

/-- The timestamp of a time: times before 1970 count as its beginning, and 64 bits are kept. -/
def timestampOf (modified : Int) : Nat := modified.toNat % 0x10000000000000000

def FileTree.fileState (t : FileTree) (path : Path) : Except IoError FileState := do
  let status ← t.status path
  .ok ⟨timestampOf status.modified, status.size⟩

/-- A parse and the state that its file had when it was stored. -/
structure StoredParse where
  parsed : ParsedFile
  state : FileState

/-- How entries are kept in files: the name of the file for a path, which has to be the same
for paths that name the same place, and the bytes of an entry. -/
structure EntryFormat where
  fileName : Path → String
  encode : StoredParse → List UInt8
  decode? : List UInt8 → Option StoredParse

end DecoratorGraph
