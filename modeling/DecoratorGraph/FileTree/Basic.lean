import DecoratorGraph.Path
/-!
# File trees

A tree of files, directories and symbolic links, kept as a table from places to nodes. A
place is the list of names on the way from the root, so what happens at one place says
nothing about the node at another.
-/

namespace DecoratorGraph

abbrev Place := List String

/-- Whether a place comes before another one, or is the same: names are compared from the root
on, each by its characters, and a directory comes before what is below it. -/
def Place.precedes : Place → Place → Bool
  | [], _ => true
  | _ :: _, [] => false
  | a :: p, b :: q => decide (a.toList < b.toList) || (a == b && Place.precedes p q)

/-- What stands at a place. Times are nanoseconds after the beginning of 1970. -/
inductive FileNode where
  | file (content : List UInt8) (executable : Bool) (modified : Int)
  | link (target : Path)
  | directory
  deriving DecidableEq, Repr

namespace FileNode

def isFile : FileNode → Bool
  | .file _ _ _ => true
  | _ => false

def isDirectory : FileNode → Bool
  | .directory => true
  | _ => false

end FileNode

/-- Why an access to files fails. -/
inductive IoError where
  | notFound
  | permissionDenied
  | notExecutable
  | alreadyExists
  | notADirectory
  | isADirectory
  | invalidArgument
  | nameTooLong
  | tooManyLinks
  /-- A path holds a character that no name can hold. -/
  | nulInPath
  | notText
  deriving DecidableEq, Repr

def IoError.message : IoError → String
  | .notFound => "No such file or directory (os error 2)"
  | .notExecutable => "Exec format error (os error 8)"
  | .permissionDenied => "Permission denied (os error 13)"
  | .alreadyExists => "File exists (os error 17)"
  | .notADirectory => "Not a directory (os error 20)"
  | .isADirectory => "Is a directory (os error 21)"
  | .invalidArgument => "Invalid argument (os error 22)"
  | .nameTooLong => "File name too long (os error 36)"
  | .tooManyLinks => "Too many levels of symbolic links (os error 40)"
  | .nulInPath => "file name contained an unexpected NUL byte"
  | .notText => "stream did not contain valid UTF-8"

/-- A file tree. The root is a directory and is not listed. -/
structure FileTree where
  entries : List (Place × FileNode) := []
  distinct : (entries.map Prod.fst).Nodup := by simp
  /-- The time at which what is written now is modified. -/
  now : Int := 0
  /-- When entries of directories came or went, the latest first. -/
  touched : List (Place × Int) := []
  /-- Where relative paths start. -/
  workingDirectory : Place := []

namespace FileTree

def node? (t : FileTree) (p : Place) : Option FileNode :=
  if p = [] then some .directory else t.entries.lookup p

@[simp] theorem node?_nil (t : FileTree) : t.node? [] = some .directory := by simp [node?]

def put (t : FileTree) (p : Place) (n : FileNode) : FileTree :=
  { t with
    entries := (p, n) :: t.entries.filter fun e => e.1 != p
    distinct := by
      have h := t.distinct
      simp only [List.map_cons, List.nodup_cons, List.mem_map, List.mem_filter]
      refine ⟨by simp, h.sublist (List.Sublist.map _ List.filter_sublist)⟩ }

theorem lookup_filter_ne {p q : Place} (h : q ≠ p) (entries : List (Place × FileNode)) :
    (entries.filter fun e => e.1 != p).lookup q = entries.lookup q := by
  induction entries with
  | nil => rfl
  | cons e r ih =>
    obtain ⟨k, n⟩ := e
    by_cases hk : k = p
    · subst hk
      simpa [List.lookup_cons, beq_false_of_ne h] using ih
    · by_cases hq : q = k
      · subst hq
        simp [hk]
      · simpa [hk, List.lookup_cons, beq_false_of_ne hq] using ih

theorem node?_put_self {p : Place} (h : p ≠ []) (t : FileTree) (n : FileNode) :
    (t.put p n).node? p = some n := by
  simp [node?, put, h]

theorem node?_put_of_ne {p q : Place} (h : q ≠ p) (t : FileTree) (n : FileNode) :
    (t.put p n).node? q = t.node? q := by
  have hq : (q == p) = false := beq_false_of_ne h
  simp only [node?, put, List.lookup_cons, hq, lookup_filter_ne h]

/-- Takes away what stands at a place and below it. -/
def prune (t : FileTree) (p : Place) : FileTree :=
  { t with
    entries := t.entries.filter fun e => !p.isPrefixOf e.1
    distinct := t.distinct.sublist (List.Sublist.map _ List.filter_sublist) }

/-- Notes that an entry of a directory came or went. -/
def touch (t : FileTree) (p : Place) : FileTree :=
  { t with touched := (p, t.now) :: t.touched }

@[simp] theorem node?_touch (t : FileTree) (p q : Place) : (t.touch p).node? q = t.node? q := rfl

def touchedAt (t : FileTree) (p : Place) : Int := (t.touched.lookup p).getD 0

def children (t : FileTree) (p : Place) : List (String × FileNode) :=
  t.entries.filterMap fun e =>
    if e.1.dropLast = p then e.1.getLast?.map fun name => (name, e.2) else none

end FileTree

end DecoratorGraph
