import DecoratorGraph.ParseStore.Entry
/-!
# The store of parses

Parses are remembered in memory and, if the store has a directory, saved in a file for each
path. What is saved outlives the store: a new store over the same directory finds it, and
remembers it from then on. Paths that name the same place share an entry.
-/

namespace DecoratorGraph

/-- A store of parses. The entries in memory belong to different places. -/
structure ParseStore where
  format : EntryFormat
  /-- Where entries are saved; without a directory they are remembered only. -/
  directory : Option Path
  memory : List (Path × StoredParse)
  distinct : memory.Pairwise fun a b => ¬a.1.same b.1 = true

namespace ParseStore

/-- How many entries memory has room for. Entries that are found in the directory are no longer
added to a full memory, and a new entry cannot be (`storeReturns`). -/
def capacity : Nat := 1000

def empty (format : EntryFormat) (directory : Option Path) : ParseStore :=
  ⟨format, directory, [], .nil⟩

def inMemory (format : EntryFormat) : ParseStore := empty format none

/-- An empty store over a directory, which is made if it is missing. If it cannot be made the
store has no directory. -/
def overDirectory (format : EntryFormat) (directory : Path) (t : FileTree) :
    FileTree × ParseStore :=
  match t.makeDirectories directory with
  | (t, .ok ()) => (t, empty format directory)
  | (t, .error _) => (t, inMemory format)

/-- An empty store, over a directory if one is given. -/
def openAt (format : EntryFormat) (directory : Option Path) (t : FileTree) :
    FileTree × ParseStore :=
  match directory with
  | some directory => overDirectory format directory t
  | none => (t, inMemory format)

/-! ### Entries -/

def remembered? (s : ParseStore) (p : Path) : Option StoredParse :=
  (s.memory.find? fun e => e.1.same p).map Prod.snd

def remember (s : ParseStore) (p : Path) (e : StoredParse) : ParseStore :=
  { s with
    memory := (p, e) :: s.memory.filter fun e => !e.1.same p
    distinct := by
      refine List.pairwise_cons.2 ⟨fun b hb hsame => ?_, s.distinct.sublist List.filter_sublist⟩
      simp [Path.same_symm hsame] at hb }

def slot? (s : ParseStore) (p : Path) : Option Path :=
  s.directory.map fun directory => directory.join ⟨s.format.fileName p⟩

/-- The entry that is saved in the file for a path. It may belong to another path whose file
has the same name. -/
def saved? (s : ParseStore) (t : FileTree) (p : Path) : Option StoredParse := do
  let slot ← s.slot? p
  let bytes ← (t.readBytes slot).toOption
  s.format.decode? bytes

/-- The entry that tells about a path: the one in memory, or else the saved one. -/
def evidence? (s : ParseStore) (t : FileTree) (p : Path) : Option StoredParse :=
  s.remembered? p <|> s.saved? t p

/-! ### Asking -/

/-- Whether a file has to be parsed: there is no entry, or the file has changed since. -/
def needsUpdate (s : ParseStore) (t : FileTree) (p : Path) : Except IoError Bool := do
  let state ← t.fileState p
  match s.evidence? t p with
  | some e => .ok (e.state != state)
  | none => .ok true

/-- The parse of the entry for a path. A saved entry is given only if it belongs to the path,
and is remembered. -/
def get? (s : ParseStore) (t : FileTree) (p : Path) : Option ParsedFile × ParseStore :=
  match s.remembered? p with
  | some e => (some e.parsed, s)
  | none =>
    match s.saved? t p with
    | some e =>
      if e.parsed.path.same p then
        (some e.parsed, if s.memory.length < capacity then s.remember p e else s)
      else (none, s)
    | none => (none, s)

def current? (s : ParseStore) (t : FileTree) (p : Path) : Option ParsedFile × ParseStore :=
  match s.needsUpdate t p with
  | .ok false => s.get? t p
  | _ => (none, s)

/-! ### Changing -/

structure Step where
  tree : FileTree
  store : ParseStore
  result : Except IoError Unit

def save (s : ParseStore) (t : FileTree) (p : Path) (e : StoredParse) : Step :=
  match s.slot? p with
  | none => ⟨t, s, .ok ()⟩
  | some slot =>
    match t.write slot (s.format.encode e) with
    | .ok t => ⟨t, s, .ok ()⟩
    | .error cause => ⟨t, s, .error cause⟩

/-- Whether storing a parse comes back. To make room in a full memory an entry is looked up and
then removed, and the removal waits for a lock that the lookup holds on to. -/
def storeReturns (s : ParseStore) (t : FileTree) (p : Path) : Bool :=
  !(t.fileState p).isOk || s.memory.length < capacity

/-- Stores a parse with the state that its file has now. It is remembered even if it cannot
be saved. This is what comes of it where `storeReturns`; otherwise nothing does. -/
def store (s : ParseStore) (t : FileTree) (p : Path) (parsed : ParsedFile) : Step :=
  match t.fileState p with
  | .error cause => ⟨t, s, .error cause⟩
  | .ok state => (s.remember p ⟨parsed, state⟩).save t p ⟨parsed, state⟩

def clear (s : ParseStore) (t : FileTree) : Step :=
  let cleared := empty s.format s.directory
  match s.directory with
  | none => ⟨t, cleared, .ok ()⟩
  | some directory =>
    if t.exists? directory then
      match t.removeDirectory directory with
      | (t, .error cause) => ⟨t, cleared, .error cause⟩
      | (t, .ok ()) =>
        ⟨(t.makeDirectories directory).1, cleared, (t.makeDirectories directory).2⟩
    else ⟨t, cleared, .ok ()⟩

/-! ### Counting -/

def memoryCount (s : ParseStore) : Nat := s.memory.length

def savedCount (s : ParseStore) (t : FileTree) : Nat :=
  match s.directory with
  | some directory => ((t.entryCount directory).toOption).getD 0
  | none => 0

end ParseStore

end DecoratorGraph
