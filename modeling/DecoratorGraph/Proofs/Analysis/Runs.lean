import DecoratorGraph.Analysis
import DecoratorGraph.Proofs.ParseStore.Entries

/-!
# Runs of an analyser with a store

An analyser lives among files that others change, and it comes and goes: a later one opens a new
store over the same directory. A run is a list of such events. The store is given *as it is set
up*, by its format and its directory, so a run with a store in memory is a run over a store
without a directory, and the format may give the entries of all paths one file.

`Lawful` says what the others leave alone: they use names that a file system has, and from one
analysis to the next no file of the store gets bytes. And an analysis is asked only for files
that are no files of the store. Nothing is said on when the others change files and how often,
nor on whether entries can be saved.
-/

namespace DecoratorGraph

/-- What can happen in the life of an analyser: others change the files, the analyser is
replaced by a new one over the same directory, or it analyses inputs. -/
inductive Event where
  | change (tree : FileTree)
  | reopen
  | analyze (inputs : List Path)

structure Call where
  workspace : Workspace
  inputs : List Path

structure Reading where
  path : Path
  state : FileState
  text : Except IoError String

namespace FileTree

/-- A look at what a path leads to, if that has a state. -/
def look (t : FileTree) (path : Path) : Option Reading :=
  (t.fileState path).toOption.map fun state => ⟨path, state, t.readText path⟩

def readings (t : FileTree) (inputs : List Path) : List Reading :=
  match t.sourceFiles inputs with
  | .error _ => []
  | .ok files => files.filterMap fun f => t.look f.path

theorem look_eq_some {t : FileTree} {path : Path} {state : FileState}
    (h : t.fileState path = .ok state) : t.look path = some ⟨path, state, t.readText path⟩ := by
  unfold look
  rw [h]
  rfl

def oneFile (text : String) (modified : Int) : FileTree :=
  { entries := [(["a.ts"], .file (Text.Utf8.encode text) false modified)] }

end FileTree

/-- Looks at one file that show it in one state give one outcome. -/
def Consistent (readings : List Reading) : Prop :=
  ∀ a ∈ readings, ∀ b ∈ readings, a.path.same b.path = true → a.state = b.state → a.text = b.text

/-- An entry that tells about a look at a file: its parse is the parse of the text that was read
when the file was in the state of the entry. -/
def Genuine (readings : List Reading) (e : StoredParse) : Prop :=
  ∃ f text, SourceFile.ofPath? f.path = some f ∧ ⟨f.path, e.state, .ok text⟩ ∈ readings ∧
    e.parsed = .read f.dialect f.path text

namespace ParseStore

/-- No entry of the store is saved where the path leads. -/
def Outside (base : ParseStore) (t : FileTree) (path : Path) : Prop :=
  ∀ q slot p, base.slot? q = some slot → t.locate slot = .ok p → t.locate path ≠ .ok p

def opened (base : ParseStore) (t : FileTree) : Workspace :=
  ⟨(openAt base.format base.directory t).1, some (openAt base.format base.directory t).2⟩

end ParseStore

namespace Workspace

variable (isMatch : String → Bool) (base : ParseStore)

def step (w : Workspace) : Event → Workspace
  | .change t => ⟨t, w.store⟩
  | .reopen => base.opened w.tree
  | .analyze inputs => (w.analyze isMatch inputs).1

def calls (w : Workspace) : List Event → List Call
  | [] => []
  | .analyze inputs :: events => ⟨w, inputs⟩ :: calls (w.step isMatch base (.analyze inputs)) events
  | event :: events => calls (w.step isMatch base event) events

/-- A run in which the others leave the files of the store alone and no analysis is asked for
one of them. `before` is the tree as the last analysis left it. -/
def Lawful (before : FileTree) (w : Workspace) : List Event → Prop
  | [] => True
  | .change t :: events => t.WellNamed ∧ Lawful before (w.step isMatch base (.change t)) events
  | .reopen :: events => Lawful before (w.step isMatch base .reopen) events
  | .analyze inputs :: events =>
      base.Untouched before w.tree ∧
      (∀ files, w.tree.sourceFiles inputs = .ok files →
        ∀ f ∈ files, base.Outside w.tree f.path) ∧
      Lawful (w.step isMatch base (.analyze inputs)).tree
        (w.step isMatch base (.analyze inputs)) events

end Workspace

end DecoratorGraph
