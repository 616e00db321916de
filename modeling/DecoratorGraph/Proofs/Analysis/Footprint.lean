import DecoratorGraph.Proofs.Analysis.Steps
import DecoratorGraph.Proofs.FileTree.Changes
import DecoratorGraph.Proofs.ParseStore.Slots

/-!
# The files that an analysis writes

An analysis loads source files, one after the other, and all that a load can write is the entry for
the file in the directory of the store. So whichever loop goes over the files, and wherever it ends,
the tree has changed only at places to which the path of an entry of that directory leads.

A link that stands in the directory leads such a write out of it. Without links there, these places
are directly in the directory, and the files beside it stay as they are.
-/

namespace DecoratorGraph

namespace FileTree

variable {t u v : FileTree} {directory : Path} {p : Place}

/-! ### Entries of a directory -/

/-- A place is directly in the directory to which a path leads. -/
def DirectlyIn (t : FileTree) (directory : Path) (p : Place) : Prop :=
  ∃ place name, t.nodeAt directory = .ok (place, .directory) ∧ p = place ++ [name]

/-- No link stands directly in a directory. If the directory is missing, the places are meant that
are in it once it is made. -/
def NoLinkIn (t : FileTree) (directory : Path) : Prop :=
  ∀ p, (t.makeDirectories directory).1.DirectlyIn directory p →
    ∀ target, t.node? p ≠ some (.link target)

/-- The files of two trees are the same, but for those directly in a directory: none has come, has
gone or has changed. -/
def SameFilesBeside (directory : Path) (t u : FileTree) : Prop :=
  ∀ p n, n.isFile = true → ¬u.DirectlyIn directory p → (u.node? p = some n ↔ t.node? p = some n)

def EntryOf (t : FileTree) (directory : Path) (p : Place) : Prop :=
  ∃ place name, t.nodeAt directory = .ok (place, .directory) ∧ ProperName name ∧
    t.locate (directory.join ⟨name⟩) = .ok p

theorem SameWays.nodeAt_directory_iff (h : SameWays t u) {place : Place} :
    u.nodeAt directory = .ok (place, .directory) ↔ t.nodeAt directory = .ok (place, .directory) :=
  ⟨h.symm.nodeAt_directory, h.nodeAt_directory⟩

theorem SameWays.directlyIn_iff (h : SameWays t u) :
    u.DirectlyIn directory p ↔ t.DirectlyIn directory p := by
  simp only [DirectlyIn, h.nodeAt_directory_iff]

theorem SameWays.entryOf_iff (h : SameWays t u) :
    u.EntryOf directory p ↔ t.EntryOf directory p := by
  simp only [EntryOf, h.nodeAt_directory_iff, h.locate_iff]

theorem directlyIn_makeDirectories (h : t.DirectlyIn directory p) :
    (t.makeDirectories directory).1.DirectlyIn directory p := by
  obtain ⟨place, name, hfound, -⟩ := id h
  rwa [makeDirectories_of_nodeAt hfound]

/-- The path of an entry leads to a place in the directory unless the entry is a link. -/
theorem EntryOf.directlyIn (h : t.EntryOf directory p)
    (hlink : ∀ q, t.DirectlyIn directory q → ∀ target, t.node? q ≠ some (.link target)) :
    t.DirectlyIn directory p := by
  obtain ⟨place, name, hfound, hname, hlocate⟩ := h
  have hentry := (locate_join_ok_iff hfound hname (hlink _ ⟨place, name, hfound, rfl⟩)).1 hlocate
  exact ⟨place, name, hfound, hentry.2⟩

/-- Where no link stands in the directory, making directories and then writing entries of it keeps
the files beside it. -/
theorem NoLinkIn.sameFilesBeside (h : t.NoLinkIn directory) (hgrown : Grown t u)
    (hmade : ∀ q, u.DirectlyIn directory q → (t.makeDirectories directory).1.DirectlyIn directory q)
    (hwritten : WrittenAt (u.EntryOf directory) u v) : SameFilesBeside directory t v := by
  intro p n hn hp
  have hlink (q : Place) (hq : u.DirectlyIn directory q) (target : Path) :
      u.node? q ≠ some (.link target) := fun hu =>
    h q (hmade q hq) target ((hgrown.changed fun _ => False).node?_eq_link hu)
  have hentry : ¬u.EntryOf directory p := fun hentry =>
    hp (hwritten.sameWays.directlyIn_iff.2 (hentry.directlyIn hlink))
  rw [hwritten.frame p hentry]
  rcases hgrown.node p with hsame | ⟨hnone, hdirectory⟩
  · rw [hsame]
  -- A directory that was made is no file.
  · rw [hnone, hdirectory]
    constructor <;> rintro ⟨⟩
    cases hn

end FileTree

namespace ParseStore

variable (format : EntryFormat) (directory : Path) (t : FileTree)

theorem openAt_fst : (openAt format (some directory) t).1 = (t.makeDirectories directory).1 := by
  simp only [openAt, overDirectory]
  split <;> rename_i h <;> rw [h]

theorem memoryCount_openAt : (openAt format (some directory) t).2.memoryCount = 0 := by
  simp only [openAt, overDirectory]
  split <;> rfl

end ParseStore

/-! ### Loads -/

namespace Workspace

inductive Loads : Workspace → Workspace → Prop
  | refl (w : Workspace) : Loads w w
  | load {w w' : Workspace} (f : SourceFile) (h : Loads (w.load f).workspace w') : Loads w w'

/-- The store, if there is one, saves its entries in a directory, or nowhere. -/
def SavesIn (directory : Path) (w : Workspace) : Prop :=
  ∀ s, w.store = some s → s.format = StoredParse.format ∧
    ∀ d, s.directory = some d →
      d = directory ∧ ∃ place, w.tree.nodeAt directory = .ok (place, .directory)

section Footprint

variable {directory : Path} {w w' : Workspace} (isMatch : String → Bool)

/-- A store that is opened over a directory saves its entries there, or nowhere if the directory
cannot be made. -/
theorem savesIn_openAt (hpath : directory.text ≠ "") (t : FileTree) :
    SavesIn directory
      ⟨(ParseStore.openAt StoredParse.format (some directory) t).1,
        some (ParseStore.openAt StoredParse.format (some directory) t).2⟩ := by
  rintro _ ⟨⟩
  simp only [ParseStore.openAt, ParseStore.overDirectory]
  split
  · rename_i u hmade
    refine ⟨rfl, ?_⟩
    rintro _ ⟨⟩
    have hfound := FileTree.isDirectory_of_makeDirectories hpath hmade
    exact ⟨rfl, FileTree.exists_nodeAt_of_isDirectory hfound⟩
  · refine ⟨rfl, fun d hd => ?_⟩
    cases hd

/-- A load writes the entry for the file, if anything. -/
theorem SavesIn.load (h : w.SavesIn directory) (f : SourceFile) :
    (w.load f).workspace.SavesIn directory ∧
      FileTree.WrittenAt (w.tree.EntryOf directory) w.tree (w.load f).workspace.tree := by
  obtain ⟨t, _ | s⟩ := w
  · rw [load_without_store]
    exact ⟨nofun, FileTree.WrittenAt.refl _ t⟩
  obtain ⟨hformat, hdirectory⟩ := h s rfl
  obtain ⟨u, s', r, hit, hload, hfuller⟩ := exists_load t s f
  rw [hload]
  have hwritten : FileTree.WrittenAt (t.EntryOf directory) t u := by
    rcases (loadStep_of_load hload).tree_eq_or with rfl | ⟨q, slot, content, hslot, hwrite⟩
    · exact FileTree.WrittenAt.refl _ u
    -- What is written is named by a hash, so it is an entry of the directory.
    · obtain ⟨_, hd, rfl⟩ := Option.map_eq_some_iff.1 hslot
      obtain ⟨rfl, place, hfound⟩ := hdirectory _ hd
      rw [hformat] at hwrite
      exact (FileTree.WrittenAt.refl _ t).of_write
        (fun p hp => ⟨place, _, hfound, StoredParse.properName_hashedName q, hp⟩) hwrite
  refine ⟨?_, hwritten⟩
  rintro _ ⟨⟩
  refine ⟨hfuller.format.trans hformat, fun d hd => ?_⟩
  obtain ⟨rfl, place, hfound⟩ := hdirectory d (hfuller.directory ▸ hd)
  exact ⟨rfl, place, hwritten.sameWays.nodeAt_directory hfound⟩

theorem Loads.writtenAt (h : Loads w w') (hw : w.SavesIn directory) :
    FileTree.WrittenAt (w.tree.EntryOf directory) w.tree w'.tree := by
  induction h with
  | refl w => exact FileTree.WrittenAt.refl _ w.tree
  | @load w w' f h ih =>
      obtain ⟨hnext, hstep⟩ := hw.load f
      have hrest := ih hnext
      have hentries : (w.load f).workspace.tree.EntryOf directory = w.tree.EntryOf directory :=
        funext fun p => propext hstep.sameWays.entryOf_iff
      rw [hentries] at hrest
      exact hstep.trans hrest

theorem loads_analyzeFiles (w : Workspace) (files : List SourceFile) :
    Loads w (w.analyzeFiles isMatch files).1 := by
  induction files generalizing w with
  | nil => exact .refl w
  | cons f files ih => exact .load f (ih (w.load f).workspace)

theorem loads_analyzeFilesStrict (w : Workspace) (files : List SourceFile) :
    Loads w (w.analyzeFilesStrict isMatch files).1 := by
  induction files generalizing w with
  | nil => exact .refl w
  | cons f files ih =>
      rw [analyzeFilesStrict]
      cases (w.load f).records isMatch with
      | error cause => exact .load f (.refl _)
      | ok records => exact .load f (ih (w.load f).workspace)

theorem loads_analyze (w : Workspace) (inputs : List Path) :
    Loads w (w.analyze isMatch inputs).1 := by
  unfold analyze
  split
  · exact .refl w
  · exact loads_analyzeFiles isMatch w _

theorem loads_analyzeStrict (w : Workspace) (inputs : List Path) :
    Loads w (w.analyzeStrict isMatch inputs).1 := by
  unfold analyzeStrict
  split
  · exact .refl w
  · exact loads_analyzeFilesStrict isMatch w _

end Footprint

end Workspace

end DecoratorGraph
