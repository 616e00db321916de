import DecoratorGraph.SourceFile
import DecoratorGraph.Proofs.FileTree.Walk

/-!
# Names of entries, and the source files below a directory

The entries of a file system have names without slashes that are neither empty nor dots. In
such a tree the path that is put together for a source file below a directory leads to that
file, unless it is no path at all (it is too long, or holds a character that no path can hold).
So an analysis never meets a listed file that it cannot find.
-/

namespace DecoratorGraph

namespace Text

theorem split_append_cons (separator : Char) (s r : List Char) :
    split separator (s ++ separator :: r) = split separator s ++ split separator r := by
  induction s with
  | nil => simp [split]
  | cons c s ih =>
      by_cases h : c = separator
      · simp [split, h, ih]
      · simp only [List.cons_append, split, h, if_false, ih]
        cases hs : split separator s with
        | nil => exact absurd hs (split_ne_nil separator s)
        | cons piece pieces => simp

theorem split_of_not_mem {separator : Char} {s : List Char} (h : separator ∉ s) :
    split separator s = [s] := by
  induction s with
  | nil => rfl
  | cons c s ih =>
      rw [List.mem_cons, not_or] at h
      simp [split, Ne.symm h.1, ih h.2]

theorem not_mem_of_mem_split {separator : Char} {s piece : List Char}
    (h : piece ∈ split separator s) : separator ∉ piece := by
  induction s generalizing piece with
  | nil =>
      have hpiece : piece = [] := by simpa [split] using h
      simp [hpiece]
  | cons c s ih =>
      by_cases hc : c = separator
      · simp only [split, hc, if_true, List.mem_cons] at h
        rcases h with rfl | h
        · simp
        · exact ih h
      · cases hs : split separator s with
        | nil => exact absurd hs (split_ne_nil separator s)
        | cons first pieces =>
            simp only [split, hc, if_false, hs, List.mem_cons] at h
            rcases h with rfl | h
            · have hfirst : separator ∉ first := ih (by simp [hs])
              simp [Ne.symm hc, hfirst]
            · exact ih (by simp [hs, h])

end Text

/-- A name that an entry of a directory can have. -/
def ProperName (name : String) : Prop := Named name ∧ '/' ∉ name.toList

instance (name : String) : Decidable (ProperName name) := by
  unfold ProperName
  infer_instance

namespace Path

theorem not_mem_of_mem_pieces {path : Path} {piece : String} (h : piece ∈ path.pieces) :
    '/' ∉ piece.toList := by
  obtain ⟨cs, hcs, rfl⟩ := List.mem_map.1 h
  simpa using Text.not_mem_of_mem_split hcs

theorem isAbsolute_of_not_mem {name : String} (h : '/' ∉ name.toList) :
    (⟨name⟩ : Path).isAbsolute = false := by
  simp only [isAbsolute, beq_eq_false_iff_ne, ne_eq]
  intro hhead
  exact h (List.mem_of_mem_head? (by simp [hhead]))

/-- A name that is appended to a path stands behind a slash, which is put there unless the
path ends in one. -/
theorem toList_join {path : Path} {name : String} (hpath : path.text ≠ "")
    (hname : ProperName name) :
    (path.join ⟨name⟩).text.toList =
      (if path.text.toList.getLast? = some '/' then path.text.toList.dropLast
        else path.text.toList) ++ '/' :: name.toList := by
  have hrelative := isAbsolute_of_not_mem hname.2
  by_cases hend : path.text.toList.getLast? = some '/'
  · obtain ⟨before, hbefore⟩ := List.getLast?_eq_some_iff.1 hend
    simp [join, hrelative, hbefore]
  · simp [join, hrelative, hpath, hend]

theorem text_join_ne_empty {path : Path} {name : String} (hpath : path.text ≠ "")
    (hname : ProperName name) : (path.join ⟨name⟩).text ≠ "" := by
  intro h
  have hjoin := toList_join hpath hname
  simp [h] at hjoin

theorem isAbsolute_join {path : Path} {name : String} (hpath : path.text ≠ "")
    (hname : ProperName name) : (path.join ⟨name⟩).isAbsolute = path.isAbsolute := by
  obtain ⟨c, cs, hlist⟩ := List.exists_cons_of_ne_nil (l := path.text.toList) (by simpa using hpath)
  rw [isAbsolute, isAbsolute, toList_join hpath hname, hlist]
  by_cases hend : (c :: cs).getLast? = some '/'
  · rw [if_pos hend]
    cases cs with
    | nil => simpa using hend
    | cons c' cs => rfl
  · rw [if_neg hend]
    rfl

/-- The pieces of a path in front of a name that is appended to it: a slash at its end stands for
no piece of its own any more. -/
def stemPieces (p : Path) : List String :=
  if p.text.toList.getLast? = some '/' then p.pieces.dropLast else p.pieces

theorem pieces_eq_stemPieces (path : Path) :
    path.pieces = path.stemPieces ∨ path.pieces = path.stemPieces ++ [""] := by
  by_cases hend : path.text.toList.getLast? = some '/'
  · obtain ⟨before, hbefore⟩ := List.getLast?_eq_some_iff.1 hend
    exact Or.inr (by simp [stemPieces, pieces, hbefore, Text.split_append_cons, Text.split])
  · exact Or.inl (by rw [stemPieces, if_neg hend])

theorem pieces_join {path : Path} {name : String} (hpath : path.text ≠ "")
    (hname : ProperName name) : (path.join ⟨name⟩).pieces = path.stemPieces ++ [name] := by
  rw [pieces, toList_join hpath hname, Text.split_append_cons, Text.split_of_not_mem hname.2,
    List.map_append, List.map_singleton, String.ofList_toList, stemPieces]
  by_cases hend : path.text.toList.getLast? = some '/'
  · obtain ⟨before, hbefore⟩ := List.getLast?_eq_some_iff.1 hend
    simp [pieces, hbefore, Text.split_append_cons, Text.split]
  · simp [hend, pieces]

end Path

namespace FileTree

structure WellNamed (t : FileTree) : Prop where
  entries : ∀ e ∈ t.entries, ∀ name ∈ e.1, ProperName name
  workingDirectory : ∀ name ∈ t.workingDirectory, ProperName name

/-! ### Where the path of an entry leads -/

/-- An empty piece says nothing, except at the end. -/
theorem follow_append_empty (t : FileTree) (n : Nat) (p : Place) (pieces : List String)
    {rest : List String} (hrest : rest ≠ []) :
    t.follow n p (pieces ++ "" :: rest) = t.follow n p (pieces ++ rest) := by
  induction n generalizing p pieces with
  | zero => rfl
  | succ n ih =>
      simp only [follow]
      induction pieces generalizing p with
      | nil => exact walk_skip (Or.inl rfl)
      | cons piece pieces ihp =>
          simp only [List.cons_append, walk, ihp, ← List.append_assoc, ih, List.append_eq_nil_iff,
            hrest, reduceCtorEq, and_false]

/-- A walk along names that lead through directories to a file ends at the file. -/
theorem walk_of_reaches {t : FileTree} {path : Path} {names p : Place}
    (h : t.reaches path p names = true)
    (hnames : ∀ name ∈ names, ProperName name)
    (onLink : Place → List String → Except IoError Place) :
    t.walk onLink p names = .ok (p ++ names) ∧
      ∃ n, t.node? (p ++ names) = some n ∧ n.isFile = true := by
  induction names generalizing path p with
  | nil => simp [reaches] at h
  | cons name rest ih =>
      have hnamed := (hnames name List.mem_cons_self).1
      cases rest with
      | nil =>
          cases hn : t.node? (p ++ [name]) with
          | none => simp [reaches, hn] at h
          | some n =>
              have hfile : n.isFile = true := by simpa [reaches, hn] using h
              have hend : t.IsEnd (p ++ [name]) := by
                intro m hm
                rw [hn] at hm
                cases hm
                exact hfile
              exact ⟨walk_end hnamed hend, n, rfl, hfile⟩
      | cons name' rest =>
          simp only [reaches, Bool.and_eq_true, beq_iff_eq] at h
          have hrest := ih h.2 fun m hm => hnames m (List.mem_cons_of_mem _ hm)
          rw [walk_down hnamed h.1.1]
          simpa using hrest

/-- The path of an entry below a directory is walked like the path of the directory with the
names of the entry behind it. -/
theorem followPieces_pathBelow (t : FileTree) {input : Path} {names : Place}
    (hinput : input.text ≠ "") (hnames : ∀ name ∈ names, ProperName name) :
    t.followPieces (pathBelow input names) (pathBelow input names).pieces =
      t.followPieces input (input.pieces ++ names) := by
  induction names generalizing input with
  | nil => simp [pathBelow]
  | cons name names ih =>
      have hname := hnames name List.mem_cons_self
      have hbelow : pathBelow input (name :: names) = pathBelow (input.join ⟨name⟩) names := rfl
      rw [hbelow, ih (Path.text_join_ne_empty hinput hname)
        fun m hm => hnames m (List.mem_cons_of_mem _ hm)]
      simp only [followPieces, Path.isAbsolute_join hinput hname]
      rw [Path.pieces_join hinput hname, List.append_assoc, List.singleton_append]
      rcases input.pieces_eq_stemPieces with hpieces | hpieces
      · rw [hpieces]
      · rw [hpieces, List.append_assoc, List.singleton_append,
          follow_append_empty t _ _ input.stemPieces (List.cons_ne_nil name names)]

/-! ### Listed source files -/

theorem text_ne_empty_of_locate {t : FileTree} {path : Path} {p : Place}
    (h : t.locate path = .ok p) : path.text ≠ "" := by
  intro htext
  have hcheck := (locate_ok_iff.1 h).1
  unfold checkPath at hcheck
  rw [htext] at hcheck
  cases hcheck

theorem reaches_of_mem_filesBelow {t : FileTree} (ht : t.WellNamed) {path : Path}
    {p names : Place} (h : names ∈ t.filesBelow path p) :
    t.reaches path p names = true ∧ ∀ name ∈ names, ProperName name := by
  unfold filesBelow at h
  rw [List.mem_mergeSort, List.mem_filterMap] at h
  obtain ⟨e, he, hfilter⟩ := h
  obtain ⟨hbelow, hreaches⟩ := Option.filter_eq_some_iff.1 hfilter
  refine ⟨hreaches, fun name hname => ht.entries e he name ?_⟩
  unfold below? at hbelow
  split at hbelow
  · cases hbelow
    exact List.mem_of_mem_drop hname
  · cases hbelow

/-- The path of a file that can be reached below a directory leads to that file, unless it is
no path to anything. -/
theorem nodeAt_pathBelow {t : FileTree} (ht : t.WellNamed) {input : Path} {p names : Place}
    (hinput : t.nodeAt input = .ok (p, .directory)) (hnames : names ∈ t.filesBelow input p)
    (hcheck : checkPath (pathBelow input names) = .ok ()) :
    ∃ n, t.nodeAt (pathBelow input names) = .ok (p ++ names, n) ∧ n.isFile = true := by
  obtain ⟨hlocate, hdirectory⟩ := nodeAt_ok_iff.1 hinput
  obtain ⟨hreaches, hproper⟩ := reaches_of_mem_filesBelow ht hnames
  obtain ⟨onLink, hwalk⟩ := exists_follow_append (locate_ok_iff.1 hlocate).2 hdirectory names
  obtain ⟨hend, n, hn, hfile⟩ := walk_of_reaches hreaches hproper onLink
  have hfollow := followPieces_pathBelow t (text_ne_empty_of_locate hlocate) hproper
  refine ⟨n, nodeAt_ok_iff.2 ⟨locate_ok_iff.2 ⟨hcheck, ?_⟩, hn⟩, hfile⟩
  rw [hfollow]
  exact hwalk.trans hend

theorem exists_of_mem_sourceFiles {t : FileTree} {inputs : List Path} {files : List SourceFile}
    (h : t.sourceFiles inputs = .ok files) {f : SourceFile} (hf : f ∈ files) :
    ∃ input ∈ inputs, ∃ own, t.sourceFilesOf input = .ok own ∧ f ∈ own := by
  induction inputs generalizing files with
  | nil =>
      cases h
      cases hf
  | cons input inputs ih =>
      rw [sourceFiles] at h
      cases hown : t.sourceFilesOf input with
      | error e => rw [hown] at h; cases h
      | ok own =>
          cases hothers : t.sourceFiles inputs with
          | error e => rw [hown, hothers] at h; cases h
          | ok others =>
              rw [hown, hothers] at h
              cases h
              rcases List.mem_append.1 hf with hf | hf
              · exact ⟨input, List.mem_cons_self, own, hown, hf⟩
              · obtain ⟨i, hi, hfiles⟩ := ih hothers hf
                exact ⟨i, List.mem_cons_of_mem _ hi, hfiles⟩

theorem exists_nodeAt_of_isDirectory {t : FileTree} {path : Path}
    (h : t.isDirectory path = true) : ∃ p, t.nodeAt path = .ok (p, .directory) := by
  unfold isDirectory at h
  split at h
  · rename_i p n hn
    cases n with
    | directory => exact ⟨p, hn⟩
    | file _ _ _ => cases h
    | link _ => cases h
  · cases h

theorem exists_nodeAt_of_isFile {t : FileTree} {path : Path} (h : t.isFile path = true) :
    ∃ p n, t.nodeAt path = .ok (p, n) ∧ n.isFile = true := by
  unfold isFile at h
  split at h
  · rename_i p n hn
    exact ⟨p, n, hn, h⟩
  · cases h

/-- A listed source file has the name of one, and its path leads to a file or is no path to
anything. -/
theorem nodeAt_of_mem_sourceFiles {t : FileTree} (ht : t.WellNamed) {inputs : List Path}
    {files : List SourceFile} (h : t.sourceFiles inputs = .ok files) {f : SourceFile}
    (hf : f ∈ files) :
    SourceFile.ofPath? f.path = some f ∧
      (checkPath f.path = .ok () →
        ∃ p n, t.nodeAt f.path = .ok (p, n) ∧ n.isFile = true) := by
  obtain ⟨input, -, own, hown, hf⟩ := exists_of_mem_sourceFiles h hf
  unfold sourceFilesOf at hown
  split at hown
  · rename_i hdirectory
    cases hown
    obtain ⟨p, hinput⟩ := exists_nodeAt_of_isDirectory hdirectory
    rw [sourceFilesBelow, (nodeAt_ok_iff.1 hinput).1, List.mem_filterMap] at hf
    obtain ⟨names, hnames, hfile⟩ := hf
    have hpath := SourceFile.path_of_ofPath? hfile
    rw [hpath]
    refine ⟨hfile, fun hcheck => ?_⟩
    obtain ⟨n, hn⟩ := nodeAt_pathBelow ht hinput hnames hcheck
    exact ⟨_, n, hn⟩
  · split at hown
    · rename_i hisFile
      cases hown
      have hfile := Option.mem_toList.1 hf
      have hpath := SourceFile.path_of_ofPath? hfile
      rw [hpath]
      exact ⟨hfile, fun _ => exists_nodeAt_of_isFile hisFile⟩
    · cases hown

end FileTree

end DecoratorGraph
