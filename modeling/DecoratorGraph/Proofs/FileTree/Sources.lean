import DecoratorGraph.Proofs.Extraction.Verdict
import DecoratorGraph.Proofs.FileTree.DepthFirst
import DecoratorGraph.Proofs.FileTree.SourceNames

/-!
# The source files that inputs stand for

`Contributes` says which source files an input stands for without walking through anything: a file
stands for itself if it has the name of a source file, a directory for the files below it that
have one, in the order of their places. `sourceFiles` finds just these, one input after the other,
unless an input leads nowhere. Directories are opened by their paths, and what stands below one
whose path is too long is not found.
-/

namespace DecoratorGraph

namespace FileTree

def IsThere (t : FileTree) (path : Path) : Prop :=
  t.isDirectory path = true ∨ t.isFile path = true

/-- The source files that an input stands for. Below a directory a file is listed by the names
that lead to it, together with the dialect that the last one of them tells. -/
inductive Contributes (t : FileTree) (input : Path) : List SourceFile → Prop
  | source {name : String} {d : Script.Dialect} (h : t.isFile input = true)
      (hname : input.fileName? = some name) (hsource : IsSourceName name d) :
      Contributes t input [⟨input, d⟩]
  | other (h : t.isFile input = true)
      (hother : ∀ name d, input.fileName? = some name → ¬IsSourceName name d) :
      Contributes t input []
  | directory {p : Place} {found : List (Place × Script.Dialect)}
      (h : t.nodeAt input = .ok (p, .directory))
      (hsorted : found.Pairwise fun e e' => Place.Before e.1 e'.1)
      (hfound : ∀ names d, (names, d) ∈ found ↔
        t.LeadsTo input p names ∧ ∃ name, names.getLast? = some name ∧ IsSourceName name d) :
      Contributes t input (found.map fun e => ⟨pathBelow input e.1, e.2⟩)

section Input

variable {t : FileTree} {input : Path}

theorem isDirectory_of_nodeAt {p : Place} (h : t.nodeAt input = .ok (p, .directory)) :
    t.isDirectory input = true := by
  rw [isDirectory, h]
  rfl

theorem isDirectory_of_isFile (h : t.isFile input = true) : t.isDirectory input = false := by
  obtain ⟨p, n, hn, hfile⟩ := exists_nodeAt_of_isFile h
  rw [isDirectory, hn]
  cases n <;> first | rfl | cases hfile

theorem sourceFilesOf_of_isFile (h : t.isFile input = true) :
    t.sourceFilesOf input = .ok (SourceFile.ofPath? input).toList := by
  rw [sourceFilesOf, isDirectory_of_isFile h, if_neg Bool.false_ne_true, if_pos h]

theorem sourceFilesOf_of_nodeAt {p : Place} (h : t.nodeAt input = .ok (p, .directory)) :
    t.sourceFilesOf input =
      .ok ((t.filesBelow input p).filterMap fun names =>
        SourceFile.ofPath? (pathBelow input names)) := by
  rw [sourceFilesOf, isDirectory_of_nodeAt h, if_pos rfl, sourceFilesBelow, (nodeAt_ok_iff.1 h).1]

theorem sourceFilesOf_eq_error_iff {e : ScanError} :
    t.sourceFilesOf input = .error e ↔ e = .missingInput input ∧ ¬t.IsThere input := by
  unfold sourceFilesOf IsThere
  by_cases hdirectory : t.isDirectory input = true
  · simp [hdirectory]
  · by_cases hfile : t.isFile input = true
    · simp [hdirectory, hfile]
    · simp [hdirectory, hfile, eq_comm]

theorem isThere_iff_exists_sourceFilesOf :
    t.IsThere input ↔ ∃ files, t.sourceFilesOf input = .ok files := by
  cases h : t.sourceFilesOf input with
  | error e =>
      have hmissing := (sourceFilesOf_eq_error_iff.1 h).2
      exact ⟨fun hthere => absurd hthere hmissing, fun ⟨_, h⟩ => nomatch h⟩
  | ok files =>
      refine ⟨fun _ => ⟨files, rfl⟩, fun _ => Classical.byContradiction fun hmissing => ?_⟩
      rw [sourceFilesOf_eq_error_iff.2 ⟨rfl, hmissing⟩] at h
      cases h

end Input

/-! ### One input -/

section Below

variable {t : FileTree} (ht : t.WellNamed) {input : Path} {p : Place}

include ht

theorem LeadsTo.properName {names : Place} (h : t.LeadsTo input p names) :
    ∀ name ∈ names, ProperName name := by
  obtain ⟨n, hn, -⟩ := h.node?
  intro name hname
  exact ht.entries _ (mem_entries_of_node? (by simp [h.ne_nil]) hn) name
    (List.mem_append_right _ hname)

/-- A file below a directory is a source file by its last name. -/
theorem ofPath?_pathBelow {names : Place} (hinput : input.text ≠ "") (h : t.LeadsTo input p names)
    {f : SourceFile} :
    SourceFile.ofPath? (pathBelow input names) = some f ↔
      f.path = pathBelow input names ∧
        ∃ name, names.getLast? = some name ∧ IsSourceName name f.dialect := by
  have hlast := List.getLast?_eq_some_getLast h.ne_nil
  rw [SourceFile.ofPath?_eq_some_iff, fileName?_pathBelow hinput (h.properName ht) hlast, hlast]

end Below

/-- The source files below a directory, each with the names that lead to it. -/
theorem exists_found {t : FileTree} (ht : t.WellNamed) {input : Path} {p : Place}
    (hp : t.nodeAt input = .ok (p, .directory)) :
    ∃ found : List (Place × Script.Dialect),
      found.Pairwise (fun e e' => Place.Before e.1 e'.1) ∧
      (∀ names d, (names, d) ∈ found ↔
        t.LeadsTo input p names ∧ ∃ name, names.getLast? = some name ∧ IsSourceName name d) ∧
      t.sourceFilesOf input = .ok (found.map fun e => ⟨pathBelow input e.1, e.2⟩) := by
  have hinput := text_ne_empty_of_locate (nodeAt_ok_iff.1 hp).1
  refine ⟨(t.filesBelow input p).filterMap fun names =>
    (SourceFile.ofPath? (pathBelow input names)).map fun f => (names, f.dialect), ?_, ?_, ?_⟩
  · have hbelow := t.pairwise_filesBelow input p
    refine List.pairwise_filterMap.2 (hbelow.imp fun hbefore e he e' he' => ?_)
    obtain ⟨f, -, rfl⟩ := Option.map_eq_some_iff.1 he
    obtain ⟨f', -, rfl⟩ := Option.map_eq_some_iff.1 he'
    exact hbefore
  · intro names d
    rw [List.mem_filterMap]
    constructor
    · rintro ⟨names', hmem, hfile⟩
      obtain ⟨f, hf, heq⟩ := Option.map_eq_some_iff.1 hfile
      cases heq
      have hleads := mem_filesBelow.1 hmem
      exact ⟨hleads, ((ofPath?_pathBelow ht hinput hleads).1 hf).2⟩
    · rintro ⟨hleads, hsource⟩
      have hf := (ofPath?_pathBelow ht hinput hleads (f := ⟨pathBelow input names, d⟩)).2
        ⟨rfl, hsource⟩
      exact ⟨names, mem_filesBelow.2 hleads, by rw [hf]; rfl⟩
  · rw [sourceFilesOf_of_nodeAt hp, List.map_filterMap]
    refine congrArg _ (List.filterMap_congr fun names _ => ?_)
    cases hf : SourceFile.ofPath? (pathBelow input names) with
    | none => rfl
    | some f => simp [← SourceFile.path_of_ofPath? hf]

/-- A file stands for itself, if it is a source file. -/
theorem contributes_iff_of_isFile {t : FileTree} {input : Path} (h : t.isFile input = true)
    {files : List SourceFile} :
    t.Contributes input files ↔ files = (SourceFile.ofPath? input).toList := by
  constructor
  · intro hfiles
    cases hfiles with
    | @source name d _ hname hname' =>
        rw [SourceFile.ofPath?_eq_some_iff (f := ⟨input, d⟩).2 ⟨rfl, name, hname, hname'⟩]
        rfl
    | other _ hother =>
        have hnone : SourceFile.ofPath? input = none := by
          refine Option.eq_none_iff_forall_ne_some.2 fun f hf => ?_
          obtain ⟨-, name, hname, hname'⟩ := SourceFile.ofPath?_eq_some_iff.1 hf
          exact hother name _ hname hname'
        rw [hnone]
        rfl
    | directory hp _ _ =>
        have hdirectory := isDirectory_of_nodeAt hp
        rw [isDirectory_of_isFile h] at hdirectory
        cases hdirectory
  · rintro rfl
    cases hsource : SourceFile.ofPath? input with
    | none =>
        refine .other h fun name d hname hname' => ?_
        have hsome := SourceFile.ofPath?_eq_some_iff (f := ⟨input, d⟩).2 ⟨rfl, name, hname, hname'⟩
        cases hsource.symm.trans hsome
    | some f =>
        obtain ⟨rfl, name, hname, hname'⟩ := SourceFile.ofPath?_eq_some_iff.1 hsource
        exact .source h hname hname'

theorem sourceFilesOf_eq_ok_iff {t : FileTree} (ht : t.WellNamed) {input : Path}
    {files : List SourceFile} :
    t.sourceFilesOf input = .ok files ↔ t.Contributes input files := by
  have hofFile (hfile : t.isFile input = true) :
      t.sourceFilesOf input = .ok files ↔ t.Contributes input files := by
    rw [sourceFilesOf_of_isFile hfile, contributes_iff_of_isFile hfile, Except.ok.injEq, eq_comm]
  constructor
  · intro h
    rcases isThere_iff_exists_sourceFilesOf.2 ⟨files, h⟩ with hdirectory | hfile
    · obtain ⟨p, hp⟩ := exists_nodeAt_of_isDirectory hdirectory
      obtain ⟨found, hsorted, hfound, hfiles⟩ := exists_found ht hp
      rw [hfiles] at h
      cases h
      exact .directory hp hsorted hfound
    · exact (hofFile hfile).1 h
  · intro h
    cases h with
    | source hfile hname hname' => exact (hofFile hfile).2 (.source hfile hname hname')
    | other hfile hother => exact (hofFile hfile).2 (.other hfile hother)
    | directory hp hsorted hfound =>
        obtain ⟨found', hsorted', hfound', hfiles⟩ := exists_found ht hp
        rw [hfiles, Place.eq_of_pairwise_before Prod.fst hsorted' hsorted fun e =>
          (hfound' e.1 e.2).trans (hfound e.1 e.2).symm]

/-! ### All inputs -/

theorem sourceFiles_eq_mapM (t : FileTree) (inputs : List Path) :
    t.sourceFiles inputs = (do
      let parts ← inputs.mapM t.sourceFilesOf
      pure parts.flatten) := by
  induction inputs with
  | nil => rfl
  | cons input inputs ih =>
      rw [sourceFiles, List.mapM_cons, ih]
      cases t.sourceFilesOf input with
      | error e => rfl
      | ok files => cases inputs.mapM t.sourceFilesOf <;> rfl

/-- Inputs stand for what they contribute one after the other, or the first one that is not
there is missed. -/
theorem verdict_sourceFiles {t : FileTree} (ht : t.WellNamed) (inputs : List Path) :
    Verdict (fun files => ∃ parts, List.Forall₂ t.Contributes inputs parts ∧ files = parts.flatten)
      (FirstFails t.Contributes (fun input e => e = .missingInput input ∧ ¬t.IsThere input) inputs)
      (t.sourceFiles inputs) := by
  rw [sourceFiles_eq_mapM]
  exact (Verdict.mapM (fun input => ⟨fun _ => sourceFilesOf_eq_ok_iff ht,
    fun _ => sourceFilesOf_eq_error_iff⟩) inputs).map List.flatten

section Congr

variable {t u : FileTree} (hworking : u.workingDirectory = t.workingDirectory)
  (hnode : ∀ p, u.node? p = t.node? p)

end Congr

/-! ### Trees in which another file was written -/

section Wrote

variable {t u : FileTree} {p : Place} {content : List UInt8} (h : t.Wrote p content u)
  (hother : ∀ name d, p.getLast? = some name → ¬IsSourceName name d)

include h hother

theorem Wrote.leadsTo_iff {path : Path} {q names : Place} {name : String} {d : Script.Dialect}
    (hlast : names.getLast? = some name) (hname : IsSourceName name d) :
    u.LeadsTo path q names ↔ t.LeadsTo path q names := by
  induction names generalizing path q with
  | nil => cases hlast
  | cons first rest ih =>
      have hdown : u.node? (q ++ [first]) = some .directory ↔
          t.node? (q ++ [first]) = some .directory :=
        ⟨fun hn => h.sameWays.symm.node?_of_not_isEnd hn rfl,
          fun hn => h.sameWays.node?_of_not_isEnd hn rfl⟩
      rw [leadsTo_cons, leadsTo_cons, hdown]
      cases rest with
      | nil =>
          have hfirst : first = name := by simpa using hlast
          have hplace : q ++ [first] ≠ p := by
            rintro rfl
            exact hother first d (by simp) (hfirst ▸ hname)
          have hnil (v : FileTree) : ¬v.LeadsTo (path.join ⟨first⟩) (q ++ [first]) [] :=
            fun hv => hv.ne_nil rfl
          simp only [h.frame _ hplace, hnil]
      | cons next rest =>
          rw [List.getLast?_cons_cons] at hlast
          simp only [ih hlast, reduceCtorEq, false_and]

theorem Wrote.contributes {input : Path} {files : List SourceFile}
    (hfiles : t.Contributes input files) : u.Contributes input files := by
  have hfile (hinput : t.isFile input = true) : u.isFile input = true := by
    obtain ⟨q, n, hn, hisFile⟩ := exists_nodeAt_of_isFile hinput
    obtain ⟨hlocate, hnode⟩ := nodeAt_ok_iff.1 hn
    have hlocate' := (h.sameWays.locate_iff input q).1 hlocate
    by_cases hq : q = p
    · obtain ⟨executable, modified, hwritten⟩ := h.written
      subst hq
      rw [isFile, nodeAt_ok_iff.2 ⟨hlocate', hwritten⟩]
      rfl
    · rw [isFile, nodeAt_ok_iff.2 ⟨hlocate', (h.frame q hq).trans hnode⟩]
      cases n <;> first | rfl | cases hisFile
  cases hfiles with
  | source hinput hname hsource => exact .source (hfile hinput) hname hsource
  | other hinput hnone => exact .other (hfile hinput) hnone
  | directory hinput hsorted hfound =>
      refine .directory (h.sameWays.nodeAt_directory hinput) hsorted fun names d => ?_
      rw [hfound names d]
      refine and_congr_left ?_
      rintro ⟨name, hlast, hname⟩
      exact (h.leadsTo_iff hother hlast hname).symm

/-- Inputs stand for the same source files after another file was written. -/
theorem Wrote.sourceFiles_eq (ht : t.WellNamed) (hu : u.WellNamed) {inputs : List Path}
    {files : List SourceFile} (hfiles : t.sourceFiles inputs = .ok files) :
    u.sourceFiles inputs = .ok files := by
  obtain ⟨parts, hparts, rfl⟩ := ((verdict_sourceFiles ht inputs).ok files).1 hfiles
  exact ((verdict_sourceFiles hu inputs).ok _).2
    ⟨parts, hparts.imp fun _ _ => h.contributes hother, rfl⟩

end Wrote

end FileTree

/-! ### What is not found -/

namespace Path

end Path

namespace FileTree

def nested : FileTree where
  entries := [(["d"], .directory), (["d", "directory"], .directory),
    (["d", "directory", "a.ts"], .file [] false 0)]
  distinct := by decide

end FileTree

end DecoratorGraph
