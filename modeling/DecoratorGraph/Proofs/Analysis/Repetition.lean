import DecoratorGraph.Proofs.Analysis.Independence
import DecoratorGraph.Proofs.Analysis.RecordedPaths
import DecoratorGraph.Proofs.Analysis.Steps
import DecoratorGraph.Proofs.Analysis.Transparency
import DecoratorGraph.Proofs.FileTree.Sources

/-!
# An analysis that is repeated

After a file was loaded it is *settled* what loading it gives: its parse is remembered together with
the state that the file has, or the file cannot be read and nothing is served for it. Loading a
settled file changes nothing (`Settled.load_eq`). `LoadStep` says once in which ways a file is
loaded, and from it a file is seen to stay settled while others are loaded (`Settled.load`), as long
as the file itself stays as it is. So after an analysis all listed files are settled, and a second
one takes every parse from the store that the first one had, wherever that one had it from.

A listed file stays as it is if the entries of the store stand beside the listed files. Through a
link an entry can be saved in a listed file, and then the second report is another one
(`analyze_again_of_linked`).
-/

namespace DecoratorGraph

/-- A file has the same state and the same text in two trees. -/
structure SourceFile.Unchanged (t u : FileTree) (f : SourceFile) : Prop where
  state : u.fileState f.path = t.fileState f.path
  text : u.readText f.path = t.readText f.path

/-- A load that changes none of the files that inputs stand for: the inputs stand for the same files
before and after it, and all of these are unchanged. -/
structure Load.LeavesSources (inputs : List Path) (l : Load) : Prop where
  listed : l.outcome.workspace.tree.sourceFiles inputs = l.workspace.tree.sourceFiles inputs
  unchanged : ∀ files, l.workspace.tree.sourceFiles inputs = .ok files →
    ∀ f ∈ files, f.Unchanged l.workspace.tree l.outcome.workspace.tree

/-- The entries of a store stand beside the files that inputs stand for: none has the name of a
source file, and none is saved in one of these files. -/
structure ParseStore.Beside (s : ParseStore) (t : FileTree) (inputs : List Path) : Prop where
  wellNamed : t.WellNamed
  names : ∀ p, s.Places t p → ∀ name d, p.getLast? = some name → ¬IsSourceName name d
  outside : ∀ files, t.sourceFiles inputs = .ok files → ∀ f ∈ files, s.Outside t f.path

namespace Workspace

/-- What loading a file gives is settled: its parse is remembered with the state that the file has,
or it cannot be parsed and nothing is served for it. -/
inductive Settled (t : FileTree) (s : ParseStore) (f : SourceFile) :
    Except FileError ParsedFile → Prop
  | remembered {e : StoredParse} (hstate : t.fileState f.path = .ok e.state)
      (hmemory : s.remembered? f.path = some e) : Settled t s f (.ok e.parsed)
  | refused {cause : FileError} (hparse : f.parse t = .error cause)
      (hserves : ∀ e, ¬s.Serves t f.path e) : Settled t s f (.error cause)

/-! ### One load -/

section Load

variable {t : FileTree} {s : ParseStore} {f g : SourceFile} {r : Except FileError ParsedFile}

/-- Loading a settled file leaves all as it is, and it is found in the store unless it cannot be
parsed. -/
theorem Settled.load_eq (h : Settled t s f r) :
    load ⟨t, some s⟩ f = ⟨⟨t, some s⟩, r, r.isOk⟩ := by
  cases h with
  | remembered hstate hmemory =>
      have hcurrent := ParseStore.current?_of_remembered? hstate hmemory
      simp only [load, loadAmid, Workspace.current?, hcurrent]
      rfl
  | refused hparse hserves =>
      obtain ⟨-, hcurrent⟩ | ⟨e, he, -⟩ := ParseStore.current?_cases s t f.path
      · simp only [load, loadAmid, Workspace.current?, hcurrent, mapTree, id, hparse]
        rfl
      · exact absurd he (hserves e)

/-- Nothing is put into memory for a settled file, so loading it comes back. -/
theorem Settled.load?_eq (h : Settled t s f r) :
    load? ⟨t, some s⟩ f = some ⟨⟨t, some s⟩, r, r.isOk⟩ := by
  rw [load?_of_ne_none, h.load_eq]
  intro hnone
  obtain ⟨-, hserves, parsed, hparse⟩ := load?_eq_none_iff.1 hnone
  cases h with
  | @remembered e hstate hmemory => exact hserves e ⟨hstate, Or.inl hmemory⟩
  | refused hparse' _ => cases hparse.symm.trans hparse'

variable {u : FileTree} {s' : ParseStore} {r' : Except FileError ParsedFile} {hit : Bool}

/-- A file is settled when it has been loaded. -/
theorem LoadStep.settled (h : LoadStep t s f ⟨⟨u, some s'⟩, r, hit⟩)
    (hroom : s.memoryCount < ParseStore.capacity) (hkept : f.Unchanged t u) :
    Settled u s' f r := by
  cases h with
  | remembered hserves hmemory => exact .remembered hserves.state hmemory
  | found hserves _ =>
      rw [if_pos hroom]
      exact .remembered hserves.state (ParseStore.remembered?_remember_of_same (Path.same_refl _))
  | failed hserves hparse => exact .refused hparse hserves
  | @stored parsed state _ _ hstate =>
      exact .remembered (e := ⟨parsed, state⟩) (hkept.state.trans hstate)
        (ParseStore.remembered?_remember_of_same (Path.same_refl _))

section Kept

variable (hformat : ∀ e, s.format.decode? (s.format.encode e) = some e)
  (hcongr : ∀ p q, p.same q = true → s.format.fileName p = s.format.fileName q)

include hcongr in
/-- An entry that is remembered stays in memory while files are loaded: it is served for every file
with its path. -/
theorem LoadStep.remembered?_eq (h : LoadStep t s g ⟨⟨u, some s'⟩, r, hit⟩) {e : StoredParse}
    (hstate : t.fileState f.path = .ok e.state) (hmemory : s.remembered? f.path = some e) :
    s'.remembered? f.path = some e := by
  cases h with
  | remembered _ _ => exact hmemory
  | found _ hnone =>
      have hother : ¬g.path.same f.path = true := fun hsame => by
        rw [ParseStore.remembered?_congr hsame, hmemory] at hnone
        cases hnone
      split
      · rwa [ParseStore.remembered?_remember_of_not_same hother]
      · exact hmemory
  | failed _ _ => exact hmemory
  | stored hserves _ hstate' =>
      have hserved : s.Serves t f.path e := ⟨hstate, Or.inl hmemory⟩
      have hother : ¬g.path.same f.path = true := fun hsame =>
        hserves e (hserved.of_same hcongr (Path.same_symm hsame) hstate')
      rwa [ParseStore.remembered?_remember_of_not_same hother]

include hformat hcongr in
/-- A file for which nothing is served and that cannot be parsed stays so while files are loaded:
what is stored is never a parse of this file. -/
theorem LoadStep.not_serves (h : LoadStep t s g ⟨⟨u, some s'⟩, r, hit⟩) {cause : FileError}
    (hparse : f.parse t = .error cause) (hserves : ∀ e, ¬s.Serves t f.path e)
    (hkept : f.Unchanged t u) (e : StoredParse) : ¬s'.Serves u f.path e := by
  intro he
  have hfile : t.fileState f.path = .ok e.state := hkept.state ▸ he.state
  cases h with
  | remembered _ _ => exact hserves e he
  | @found e' hg _ =>
      have hother : ¬g.path.same f.path = true := fun hsame =>
        hserves e' (hg.of_same hcongr hsame hfile)
      split at he
      · exact hserves e ((ParseStore.serves_remember_of_not_same hother).1 he)
      · exact hserves e he
  | failed _ _ => exact hserves e he
  | stored _ hg hstate =>
      have hother : ¬g.path.same f.path = true := fun hsame => by
        obtain ⟨text, htext, -⟩ := SourceFile.parse_ok_iff.1 hg
        rw [FileTree.readText_eq_of_same hsame hstate hfile] at htext
        rw [SourceFile.parse_ok_iff.2 ⟨text, htext, rfl⟩] at hparse
        cases hparse
      have hown := SourceFile.same_path_of_parse hg
      exact hserves e (he.of_store hformat hstate hown hother hkept.state)

include hformat hcongr in
/-- A settled file stays settled while files are loaded. -/
theorem Settled.load (h : Settled t s f r) (hload : load ⟨t, some s⟩ g = ⟨⟨u, some s'⟩, r', hit⟩)
    (hkept : f.Unchanged t u) : Settled u s' f r := by
  have hstep := loadStep_of_load hload
  cases h with
  | remembered hstate hmemory =>
      exact .remembered (hkept.state.trans hstate) (hstep.remembered?_eq hcongr hstate hmemory)
  | refused hparse hserves =>
      exact .refused ((SourceFile.parse_congr hkept.text).trans hparse)
        (hstep.not_serves hformat hcongr hparse hserves hkept)

end Kept

end Load

/-! ### One analysis -/

section Files

variable (isMatch : String → Bool) {t u : FileTree} {s s' : ParseStore} {f : SourceFile}
  {files : List SourceFile} {r : Except FileError ParsedFile}

theorem exists_analyzeFiles (t : FileTree) (s : ParseStore) (files : List SourceFile) :
    ∃ u s', (analyzeFiles isMatch ⟨t, some s⟩ files).1 = ⟨u, some s'⟩ ∧ s.Fuller s' := by
  induction files generalizing t s with
  | nil => exact ⟨t, s, rfl, .refl s⟩
  | cons f files ih =>
      obtain ⟨u, s', r, hit, hload, hfuller⟩ := exists_load t s f
      obtain ⟨v, s'', hrest, hfuller'⟩ := ih u s'
      refine ⟨v, s'', ?_, hfuller.trans hfuller'⟩
      simpa only [analyzeFiles, analyzeFile, hload] using hrest

section First

variable {g : SourceFile} {hit : Bool} (hload : load ⟨t, some s⟩ g = ⟨⟨u, some s'⟩, r, hit⟩)

include hload

theorem outcome_of_load : (Load.mk ⟨t, some s⟩ g id id).outcome = ⟨⟨u, some s'⟩, r, hit⟩ := hload

theorem loadsOf_cons :
    loadsOf ⟨t, some s⟩ (g :: files) = ⟨⟨t, some s⟩, g, id, id⟩ :: loadsOf ⟨u, some s'⟩ files := by
  rw [loadsOf, hload]

theorem analyzeFiles_cons :
    (analyzeFiles isMatch ⟨t, some s⟩ (g :: files)).1 =
      (analyzeFiles isMatch ⟨u, some s'⟩ files).1 := by
  simp only [analyzeFiles, analyzeFile, hload]

end First

section Kept

variable (hformat : ∀ e, s.format.decode? (s.format.encode e) = some e)
  (hcongr : ∀ p q, p.same q = true → s.format.fileName p = s.format.fileName q)
  (hfinal : (analyzeFiles isMatch ⟨t, some s⟩ files).1 = ⟨u, some s'⟩)

include hformat hcongr hfinal

/-- A settled file stays settled while files are analysed that leave it unchanged. -/
theorem Settled.analyzeFiles (h : Settled t s f r)
    (hkept : ∀ l ∈ loadsOf ⟨t, some s⟩ files,
      f.Unchanged l.workspace.tree l.outcome.workspace.tree) : Settled u s' f r := by
  induction files generalizing t s with
  | nil =>
      cases hfinal
      exact h
  | cons g files ih =>
      obtain ⟨v, s₁, r', hit, hload, hfuller⟩ := exists_load t s g
      rw [analyzeFiles_cons isMatch hload] at hfinal
      rw [loadsOf_cons hload, List.forall_mem_cons, outcome_of_load hload] at hkept
      obtain ⟨hfirst, hothers⟩ := hkept
      have hsettled := h.load hformat hcongr hload hfirst
      rw [← hfuller.format] at hformat hcongr
      exact ih hformat hcongr hfinal hsettled hothers

/-- After an analysis all files that it has loaded are settled. -/
theorem settled_of_mem_loadsOf (hroom : s'.memoryCount < ParseStore.capacity)
    (hkept : ∀ l ∈ loadsOf ⟨t, some s⟩ files, ∀ f ∈ files,
      f.Unchanged l.workspace.tree l.outcome.workspace.tree) :
    ∀ l ∈ loadsOf ⟨t, some s⟩ files, Settled u s' l.file l.outcome.result := by
  induction files generalizing t s with
  | nil => exact nofun
  | cons g files ih =>
      obtain ⟨v, s₁, r', hit, hload, hfuller⟩ := exists_load t s g
      obtain ⟨v', s₂, hrest, hfuller'⟩ := exists_analyzeFiles isMatch v s₁ files
      rw [analyzeFiles_cons isMatch hload] at hfinal
      cases hfinal.symm.trans hrest
      rw [loadsOf_cons hload, List.forall_mem_cons, outcome_of_load hload] at hkept
      obtain ⟨hfirst, hothers⟩ := hkept
      rw [loadsOf_cons hload, List.forall_mem_cons, outcome_of_load hload]
      rw [← hfuller.format] at hformat hcongr
      constructor
      · have hbelow : s.memoryCount < ParseStore.capacity :=
          Nat.lt_of_le_of_lt (hfuller.trans hfuller').count hroom
        have hsettled := (loadStep_of_load hload).settled hbelow (hfirst g List.mem_cons_self)
        exact hsettled.analyzeFiles isMatch hformat hcongr hrest fun l hl =>
          hothers l hl g List.mem_cons_self
      · exact ih hformat hcongr hrest fun l hl f hf =>
          hothers l hl f (List.mem_cons_of_mem g hf)

end Kept

/-! ### Reports -/

theorem records_congr {l m : Loading} (h : l.result = m.result) :
    l.records isMatch = m.records isMatch := by
  rw [Loading.records, Loading.records, h]

theorem report_analyzeFiles (w : Workspace) (files : List SourceFile) :
    (analyzeFiles isMatch w files).2 = .combine ((w.loadsOf files).map fun l =>
      .ofFile l.file.path l.outcome.hit (l.outcome.records isMatch)) := by
  induction files generalizing w with
  | nil => rfl
  | cons f files ih =>
      rw [loadsOf, List.map_cons, Report.combine, ← ih]
      rfl

/-- An analysis of settled files changes nothing, and finds all of them in the store but for those
that cannot be parsed. -/
theorem analyzeFiles?_of_settled {loads : List Load}
    (h : ∀ l ∈ loads, Settled t s l.file l.outcome.result) :
    analyzeFiles? isMatch ⟨t, some s⟩ (loads.map Load.file) =
      some (⟨t, some s⟩, .combine (loads.map fun l =>
        .ofFile l.file.path l.outcome.result.isOk (l.outcome.records isMatch))) := by
  induction loads with
  | nil => rfl
  | cons l loads ih =>
      obtain ⟨hl, hloads⟩ := List.forall_mem_cons.1 h
      have hrecords : Loading.records isMatch
          ⟨⟨t, some s⟩, l.outcome.result, l.outcome.result.isOk⟩ = l.outcome.records isMatch :=
        records_congr isMatch rfl
      simp only [List.map_cons, analyzeFiles?, hl.load?_eq, bind, Option.bind_some, ih hloads,
        Option.map_some, hrecords, Report.combine]

/-- Which files were found in the store shows in their number only. -/
theorem combine_hits (hits : Load → Bool) (loads : List Load) :
    Report.combine (loads.map fun l =>
        .ofFile l.file.path (hits l) (l.outcome.records isMatch)) =
      { Report.combine (loads.map fun l =>
          .ofFile l.file.path false (l.outcome.records isMatch)) with
        storeHits := loads.countP hits } := by
  induction loads with
  | nil => rfl
  | cons l loads ih =>
      rw [List.map_cons, List.map_cons, Report.combine, Report.combine, ih, List.countP_cons]
      cases l.outcome.records isMatch <;> cases hits l <;>
        simp [Report.append_def, Report.ofFile, Nat.add_comm]

end Files

/-! ### Entries beside the source files -/

section Beside

variable {t u : FileTree} {s s' : ParseStore} {inputs : List Path} {files : List SourceFile}

/-- A source file that is no entry is unchanged when an entry is saved. -/
theorem unchanged_of_wrote (h : s.Beside t inputs) (hfiles : t.sourceFiles inputs = .ok files)
    {p : Place} {content : List UInt8} (hp : s.Places t p) (hwrote : t.Wrote p content u)
    {f : SourceFile} (hf : f ∈ files) : f.Unchanged t u := by
  obtain ⟨-, hfound⟩ := FileTree.nodeAt_of_mem_sourceFiles h.wellNamed hfiles hf
  have hwritten : FileTree.WrittenAt (· = p) t u := ⟨hwrote.sameWays, hwrote.frame⟩
  have hnode : u.nodeAt f.path = t.nodeAt f.path := by
    refine hwritten.nodeAt_eq fun hcheck => ?_
    obtain ⟨q, n, hn, -⟩ := hfound hcheck
    refine ⟨q, n, hn, ?_⟩
    rintro rfl
    obtain ⟨r, slot, hslot, hlocate⟩ := hp
    exact h.outside files hfiles f hf r slot q hslot hlocate (FileTree.nodeAt_ok_iff.1 hn).1
  refine ⟨FileTree.fileState_congr hnode fun q n hn => ?_, FileTree.readText_congr hnode⟩
  obtain ⟨q', n', hn', hfile⟩ :=
    hfound (FileTree.locate_ok_iff.1 (FileTree.nodeAt_ok_iff.1 hn).1).1
  cases hn.symm.trans hn'
  exact hfile

/-- Where the entries stand beside the source files, loading a file leaves these as they are, and
the entries still stand beside them. -/
theorem beside_of_load (h : s.Beside t inputs) (hfiles : t.sourceFiles inputs = .ok files)
    {f : SourceFile} {r : Except FileError ParsedFile} {hit : Bool}
    (hload : load ⟨t, some s⟩ f = ⟨⟨u, some s'⟩, r, hit⟩) :
    s'.Beside u inputs ∧ u.sourceFiles inputs = .ok files ∧ ∀ g ∈ files, g.Unchanged t u := by
  obtain ⟨_, _, _, _, hload', hfuller⟩ := exists_load t s f
  cases hload.symm.trans hload'
  have hslot (q : Path) : s'.slot? q = s.slot? q := by
    simp only [ParseStore.slot?, hfuller.format, hfuller.directory]
  have hways : FileTree.SameWays t u := by simpa only [hload] using sameWays_load ⟨t, some s⟩ f
  have hplaces {p : Place} : s'.Places u p → s.Places t p := by
    rintro ⟨q, slot, hq, hlocate⟩
    exact ⟨q, slot, (hslot q).symm.trans hq, (hways.locate_iff slot p).2 hlocate⟩
  -- A load writes one file of the store at most, and that is no source file.
  obtain ⟨hu, hfiles', hkept⟩ : u.WellNamed ∧ u.sourceFiles inputs = .ok files ∧
      ∀ g ∈ files, g.Unchanged t u := by
    rcases (loadStep_of_load hload).tree_eq_or with rfl | ⟨q, slot, content, hq, hwrite⟩
    · exact ⟨h.wellNamed, hfiles, fun _ _ => ⟨rfl, rfl⟩⟩
    · obtain ⟨p, hlocate, hput⟩ := FileTree.wrote_of_write hwrite
      have hwrote := FileTree.wrote_putContent hput
      have hp : s.Places t p := ⟨q, slot, hq, hlocate⟩
      have hu := h.wellNamed.write hwrite
      exact ⟨hu, hwrote.sourceFiles_eq (h.names p hp) h.wellNamed hu hfiles,
        fun g hg => unchanged_of_wrote h hfiles hp hwrote hg⟩
  refine ⟨⟨hu, fun p hp => h.names p (hplaces hp), ?_⟩, hfiles', hkept⟩
  intro files' hlisted g hg q slot p hq hlocate
  cases hfiles'.symm.trans hlisted
  rw [ne_eq, ← hways.locate_iff]
  exact h.outside files hfiles g hg q slot p ((hslot q).symm.trans hq)
    ((hways.locate_iff slot p).2 hlocate)

theorem leavesSources_of_mem_loadsOf {loaded : List SourceFile} (h : s.Beside t inputs)
    (hfiles : t.sourceFiles inputs = .ok files) :
    ∀ l ∈ loadsOf ⟨t, some s⟩ loaded, l.LeavesSources inputs := by
  induction loaded generalizing t s with
  | nil => exact nofun
  | cons f loaded ih =>
      obtain ⟨u, s', r, hit, hload, -⟩ := exists_load t s f
      obtain ⟨hbeside, hfiles', hkept⟩ := beside_of_load h hfiles hload
      rw [loadsOf_cons hload, List.forall_mem_cons]
      refine ⟨⟨?_, fun files' hlisted => ?_⟩, ih hbeside hfiles'⟩
      · rw [outcome_of_load hload, hfiles, hfiles']
      · cases hfiles.symm.trans hlisted
        rwa [outcome_of_load hload]

/-- An analysis leaves the source files as they are, if the entries stand beside them. -/
theorem leavesSources_of_beside (h : s.Beside t inputs) :
    ∀ l ∈ (Call.mk ⟨t, some s⟩ inputs).loads, l.LeavesSources inputs := by
  unfold Call.loads
  cases hfiles : t.sourceFiles inputs with
  | error cause => exact nofun
  | ok files => exact leavesSources_of_mem_loadsOf h hfiles

end Beside

/-! ### The same analysis twice -/

section Twice

variable (isMatch : String → Bool) {t u : FileTree} {s s' : ParseStore} {inputs : List Path}

theorem sourceFiles_of_leavesSources {files : List SourceFile} (w : Workspace)
    (hkept : ∀ l ∈ w.loadsOf files, l.LeavesSources inputs) :
    (analyzeFiles isMatch w files).1.tree.sourceFiles inputs = w.tree.sourceFiles inputs ∧
      ∀ l ∈ w.loadsOf files, l.workspace.tree.sourceFiles inputs = w.tree.sourceFiles inputs := by
  induction files generalizing w with
  | nil => exact ⟨rfl, nofun⟩
  | cons f files ih =>
      obtain ⟨hfirst, hothers⟩ := List.forall_mem_cons.1 hkept
      obtain ⟨hfinal, hbetween⟩ := ih (w.load f).workspace hothers
      have hlisted : (w.load f).workspace.tree.sourceFiles inputs = w.tree.sourceFiles inputs :=
        hfirst.listed
      rw [hlisted] at hfinal hbetween
      exact ⟨hfinal, List.forall_mem_cons.2 ⟨rfl, hbetween⟩⟩

/-- An analysis that is repeated, while the entries of the store stand beside the files that it
looks at and there is room in memory, leaves all as it is and gives the same report once more, in
which as many files are found in the store as the first analysis could load, wherever that one had
their parses from. What was stored before makes no difference, and neither do inputs that stand for
a file twice. -/
theorem analyze_again (hformat : ∀ e, s.format.decode? (s.format.encode e) = some e)
    (hcongr : ∀ p q, p.same q = true → s.format.fileName p = s.format.fileName q)
    (hbeside : s.Beside t inputs) {report : Report}
    (hfirst : analyze? isMatch ⟨t, some s⟩ inputs = some (⟨u, some s'⟩, .ok report))
    (hroom : s'.memoryCount < ParseStore.capacity) :
    analyze? isMatch ⟨u, some s'⟩ inputs =
      some (⟨u, some s'⟩, .ok ⟨report.records, report.errors, report.filesAnalyzed,
        (Call.mk ⟨t, some s⟩ inputs).loads.countP fun l => l.outcome.result.isOk⟩) := by
  have hkept := leavesSources_of_beside hbeside
  cases hfiles : t.sourceFiles inputs with
  | error cause =>
      rw [analyze?, hfiles] at hfirst
      cases hfirst
  | ok files =>
      have hloads : (Call.mk ⟨t, some s⟩ inputs).loads = loadsOf ⟨t, some s⟩ files := by
        simp only [Call.loads, hfiles]
      rw [hloads] at hkept ⊢
      obtain ⟨hlisted, hbetween⟩ := sourceFiles_of_leavesSources isMatch _ hkept
      simp only [analyze?, hfiles, Option.map_eq_some_iff] at hfirst
      obtain ⟨⟨w, _⟩, hanalysis, heq⟩ := hfirst
      cases heq
      have hfinal := analyzeFiles?_eq_some hanalysis
      obtain ⟨hfinal, hreport⟩ := Prod.ext_iff.1 hfinal
      simp only at hfinal hreport
      have hsettled : ∀ l ∈ loadsOf ⟨t, some s⟩ files, Settled u s' l.file l.outcome.result :=
        settled_of_mem_loadsOf isMatch hformat hcongr hfinal hroom fun l hl f hf =>
          (hkept l hl).unchanged files ((hbetween l hl).trans hfiles) f hf
      have hagain := analyzeFiles?_of_settled isMatch hsettled
      rw [map_file_loadsOf] at hagain
      rw [hfinal, hfiles] at hlisted
      rw [report_analyzeFiles, combine_hits] at hreport
      rw [combine_hits] at hagain
      simp only [analyze?, hlisted, hagain, ← hreport, Option.map_some]

end Twice

def mixtureWithStore : FileTree where
  entries := (["store"], .directory) :: mixture.entries
  distinct := by decide

def repeated : List Path := [⟨"./a.ts"⟩, ⟨"b.ts"⟩, ⟨"c.ts"⟩, ⟨".//a.ts"⟩]

theorem beside_repeated : ParseStore.Beside .colliding mixtureWithStore repeated := by
  obtain ⟨files, hfiles, houtside⟩ : ∃ files, mixtureWithStore.sourceFiles repeated = .ok files ∧
      ∀ f ∈ files, mixtureWithStore.locate ⟨"store/entry"⟩ ≠ mixtureWithStore.locate f.path :=
    ⟨[⟨⟨"./a.ts"⟩, .typeScript⟩, ⟨⟨"b.ts"⟩, .typeScript⟩, ⟨⟨"c.ts"⟩, .typeScript⟩,
      ⟨⟨".//a.ts"⟩, .typeScript⟩], by decide +kernel, by decide +kernel⟩
  refine ⟨⟨by decide, by decide⟩, ?_, ?_⟩
  · rintro p ⟨q, slot, hslot, hlocate⟩ name d hlast ⟨⟨stem, -, ending, -, hname⟩, -⟩
    cases (ParseStore.colliding_slot? q).symm.trans hslot
    have hplace : mixtureWithStore.locate ⟨"store/entry"⟩ = .ok ["store", "entry"] := by
      decide +kernel
    cases hplace.symm.trans hlocate
    have hentry : "entry" = stem ++ "." ++ ending := (Option.some.inj hlast).trans hname
    have hdot : '.' ∈ "entry".toList := by
      rw [hentry]
      simp
    exact absurd hdot (by decide)
  · intro files' hlisted f hf q slot p hslot hlocate hpath
    cases hfiles.symm.trans hlisted
    cases (ParseStore.colliding_slot? q).symm.trans hslot
    exact houtside f hf (hlocate.trans hpath.symm)

/-- The entries share one file, so only memory can serve the first file once more. The file that is
no text is read again, and the one whose configuration is refused is found in the store. -/
theorem analyze_again_of_repeated :
    ∃ u s' report,
      analyze? (fun _ => true) ⟨mixtureWithStore, some .colliding⟩ repeated =
        some (⟨u, some s'⟩, .ok report) ∧
      (report.records.length, report.errors.length, report.filesAnalyzed, report.storeHits) =
        (2, 2, 4, 1) ∧
      analyze? (fun _ => true) ⟨u, some s'⟩ repeated =
        some (⟨u, some s'⟩, .ok ⟨report.records, report.errors, report.filesAnalyzed, 3⟩) := by
  have hfirst : (analyze? (fun _ => true) ⟨mixtureWithStore, some .colliding⟩ repeated).map
      (fun outcome => (outcome.1.store.map ParseStore.memoryCount,
        outcome.2.toOption.map fun report => (report.records.length, report.errors.length,
          report.filesAnalyzed, report.storeHits))) = some (some 2, some (2, 2, 4, 1)) := by
    decide +kernel
  have hloaded : (Call.mk ⟨mixtureWithStore, some .colliding⟩ repeated).loads.countP
      (fun l => l.outcome.result.isOk) = 3 := by
    decide +kernel
  obtain ⟨⟨⟨u, store⟩, result⟩, hreport, hcounts⟩ := Option.map_eq_some_iff.1 hfirst
  obtain ⟨hcount, hresult⟩ := Prod.mk.inj hcounts
  obtain ⟨s', rfl, hmemory⟩ := Option.map_eq_some_iff.1 hcount
  obtain ⟨report, hok, hlengths⟩ := Option.map_eq_some_iff.1 hresult
  cases result with
  | error cause => cases hok
  | ok _ =>
      cases hok
      have hroom : s'.memoryCount < ParseStore.capacity := by
        rw [hmemory]
        decide
      have hagain := analyze_again (fun _ => true) StoredParse.decode?_encode (fun _ _ _ => rfl)
        beside_repeated hreport hroom
      rw [hloaded] at hagain
      exact ⟨u, s', report, hreport, hlengths, hagain⟩

/-- The entry for a file is a link to the file itself. -/
def linked : FileTree where
  entries := [(["store"], .directory),
    (["store", StoredParse.hashedName ⟨"a.ts"⟩], .link ⟨"../a.ts"⟩),
    (["a.ts"], .file (Text.Utf8.encode "@C() class A \x7b\x7d") false 0)]
  distinct := by decide +kernel

/-- Where an entry is saved in the file that was read for it, the second report differs from the
first one: the file is no text any more. -/
theorem analyze_again_of_linked :
    ∃ outcome outcome' report report',
      analyze? (fun _ => true) ⟨linked, some (.empty StoredParse.format (some ⟨"store"⟩))⟩
        [⟨"a.ts"⟩] = some outcome ∧
      outcome.1.store.map ParseStore.memoryCount = some 1 ∧
      analyze? (fun _ => true) outcome.1 [⟨"a.ts"⟩] = some outcome' ∧
      outcome.2.toOption = some report ∧ outcome'.2.toOption = some report' ∧
      report.records.length = 1 ∧ report.errors = [] ∧ report'.records = [] ∧
      report'.errors = [(⟨"a.ts"⟩, .unreadable ⟨"a.ts"⟩ .notText)] ∧ report'.storeHits = 0 := by
  obtain ⟨hcount, hreports⟩ :
      (analyze? (fun _ => true) ⟨linked, some (.empty StoredParse.format (some ⟨"store"⟩))⟩
        [⟨"a.ts"⟩]).map (fun outcome => outcome.1.store.map ParseStore.memoryCount) =
          some (some 1) ∧
      (analyze? (fun _ => true) ⟨linked, some (.empty StoredParse.format (some ⟨"store"⟩))⟩
        [⟨"a.ts"⟩]).bind (fun outcome =>
          (analyze? (fun _ => true) outcome.1 [⟨"a.ts"⟩]).map fun outcome' =>
            (outcome.2.toOption, outcome'.2.toOption)) =
        some (some ⟨[⟨"A", ⟨"a.ts"⟩, ⟨some [], some [], some []⟩⟩], [], 1, 0⟩,
          some ⟨[], [(⟨"a.ts"⟩, .unreadable ⟨"a.ts"⟩ .notText)], 1, 0⟩) := by
    decide +kernel
  obtain ⟨outcome, hfirst, hrest⟩ := Option.bind_eq_some_iff.1 hreports
  obtain ⟨outcome', hsecond, heq⟩ := Option.map_eq_some_iff.1 hrest
  obtain ⟨hreport, hreport'⟩ := Prod.mk.inj heq
  rw [hfirst] at hcount
  exact ⟨outcome, outcome', _, _, hfirst, Option.some.inj hcount, hsecond, hreport, hreport', rfl,
    rfl, rfl, rfl, rfl⟩

end Workspace

end DecoratorGraph
