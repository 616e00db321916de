import DecoratorGraph.Proofs.Analysis.Footprint
import DecoratorGraph.Proofs.Analysis.Interleaving
import DecoratorGraph.Proofs.Extraction.Relocation
import DecoratorGraph.Proofs.ParseStore.Memory

/-!
# The paths that records name

A record names its file by the path in the parse that it comes from. A parse that is served was made
by an earlier load, and that load may have spelled the path in another way: the store tells places
apart, not spellings, so a file that is loaded under two spellings in a row is served under the
first (`served_of_respelled`). A run is looked at together with the loads that it has made so far.
All that is stored was parsed in one of them (`ParsedBy`), every load gives what one of them parsed
(`Load.ParsedIn`), and its records name the file as it was spelled there (`recorded_paths_iff`).
-/

namespace DecoratorGraph

namespace Load

def recorded (isMatch : String → Bool) (l : Load) : List Record :=
  ((l.outcome.records isMatch).toOption).getD []

/-- What the load `l` gives was read and parsed in the load `m`. -/
structure ParsedIn (l m : Load) : Prop where
  fresh : m.outcome.hit = false
  result : m.outcome.result = l.outcome.result
  same : m.file.path.same l.file.path = true

end Load

def Workspace.loadsOf (w : Workspace) : List SourceFile → List Load
  | [] => []
  | f :: files => ⟨w, f, id, id⟩ :: (w.load f).workspace.loadsOf files

def Call.loads (c : Call) : List Load :=
  match c.workspace.tree.sourceFiles c.inputs with
  | .error _ => []
  | .ok files => c.workspace.loadsOf files

/-- An entry with a parse that was made in one of the loads. -/
def ParsedBy (history : List Load) (e : StoredParse) : Prop :=
  ∃ m ∈ history, m.outcome.hit = false ∧ m.outcome.result = .ok e.parsed

/-- A run in which the others leave the files of the store alone. `before` is the tree as the last
analysis left it. -/
def Workspace.EntriesKept (isMatch : String → Bool) (base : ParseStore) (before : FileTree)
    (w : Workspace) : List Event → Prop
  | [] => True
  | .analyze inputs :: events =>
      base.Untouched before w.tree ∧
        EntriesKept isMatch base (w.step isMatch base (.analyze inputs)).tree
          (w.step isMatch base (.analyze inputs)) events
  | event :: events => EntriesKept isMatch base before (w.step isMatch base event) events

/-! ### One load -/

namespace Load

variable {isMatch : String → Bool} {l m : Load} {parsed : ParsedFile}

/-- A parse that is not served has the path under which the file is loaded. -/
theorem path_of_fresh (hfresh : l.outcome.hit = false) (hresult : l.outcome.result = .ok parsed) :
    parsed.path = l.file.path := by
  unfold outcome Workspace.loadAmid at hfresh hresult
  split at hresult
  · next hserved =>
      rw [hserved] at hfresh
      cases hfresh
  · dsimp only at hresult
    split at hresult
    · cases hresult
    · next hparse =>
        cases hresult
        exact SourceFile.path_of_parse hparse

theorem exists_parsed_of_mem_recorded {r : Record} (hr : r ∈ l.recorded isMatch) :
    ∃ parsed, l.outcome.result = .ok parsed ∧ r.file = parsed.path := by
  unfold recorded Loading.records at hr
  cases hresult : l.outcome.result with
  | error cause =>
      rw [hresult] at hr
      cases hr
  | ok parsed =>
      rw [hresult] at hr
      change r ∈ ((parsed.outcome isMatch).toOption).getD [] at hr
      unfold ParsedFile.outcome at hr
      cases hrecords : parsed.records isMatch with
      | error cause =>
          rw [hrecords] at hr
          cases hr
      | ok records =>
          rw [hrecords] at hr
          exact ⟨parsed, rfl, ParsedFile.file_of_mem_records hrecords hr⟩

/-- The records of a load name the file as the load spelled it that parsed it. -/
theorem ParsedIn.file_of_mem_recorded (h : l.ParsedIn m) {r : Record}
    (hr : r ∈ l.recorded isMatch) : r.file = m.file.path := by
  obtain ⟨parsed, hresult, hfile⟩ := exists_parsed_of_mem_recorded hr
  rw [hfile, path_of_fresh h.fresh (h.result.trans hresult)]

end Load

section Loads

variable {base s : ParseStore} {history more : List Load} {t : FileTree}

theorem ParsedBy.mono {e : StoredParse} (h : ParsedBy history e) (hmore : history ⊆ more) :
    ParsedBy more e := by
  obtain ⟨m, hm, hfresh, hresult⟩ := h
  exact ⟨m, hmore hm, hfresh, hresult⟩

/-- A load gives what it parses itself or what an earlier load parsed, and stores nothing else. -/
theorem parsedIn_load (hformat : ∀ e, base.format.decode? (base.format.encode e) = some e)
    (hs : base.Holds (ParsedBy history) t s) (f : SourceFile) :
    (∃ m ∈ history ++ [⟨⟨t, some s⟩, f, id, id⟩], (Load.mk ⟨t, some s⟩ f id id).ParsedIn m) ∧
      ∃ u s', (Workspace.load ⟨t, some s⟩ f).workspace = ⟨u, some s'⟩ ∧
        base.Holds (ParsedBy (history ++ [⟨⟨t, some s⟩, f, id, id⟩])) u s' := by
  have hlast : Load.mk ⟨t, some s⟩ f id id ∈ history ++ [⟨⟨t, some s⟩, f, id, id⟩] := by simp
  have hcurrent := (hs.current? f.path).mono fun e he =>
    he.mono (List.subset_append_left history [⟨⟨t, some s⟩, f, id, id⟩])
  have hfresh (h : (Load.mk ⟨t, some s⟩ f id id).outcome.hit = false) :
      (Load.mk ⟨t, some s⟩ f id id).ParsedIn ⟨⟨t, some s⟩, f, id, id⟩ :=
    ⟨h, rfl, Path.same_refl f.path⟩
  unfold Workspace.load
  rcases Workspace.loadAmid_cases id id t s f with
    ⟨parsed, hserved, hload⟩ | ⟨-, ⟨cause, hparse, hload⟩ | ⟨parsed, hparse, hload⟩⟩
  -- The entry that is served was parsed in an earlier load.
  · obtain ⟨e, hevidence, rfl, hsame, -⟩ :=
      ParseStore.current?_eq_some (fun e he => (hs.remembered e he).1) hserved
    obtain ⟨m, hm, hfresh', hresult⟩ := hs.evidence? hevidence
    rw [Load.path_of_fresh hfresh' hresult] at hsame
    refine ⟨⟨m, List.mem_append_left _ hm, hfresh', ?_, hsame⟩, ?_⟩
    · rw [hresult, Load.outcome, hload]
    · rw [hload]
      exact ⟨_, _, rfl, hcurrent⟩
  · refine ⟨⟨_, hlast, hfresh (by rw [Load.outcome, hload])⟩, ?_⟩
    rw [hload]
    exact ⟨_, _, rfl, hcurrent⟩
  · have hhit : (Load.mk ⟨t, some s⟩ f id id).outcome.hit = false := by rw [Load.outcome, hload]
    have hresult : (Load.mk ⟨t, some s⟩ f id id).outcome.result = .ok parsed := by
      rw [Load.outcome, hload]
    refine ⟨⟨_, hlast, hfresh hhit⟩, ?_⟩
    rw [hload]
    exact ⟨_, _, rfl, hcurrent.store hformat (SourceFile.same_path_of_parse hparse) fun _ _ =>
      ⟨_, hlast, hhit, hresult⟩⟩

/-- A file that is loaded once more while it is as it was is served as the first load spelled it. -/
theorem served_of_respelled {f g : SourceFile} (hspelling : f.path.same g.path = true)
    {parsed : ParsedFile} {state : FileState} (hstate : t.fileState f.path = .ok state)
    (hfresh : (Workspace.load ⟨t, some s⟩ f).hit = false)
    (hresult : (Workspace.load ⟨t, some s⟩ f).result = .ok parsed)
    (hkept : (Workspace.load ⟨t, some s⟩ f).workspace.tree.fileState g.path = .ok state) :
    ((Workspace.load ⟨t, some s⟩ f).workspace.load g).hit = true ∧
      ((Workspace.load ⟨t, some s⟩ f).workspace.load g).result = .ok parsed := by
  unfold Workspace.load at hfresh hresult hkept ⊢
  rcases Workspace.loadAmid_cases id id t s f with
    ⟨parsed', -, hload⟩ | ⟨-, ⟨cause, -, hload⟩ | ⟨parsed', -, hload⟩⟩
  · rw [hload] at hfresh
    cases hfresh
  · rw [hload] at hresult
    cases hresult
  · rw [hload] at hresult hkept
    rw [hload]
    cases hresult
    have hstore : ((s.current? t f.path).2.store t f.path parsed).store =
        (s.current? t f.path).2.remember f.path ⟨parsed, state⟩ := by
      rw [ParseStore.store_of_fileState hstate, ParseStore.save_store]
    have hmemory : ((s.current? t f.path).2.store t f.path parsed).store.remembered? g.path =
        some ⟨parsed, state⟩ := by
      rw [hstore, ParseStore.remembered?_remember_of_same hspelling]
    have hserved := congrArg Prod.fst (ParseStore.current?_of_remembered? hkept hmemory)
    rcases Workspace.loadAmid_cases id id ((s.current? t f.path).2.store t f.path parsed).tree
        ((s.current? t f.path).2.store t f.path parsed).store g with
      ⟨parsed', hserved', hload'⟩ | ⟨hnone, -⟩
    · rw [id_eq, id_eq, hload']
      cases hserved.symm.trans hserved'
      exact ⟨rfl, rfl⟩
    · cases hserved.symm.trans hnone

variable (isMatch : String → Bool)

theorem map_file_loadsOf (w : Workspace) (files : List SourceFile) :
    (w.loadsOf files).map Load.file = files := by
  induction files generalizing w with
  | nil => rfl
  | cons f files ih => rw [Workspace.loadsOf, List.map_cons, ih]

theorem records_analyzeFiles (w : Workspace) (files : List SourceFile) :
    (w.analyzeFiles isMatch files).2.records =
      (w.loadsOf files).flatMap (Load.recorded isMatch) := by
  induction files generalizing w with
  | nil => rfl
  | cons f files ih =>
      have hfile : (Report.ofFile f.path (w.load f).hit ((w.load f).records isMatch)).records =
          Load.recorded isMatch ⟨w, f, id, id⟩ := by
        have houtcome : (Load.mk w f id id).outcome = w.load f := rfl
        rw [Load.recorded, houtcome]
        cases (w.load f).records isMatch <;> rfl
      rw [Workspace.loadsOf, List.flatMap_cons, ← ih, ← hfile]
      rfl

theorem parsedIn_loadsOf (hformat : ∀ e, base.format.decode? (base.format.encode e) = some e)
    (hs : base.Holds (ParsedBy history) t s) (files : List SourceFile) :
    (∀ before l after, Workspace.loadsOf ⟨t, some s⟩ files = before ++ l :: after →
        ∃ m ∈ history ++ before ++ [l], l.ParsedIn m) ∧
      ∃ u s', (Workspace.analyzeFiles isMatch ⟨t, some s⟩ files).1 = ⟨u, some s'⟩ ∧
        base.Holds (ParsedBy (history ++ Workspace.loadsOf ⟨t, some s⟩ files)) u s' := by
  induction files generalizing history t s with
  | nil =>
      refine ⟨fun before l after h => absurd h (by simp [Workspace.loadsOf]), t, s, rfl, ?_⟩
      rwa [Workspace.loadsOf, List.append_nil]
  | cons f files ih =>
      obtain ⟨hparsed, u, s', hworkspace, hs'⟩ := parsedIn_load hformat hs f
      obtain ⟨hothers, hrest⟩ := ih hs'
      rw [Workspace.loadsOf, hworkspace]
      refine ⟨fun before l after h => ?_, ?_⟩
      · obtain ⟨rfl, heq⟩ | ⟨before', rfl, heq⟩ := List.cons_eq_append_iff.1 h
        · cases heq
          simpa using hparsed
        · simpa using hothers before' l after heq
      · simpa [Workspace.analyzeFiles, Workspace.analyzeFile, hworkspace] using hrest

end Loads

/-! ### Runs -/

namespace Workspace

variable (isMatch : String → Bool) {base s : ParseStore} {history : List Load}
  {before t : FileTree} {inputs : List Path}

theorem sameWays_load (w : Workspace) (f : SourceFile) :
    FileTree.SameWays w.tree (w.load f).workspace.tree := by
  obtain ⟨t, _ | s⟩ := w
  · rw [load_without_store]
    exact FileTree.SameWays.refl t
  · unfold Workspace.load
    obtain ⟨parsed, -, hload⟩ | ⟨-, ⟨cause, -, hload⟩ | ⟨parsed, -, hload⟩⟩ :=
      loadAmid_cases id id t s f <;> rw [hload]
    · exact FileTree.SameWays.refl t
    · exact FileTree.SameWays.refl t
    · obtain hsame | ⟨slot, content, -, hwrite⟩ :=
        ParseStore.tree_of_store t (s.current? t f.path).2 f.path parsed
      · simp only [id, hsame]
        exact FileTree.SameWays.refl t
      · obtain ⟨p, -, hput⟩ := FileTree.wrote_of_write hwrite
        exact (FileTree.wrote_putContent hput).sameWays

theorem Loads.sameWays {w w' : Workspace} (h : Loads w w') :
    FileTree.SameWays w.tree w'.tree := by
  induction h with
  | refl w => exact FileTree.SameWays.refl w.tree
  | @load w w' f _ ih => exact (sameWays_load w f).trans ih

/-- Opening a store anew over a directory that is there changes no file. -/
theorem tree_opened
    (hfound : ∀ directory, base.directory = some directory →
      ∃ place, t.nodeAt directory = .ok (place, .directory)) : (base.opened t).tree = t := by
  unfold ParseStore.opened ParseStore.openAt
  cases hdirectory : base.directory with
  | none => rfl
  | some directory =>
      obtain ⟨place, hplace⟩ := hfound directory hdirectory
      simp only [ParseStore.overDirectory, FileTree.makeDirectories_of_nodeAt hplace]

/-- Where only analyses are made and stores opened, over a directory that is there, the files of the
store are left alone. -/
theorem entriesKept_of_alone {events : List Event} (halone : ∀ u, .change u ∉ events)
    {w : Workspace} (hfound : ∀ directory, base.directory = some directory →
      ∃ place, w.tree.nodeAt directory = .ok (place, .directory)) :
    EntriesKept isMatch base w.tree w events := by
  induction events generalizing w with
  | nil => trivial
  | cons event events ih =>
      have hothers (u : FileTree) : .change u ∉ events := fun hmem => halone u (.tail _ hmem)
      cases event with
      | change u => exact absurd List.mem_cons_self (halone u)
      | reopen =>
          have htree := tree_opened hfound
          have hrest := ih hothers (w := base.opened w.tree) (by rwa [htree])
          rwa [htree] at hrest
      | analyze inputs =>
          have hways := (loads_analyze isMatch w inputs).sameWays
          refine ⟨ParseStore.Untouched.refl base w.tree, ih hothers fun directory hdirectory => ?_⟩
          obtain ⟨place, hplace⟩ := hfound directory hdirectory
          exact ⟨place, hways.nodeAt_directory hplace⟩

/-- After an analysis all entries were parsed in its loads or in earlier ones. -/
theorem parsedIn_analyze (hformat : ∀ e, base.format.decode? (base.format.encode e) = some e)
    (hs : base.Holds (ParsedBy history) t s) (inputs : List Path) :
    (∀ before l after, (Call.mk ⟨t, some s⟩ inputs).loads = before ++ l :: after →
        ∃ m ∈ history ++ before ++ [l], l.ParsedIn m) ∧
      ∃ u s', (analyze isMatch ⟨t, some s⟩ inputs).1 = ⟨u, some s'⟩ ∧
        base.Holds (ParsedBy (history ++ (Call.mk ⟨t, some s⟩ inputs).loads)) u s' := by
  cases hfiles : t.sourceFiles inputs with
  | error cause =>
      have hloads : (Call.mk ⟨t, some s⟩ inputs).loads = [] := by simp only [Call.loads, hfiles]
      have hworkspace : (analyze isMatch ⟨t, some s⟩ inputs).1 = ⟨t, some s⟩ := by
        simp only [analyze, hfiles]
      rw [hloads, List.append_nil]
      exact ⟨fun _ _ _ h => absurd h (by simp), t, s, hworkspace, hs⟩
  | ok files =>
      have hloads : (Call.mk ⟨t, some s⟩ inputs).loads = loadsOf ⟨t, some s⟩ files := by
        simp only [Call.loads, hfiles]
      have hworkspace : (analyze isMatch ⟨t, some s⟩ inputs).1 =
          (analyzeFiles isMatch ⟨t, some s⟩ files).1 := by
        simp only [analyze, hfiles]
      rw [hloads, hworkspace]
      exact parsedIn_loadsOf isMatch hformat hs files

/-- In a run every load gives what was parsed in it or in a load before it. The induction is on the
events; the entries were parsed in the loads up to the last analysis. -/
theorem parsedIn_of_calls (hformat : ∀ e, base.format.decode? (base.format.encode e) = some e)
    {events : List Event} (hs : base.Holds (ParsedBy history) before s)
    (hkept : EntriesKept isMatch base before ⟨t, some s⟩ events) {earlier later : List Call}
    {c : Call} (hcalls : calls isMatch base ⟨t, some s⟩ events = earlier ++ c :: later)
    {front back : List Load} {l : Load} (hloads : c.loads = front ++ l :: back) :
    ∃ m ∈ history ++ earlier.flatMap Call.loads ++ front ++ [l], l.ParsedIn m := by
  induction events generalizing history before t s earlier with
  | nil => exact absurd hcalls (by simp [calls])
  | cons event events ih =>
      cases event with
      | change u => exact ih hs hkept hcalls
      | reopen => exact ih (ParseStore.holds_openAt hs.saved t) hkept hcalls
      | analyze inputs =>
          obtain ⟨huntouched, hkept⟩ := hkept
          obtain ⟨hparsed, u, s', hstep, hs'⟩ :=
            parsedIn_analyze isMatch hformat (hs.untouched huntouched) inputs
          have hworkspace : step isMatch base ⟨t, some s⟩ (.analyze inputs) = ⟨u, some s'⟩ := hstep
          rw [calls, hworkspace] at hcalls
          rw [hworkspace] at hkept
          obtain ⟨rfl, heq⟩ | ⟨earlier', rfl, heq⟩ := List.cons_eq_append_iff.1 hcalls
          · cases heq
            simpa using hparsed front l back hloads
          · simpa using ih hs' hkept heq

/-- In every report the records of a file carry the path under which the file was parsed, in this
analysis or in an earlier one of the run. So they carry the paths that the inputs are listed with in
this analysis exactly if the parses that are served, as far as they give records, were made under
these very paths. -/
theorem recorded_paths_iff (base : ParseStore)
    (hformat : ∀ e, base.format.decode? (base.format.encode e) = some e) {t : FileTree}
    (hempty : ∀ p, base.saved? (base.opened t).tree p = none) {events : List Event}
    (hkept : EntriesKept isMatch base (base.opened t).tree (base.opened t) events)
    {earlier later : List Call} {c : Call}
    (hcalls : calls isMatch base (base.opened t) events = earlier ++ c :: later) {report : Report}
    (hreport : (c.workspace.analyze isMatch c.inputs).2 = .ok report) :
    c.workspace.tree.sourceFiles c.inputs = .ok (c.loads.map Load.file) ∧
      report.records = c.loads.flatMap (Load.recorded isMatch) ∧
      (∀ front l back, c.loads = front ++ l :: back →
        ∃ m ∈ earlier.flatMap Call.loads ++ front ++ [l], l.ParsedIn m ∧
          ∀ r ∈ l.recorded isMatch, r.file = m.file.path) ∧
      ((∀ l ∈ c.loads, ∀ r ∈ l.recorded isMatch, r.file = l.file.path) ↔
        ∀ front l back, c.loads = front ++ l :: back → l.recorded isMatch ≠ [] →
          ∃ m ∈ earlier.flatMap Call.loads ++ front ++ [l],
            l.ParsedIn m ∧ m.file.path = l.file.path) := by
  have hsaved : ∀ p e, base.saved? (base.opened t).tree p = some e → ParsedBy [] e := by
    intro p e he
    rw [hempty p] at he
    cases he
  have hparsed {front l back} (hloads : c.loads = front ++ l :: back) :
      ∃ m ∈ earlier.flatMap Call.loads ++ front ++ [l], l.ParsedIn m :=
    parsedIn_of_calls isMatch hformat (ParseStore.holds_openAt hsaved t) hkept hcalls hloads
  obtain ⟨files, hfiles⟩ : ∃ files, c.workspace.tree.sourceFiles c.inputs = .ok files := by
    cases hfiles : c.workspace.tree.sourceFiles c.inputs with
    | error cause =>
        rw [analyze, hfiles] at hreport
        cases hreport
    | ok files => exact ⟨files, rfl⟩
  have hloads : c.loads = c.workspace.loadsOf files := by rw [Call.loads, hfiles]
  have hrecords : report.records = c.loads.flatMap (Load.recorded isMatch) := by
    rw [analyze, hfiles] at hreport
    cases hreport
    rw [hloads, ← records_analyzeFiles]
  refine ⟨by rw [hfiles, hloads, map_file_loadsOf], hrecords, fun front l back h => ?_, ?_, ?_⟩
  · obtain ⟨m, hm, hlm⟩ := hparsed h
    exact ⟨m, hm, hlm, fun r hr => hlm.file_of_mem_recorded hr⟩
  · intro hlisted front l back h hne
    obtain ⟨m, hm, hlm⟩ := hparsed h
    obtain ⟨r, hr⟩ := List.exists_mem_of_ne_nil _ hne
    have hl : l ∈ c.loads := by
      rw [h]
      exact List.mem_append_right _ List.mem_cons_self
    exact ⟨m, hm, hlm, (hlm.file_of_mem_recorded hr).symm.trans (hlisted l hl r hr)⟩
  · intro hspelling l hl r hr
    obtain ⟨front, back, h⟩ := List.append_of_mem hl
    obtain ⟨m, -, hlm, hpath⟩ := hspelling front l back h (List.ne_nil_of_mem hr)
    rw [hlm.file_of_mem_recorded hr, hpath]

def respellings : List Event := [.analyze [⟨"./a.ts"⟩], .analyze [⟨".//a.ts"⟩]]

/-- The second report names the file as the first analysis spelled it. -/
theorem recorded_paths_of_respellings :
    ∃ earlier c report,
      calls (fun _ => true) unsaved (unsaved.opened (.oneFile "@C() class X {}" 0)) respellings =
        earlier ++ [c] ∧
      (c.workspace.analyze (fun _ => true) c.inputs).2 = .ok report ∧
      c.workspace.tree.sourceFiles c.inputs = .ok [⟨⟨".//a.ts"⟩, .typeScript⟩] ∧
      report.records.map Record.file = [⟨"./a.ts"⟩] ∧
      ¬∀ l ∈ c.loads, ∀ r ∈ l.recorded (fun _ => true), r.file = l.file.path := by
  have hkept : EntriesKept (fun _ => true) unsaved
      (unsaved.opened (.oneFile "@C() class X {}" 0)).tree
      (unsaved.opened (.oneFile "@C() class X {}" 0)) respellings :=
    entriesKept_of_alone _ (by simp [respellings]) nofun
  obtain ⟨earlier, c, hcalls, hinputs, hrecords⟩ : ∃ earlier c,
      calls (fun _ => true) unsaved (unsaved.opened (.oneFile "@C() class X {}" 0)) respellings =
        earlier ++ [c] ∧
      c.workspace.tree.sourceFiles c.inputs = .ok [⟨⟨".//a.ts"⟩, .typeScript⟩] ∧
      (c.workspace.analyze (fun _ => true) c.inputs).2.toOption.map
        (fun report => report.records.map Record.file) = some [⟨"./a.ts"⟩] :=
    ⟨[_], _, rfl, by decide +kernel, by decide +kernel⟩
  cases hreport : (c.workspace.analyze (fun _ => true) c.inputs).2 with
  | error cause =>
      rw [hreport] at hrecords
      cases hrecords
  | ok report =>
      obtain ⟨hlisted, hloads, -⟩ := recorded_paths_iff (fun _ => true) unsaved
        StoredParse.decode?_encode (fun _ => rfl) hkept hcalls hreport
      rw [hreport] at hrecords
      have hfiles : report.records.map Record.file = [⟨"./a.ts"⟩] := Option.some.inj hrecords
      refine ⟨earlier, c, report, hcalls, hreport, hinputs, hfiles, fun hsame => ?_⟩
      obtain ⟨r, hr, hfile⟩ : ∃ r ∈ report.records, r.file = ⟨"./a.ts"⟩ := by
        rw [← List.mem_map, hfiles]
        exact List.mem_cons_self
      rw [hloads] at hr
      obtain ⟨l, hl, hr⟩ := List.mem_flatMap.1 hr
      have hl' : l.file ∈ c.loads.map Load.file := List.mem_map_of_mem hl
      rw [← Except.ok.inj (hinputs.symm.trans hlisted), List.mem_singleton] at hl'
      have hpath := hfile.symm.trans (hsame l hl r hr)
      rw [hl'] at hpath
      exact absurd hpath (by decide)

end Workspace

end DecoratorGraph
