import Mathlib.Data.List.Basic
import DecoratorGraph.CommandLine.Run
import DecoratorGraph.Proofs.Analysis.Footprint
import DecoratorGraph.Proofs.Analysis.Strictness
import DecoratorGraph.Proofs.Drawing.Splicing
import DecoratorGraph.Proofs.Json.Document

/-!
# When a run writes its output

A run first makes a plan, and whatever is wrong with the options, the template or the pattern ends
it with the files as they were. Then it analyses the inputs, and as long as no link stands in the
directory of the store, this changes files in that directory only. The output comes last and takes
nothing from the analysis but its records, those of the mode that goes on behind failures: in the
strict mode the output is reached only if no file failed, and then the two modes agree.
-/

namespace DecoratorGraph.CommandLine.Invocation

open FileTree (Grown NoLinkIn SameFilesBeside)

variable {i : Invocation} {e : Environment} {t : FileTree} {p : Plan}

/-! ### The plan -/

/-- A plan holds the settings of all layers, the template if one is needed, and the pattern. -/
theorem of_plan_eq_ok (h : i.plan t = .ok p) :
    (∃ layer, i.fileSettings t = .ok layer ∧
      p.settings = Settings.resolve (layer.overlay i.settings)) ∧
    i.template? p.settings t = .ok p.template ∧ NamePattern.ofText? i.pattern = some p.pattern := by
  unfold plan Except.mapError at h
  cases hlayer : i.fileSettings t with
  | error cause => simp [hlayer, bind, Except.bind] at h
  | ok layer =>
      cases htemplate : i.template? (Settings.resolve (layer.overlay i.settings)) t with
      | error cause => simp [hlayer, htemplate, bind, Except.bind] at h
      | ok template =>
          cases hpattern : NamePattern.ofText? i.pattern with
          | none => simp [hlayer, htemplate, hpattern, bind, Except.bind] at h
          | some pattern =>
              simp only [hlayer, htemplate, hpattern, bind, Except.bind, Except.ok.injEq] at h
              subst h
              exact ⟨⟨layer, rfl, rfl⟩, htemplate, rfl⟩

/-- A plan that cannot be made tells which of the options is wrong. -/
theorem of_plan_eq_error {failure : Failure} (h : i.plan t = .error failure) :
    (∃ cause, i.fileSettings t = .error cause ∧ failure = .options cause) ∨
    (∃ s cause, i.template? s t = .error cause ∧ failure = .drawing cause) ∨
    NamePattern.ofText? i.pattern = none ∧ failure = .pattern i.pattern := by
  unfold plan Except.mapError at h
  cases hlayer : i.fileSettings t with
  | error cause =>
      simp only [hlayer, bind, Except.bind, Except.error.injEq] at h
      exact Or.inl ⟨cause, rfl, h.symm⟩
  | ok layer =>
      cases htemplate : i.template? (Settings.resolve (layer.overlay i.settings)) t with
      | error cause =>
          simp only [hlayer, htemplate, bind, Except.bind, Except.error.injEq] at h
          exact Or.inr (Or.inl ⟨_, cause, htemplate, h.symm⟩)
      | ok template =>
          cases hpattern : NamePattern.ofText? i.pattern with
          | none =>
              simp only [hlayer, htemplate, hpattern, bind, Except.bind, Except.error.injEq] at h
              exact Or.inr (Or.inr ⟨rfl, h.symm⟩)
          | some pattern => simp [hlayer, htemplate, hpattern, bind, Except.bind] at h

/-! ### The analysis -/

theorem workspace_eq (i : Invocation) (e : Environment) (t : FileTree) :
    i.workspace e t = if i.parseAll then ⟨t, none⟩ else
      ⟨(ParseStore.openAt StoredParse.format (some e.storeDirectory) t).1,
        some (ParseStore.openAt StoredParse.format (some e.storeDirectory) t).2⟩ := by
  unfold workspace
  split <;> rfl

theorem text_storeDirectory_ne_empty (e : Environment) : e.storeDirectory.text ≠ "" := by
  by_cases htext : e.temporaryDirectory.text = ""
  · simp [Environment.storeDirectory, Path.join, htext]
  · exact Path.text_join_ne_empty htext (by decide)

/-- A run opens the store, if anything, which makes its directory, if anything. -/
theorem workspace_spec (i : Invocation) (e : Environment) (t : FileTree) :
    Grown t (i.workspace e t).tree ∧ (i.workspace e t).SavesIn e.storeDirectory ∧
      (∀ p, (i.workspace e t).tree.DirectlyIn e.storeDirectory p →
        (t.makeDirectories e.storeDirectory).1.DirectlyIn e.storeDirectory p) ∧
      (i.workspace e t).HasRoom ParseStore.capacity := by
  rw [workspace_eq]
  by_cases hall : i.parseAll = true
  · rw [if_pos hall]
    exact ⟨Grown.refl t, nofun, fun _ => FileTree.directlyIn_makeDirectories, nofun⟩
  · rw [if_neg hall]
    have htree := ParseStore.openAt_fst StoredParse.format e.storeDirectory t
    refine ⟨?_, Workspace.savesIn_openAt (text_storeDirectory_ne_empty e) t, ?_, ?_⟩
    · rw [htree]
      exact FileTree.grown_makeChain t _
    · simp only [htree, imp_self, implies_true]
    · rintro _ ⟨⟩
      rw [ParseStore.memoryCount_openAt, Nat.zero_add]

/-- What an analysis does to the files. -/
theorem sameFilesBeside_of_loads (hlinks : t.NoLinkIn e.storeDirectory) {w : Workspace}
    (h : Workspace.Loads (i.workspace e t) w) : SameFilesBeside e.storeDirectory t w.tree := by
  obtain ⟨hgrown, hsaves, hmade, -⟩ := workspace_spec i e t
  exact hlinks.sameFilesBeside hgrown hmade (h.writtenAt hsaves)

/-- What comes of the analysis of a run: files are loaded, and a report is that of the mode that
goes on behind failures, in the strict mode too. -/
theorem of_report?_eq_some {u : FileTree} {result : Except AnalysisError Report}
    (h : i.report? e p t = some (u, result)) :
    ∃ w, w.tree = u ∧ Workspace.Loads (i.workspace e t) w ∧ ∀ report, result = .ok report →
      (i.workspace e t).analyze? p.pattern.isMatch i.inputs = some (w, .ok report) := by
  obtain ⟨⟨w, result⟩, hanalysis, heq⟩ := Option.map_eq_some_iff.1 h
  cases heq
  refine ⟨w, rfl, ?_⟩
  split at hanalysis
  · have hloads := (i.workspace e t).loads_analyzeStrict p.pattern.isMatch i.inputs
    rw [Workspace.analyzeStrict?_eq_some hanalysis] at hloads
    refine ⟨hloads, ?_⟩
    rintro report rfl
    exact Workspace.analyze?_of_strict_ok hanalysis
  · have hloads := (i.workspace e t).loads_analyze p.pattern.isMatch i.inputs
    rw [Workspace.analyze?_eq_some hanalysis] at hloads
    refine ⟨hloads, ?_⟩
    rintro report rfl
    exact hanalysis

/-- With the same pattern, the analysis does not depend on options for drawings. -/
theorem report?_congr {file : Option Path} {settings : SettingsLayer} {q : Plan}
    (hpattern : q.pattern = p.pattern) :
    { i with optionsFile := file, settings := settings }.report? e q t = i.report? e p t := by
  unfold report?
  rw [hpattern]
  rfl

/-! ### The run -/

/-- What the output is made of. In the JSON form it is a text from which the records are read back.
In the other form it is a drawing that begins with the text of the graph: the graph of the records
stands in it between the pieces of the template, and the image and the document are made from that
text alone. -/
def Writes (i : Invocation) (e : Environment) (p : Plan) (t : FileTree) (records : List Record)
    (v u : FileTree) (result : Except Failure Unit) : Prop :=
  match i.format with
  | .json => ∃ text ending, Record.ReadFrom text records ∧
      text = Record.documentText .indented records ∧ v.writeText i.output text = (u, ending) ∧
      result = ending.mapError .output ∧
      (result = .ok () → u.readBytes i.output = .ok (Text.Utf8.encode text))
  | .graph => ∃ template text statements ending,
      Drawing.loadTemplate p.settings t = .ok template ∧
      Drawing.readBody p.settings statements = some
        ((DependencyGraph.ofRecords records).nodes, Drawing.arrows (.ofRecords records)) ∧
      text.toList = Text.join statements (Drawing.frame p.settings template) ∧
      ((Drawing.stepOf .dot (v.writeText p.settings.dotFile text)).next
          (Drawing.drawImage e.tool p.settings)).next (Drawing.drawDocument p.settings) =
        (u, ending) ∧
      result = ending.mapError .drawing

theorem template_eq_none (hformat : i.format = .json) (h : i.plan t = .ok p) :
    p.template = none := by
  have htemplate := (of_plan_eq_ok h).2.1
  rw [template?, hformat] at htemplate
  exact (Except.ok.inj htemplate).symm

theorem writes_write (h : i.plan t = .ok p) (records : List Record) (v : FileTree) :
    i.Writes e p t records v (i.write e p records v).1 (i.write e p records v).2 := by
  unfold Writes
  cases hformat : i.format with
  | json =>
      rcases hwrite : v.writeText i.output (Record.documentText .indented records) with ⟨u, ending⟩
      simp only [write, template_eq_none hformat h, hwrite]
      refine ⟨_, ending, Record.readFrom_documentText .indented records, rfl, hwrite, rfl,
        fun hok => ?_⟩
      obtain ⟨cause, rfl, -⟩ | ⟨-, _, place, -, hlocate, hwrote⟩ :=
        FileTree.writeText_cases hwrite
      · cases hok
      · exact (hwrote.readsAt hlocate).2
  | graph =>
      have htemplate := (of_plan_eq_ok h).2.1
      rw [template?, hformat] at htemplate
      cases hload : Drawing.loadTemplate p.settings t with
      | error cause => simp [hload, Except.map] at htemplate
      | ok template =>
          simp only [hload, Except.map, Except.ok.injEq] at htemplate
          rcases hdraw : Drawing.draw e.tool p.settings template records v with ⟨u, ending⟩
          simp only [write, ← htemplate, hdraw]
          rw [Drawing.draw, Drawing.drawDot] at hdraw
          exact ⟨template, _, _, ending, rfl, Drawing.readBody_body p.settings records,
            Drawing.toList_dotText p.settings template records, hdraw, rfl⟩

/-- An analysis of no more files than the store has room for comes back, and so does the run. -/
theorem isSome_run? (hroom : i.parseAll = true ∨ ∀ files,
      (i.workspace e t).tree.sourceFiles i.inputs = .ok files →
        files.length ≤ ParseStore.capacity) :
    (i.run? e t).isSome := by
  unfold run?
  cases hplan : i.plan t with
  | error failure => rfl
  | ok p =>
      suffices hreport : (i.report? e p t).isSome by
        simpa only [Option.isSome_map] using hreport
      have hanalysis : ∀ files, (i.workspace e t).tree.sourceFiles i.inputs = .ok files →
          (i.workspace e t).analyzeFiles? p.pattern.isMatch files =
            some ((i.workspace e t).analyzeFiles p.pattern.isMatch files) := by
        intro files hfiles
        refine Workspace.analyzeFiles?_of_room ?_
        rcases hroom with hall | hcount
        · rw [workspace_eq, if_pos hall]
          exact nofun
        · intro s hs
          have hempty := (workspace_spec i e t).2.2.2 s hs
          have hlisted := hcount files hfiles
          omega
      simp only [report?, Option.isSome_map, Workspace.analyze?, Workspace.analyzeStrict?]
      cases hfiles : (i.workspace e t).tree.sourceFiles i.inputs with
      | error cause => split <;> rfl
      | ok files =>
          split
          · simp only [Workspace.analyzeFilesStrict?_of_some (hanalysis files hfiles),
              Option.isSome_some]
          · simp only [hanalysis files hfiles, Option.map_some, Option.isSome_some]

/-- A run writes its output only after a complete analysis. If the options, the template or the
pattern are wrong, it leaves the files alone. If an input is missing or a file ends a strict
analysis, no file beside the directory of the store has come or changed, and it is the same when the
output begins, as long as no link stands in that directory. The output is made of the records of the
mode that goes on behind failures, and in the JSON form no option for drawings has a say in it. -/
theorem run_writes_after_analysis (i : Invocation) (e : Environment) (t : FileTree)
    (hlinks : t.NoLinkIn e.storeDirectory) :
    ((∃ failure, i.plan t = .error failure ∧ i.run? e t = some (t, .error failure) ∧
        ((∃ cause, i.fileSettings t = .error cause ∧ failure = .options cause) ∨
          (∃ s cause, i.template? s t = .error cause ∧ failure = .drawing cause) ∨
          NamePattern.ofText? i.pattern = none ∧ failure = .pattern i.pattern)) ∨
      ∃ p, i.plan t = .ok p ∧
        (i.run? e t = none ∨
          (∃ u cause, i.run? e t = some (u, .error (.analysis cause)) ∧
            SameFilesBeside e.storeDirectory t u) ∨
          ∃ w report, (i.workspace e t).analyze? p.pattern.isMatch i.inputs = some (w, .ok report) ∧
            SameFilesBeside e.storeDirectory t w.tree ∧
            ∃ u result, i.run? e t = some (u, result) ∧
              i.Writes e p t report.records w.tree u result)) ∧
    ((i.parseAll = true ∨ ∀ files, (i.workspace e t).tree.sourceFiles i.inputs = .ok files →
        files.length ≤ ParseStore.capacity) → (i.run? e t).isSome) ∧
    ∀ (file : Option Path) (settings : SettingsLayer) (p q : Plan), i.format = .json →
      i.plan t = .ok p → { i with optionsFile := file, settings := settings }.plan t = .ok q →
      { i with optionsFile := file, settings := settings }.run? e t = i.run? e t := by
  refine ⟨?_, isSome_run?, ?_⟩
  · cases hplan : i.plan t with
    | error failure =>
        exact Or.inl ⟨failure, rfl, by rw [run?, hplan], of_plan_eq_error hplan⟩
    | ok p =>
        refine Or.inr ⟨p, rfl, ?_⟩
        simp only [run?, hplan]
        cases hreport : i.report? e p t with
        | none => exact Or.inl rfl
        | some outcome =>
            obtain ⟨u, result⟩ := outcome
            obtain ⟨w, rfl, hloads, hcollected⟩ := of_report?_eq_some hreport
            have hsame := sameFilesBeside_of_loads hlinks hloads
            cases result with
            | error cause => exact Or.inr (Or.inl ⟨w.tree, cause, rfl, hsame⟩)
            | ok report =>
                exact Or.inr (Or.inr ⟨w, report, hcollected report rfl, hsame, _, _, rfl,
                  writes_write hplan report.records w.tree⟩)
  · intro file settings p q hformat hplan hplan'
    have hpattern : q.pattern = p.pattern := Option.some.inj
      ((of_plan_eq_ok hplan').2.2.symm.trans (of_plan_eq_ok hplan).2.2)
    simp only [run?, hplan, hplan', report?_congr hpattern]
    congr 1
    funext outcome
    rcases outcome with ⟨u, _ | report⟩
    · rfl
    · simp only [write, template_eq_none hformat hplan,
        template_eq_none (i := { i with optionsFile := file, settings := settings }) hformat hplan']

/-- A run that finds one of its inputs and not the other one. -/
def halfThere : Invocation := { inputs := [⟨"a.ts"⟩, ⟨"b.ts"⟩], format := .json }

def bareEnvironment : Environment := ⟨fun _ _ _ => .error .notFound, ⟨"/tmp"⟩⟩

def bareFiles : FileTree where
  entries := [(["a.ts"], .file [] false 0), (["tmp"], .directory)]
  distinct := by decide

theorem noLinkIn_bareFiles : bareFiles.NoLinkIn bareEnvironment.storeDirectory := by
  intro p _ target hlink
  by_cases hp : p = []
  · simp [hp] at hlink
  · have hentry := FileTree.mem_entries_of_node? hp hlink
    simp [bareFiles] at hentry

/-- The output is not begun there, but the directory of the store is made. -/
theorem run_of_halfThere :
    ∃ u, halfThere.run? bareEnvironment bareFiles =
        some (u, .error (.analysis (.scan (.missingInput ⟨"b.ts"⟩)))) ∧
      SameFilesBeside bareEnvironment.storeDirectory bareFiles u ∧
      u.node? ["tmp", "ngdeps_cache"] = some .directory ∧ u.node? ["dependencies.json"] = none := by
  obtain ⟨hcourse, -, -⟩ :=
    run_writes_after_analysis halfThere bareEnvironment bareFiles noLinkIn_bareFiles
  have hrun : (halfThere.run? bareEnvironment bareFiles).map (fun outcome =>
      (outcome.2, outcome.1.node? ["tmp", "ngdeps_cache"],
        outcome.1.node? ["dependencies.json"])) =
      some (.error (.analysis (.scan (.missingInput ⟨"b.ts"⟩))), some .directory, none) := by
    decide +kernel
  obtain ⟨⟨u, result⟩, hu, hresult⟩ := Option.map_eq_some_iff.1 hrun
  simp only [Prod.mk.injEq] at hresult
  obtain ⟨rfl, hmade, hnone⟩ := hresult
  refine ⟨u, hu, ?_, hmade, hnone⟩
  rw [hu] at hcourse
  obtain ⟨failure, -, hfailed, ⟨_, -, rfl⟩ | ⟨_, _, -, rfl⟩ | ⟨-, rfl⟩⟩ |
    ⟨p, -, hstuck | ⟨v, cause, heq, hsame⟩ | ⟨w, report, -, -, v, result, heq, hwrites⟩⟩ := hcourse
  · cases hfailed
  · cases hfailed
  · cases hfailed
  · cases hstuck
  · cases heq
    exact hsame
  · cases heq
    obtain ⟨_, ending, -, -, -, hending, -⟩ := hwrites
    cases ending <;> cases hending

def strictRun : Invocation :=
  { inputs := [⟨"a.ts"⟩, ⟨"b.ts"⟩], format := .json, strict := true }

/-- In the directory of the store, the entry for the first file is a link to the second one. -/
def linkedFiles : FileTree where
  entries := [(["tmp"], .directory), (["tmp", "ngdeps_cache"], .directory),
    (["tmp", "ngdeps_cache", StoredParse.hashedName ⟨"a.ts"⟩], .link ⟨"/b.ts"⟩),
    (["a.ts"], .file (Text.Utf8.encode "class A \x7b\x7d") false 0),
    (["b.ts"], .file (Text.Utf8.encode "class B \x7b\x7d") false 0)]
  distinct := by decide +kernel

/-- The entry for the first file is saved in the second file, on which the run fails then. -/
theorem run_of_linkedFiles :
    ∃ u, strictRun.run? bareEnvironment linkedFiles =
        some (u, .error (.analysis (.file ⟨"b.ts"⟩ (.unreadable ⟨"b.ts"⟩ .notText)))) ∧
      ¬SameFilesBeside bareEnvironment.storeDirectory linkedFiles u := by
  have hrun : (strictRun.run? bareEnvironment linkedFiles).map (fun outcome =>
      (outcome.2, (outcome.1.nodeAt bareEnvironment.storeDirectory).toOption,
        decide (outcome.1.node? ["b.ts"] = linkedFiles.node? ["b.ts"]))) =
      some (.error (.analysis (.file ⟨"b.ts"⟩ (.unreadable ⟨"b.ts"⟩ .notText))),
        some (["tmp", "ngdeps_cache"], .directory), false) := by
    decide +kernel
  obtain ⟨⟨u, result⟩, hu, hresult⟩ := Option.map_eq_some_iff.1 hrun
  simp only [Prod.mk.injEq, decide_eq_false_iff_not] at hresult
  obtain ⟨rfl, hdirectory, hchanged⟩ := hresult
  refine ⟨u, hu, fun hsame => hchanged ?_⟩
  have hbeside : ¬u.DirectlyIn bareEnvironment.storeDirectory ["b.ts"] := by
    rintro ⟨place, name, hfound, hplace⟩
    rw [hfound] at hdirectory
    cases hdirectory
    simp at hplace
  have hfile := (hsame ["b.ts"] _ rfl hbeside).2
    (by decide : linkedFiles.node? ["b.ts"] =
      some (.file (Text.Utf8.encode "class B \x7b\x7d") false 0))
  rw [hfile]
  decide

end DecoratorGraph.CommandLine.Invocation
