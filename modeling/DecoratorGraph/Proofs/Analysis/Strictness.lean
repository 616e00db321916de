import DecoratorGraph.Proofs.Analysis.Steps

/-!
# The strict mode

An analysis in the strict mode ends at the first file that fails, an analysis in the other mode goes
on and lists what failed. The two are separate loops over the files, and both carry the store of
parses along. They agree: the *verdict* on a report is the report itself if no file failed, and
otherwise its first error, and the strict mode gives the verdict on what the other mode reports.

In the strict mode the loop leaves out what comes behind the first failure, so the workspaces that
the two leave behind agree only if no file fails. For the same reason it may come back with an error
where the other mode is caught at a full store.
-/

namespace DecoratorGraph

namespace Report

/-- A report without errors, or the first error of a report. -/
def verdict (r : Report) : Except (Path × FileError) Report :=
  match r.errors with
  | [] => .ok r
  | e :: _ => .error e

theorem verdict_ok_iff {r s : Report} : r.verdict = .ok s ↔ r.errors = [] ∧ r = s := by
  unfold verdict
  cases r.errors with
  | nil => simp
  | cons e errors => simp

/-- A file that gives records leaves the verdict to the files behind it. -/
theorem verdict_ofFile_ok (path : Path) (hit : Bool) (records : List Record) (others : Report) :
    (ofFile path hit (.ok records) ++ others).verdict =
      others.verdict.map (ofFile path hit (.ok records) ++ ·) := by
  obtain ⟨_, errors, _, _⟩ := others
  cases errors <;> rfl

/-! ### Parsed files -/

end Report

/-! ### Files of a tree -/

namespace Workspace

variable (isMatch : String → Bool)

theorem analyzeFilesStrict_snd (w : Workspace) (files : List SourceFile) :
    (w.analyzeFilesStrict isMatch files).2 =
      (w.analyzeFiles isMatch files).2.verdict.mapError fun e => .file e.1 e.2 := by
  induction files generalizing w with
  | nil => rfl
  | cons f files ih =>
      simp only [analyzeFilesStrict, analyzeFiles, analyzeFile]
      cases (w.load f).records isMatch with
      | error cause => rfl
      | ok records =>
          simp only [ih, Report.verdict_ofFile_ok]
          cases ((w.load f).workspace.analyzeFiles isMatch files).2.verdict <;> rfl

/-- If no file fails, the two modes load the same files. -/
theorem analyzeFilesStrict_fst (w : Workspace) (files : List SourceFile)
    (h : (w.analyzeFiles isMatch files).2.errors = []) :
    (w.analyzeFilesStrict isMatch files).1 = (w.analyzeFiles isMatch files).1 := by
  induction files generalizing w with
  | nil => rfl
  | cons f files ih =>
      simp only [analyzeFilesStrict, analyzeFiles, analyzeFile] at h ⊢
      cases hrecords : (w.load f).records isMatch with
      | error cause =>
          rw [hrecords] at h
          cases h
      | ok records =>
          rw [hrecords] at h
          exact ih (w.load f).workspace h

/-! ### Calls that come back -/

variable {isMatch} {w v : Workspace} {files : List SourceFile}

/-- The strict mode loads no more files than the other one, so it comes back if that one does. -/
theorem analyzeFilesStrict?_of_some {report : Report}
    (h : w.analyzeFiles? isMatch files = some (v, report)) :
    w.analyzeFilesStrict? isMatch files = some (w.analyzeFilesStrict isMatch files) := by
  induction files generalizing w v report with
  | nil => rfl
  | cons f files ih =>
      simp only [analyzeFiles?, bind, Option.bind_eq_some_iff, Option.map_eq_some_iff] at h
      obtain ⟨l, hload, ⟨v', others⟩, hothers, -⟩ := h
      rw [analyzeFilesStrict?, hload, analyzeFilesStrict]
      obtain rfl := load?_eq_some hload
      simp only [bind, Option.bind_some]
      cases (w.load f).records isMatch with
      | error cause => rfl
      | ok records => simp only [ih hothers, Option.map_some]

/-- If an analysis does not come back, then in the strict mode it does not either, unless a file
fails before the one at which it is caught. -/
theorem analyzeFilesStrict?_of_none (h : w.analyzeFiles? isMatch files = none) :
    w.analyzeFilesStrict? isMatch files = none ∨
      ∃ done rest v report path cause others u, files = done ++ rest ∧
        w.analyzeFiles? isMatch done = some (v, report) ∧ report.errors = (path, cause) :: others ∧
        w.analyzeFilesStrict? isMatch files = some (u, .error (.file path cause)) := by
  induction files generalizing w with
  | nil => cases h
  | cons f files ih =>
      cases hload : w.load? f with
      | none => exact Or.inl (by simp [analyzeFilesStrict?, hload])
      | some l =>
          have hothers : l.workspace.analyzeFiles? isMatch files = none := by
            simpa [analyzeFiles?, hload] using h
          cases hrecords : l.records isMatch with
          | error cause =>
              refine Or.inr ⟨[f], files, l.workspace, .ofFile f.path l.hit (.error cause), f.path,
                cause, [], l.workspace, rfl, ?_, rfl, ?_⟩
              · simp [analyzeFiles?, hload, hrecords]
              · simp [analyzeFilesStrict?, hload, hrecords]
          | ok records =>
              obtain hnone | ⟨done, rest, v, report, path, cause, others, u, rfl, hdone, herrors,
                hstrict⟩ := ih hothers
              · exact Or.inl (by simp [analyzeFilesStrict?, hload, hrecords, hnone])
              · refine Or.inr ⟨f :: done, rest, v, .ofFile f.path l.hit (.ok records) ++ report,
                  path, cause, others, u, rfl, ?_, by simpa [Report.append_def, Report.ofFile], ?_⟩
                · simp [analyzeFiles?, hload, hrecords, hdone]
                · simp [analyzeFilesStrict?, hload, hrecords, hstrict, Except.map]

/-- A report of the strict mode is the report of the other one. -/
theorem analyzeFiles?_of_strict_ok {report : Report}
    (h : w.analyzeFilesStrict? isMatch files = some (v, .ok report)) :
    w.analyzeFiles? isMatch files = some (v, report) := by
  cases hanalysis : w.analyzeFiles? isMatch files with
  | none =>
      obtain hnone | ⟨_, _, _, _, _, _, _, _, _, _, _, hstrict⟩ :=
        analyzeFilesStrict?_of_none hanalysis
      · cases hnone.symm.trans h
      · cases hstrict.symm.trans h
  | some outcome =>
      obtain ⟨u, collected⟩ := outcome
      have htotal := analyzeFiles?_eq_some hanalysis
      have hstrict := analyzeFilesStrict?_eq_some h
      have hverdict := analyzeFilesStrict_snd isMatch w files
      rw [hstrict, htotal] at hverdict
      cases hkept : collected.verdict with
      | error e =>
          rw [hkept] at hverdict
          cases hverdict
      | ok kept =>
          rw [hkept] at hverdict
          cases hverdict
          obtain ⟨hclean, rfl⟩ := Report.verdict_ok_iff.1 hkept
          have hsame := analyzeFilesStrict_fst isMatch w files (by rwa [htotal])
          rw [hstrict, htotal] at hsame
          cases hsame
          rfl

theorem analyze?_of_strict_ok {inputs : List Path} {report : Report}
    (h : w.analyzeStrict? isMatch inputs = some (v, .ok report)) :
    w.analyze? isMatch inputs = some (v, .ok report) := by
  unfold analyzeStrict? at h
  unfold analyze?
  split at h
  · cases h
  · rw [analyzeFiles?_of_strict_ok h]
    rfl

/-! ### The two modes -/

end Workspace

end DecoratorGraph
