import DecoratorGraph.Proofs.Analysis.Loading

/-!
# Files are analysed independently

A report is put together file by file. What a file *contributes* depends on that file alone: all of
its records, or one error if it fails. The report on parsed files and the report on files of a tree
come out of two separate loops, and without a store both are the contributions one after the
other. So the two agree on files that can be parsed, and a file that fails takes nothing away from
the others.
-/

namespace DecoratorGraph

namespace Report

/-- Reports one after the other. -/
def combine : List Report → Report
  | [] => {}
  | r :: rs => r ++ combine rs

theorem filesAnalyzed_append (r s : Report) :
    (r ++ s).filesAnalyzed = r.filesAnalyzed + s.filesAnalyzed := rfl

theorem errors_append (r s : Report) : (r ++ s).errors = r.errors ++ s.errors := rfl

/-! ### Parsed files -/

section Parsed

variable (isMatch : String → Bool)

theorem ofParsed_cons (file : ParsedFile) (files : List ParsedFile) :
    ofParsed isMatch (file :: files) =
      ofFile file.path false (file.outcome isMatch) ++ ofParsed isMatch files := rfl

theorem ofParsed_singleton (file : ParsedFile) :
    ofParsed isMatch [file] = ofFile file.path false (file.outcome isMatch) :=
  append_empty _

theorem ofParsed_append (xs ys : List ParsedFile) :
    ofParsed isMatch (xs ++ ys) = ofParsed isMatch xs ++ ofParsed isMatch ys := by
  induction xs with
  | nil => exact (empty_append _).symm
  | cons file xs ih => rw [List.cons_append, ofParsed_cons, ofParsed_cons, ih, append_assoc]

/-- A file between others adds its own report to theirs. -/
theorem ofParsed_append_cons (xs ys : List ParsedFile) (file : ParsedFile) :
    ofParsed isMatch (xs ++ file :: ys) =
      ofParsed isMatch xs ++ ofFile file.path false (file.outcome isMatch) ++
        ofParsed isMatch ys := by
  rw [ofParsed_append, ofParsed_cons, append_assoc]

end Parsed

end Report

/-! ### Source files -/

namespace SourceFile

variable (isMatch : String → Bool) (t : FileTree)

/-- What a file contributes to a report if it has to be parsed: one error if it cannot be, and
otherwise the report on its parse. -/
def contribution (f : SourceFile) : Report :=
  match f.parse t with
  | .error cause => ⟨[], [(f.path, cause)], 1, 0⟩
  | .ok parsed => .ofParsed isMatch [parsed]

def failure? (f : SourceFile) : Option FileError :=
  match f.parse t with
  | .error cause => some cause
  | .ok parsed =>
    match parsed.records isMatch with
    | .error cause => some (.extraction cause)
    | .ok _ => none

variable {isMatch t} {f : SourceFile}

theorem contribution_of_parse_error {cause : FileError} (h : f.parse t = .error cause) :
    f.contribution isMatch t = ⟨[], [(f.path, cause)], 1, 0⟩ := by
  rw [contribution, h]

theorem contribution_of_parse {parsed : ParsedFile} (h : f.parse t = .ok parsed) :
    f.contribution isMatch t = .ofParsed isMatch [parsed] := by
  rw [contribution, h]

/-- The report on a file that was not found in the store is its contribution: a parse has the
path under which its file is listed. -/
theorem ofFile_records (f : SourceFile) :
    Report.ofFile f.path false (Loading.records isMatch ⟨⟨t, none⟩, f.parse t, false⟩) =
      f.contribution isMatch t := by
  cases hparse : f.parse t with
  | error cause =>
      rw [contribution_of_parse_error hparse]
      rfl
  | ok parsed =>
      rw [contribution_of_parse hparse, Report.ofParsed_singleton, path_of_parse hparse]
      rfl

theorem contribution_of_failure {cause : FileError} (h : f.failure? isMatch t = some cause) :
    f.contribution isMatch t = ⟨[], [(f.path, cause)], 1, 0⟩ := by
  unfold failure? at h
  cases hparse : f.parse t with
  | error cause' =>
      rw [hparse] at h
      cases h
      exact contribution_of_parse_error hparse
  | ok parsed =>
      rw [hparse] at h
      rw [contribution_of_parse hparse, Report.ofParsed_singleton, ParsedFile.outcome,
        path_of_parse hparse]
      cases hrecords : parsed.records isMatch with
      | error cause' =>
          simp only [hrecords, Option.some.injEq] at h
          rw [← h]
          rfl
      | ok records => simp [hrecords] at h

theorem contribution_of_no_failure (h : f.failure? isMatch t = none) :
    ∃ parsed records, f.parse t = .ok parsed ∧ parsed.records isMatch = .ok records ∧
      f.contribution isMatch t = ⟨records, [], 1, 0⟩ := by
  unfold failure? at h
  cases hparse : f.parse t with
  | error cause => simp [hparse] at h
  | ok parsed =>
      rw [hparse] at h
      cases hrecords : parsed.records isMatch with
      | error cause => simp [hrecords] at h
      | ok records =>
          refine ⟨parsed, records, rfl, hrecords, ?_⟩
          rw [contribution_of_parse hparse, Report.ofParsed_singleton, ParsedFile.outcome, hrecords]
          rfl

theorem filesAnalyzed_contribution (f : SourceFile) :
    (f.contribution isMatch t).filesAnalyzed = 1 := by
  cases h : f.failure? isMatch t with
  | some cause => rw [contribution_of_failure h]
  | none =>
      obtain ⟨parsed, records, -, -, hreport⟩ := contribution_of_no_failure h
      rw [hreport]

theorem errors_contribution (f : SourceFile) :
    (f.contribution isMatch t).errors =
      ((f.failure? isMatch t).map fun cause => (f.path, cause)).toList := by
  cases h : f.failure? isMatch t with
  | some cause =>
      rw [contribution_of_failure h]
      rfl
  | none =>
      obtain ⟨parsed, records, -, -, hreport⟩ := contribution_of_no_failure h
      rw [hreport]
      rfl

end SourceFile

namespace Report

variable (isMatch : String → Bool) (t : FileTree)

theorem filesAnalyzed_combine (files : List SourceFile) :
    (combine (files.map fun f => f.contribution isMatch t)).filesAnalyzed = files.length := by
  induction files with
  | nil => rfl
  | cons f files ih =>
      rw [List.map_cons, combine, filesAnalyzed_append, ih, SourceFile.filesAnalyzed_contribution,
        List.length_cons, Nat.add_comm]

theorem errors_combine (files : List SourceFile) :
    (combine (files.map fun f => f.contribution isMatch t)).errors =
      files.filterMap fun f => (f.failure? isMatch t).map fun cause => (f.path, cause) := by
  induction files with
  | nil => rfl
  | cons f files ih =>
      rw [List.map_cons, combine, errors_append, ih, SourceFile.errors_contribution,
        List.filterMap_cons]
      cases f.failure? isMatch t <;> rfl

/-- If every file can be parsed, the contributions are those of the parses. -/
theorem combine_eq_ofParsed {files : List SourceFile} {parses : List ParsedFile}
    (h : List.Forall₂ (fun f parsed => f.parse t = .ok parsed) files parses) :
    combine (files.map fun f => f.contribution isMatch t) = ofParsed isMatch parses := by
  induction h with
  | nil => rfl
  | @cons f parsed files parses hparse _ ih =>
      rw [List.map_cons, combine, ih, SourceFile.contribution_of_parse hparse, ofParsed_singleton,
        ofParsed_cons]

end Report

namespace Workspace

variable (isMatch : String → Bool)

theorem analyzeFiles_without_store (t : FileTree) (files : List SourceFile) :
    analyzeFiles isMatch ⟨t, none⟩ files =
      (⟨t, none⟩, .combine (files.map fun f => f.contribution isMatch t)) := by
  induction files with
  | nil => rfl
  | cons f files ih =>
      simp only [analyzeFiles, analyzeFile, load_without_store, ih, SourceFile.ofFile_records]
      rfl

/-- Reports are put together file by file. The report on parsed files is taken apart wherever
their list is, and a file between others adds its records or else exactly one error. The report on
source files, without a store, is their contributions in the order in which the files are listed:
it counts every listed file, has one error for each file that cannot be parsed or yields no
records, under the path by which the file is listed, and is the report on the parses if every
file has one. -/
theorem analyze_combines_contributions :
    (∀ xs ys : List ParsedFile,
      Report.ofParsed isMatch (xs ++ ys) =
        Report.ofParsed isMatch xs ++ Report.ofParsed isMatch ys) ∧
    (∀ (xs ys : List ParsedFile) (file : ParsedFile) (cause : ExtractionError),
      file.records isMatch = .error cause →
        Report.ofParsed isMatch (xs ++ file :: ys) =
          Report.ofParsed isMatch xs ++ ⟨[], [(file.path, .extraction cause)], 1, 0⟩ ++
            Report.ofParsed isMatch ys) ∧
    (∀ (xs ys : List ParsedFile) (file : ParsedFile) (records : List Record),
      file.records isMatch = .ok records →
        Report.ofParsed isMatch (xs ++ file :: ys) =
          Report.ofParsed isMatch xs ++ ⟨records, [], 1, 0⟩ ++ Report.ofParsed isMatch ys) ∧
    ∀ (t : FileTree) (inputs : List Path) (files : List SourceFile),
      t.sourceFiles inputs = .ok files →
        ∃ report, analyze isMatch ⟨t, none⟩ inputs = (⟨t, none⟩, .ok report) ∧
          report = .combine (files.map fun f => f.contribution isMatch t) ∧
          report.filesAnalyzed = files.length ∧
          report.errors = (files.filterMap fun f =>
            (f.failure? isMatch t).map fun cause => (f.path, cause)) ∧
          (∀ f ∈ files, ∀ cause, f.failure? isMatch t = some cause →
            f.contribution isMatch t = ⟨[], [(f.path, cause)], 1, 0⟩) ∧
          ∀ parses, List.Forall₂ (fun f parsed => f.parse t = .ok parsed) files parses →
            report = .ofParsed isMatch parses := by
  refine ⟨Report.ofParsed_append isMatch, ?_, ?_, ?_⟩
  · intro xs ys file cause h
    rw [Report.ofParsed_append_cons, ParsedFile.outcome, h]
    rfl
  · intro xs ys file records h
    rw [Report.ofParsed_append_cons, ParsedFile.outcome, h]
    rfl
  · intro t inputs files hfiles
    refine ⟨.combine (files.map fun f => f.contribution isMatch t), ?_, rfl,
      Report.filesAnalyzed_combine isMatch t files, Report.errors_combine isMatch t files,
      fun f _ cause => SourceFile.contribution_of_failure,
      fun parses => Report.combine_eq_ofParsed isMatch t⟩
    rw [analyze, hfiles]
    simp only [analyzeFiles_without_store]

/-- A file with a record, one that is no text, and one whose configuration is no object. -/
def mixture : FileTree where
  entries := [
    (["a.ts"], .file (Text.Utf8.encode "@C() class X {}") false 0),
    (["b.ts"], .file [0xFF] false 0),
    (["c.ts"], .file (Text.Utf8.encode "@C([]) class Y {}") false 0)]
  distinct := by decide

theorem analyze_of_mixture :
    mixture.sourceFiles [⟨"a.ts"⟩, ⟨"b.ts"⟩, ⟨"c.ts"⟩] =
      .ok [⟨⟨"a.ts"⟩, .typeScript⟩, ⟨⟨"b.ts"⟩, .typeScript⟩, ⟨⟨"c.ts"⟩, .typeScript⟩] ∧
    (∃ report, analyze (fun _ => true) ⟨mixture, none⟩ [⟨"a.ts"⟩, ⟨"b.ts"⟩, ⟨"c.ts"⟩] =
        (⟨mixture, none⟩, .ok report) ∧
      report.filesAnalyzed = 3 ∧
      report.errors = [(⟨"b.ts"⟩, .unreadable ⟨"b.ts"⟩ .notText), (⟨"c.ts"⟩, .extraction
        (.malformedConfig ⟨"c.ts"⟩ "Y" "configuration argument" "array literal"))] ∧
      report.records = [⟨"X", ⟨"a.ts"⟩, .allEmpty⟩]) ∧
    ∃ report, analyze (fun _ => true) ⟨mixture, none⟩ [⟨"c.ts"⟩, ⟨"a.ts"⟩] =
        (⟨mixture, none⟩, .ok report) ∧
      report = ⟨[], [(⟨"c.ts"⟩, .extraction
        (.malformedConfig ⟨"c.ts"⟩ "Y" "configuration argument" "array literal"))], 1, 0⟩ ++
          Report.ofParsed (fun _ => true) [.read .typeScript ⟨"a.ts"⟩ "@C() class X {}"] := by
  have hfiles : mixture.sourceFiles [⟨"a.ts"⟩, ⟨"b.ts"⟩, ⟨"c.ts"⟩] =
      .ok [⟨⟨"a.ts"⟩, .typeScript⟩, ⟨⟨"b.ts"⟩, .typeScript⟩, ⟨⟨"c.ts"⟩, .typeScript⟩] := by
    decide +kernel
  have hpair : mixture.sourceFiles [⟨"c.ts"⟩, ⟨"a.ts"⟩] =
      .ok [⟨⟨"c.ts"⟩, .typeScript⟩, ⟨⟨"a.ts"⟩, .typeScript⟩] := by
    decide +kernel
  have hmalformed : SourceFile.parse ⟨⟨"c.ts"⟩, .typeScript⟩ mixture =
      .ok (.read .typeScript ⟨"c.ts"⟩ "@C([]) class Y {}") :=
    SourceFile.parse_ok_iff.2 ⟨_, by decide +kernel, rfl⟩
  have hgood : SourceFile.parse ⟨⟨"a.ts"⟩, .typeScript⟩ mixture =
      .ok (.read .typeScript ⟨"a.ts"⟩ "@C() class X {}") :=
    SourceFile.parse_ok_iff.2 ⟨_, by decide +kernel, rfl⟩
  obtain ⟨-, hbetween, -, hreport⟩ := analyze_combines_contributions fun _ => true
  refine ⟨hfiles, ?_, ?_⟩
  · obtain ⟨report, hanalyze, hcombine, hcount, herrors, -, -⟩ := hreport mixture _ _ hfiles
    refine ⟨report, hanalyze, hcount, herrors.trans ?_, ?_⟩
    · decide +kernel
    · rw [hcombine]
      decide +kernel
  · obtain ⟨report, hanalyze, -, -, -, -, hparsed⟩ := hreport mixture _ _ hpair
    refine ⟨report, hanalyze, (hparsed _ (.cons hmalformed (.cons hgood .nil))).trans ?_⟩
    exact hbetween [] _ _ _ (by decide +kernel)

end Workspace

end DecoratorGraph
