import DecoratorGraph.Extraction
import DecoratorGraph.ParseStore.Basic
import DecoratorGraph.SourceFile
/-!
# Analysis of source files

The source files that inputs stand for are loaded one after the other, from the store of
parses if it has a parse that still holds, and their records are collected. A file that fails
is reported and passed over, or in the strict mode ends the analysis.
-/

namespace DecoratorGraph

inductive FileError where
  | unreadable (path : Path) (cause : IoError)
  | extraction (cause : ExtractionError)
  deriving DecidableEq, Repr

def FileError.message : FileError → String
  | .unreadable path cause => "failed to parse " ++ path.text ++ ": " ++ cause.message
  | .extraction cause => cause.message

inductive AnalysisError where
  | scan (cause : ScanError)
  /-- The file at this path ended a strict analysis. -/
  | file (path : Path) (cause : FileError)
  deriving DecidableEq, Repr

namespace AnalysisError

def headline : AnalysisError → String
  | .scan cause => cause.message
  | .file path _ => "failed to extract " ++ path.text

def message : AnalysisError → String
  | .scan cause => cause.message
  | .file path cause => headline (.file path cause) ++ ": " ++ cause.message

end AnalysisError

structure Report where
  records : List Record := []
  errors : List (Path × FileError) := []
  filesAnalyzed : Nat := 0
  /-- How many files did not have to be parsed. -/
  storeHits : Nat := 0
  deriving DecidableEq, Repr

namespace Report

instance : Append Report where
  append r s :=
    ⟨r.records ++ s.records, r.errors ++ s.errors, r.filesAnalyzed + s.filesAnalyzed,
      r.storeHits + s.storeHits⟩

theorem append_def (r s : Report) :
    r ++ s = ⟨r.records ++ s.records, r.errors ++ s.errors, r.filesAnalyzed + s.filesAnalyzed,
      r.storeHits + s.storeHits⟩ := rfl

@[simp] theorem empty_append (r : Report) : ({} : Report) ++ r = r := by
  simp [append_def]

@[simp] theorem append_empty (r : Report) : r ++ ({} : Report) = r := by
  simp [append_def]

theorem append_assoc (r s t : Report) : r ++ s ++ t = r ++ (s ++ t) := by
  simp [append_def, List.append_assoc, Nat.add_assoc]

def isClean (r : Report) : Bool := r.errors.isEmpty

/-- The report on one file, which was found in the store or not. -/
def ofFile (path : Path) (hit : Bool) : Except FileError (List Record) → Report
  | .ok records => ⟨records, [], 1, hit.toNat⟩
  | .error cause => ⟨[], [(path, cause)], 1, hit.toNat⟩

end Report

/-! ### Parsed files -/

def ParsedFile.outcome (isMatch : String → Bool) (file : ParsedFile) :
    Except FileError (List Record) :=
  (file.records isMatch).mapError .extraction

namespace Report

def ofParsed (isMatch : String → Bool) : List ParsedFile → Report
  | [] => {}
  | file :: files => ofFile file.path false (file.outcome isMatch) ++ ofParsed isMatch files

def ofParsedStrict (isMatch : String → Bool) : List ParsedFile → Except ExtractionError Report
  | [] => .ok {}
  | file :: files => do
    let records ← file.records isMatch
    let others ← ofParsedStrict isMatch files
    .ok (ofFile file.path false (.ok records) ++ others)

end Report

/-! ### Files of a tree -/

def SourceFile.parse (f : SourceFile) (t : FileTree) : Except FileError ParsedFile :=
  match t.readText f.path with
  | .ok text => .ok (.read f.dialect f.path text)
  | .error cause => .error (.unreadable f.path cause)

/-- What an analysis works on: the files, and the store of parses unless every file is to be
parsed. -/
structure Workspace where
  tree : FileTree
  store : Option ParseStore := none

/-- What loading a file leaves behind. -/
structure Loading where
  workspace : Workspace
  result : Except FileError ParsedFile
  /-- Whether the parse was found in the store. -/
  hit : Bool

def Loading.records (isMatch : String → Bool) (l : Loading) : Except FileError (List Record) := do
  let parsed ← l.result
  parsed.outcome isMatch

namespace Workspace

/-- The parse of a file that the store has, if it still holds. -/
def current? (w : Workspace) (f : SourceFile) : Option ParsedFile × Workspace :=
  match w.store with
  | none => (none, w)
  | some s => ((s.current? w.tree f.path).1, ⟨w.tree, some (s.current? w.tree f.path).2⟩)

/-- Stores a parse, as far as that is possible. -/
def keep (w : Workspace) (f : SourceFile) (parsed : ParsedFile) : Workspace :=
  match w.store with
  | none => w
  | some s =>
    let step := s.store w.tree f.path parsed
    ⟨step.tree, some step.store⟩

def mapTree (change : FileTree → FileTree) (w : Workspace) : Workspace := ⟨change w.tree, w.store⟩

/-- Loads a file while others work on the files: `afterCheck` is what they do between the look
at the store and the reading of the file, `afterRead` what they do between the reading and the
storing of the parse. -/
def loadAmid (afterCheck afterRead : FileTree → FileTree) (w : Workspace) (f : SourceFile) :
    Loading :=
  match w.current? f with
  | (some parsed, w) => ⟨w, .ok parsed, true⟩
  | (none, w) =>
    let w := w.mapTree afterCheck
    match f.parse w.tree with
    | .error cause => ⟨w, .error cause, false⟩
    | .ok parsed => ⟨(w.mapTree afterRead).keep f parsed, .ok parsed, false⟩

/-- Loads a file: a parse that still holds is taken from the store, otherwise the file is read
and parsed, and the parse is stored. -/
def load (w : Workspace) (f : SourceFile) : Loading := w.loadAmid id id f

def analyzeFile (isMatch : String → Bool) (w : Workspace) (f : SourceFile) :
    Workspace × Report :=
  let l := w.load f
  (l.workspace, .ofFile f.path l.hit (l.records isMatch))

def analyzeFiles (isMatch : String → Bool) (w : Workspace) :
    List SourceFile → Workspace × Report
  | [] => (w, {})
  | f :: fs =>
    let (w, report) := w.analyzeFile isMatch f
    let (w, others) := w.analyzeFiles isMatch fs
    (w, report ++ others)

def analyzeFilesStrict (isMatch : String → Bool) (w : Workspace) :
    List SourceFile → Workspace × Except AnalysisError Report
  | [] => (w, .ok {})
  | f :: fs =>
    let l := w.load f
    match l.records isMatch with
    | .error cause => (l.workspace, .error (.file f.path cause))
    | .ok records =>
      let (w, others) := l.workspace.analyzeFilesStrict isMatch fs
      (w, others.map (Report.ofFile f.path l.hit (.ok records) ++ ·))

def analyze (isMatch : String → Bool) (w : Workspace) (inputs : List Path) :
    Workspace × Except AnalysisError Report :=
  match w.tree.sourceFiles inputs with
  | .error cause => (w, .error (.scan cause))
  | .ok files =>
    let (w, report) := w.analyzeFiles isMatch files
    (w, .ok report)

def analyzeStrict (isMatch : String → Bool) (w : Workspace) (inputs : List Path) :
    Workspace × Except AnalysisError Report :=
  match w.tree.sourceFiles inputs with
  | .error cause => (w, .error (.scan cause))
  | .ok files => w.analyzeFilesStrict isMatch files

/-! ### Calls that come back

What is said above of loads and analyses is what they come to, if they come to anything: a parse
that is new is stored, and storing it need not come back. -/

def load? (w : Workspace) (f : SourceFile) : Option Loading :=
  let l := w.load f
  let isNew := l.result.isOk && !l.hit
  if isNew && w.store.any fun s => !s.storeReturns w.tree f.path then none else some l

def analyzeFiles? (isMatch : String → Bool) (w : Workspace) :
    List SourceFile → Option (Workspace × Report)
  | [] => some (w, {})
  | f :: fs => do
    let l ← w.load? f
    (l.workspace.analyzeFiles? isMatch fs).map fun (w, others) =>
      (w, .ofFile f.path l.hit (l.records isMatch) ++ others)

def analyzeFilesStrict? (isMatch : String → Bool) (w : Workspace) :
    List SourceFile → Option (Workspace × Except AnalysisError Report)
  | [] => some (w, .ok {})
  | f :: fs => do
    let l ← w.load? f
    match l.records isMatch with
    | .error cause => some (l.workspace, .error (.file f.path cause))
    | .ok records =>
      (l.workspace.analyzeFilesStrict? isMatch fs).map fun (w, others) =>
        (w, others.map (Report.ofFile f.path l.hit (.ok records) ++ ·))

/-- The analysis of inputs, if it comes back. -/
def analyze? (isMatch : String → Bool) (w : Workspace) (inputs : List Path) :
    Option (Workspace × Except AnalysisError Report) :=
  match w.tree.sourceFiles inputs with
  | .error cause => some (w, .error (.scan cause))
  | .ok files => (w.analyzeFiles? isMatch files).map fun (w, report) => (w, .ok report)

def analyzeStrict? (isMatch : String → Bool) (w : Workspace) (inputs : List Path) :
    Option (Workspace × Except AnalysisError Report) :=
  match w.tree.sourceFiles inputs with
  | .error cause => some (w, .error (.scan cause))
  | .ok files => w.analyzeFilesStrict? isMatch files

end Workspace

end DecoratorGraph
