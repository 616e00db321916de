import DecoratorGraph.Analysis
import DecoratorGraph.CommandLine.Arguments
import DecoratorGraph.Drawing.Artifacts
import DecoratorGraph.Drawing.Options
import DecoratorGraph.Json.Basic
import DecoratorGraph.ParseStore.Encoding
/-!
# Runs of the program

A run reads the options and the template, analyses the inputs, and only then writes its
output, either the records or a drawing of their graph. What can be wrong with the options is
found before any input is looked at.
-/

namespace DecoratorGraph.CommandLine

inductive Failure where
  | options (cause : OptionsError)
  | drawing (cause : Drawing.DrawingError)
  | pattern (text : String)
  | analysis (cause : AnalysisError)
  | output (cause : IoError)
  deriving DecidableEq, Repr

def Failure.headline : Failure → String
  | .options cause => cause.message
  | .drawing cause => cause.message
  | .pattern _ => "invalid annotation pattern"
  | .analysis cause => cause.headline
  | .output cause => cause.message

/-- What a run has to know besides the files and the arguments. -/
structure Environment where
  tool : Drawing.Tool
  /-- The directory for temporary files, where the parses are kept. -/
  temporaryDirectory : Path

def Environment.storeDirectory (e : Environment) : Path :=
  e.temporaryDirectory.join ⟨"ngdeps_cache"⟩

/-- What a run is to do, with the options and the template read. -/
structure Plan where
  settings : Settings
  /-- The template of the drawing, if there is to be one. -/
  template : Option String
  pattern : NamePattern

namespace Invocation

def fileSettings (i : Invocation) (t : FileTree) : Except OptionsError SettingsLayer :=
  match i.optionsFile with
  | some path => SettingsLayer.ofOptionsFile t path
  | none => .ok {}

/-- The template, if the output is a drawing. -/
def template? (i : Invocation) (s : Settings) (t : FileTree) :
    Except Drawing.DrawingError (Option String) :=
  match i.format with
  | .graph => (Drawing.loadTemplate s t).map some
  | .json => .ok none

def plan (i : Invocation) (t : FileTree) : Except Failure Plan := do
  let layer ← (i.fileSettings t).mapError .options
  let settings := Settings.resolve (layer.overlay i.settings)
  let template ← (i.template? settings t).mapError .drawing
  match NamePattern.ofText? i.pattern with
  | some pattern => .ok ⟨settings, template, pattern⟩
  | none => .error (.pattern i.pattern)

def workspace (i : Invocation) (e : Environment) (t : FileTree) : Workspace :=
  if i.parseAll then ⟨t, none⟩
  else
    let (t, store) := ParseStore.openAt StoredParse.format (some e.storeDirectory) t
    ⟨t, some store⟩

def report? (i : Invocation) (e : Environment) (p : Plan) (t : FileTree) :
    Option (FileTree × Except AnalysisError Report) :=
  let w := i.workspace e t
  let analysis :=
    if i.strict then w.analyzeStrict? p.pattern.isMatch i.inputs
    else w.analyze? p.pattern.isMatch i.inputs
  analysis.map fun (w, result) => (w.tree, result)

def write (i : Invocation) (e : Environment) (p : Plan) (records : List Record) (t : FileTree) :
    FileTree × Except Failure Unit :=
  match p.template with
  | some template =>
    let (t, result) := Drawing.draw e.tool p.settings template records t
    (t, result.mapError .drawing)
  | none =>
    let (t, result) := t.writeText i.output (Record.documentText .indented records)
    (t, result.mapError .output)

/-- A run, if it comes back: the files it leaves, and whether it failed. -/
def run? (i : Invocation) (e : Environment) (t : FileTree) :
    Option (FileTree × Except Failure Unit) :=
  match i.plan t with
  | .error failure => some (t, .error failure)
  | .ok p =>
    (i.report? e p t).map fun
      | (t, .error cause) => (t, .error (.analysis cause))
      | (t, .ok report) => i.write e p report.records t

end Invocation

/-! ### The program -/

def versionLine : String := "ngdeps 0.1.0\n"

def usageLine : String := "Usage: ngdeps [OPTIONS] <PATHS>...\n"

structure Outcome where
  tree : FileTree
  status : Nat
  output : String := ""
  report : String := ""

/-- What a call of the program does, if it comes back. -/
def call? (e : Environment) (arguments : List String) (t : FileTree) : Option Outcome :=
  match Request.ofArguments arguments with
  | .error cause => some ⟨t, 2, "", "error: " ++ cause.message ++ "\n\n" ++ usageLine⟩
  | .ok .version => some ⟨t, 0, versionLine, ""⟩
  | .ok .help => some ⟨t, 0, usageLine, ""⟩
  | .ok (.run invocation) =>
    (invocation.run? e t).map fun
      | (t, .ok ()) => ⟨t, 0, "", ""⟩
      | (t, .error failure) => ⟨t, 1, "", "Error: " ++ failure.headline ++ "\n"⟩

end DecoratorGraph.CommandLine
