import DecoratorGraph.Drawing.Dot
import DecoratorGraph.Drawing.Html
import DecoratorGraph.FileTree.Access
/-!
# Artifacts of a drawing

A drawing is made in three stages, each of which writes one file: the graph text, the image
that the drawing tool makes of it, and the document with the image. A stage that fails ends
the drawing; what the stages before it wrote stays.
-/

namespace DecoratorGraph.Drawing

/-! ### The drawing tool -/

inductive Ending where
  | exited (status : Nat)
  | killed (signal : Nat)
  deriving DecidableEq, Repr

def signalNames : List (Nat × String) :=
  [(1, "SIGHUP"), (2, "SIGINT"), (3, "SIGQUIT"), (4, "SIGILL"), (5, "SIGTRAP"), (6, "SIGABRT"),
    (7, "SIGBUS"), (8, "SIGFPE"), (9, "SIGKILL"), (10, "SIGUSR1"), (11, "SIGSEGV"),
    (12, "SIGUSR2"), (13, "SIGPIPE"), (14, "SIGALRM"), (15, "SIGTERM")]

/-- The wording for how a run ended. -/
def Ending.message : Ending → String
  | .exited status => "exit status: " ++ toString status
  | .killed signal =>
    "signal: " ++ toString signal ++
      (match signalNames.lookup signal with
        | some name => " (" ++ name ++ ")"
        | none => "")

/-- A finished run of a program: the files it leaves, how it ended, and the bytes it reported
on its way. -/
structure Run where
  tree : FileTree
  ending : Ending
  report : List UInt8 := []

/-- How programs behave: a program by its name, with arguments, on the files, runs to its end
or cannot be started. -/
abbrev Tool := FileTree → String → List String → Except IoError Run

/-! ### Failures -/

inductive Stage where
  | dot
  | image
  | html
  deriving DecidableEq, Repr

def Stage.name : Stage → String
  | .dot => "DOT"
  | .image => "SVG"
  | .html => "HTML"

inductive StageCause where
  | access (cause : IoError)
  | tool (program : String) (ending : Ending) (report : String)
  deriving DecidableEq, Repr

def StageCause.message : StageCause → String
  | .access cause => cause.message
  | .tool program ending report => program ++ " exited with " ++ ending.message ++ ": " ++ report

inductive DrawingError where
  | missingTemplate (path : Path)
  | failed (stage : Stage) (cause : StageCause)
  deriving DecidableEq, Repr

/-- The stage that failed; none if none was begun. -/
def DrawingError.stage? : DrawingError → Option Stage
  | .missingTemplate _ => none
  | .failed stage _ => some stage

def DrawingError.message : DrawingError → String
  | .missingTemplate path => "the template \"" ++ path.text ++ "\" is missing"
  | .failed stage cause => "generating " ++ stage.name ++ " failed: " ++ cause.message

/-! ### Stages -/

def loadTemplate (s : Settings) (t : FileTree) : Except DrawingError String :=
  match s.template with
  | none => .ok standardTemplate
  | some path =>
    if t.exists? path then (t.readText path).mapError fun e => .failed .dot (.access e)
    else .error (.missingTemplate path)

/-- A step of a drawing: the files it leaves, and whether it failed. -/
abbrev Step := FileTree × Except DrawingError Unit

/-- Goes on with the files that a step leaves, unless it failed. -/
def Step.next (step : Step) (k : FileTree → Step) : Step :=
  match step with
  | (t, .ok ()) => k t
  | (t, .error e) => (t, .error e)

def stepOf (stage : Stage) (access : FileTree × Except IoError Unit) : Step :=
  (access.1, access.2.mapError fun e => .failed stage (.access e))

def drawDot (s : Settings) (template : String) (records : List Record) (t : FileTree) : Step :=
  stepOf .dot (t.writeText s.dotFile (dotText s template records))

def toolArguments (s : Settings) : List String :=
  ["-Tsvg", s.dotFile.text, "-o", s.imageFile.text]

/-- Has the tool make the image of the graph text. -/
def runTool (tool : Tool) (s : Settings) (t : FileTree) : Step :=
  match tool t s.graphviz (toolArguments s) with
  | .error e => (t, .error (.failed .image (.access e)))
  | .ok run =>
    if run.ending = .exited 0 then (run.tree, .ok ())
    else
      let report := String.ofList (Text.trim (Text.Utf8.decodeLossy run.report).toList)
      (run.tree, .error (.failed .image (.tool s.graphviz run.ending report)))

def drawImage (tool : Tool) (s : Settings) (t : FileTree) : Step :=
  (stepOf .image (t.makeParents s.imageFile)).next (runTool tool s)

def drawDocument (s : Settings) (t : FileTree) : Step :=
  match t.readText s.imageFile with
  | .error e => (t, .error (.failed .html (.access e)))
  | .ok svg => stepOf .html (t.writeText s.htmlFile (htmlDocument s.name svg))

def draw (tool : Tool) (s : Settings) (template : String) (records : List Record) (t : FileTree) :
    Step :=
  ((drawDot s template records t).next (drawImage tool s)).next (drawDocument s)

end DecoratorGraph.Drawing
