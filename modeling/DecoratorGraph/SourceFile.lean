import DecoratorGraph.FileTree.Lookup
import DecoratorGraph.Script.Reader
import DecoratorGraph.Text.Utf8
/-!
# Source files

Which files of a tree are read, and in which order. Inputs keep the order in which they are
given; a directory stands for the source files below it in the order of their names.
-/

namespace DecoratorGraph

def Script.Dialect.name : Script.Dialect → String
  | .typeScript => "typescript"
  | .tsx => "tsx"

def Script.Dialect.ofName? (name : String) : Option Script.Dialect :=
  [.typeScript, .tsx].find? fun d => d.name == name

def unsupportedLanguage (name : String) : String := "Unsupported language: " ++ name

/-- A file to be read, and as what. -/
structure SourceFile where
  path : Path
  dialect : Script.Dialect
  deriving DecidableEq, Repr

/-! ### Names

What kind of file a name tells is read off its bytes, which need not be those of a text. -/

def typeDeclarationEnds : List String := [".d.ts", ".d.mts", ".d.cts"]

namespace FileName

/-- Whether a file holds types only. A name that is no text is not looked at. -/
def isTypeDeclaration (name : List UInt8) : Bool :=
  match Text.Utf8.decode? name with
  | some text => typeDeclarationEnds.any fun e => e.toList.isSuffixOf text.toList
  | none => false

def dot : UInt8 := 0x2E

/-- What follows the last dot, if something precedes that dot. -/
def extension? (name : List UInt8) : Option (List UInt8) :=
  let extension := Text.afterLast dot name
  let stem := name.take (name.length - extension.length - 1)
  if name = [dot, dot] ∨ stem = [] then none else some extension

def dialectOf? (extension : List UInt8) : Option Script.Dialect :=
  if extension ∈ ["ts", "mts", "cts"].map Text.Utf8.encode then some .typeScript
  else if extension = Text.Utf8.encode "tsx" then some .tsx
  else none

/-- The dialect of a source file with this name; none if that is no name of a source file. -/
def dialect? (name : List UInt8) : Option Script.Dialect :=
  if isTypeDeclaration name then none else (extension? name).bind dialectOf?

end FileName

def Path.isTypeDeclaration (p : Path) : Bool :=
  p.fileName?.any fun name => FileName.isTypeDeclaration (Text.Utf8.encode name)

namespace SourceFile

def ofPath? (p : Path) : Option SourceFile :=
  p.fileName?.bind fun name => (FileName.dialect? (Text.Utf8.encode name)).map (⟨p, ·⟩)

theorem path_of_ofPath? {p : Path} {f : SourceFile} (h : ofPath? p = some f) : f.path = p := by
  obtain ⟨name, -, h⟩ := Option.bind_eq_some_iff.1 h
  obtain ⟨d, -, rfl⟩ := Option.map_eq_some_iff.1 h
  rfl

end SourceFile

/-- Why inputs stand for no list of source files. -/
inductive ScanError where
  /-- An input leads neither to a directory nor to a file. -/
  | missingInput (path : Path)
  deriving DecidableEq, Repr

def ScanError.message : ScanError → String
  | .missingInput path => "input path does not exist: " ++ path.text

namespace FileTree

/-- The path of a place below a directory that is given by a path. -/
def pathBelow (p : Path) (names : Place) : Path := names.foldl (fun p name => p.join ⟨name⟩) p

def sourceFilesBelow (t : FileTree) (input : Path) : List SourceFile :=
  match t.locate input with
  | .ok p => (t.filesBelow input p).filterMap fun names =>
    SourceFile.ofPath? (pathBelow input names)
  | .error _ => []

def sourceFilesOf (t : FileTree) (input : Path) : Except ScanError (List SourceFile) :=
  if t.isDirectory input then .ok (t.sourceFilesBelow input)
  else if t.isFile input then .ok (SourceFile.ofPath? input).toList
  else .error (.missingInput input)

def sourceFiles (t : FileTree) : List Path → Except ScanError (List SourceFile)
  | [] => .ok []
  | input :: inputs => do
    let files ← t.sourceFilesOf input
    let others ← t.sourceFiles inputs
    .ok (files ++ others)

end FileTree

end DecoratorGraph
