import DecoratorGraph.CommandLine.Run
import DecoratorGraph.Shell.Run
/-!
# The program

Takes the files that the arguments can speak of from the disk, calls the program on them, and
writes what it changed back. Nothing is decided here.
-/

namespace DecoratorGraph.Main

def placeOf (path : String) : Place := (Path.mk path).pieces.filter fun piece => piece ≠ ""

/-- The absolute path of a place. -/
def pathOf (p : Place) : String := "/" ++ "/".intercalate p

def withWay (t : FileTree) (p : Place) : FileTree :=
  (List.range p.length).foldl
    (fun t n => if (t.node? (p.take n)).isSome then t else t.put (p.take n) .directory) t

/-- Whether a file is to be run as a script; the disk is not asked for permissions. -/
def isScript (content : List UInt8) : Bool := "#!".toUTF8.toList.isPrefixOf content

def load : Nat → FileTree → String → IO FileTree
  | 0, t, _ => pure t
  | depth + 1, t, path => do
    let p := placeOf path
    if p ≠ [] ∧ (t.node? p).isSome then return t
    let t := withWay t p
    let entry := (← IO.currentDir) / path
    let status ← entry.symlinkMetadata
    match status.type with
    | .dir =>
      let mut t := t.put p .directory
      for child in ← entry.readDir do
        t ← load depth t (path ++ "/" ++ child.fileName)
      return t
    | .file =>
      let content := (← IO.FS.readBinFile entry).toList
      let modified := status.modified.sec * 1000000000 + status.modified.nsec.toNat
      return t.put p (.file content (isScript content) modified)
    | .symlink =>
      if ← entry.pathExists then
        let target := (← IO.FS.realPath entry).toString
        load depth (t.put p (.link ⟨target⟩)) target
      else return t
    | .other => return t

def depthLimit : Nat := FileTree.pathLimit / 2

def loadIfThere (t : FileTree) (path : String) : IO FileTree := do
  let entry := (← IO.currentDir) / path
  if path ≠ "" ∧ (← entry.pathExists) then
    load depthLimit t (← IO.FS.realPath entry).toString
  else return t

/-- The value in an argument of the form `--option=value`, or the whole argument. -/
def valueOf (argument : String) : String :=
  match argument.toList.dropWhile (· != '=') with
  | [] => argument
  | _ :: value => String.ofList value

def save (before after : FileTree) : IO Unit := do
  for (p, n) in after.entries do
    if n.isDirectory && (before.node? p).isNone then IO.FS.createDirAll (pathOf p)
  for (p, content) in before.changedFrom after do
    IO.FS.writeBinFile (pathOf p) ⟨content.toArray⟩

/-- Does not come back. -/
def wait : IO UInt32 := do
  while true do IO.sleep 1000
  return 0

def runOnDisk (arguments : List String) : IO UInt32 := do
  let here := (← IO.FS.realPath (← IO.currentDir)).toString
  let temporary := (← IO.getEnv "TMPDIR").getD "/tmp"
  let environment : CommandLine.Environment := ⟨Shell.tool, ⟨temporary⟩⟩
  let mut before ← load depthLimit { workingDirectory := placeOf here } here
  for argument in arguments do
    before ← loadIfThere before (valueOf argument)
  before ← loadIfThere before environment.storeDirectory.text
  match CommandLine.call? environment arguments before with
  | some outcome =>
    save before outcome.tree
    (← IO.getStdout).putStr outcome.output
    (← IO.getStderr).putStr outcome.report
    return outcome.status.toUInt32
  | none => wait

end DecoratorGraph.Main

def main (arguments : List String) : IO UInt32 := DecoratorGraph.Main.runOnDisk arguments
