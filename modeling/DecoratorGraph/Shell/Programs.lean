import DecoratorGraph.Shell.Print
import DecoratorGraph.Shell.State
/-!
# Programs of the shell

The commands of the shell and the programs that scripts find by their names. Other programs
are not found.
-/

namespace DecoratorGraph.Shell

def signalNumber? (text : String) : Option Nat :=
  match text.toNat? with
  | some n => some n
  | none =>
    (Drawing.signalNames.find? fun s => s.2 == text || s.2 == "SIG" ++ text).map Prod.fst

def plainMessage (e : IoError) : String :=
  match e with
  | .notFound => "No such file or directory"
  | .permissionDenied => "Permission denied"
  | .alreadyExists => "File exists"
  | .notADirectory => "Not a directory"
  | .isADirectory => "Is a directory"
  | e => e.message

def State.attempt (s : State) (streams : Streams) (label : String)
    (access : FileTree × Except IoError Unit) : State :=
  match access with
  | (t, .ok ()) => { s with tree := t }
  | (t, .error e) => { s with tree := t }.complain streams (label ++ ": " ++ plainMessage e) 1

/-- The tree after an access that leaves it as it is if it fails. -/
def whole (t : FileTree) (access : Except IoError FileTree) : FileTree × Except IoError Unit :=
  match access with
  | .ok t => (t, .ok ())
  | .error e => (t, .error e)

def cat (streams : Streams) (s : State) (file : String) : State :=
  if file = "-" then s.write streams.output streams.input
  else
    match s.tree.readBytes ⟨file⟩ with
    | .ok bytes => s.write streams.output bytes
    | .error e => s.complain streams ("cat: " ++ file ++ ": " ++ plainMessage e) 1

/-- The path of a copy: a directory gets a file of the same name. -/
def targetPath (t : FileTree) (source target : String) : Path :=
  if t.isDirectory ⟨target⟩ then (Path.mk target).join ⟨((Path.mk source).fileName?).getD source⟩
  else ⟨target⟩

def copy (program : String) (streams : Streams) (s : State) (source target : String) : State :=
  match s.tree.readBytes ⟨source⟩ with
  | .ok bytes =>
    s.attempt streams (program ++ ": " ++ target)
      (whole s.tree (s.tree.write (targetPath s.tree source target) bytes))
  | .error e => s.complain streams (program ++ ": " ++ source ++ ": " ++ plainMessage e) 1

def touch (streams : Streams) (s : State) (file : String) : State :=
  if s.tree.exists? ⟨file⟩ then s
  else s.attempt streams ("touch: " ++ file) (whole s.tree (s.tree.write ⟨file⟩ []))

/-- Whether a test holds; none if it is malformed. -/
def testHolds? (t : FileTree) : List String → Option Bool
  | [] => some false
  | [x] => some (x != "")
  | ["!", x] => some (x == "")
  | ["-n", x] => some (x != "")
  | ["-z", x] => some (x == "")
  | ["-e", x] => some (t.exists? ⟨x⟩)
  | ["-f", x] => some (t.isFile ⟨x⟩)
  | ["-d", x] => some (t.isDirectory ⟨x⟩)
  | ["-r", x] => some (t.exists? ⟨x⟩)
  | ["-w", x] => some (t.exists? ⟨x⟩)
  | ["-s", x] => some ((t.readBytes ⟨x⟩).toOption.any fun bytes => !bytes.isEmpty)
  | [x, "=", y] => some (x == y)
  | [x, "!=", y] => some (x != y)
  | [x, "-eq", y] => some (x.toNat? == y.toNat?)
  | [x, "-ne", y] => some (x.toNat? != y.toNat?)
  | [x, "-lt", y] => some ((x.toNat?.getD 0) < (y.toNat?.getD 0))
  | [x, "-le", y] => some ((x.toNat?.getD 0) ≤ (y.toNat?.getD 0))
  | [x, "-gt", y] => some ((y.toNat?.getD 0) < (x.toNat?.getD 0))
  | [x, "-ge", y] => some ((y.toNat?.getD 0) ≤ (x.toNat?.getD 0))
  | "!" :: words => (testHolds? t words).map not
  | _ => none

def State.test (s : State) (streams : Streams) (label : String) (words : List String) : State :=
  match testHolds? s.tree words with
  | some holds => s.withStatus (if holds then 0 else 1)
  | none => s.complain streams (label ++ ": unexpected operator") 2

def isOption (word : String) : Bool := word.toList.head? == some '-' && word != "-"

def hasLetter (letter : Char) (arguments : List String) : Bool :=
  arguments.any fun a => isOption a && a.toList.contains letter

/-- The signal that the arguments of `kill` ask for, and the processes. -/
def killed : List String → Option Nat × List String
  | "-s" :: signal :: processes => (signalNumber? signal, processes)
  | "-n" :: signal :: processes => (signalNumber? signal, processes)
  | first :: processes =>
    if isOption first then (signalNumber? (String.ofList (first.toList.drop 1)), processes)
    else (some 15, first :: processes)
  | [] => (none, [])

/-- Sends a signal; the only process that there is is the script itself. -/
def State.kill (s : State) (streams : Streams) (label : String) (arguments : List String) :
    State :=
  match killed arguments with
  | (some signal, [process]) =>
    if process = State.processNumber then
      if signal = 0 then s else { s with ending := some (.killed signal) }
    else s.complain streams (label ++ "kill: No such process") 1
  | _ => s.complain streams (label ++ "kill: Illegal option") 2

def State.exit (s : State) (streams : Streams) (label : String) (arguments : List String) :
    State :=
  match arguments with
  | [] => { s with ending := some (.exited s.status) }
  | word :: _ =>
    match word.toNat? with
    | some status => { s with ending := some (.exited (status % 256)) }
    | none =>
      { s.complain streams (label ++ "exit: Illegal number: " ++ word) 2 with
        ending := some (.exited 2) }

def firstLines : Nat → List UInt8 → List UInt8
  | 0, _ => []
  | n + 1, bytes =>
    let line := bytes.takeWhile (· != 10)
    match bytes.dropWhile (· != 10) with
    | [] => line
    | _ :: rest => line ++ 10 :: firstLines n rest

def head (streams : Streams) (s : State) (lines : Nat) (file : String) : State :=
  match s.tree.readBytes ⟨file⟩ with
  | .ok bytes => s.write streams.output (firstLines lines bytes)
  | .error e =>
    s.complain streams
      ("head: cannot open '" ++ file ++ "' for reading: " ++ plainMessage e) 1

def runHead (streams : Streams) (s : State) (arguments : List String) : State :=
  let (lines, files) :=
    match arguments with
    | "-n" :: n :: files => (n.toNat?.getD 10, files)
    | first :: files =>
      if isOption first then
        ((String.ofList (first.toList.filter Char.isDigit)).toNat?.getD 10, files)
      else (10, first :: files)
    | [] => (10, [])
  match files with
  | [] => s.write streams.output (firstLines lines streams.input)
  | files => files.foldl (fun s file => head streams s lines file) s

def removeFile (streams : Streams) (force : Bool) (s : State) (file : String) : State :=
  if force && !s.tree.exists? ⟨file⟩ then s
  else s.attempt streams ("rm: cannot remove '" ++ file ++ "'") (s.tree.remove ⟨file⟩)

def makeDirectory (streams : Streams) (parents : Bool) (s : State) (directory : String) :
    State :=
  s.attempt streams ("mkdir: cannot create directory '" ++ directory ++ "'")
    (if parents then s.tree.makeDirectories ⟨directory⟩
    else whole s.tree (s.tree.makeDirectory ⟨directory⟩))

def copyOrMove (program : String) (streams : Streams) (s : State) : List String → State
  | [source, target] =>
    let copied := copy program streams s source target
    if program = "mv" ∧ copied.status = 0 then
      copied.attempt streams ("mv: " ++ source) (copied.tree.remove ⟨source⟩)
    else copied
  | _ => s.complain streams (program ++ ": missing file operand") 1

def State.missing (s : State) (streams : Streams) (label program : String) : State :=
  if program.toList.contains '/' && s.tree.exists? ⟨program⟩ then
    s.complain streams (label ++ program ++ ": Permission denied") 126
  else s.complain streams (label ++ program ++ ": not found") 127

/-- Runs a command of the shell or a program by its name; `label` opens the shell's own
reports. -/
def runProgram (label : String) (streams : Streams) (before : State) (program : String)
    (arguments : List String) : State :=
  let s := before.withStatus 0
  let files := arguments.filter fun a => !isOption a
  match program with
  | ":" | "true" | "set" | "export" | "unset" | "sleep" | "sync" | "chmod" => s
  | "false" => s.withStatus 1
  | "echo" => s.write streams.output (echoBytes arguments)
  | "printf" => s.write streams.output (printfBytes arguments)
  | "cat" => (if files.isEmpty then ["-"] else files).foldl (cat streams) s
  | "head" => runHead streams s arguments
  | "tee" =>
    files.foldl
      (fun s file =>
        s.attempt streams ("tee: " ++ file) (whole s.tree (s.tree.write ⟨file⟩ streams.input)))
      (s.write streams.output streams.input)
  | "exit" => before.exit streams label arguments
  | "kill" => s.kill streams label arguments
  | "shift" =>
    { s with arguments := s.arguments.drop ((arguments.head?.bind String.toNat?).getD 1) }
  | "cp" | "mv" => copyOrMove program streams s files
  | "rm" => files.foldl (removeFile streams (hasLetter 'f' arguments)) s
  | "mkdir" => files.foldl (makeDirectory streams (hasLetter 'p' arguments)) s
  | "touch" => files.foldl (touch streams) s
  | "ln" =>
    match files with
    | [target, name] =>
      s.attempt streams ("ln: failed to create symbolic link '" ++ name ++ "'")
        (whole s.tree (s.tree.makeLink ⟨name⟩ ⟨target⟩))
    | _ => s.complain streams "ln: missing file operand" 1
  | "test" => s.test streams (label ++ "test") arguments
  | "[" =>
    if arguments.getLast? = some "]" then s.test streams (label ++ "[") arguments.dropLast
    else s.complain streams (label ++ "[: missing ]") 2
  | _ => s.missing streams label program

end DecoratorGraph.Shell
