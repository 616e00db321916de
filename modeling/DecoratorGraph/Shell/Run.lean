import DecoratorGraph.Shell.Programs
import DecoratorGraph.Shell.Reader
/-!
# Running shell scripts

What a script does to a file tree, and the drawing tool that runs scripts of the tree.
-/

namespace DecoratorGraph.Shell

open Drawing (Run Tool)

/-! ### Redirections -/

def Streams.sink (streams : Streams) (descriptor : Nat) : Sink :=
  if descriptor = 2 then streams.report else streams.output

def Streams.lead (streams : Streams) (descriptor : Nat) (sink : Sink) : Streams :=
  if descriptor = 2 then { streams with report := sink }
  else if descriptor = 1 then { streams with output := sink }
  else streams

def cannotCreate (target : String) (e : IoError) : String :=
  "cannot create " ++ target ++ ": " ++
    (match e with
      | .notFound => "Directory nonexistent"
      | e => plainMessage e)

def redirect (s : State) (streams : Streams) : Redirection → State × Except String Streams
  | .duplicate descriptor source => (s, .ok (streams.lead descriptor (streams.sink source)))
  | .input target =>
    let file := wordText s target
    match s.tree.readBytes ⟨file⟩ with
    | .ok bytes => (s, .ok { streams with input := bytes })
    | .error .notFound => (s, .error ("cannot open " ++ file ++ ": No such file"))
    | .error e => (s, .error ("cannot open " ++ file ++ ": " ++ plainMessage e))
  | .output descriptor append target =>
    let file := wordText s target
    if file = "/dev/null" then (s, .ok (streams.lead descriptor .output))
    else
      let kept := if append then (s.tree.readBytes ⟨file⟩).toOption.getD [] else []
      match s.tree.write ⟨file⟩ kept with
      | .error e => (s, .error (cannotCreate file e))
      | .ok t =>
        match t.locate ⟨file⟩ with
        | .ok p => ({ s with tree := t }, .ok (streams.lead descriptor (.file p)))
        | .error e => (s, .error (cannotCreate file e))

def redirectAll (s : State) (streams : Streams) :
    List Redirection → State × Except String Streams
  | [] => (s, .ok streams)
  | r :: rest =>
    match redirect s streams r with
    | (s, .ok streams) => redirectAll s streams rest
    | (s, .error message) => (s, .error message)

/-! ### Commands -/

/-- What opens the shell's own reports about a line. -/
def lineLabel (s : State) (line : Nat) : String := s.name ++ ": " ++ toString line ++ ": "

def assign (s : State) (assignments : List (String × Word)) : State :=
  assignments.foldl (fun s a => { s with bindings := (a.1, wordText s a.2) :: s.bindings }) s

def runSimple (line : Nat) (assignments : List (String × Word)) (words : List Word)
    (redirections : List Redirection) (streams : Streams) (s : State) : State :=
  let arguments := words.flatMap (fields s)
  match redirectAll s streams redirections with
  | (s, .error message) => s.complain streams (lineLabel s line ++ message) 2
  | (s, .ok inner) =>
    match arguments with
    | [] => (assign s assignments).withStatus 0
    | "exec" :: program :: rest =>
      let s := runProgram (lineLabel s line) inner s program rest
      { s with ending := s.ending <|> some (.exited s.status) }
    | program :: rest => runProgram (lineLabel s line) inner s program rest

/-- Leaves a subshell: it ends by itself, unless the script was killed. -/
def leaveSubshell (outer inner : State) : State :=
  let s := { inner with bindings := outer.bindings, arguments := outer.arguments }
  match inner.ending with
  | some (.exited status) => { s with ending := none, status := status }
  | _ => s

def run (streams : Streams) (s : State) : Command → State
  | .nothing => s
  | .simple line assignments words redirections =>
    if s.ending.isSome then s else runSimple line assignments words redirections streams s
  | .subshell line body redirections =>
    if s.ending.isSome then s
    else
      match redirectAll s streams redirections with
      | (s, .error message) => s.complain streams (lineLabel s line ++ message) 2
      | (s, .ok inner) => leaveSubshell s (run inner s body)
  | .group line body redirections =>
    if s.ending.isSome then s
    else
      match redirectAll s streams redirections with
      | (s, .error message) => s.complain streams (lineLabel s line ++ message) 2
      | (s, .ok inner) => run inner s body
  | .sequence first second => run streams (run streams s first) second
  | .both first second =>
    let s := run streams s first
    if s.status = 0 then run streams s second else s
  | .either first second =>
    let s := run streams s first
    if s.status = 0 then s else run streams s second
  | .negation body =>
    let s := run streams s body
    if s.ending.isSome then s else s.withStatus (if s.status = 0 then 1 else 0)
  | .conditional condition onSuccess onFailure =>
    let s := run streams s condition
    if s.status = 0 then run streams s onSuccess else run streams (s.withStatus 0) onFailure
  | .pipe first second =>
    if s.ending.isSome then s
    else
      let written := run { streams with output := .output } { s with output := [] } first
      let between := { leaveSubshell s written with output := s.output }
      leaveSubshell s (run { streams with input := written.output } between second)

def runScript (t : FileTree) (name : String) (arguments : List String) (script : String) : Run :=
  match Command.ofScript? script with
  | none => ⟨t, .exited 2, Text.Utf8.encode (name ++ ": Syntax error\n")⟩
  | some command =>
    let s := run {} ⟨t, name, arguments, [], 0, none, [], []⟩ command
    ⟨s.tree, s.ending.getD (.exited s.status), s.report⟩

/-! ### Programs of a file tree -/

/-- The programs that are found by their names alone, and the statuses they end with. -/
def namedPrograms : List (String × Nat) := [("true", 0), ("false", 1)]

def programDirectories : List String := ["/bin/", "/usr/bin/"]

def interpreters : List String := [
  "/bin/sh", "/bin/dash", "/bin/bash", "/usr/bin/sh", "/usr/bin/dash", "/usr/bin/bash",
  "/usr/bin/env sh", "/usr/bin/env bash"]

/-- The program that a script asks to be read by. -/
def interpreterOf? (script : String) : Option String :=
  match script.toList with
  | '#' :: '!' :: r => some (String.ofList (Text.trim (r.takeWhile (· != '\n'))))
  | _ => none

def namedStatus? (program : String) : Option Nat :=
  (namedPrograms.find? fun p =>
    program == p.1 || programDirectories.any fun d => program == d ++ p.1).map Prod.snd

/-- Runs a program: one that is found by its name, or an executable script of the tree by its
path. -/
def tool : Tool := fun t program arguments =>
  match namedStatus? program with
  | some status => .ok ⟨t, .exited status, []⟩
  | none =>
    if !program.toList.contains '/' then .error .notFound
    else
      match t.nodeAt ⟨program⟩ with
      | .error e => .error e
      | .ok (_, .file content true _) =>
        let script := Text.Utf8.decodeLossy content
        match interpreterOf? script with
        | none => .error .notExecutable
        | some interpreter =>
          if interpreters.contains interpreter then .ok (runScript t program arguments script)
          else .error .notFound
      | .ok _ => .error .permissionDenied

end DecoratorGraph.Shell
