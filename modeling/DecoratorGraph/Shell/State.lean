import DecoratorGraph.Drawing.Artifacts
import DecoratorGraph.Shell.Command
/-!
# The state of a running script

The files, the parameters of the script and what it has written so far, and the fields that
words stand for in a state.
-/

namespace DecoratorGraph.Shell

open Drawing (Ending)

/-! ### State -/

/-- Where what is written to a descriptor goes. -/
inductive Sink where
  | output
  | report
  | file (place : Place)
  deriving DecidableEq, Repr

structure Streams where
  output : Sink := .output
  report : Sink := .report
  input : List UInt8 := []
  deriving Repr

structure State where
  tree : FileTree
  /-- The name of the script. -/
  name : String
  arguments : List String
  bindings : List (String × String) := []
  /-- The status of the last command. -/
  status : Nat := 0
  /-- How the script ended, if it has. -/
  ending : Option Ending := none
  output : List UInt8 := []
  report : List UInt8 := []

namespace State

def write (s : State) (sink : Sink) (bytes : List UInt8) : State :=
  match sink with
  | .output => { s with output := s.output ++ bytes }
  | .report => { s with report := s.report ++ bytes }
  | .file p =>
    match s.tree.putContent p ((s.tree.contentAt? p).getD [] ++ bytes) with
    | .ok t => { s with tree := t }
    | .error _ => s

def withStatus (s : State) (status : Nat) : State := { s with status := status }

def complain (s : State) (streams : Streams) (message : String) (status : Nat) : State :=
  (s.write streams.report (Text.Utf8.encode (message ++ "\n"))).withStatus status

def processNumber : String := "4242"

def parameter (s : State) (name : String) : String :=
  match name.toNat? with
  | some 0 => s.name
  | some (n + 1) => s.arguments.getD n ""
  | none =>
    if name = "#" then toString s.arguments.length
    else if name = "?" then toString s.status
    else if name = "$" then processNumber
    else (s.bindings.lookup name).getD ""

end State

/-! ### Words -/

/-- Fields under construction: those that are complete, in reverse, and the one that is
begun. -/
structure Fields where
  complete : List (List Char) := []
  begun : Option (List Char) := none

namespace Fields

def add (f : Fields) (text : List Char) : Fields :=
  { f with begun := some (f.begun.getD [] ++ text) }

def finish (f : Fields) : Fields :=
  match f.begun with
  | some text => ⟨text :: f.complete, none⟩
  | none => f

/-- Adds text that is split at blanks. -/
def addSplit (f : Fields) (text : List Char) : Fields :=
  text.foldl (fun f c => if c = ' ' ∨ c = '\t' ∨ c = '\n' then f.finish else f.add [c]) f

/-- Adds texts as fields of their own, of which the first and the last one may be joined to
what stands around them. -/
def addAll (f : Fields) : List String → Fields
  | [] => f
  | [x] => f.add x.toList
  | x :: y :: rest => ((f.add x.toList).finish).addAll (y :: rest)

def toList (f : Fields) : List String := f.finish.complete.reverse.map String.ofList

end Fields

def addFragment (s : State) (f : Fields) : Fragment → Fields
  | .text content => f.add content
  | .parameter "@" true => f.addAll s.arguments
  | .parameter name quoted =>
    let value :=
      if name = "@" ∨ name = "*" then " ".intercalate s.arguments else s.parameter name
    if quoted then f.add value.toList else f.addSplit value.toList

def fields (s : State) (w : Word) : List String := (w.foldl (addFragment s) {}).toList

def wordText (s : State) (w : Word) : String := " ".intercalate (fields s w)

end DecoratorGraph.Shell
