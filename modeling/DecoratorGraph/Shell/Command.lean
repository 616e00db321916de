/-!
# Shell commands

The commands of small shell scripts: words with parameters, redirections, lists, groups and
conditionals. There are no loops and no functions, so that running a command is recursion on
it.
-/

namespace DecoratorGraph.Shell

/-- A part of a word. A parameter is split into fields where it stands outside quotes. -/
inductive Fragment where
  | text (content : List Char)
  | parameter (name : String) (quoted : Bool)
  deriving DecidableEq, Repr

abbrev Word := List Fragment

inductive Redirection where
  /-- Into a file, which is emptied first unless it is appended to. -/
  | output (descriptor : Nat) (append : Bool) (target : Word)
  | input (target : Word)
  /-- To where another descriptor leads. -/
  | duplicate (descriptor source : Nat)
  deriving DecidableEq, Repr

/-- A command. A simple one knows the line it stands on, for reports. -/
inductive Command where
  | nothing
  | simple (line : Nat) (assignments : List (String × Word)) (words : List Word)
      (redirections : List Redirection)
  | subshell (line : Nat) (body : Command) (redirections : List Redirection)
  | group (line : Nat) (body : Command) (redirections : List Redirection)
  | sequence (first second : Command)
  /-- The second one runs if the first one succeeds. -/
  | both (first second : Command)
  /-- The second one runs if the first one fails. -/
  | either (first second : Command)
  | negation (body : Command)
  | conditional (condition onSuccess onFailure : Command)
  /-- What the first one writes is what the second one reads. -/
  | pipe (first second : Command)
  deriving DecidableEq, Repr

end DecoratorGraph.Shell
