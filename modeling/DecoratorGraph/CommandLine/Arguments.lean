import DecoratorGraph.Drawing.Settings
import DecoratorGraph.Pattern.Reader
/-!
# Arguments of the command line

What the arguments ask for. Options may stand between the inputs and each at most once; after
`--` every argument is an input. The first fault or request for information in the order of
the arguments decides.
-/

namespace DecoratorGraph.CommandLine

inductive OutputFormat where
  | graph
  | json
  deriving DecidableEq, Repr

def OutputFormat.ofName? (name : String) : Option OutputFormat :=
  if name = "graph" then some .graph else if name = "json" then some .json else none

structure Invocation where
  inputs : List Path := []
  format : OutputFormat := .graph
  /-- Where the records go in the JSON form. -/
  output : Path := ⟨"dependencies.json"⟩
  optionsFile : Option Path := none
  /-- The settings that are given as options; they take precedence over the options file. -/
  settings : SettingsLayer := {}
  pattern : String := NamePattern.defaultText
  /-- Whether the first file that fails ends the analysis. -/
  strict : Bool := false
  /-- Whether every file is parsed, whatever is stored. -/
  parseAll : Bool := false
  deriving DecidableEq, Repr

inductive UsageError where
  | unknownOption (name : String)
  | missingValue (option : String)
  | unexpectedValue (option : String)
  | repeatedOption (option : String)
  | invalidValue (option value : String)
  | missingInputs
  deriving DecidableEq, Repr

def UsageError.message : UsageError → String
  | .unknownOption name => "unexpected argument '" ++ name ++ "' found"
  | .missingValue option => "a value is required for '" ++ option ++ "' but none was supplied"
  | .unexpectedValue option => "unexpected value for '" ++ option ++ "' found"
  | .repeatedOption option => "the argument '" ++ option ++ "' cannot be used multiple times"
  | .invalidValue option value => "invalid value '" ++ value ++ "' for '" ++ option ++ "'"
  | .missingInputs => "the following required arguments were not provided: <PATHS>..."

inductive Request where
  | version
  | help
  | run (invocation : Invocation)
  deriving DecidableEq, Repr

/-! ### Options -/

/-- An option with a value: its long name, its letter if it has one, and what it sets; none if
the value is refused. -/
structure ValueOption where
  name : String
  letter : Option Char := none
  set : Invocation → String → Option Invocation

/-- A path that is given as a value; it must not be empty. -/
def pathValue? (value : String) : Option Path := if value = "" then none else some ⟨value⟩

def settingOption (name : String) (letter : Option Char)
    (set : SettingsLayer → String → SettingsLayer) : ValueOption :=
  ⟨name, letter, fun i value => some { i with settings := set i.settings value }⟩

def settingPathOption (name : String) (set : SettingsLayer → Path → SettingsLayer) :
    ValueOption :=
  ⟨name, none, fun i value =>
    (pathValue? value).map fun path => { i with settings := set i.settings path }⟩

def valueOptions : List ValueOption := [
  ⟨"format", some 'f', fun i value =>
    (OutputFormat.ofName? value).map fun format => { i with format := format }⟩,
  ⟨"output", some 'o', fun i value =>
    (pathValue? value).map fun path => { i with output := path }⟩,
  ⟨"config", some 'c', fun i value =>
    (pathValue? value).map fun path => { i with optionsFile := some path }⟩,
  settingOption "name" (some 'n') fun l value => { l with name := some value },
  settingPathOption "dot-dir" fun l path => { l with dotDirectory := some path },
  settingPathOption "image-dir" fun l path => { l with imageDirectory := some path },
  settingPathOption "html-dir" fun l path => { l with htmlDirectory := some path },
  settingOption "shape-modules" none fun l value => { l with moduleShape := some value },
  settingOption "shape-providers" none fun l value => { l with providerShape := some value },
  settingOption "shape-directives" none fun l value => { l with directiveShape := some value },
  settingOption "color-scheme" none fun l value => { l with colorScheme := some value },
  settingPathOption "template" fun l path => { l with template := some path },
  settingOption "graphviz" none fun l value => { l with graphviz := some value },
  ⟨"pattern", none, fun i value => some { i with pattern := value }⟩]

def switches : List (String × (Invocation → Invocation)) := [
  ("fail-fast", fun i => { i with strict := true }),
  ("no-cache", fun i => { i with parseAll := true })]

/-! ### Reading -/

/-- The arguments read so far, and the options among them. -/
structure Draft where
  invocation : Invocation := {}
  seen : List String := []

namespace Draft

def note (d : Draft) (option : String) : Except UsageError Draft :=
  if d.seen.contains option then .error (.repeatedOption option)
  else .ok { d with seen := option :: d.seen }

def addInput (d : Draft) (value : String) : Except UsageError Draft :=
  match pathValue? value with
  | some path =>
    .ok { d with invocation := { d.invocation with inputs := d.invocation.inputs ++ [path] } }
  | none => .error (.missingValue "<PATHS>...")

def setValue (d : Draft) (o : ValueOption) (value : String) : Except UsageError Draft := do
  let d ← d.note o.name
  match o.set d.invocation value with
  | some invocation => .ok { d with invocation := invocation }
  | none => .error (.invalidValue o.name value)

def finish (d : Draft) : Except UsageError Request :=
  if d.invocation.inputs = [] then .error .missingInputs else .ok (.run d.invocation)

end Draft

/-- What an argument is, before it is known which options there are. -/
inductive Shape where
  /-- The mark after which only inputs follow. -/
  | separator
  | long (name : String) (value : Option String)
  | short (letter : Char) (rest : List Char)
  | plain

def Shape.of (argument : String) : Shape :=
  match argument.toList with
  | ['-', '-'] => .separator
  | '-' :: '-' :: r =>
    let name := r.takeWhile (· != '=')
    match r.dropWhile (· != '=') with
    | [] => .long (String.ofList name) none
    | _ :: value => .long (String.ofList name) (some (String.ofList value))
  | '-' :: c :: r => .short c r
  | _ => .plain

/-- What an argument begins. -/
inductive Start where
  | separator
  | input
  | version
  | help
  | switch (name : String) (set : Invocation → Invocation)
  /-- An option, with its value if that is part of the same argument. -/
  | value (o : ValueOption) (given : Option String)

/-- The value that follows the letter of an option in the same argument. -/
def attached? : List Char → Option String
  | [] => none
  | '=' :: r => some (String.ofList r)
  | r => some (String.ofList r)

/-- What an argument begins, if it can stand where it does. -/
def Start.of (argument : String) : Except UsageError Start :=
  match Shape.of argument with
  | .separator => .ok .separator
  | .plain => .ok .input
  | .short letter rest =>
    if letter = 'V' then .ok .version
    else if letter = 'h' then .ok .help
    else
      match valueOptions.find? fun o => o.letter == some letter with
      | some o => .ok (.value o (attached? rest))
      | none => .error (.unknownOption argument)
  | .long name given =>
    match valueOptions.find? fun o => o.name == name with
    | some o => .ok (.value o given)
    | none =>
      let bare (start : Start) : Except UsageError Start :=
        if given.isSome then .error (.unexpectedValue name) else .ok start
      if name = "version" then bare .version
      else if name = "help" then bare .help
      else
        match switches.lookup name with
        | some set => bare (.switch name set)
        | none => .error (.unknownOption argument)

def canBeValue (argument : String) : Bool :=
  match Shape.of argument with
  | .plain => true
  | _ => false

def readInputs (d : Draft) : List String → Except UsageError Request
  | [] => d.finish
  | argument :: rest => do
    let d ← d.addInput argument
    readInputs d rest

def readArguments (d : Draft) : List String → Except UsageError Request
  | [] => d.finish
  | argument :: rest => do
    match ← Start.of argument with
    | .separator => readInputs d rest
    | .version => .ok .version
    | .help => .ok .help
    | .input => do
      let d ← d.addInput argument
      readArguments d rest
    | .switch name set => do
      let d ← d.note name
      readArguments { d with invocation := set d.invocation } rest
    | .value o (some value) => do
      let d ← d.setValue o value
      readArguments d rest
    | .value o none =>
      match rest with
      | value :: rest =>
        if canBeValue value then do
          let d ← d.setValue o value
          readArguments d rest
        else .error (.missingValue o.name)
      | [] => .error (.missingValue o.name)

def Request.ofArguments (arguments : List String) : Except UsageError Request :=
  readArguments {} arguments

end DecoratorGraph.CommandLine
