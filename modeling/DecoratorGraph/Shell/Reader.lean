import DecoratorGraph.Shell.Command
/-!
# Reading shell scripts

A script is cut into words and operators and these are put together to commands.
-/

namespace DecoratorGraph.Shell

/-- A word, or an operator such as `;` or `>`. A new line is an operator. Each knows its line. -/
inductive Token where
  | word (line : Nat) (content : Word)
  | operator (line : Nat) (symbol : String)
  deriving DecidableEq, Repr

/-! ### Words -/

def isBlank (c : Char) : Bool := c == ' ' || c == '\t'

def endsWord (c : Char) : Bool :=
  isBlank c || c == '\n' || c == ';' || c == '&' || c == '|' || c == '<' || c == '>' || c == '(' ||
    c == ')'

def isNameStart (c : Char) : Bool := c.isAlpha || c == '_'

def isNamePart (c : Char) : Bool := c.isAlphanum || c == '_'

def isSpecial (c : Char) : Bool :=
  c.isDigit || c == '#' || c == '@' || c == '*' || c == '?' || c == '$' || c == '!' || c == '-'

/-- The name of the parameter behind a dollar sign and what follows it. -/
def parameterName? : List Char → Option (String × List Char)
  | '{' :: r =>
    match r.dropWhile (· != '\x7d') with
    | '}' :: rest => some (String.ofList (r.takeWhile (· != '\x7d')), rest)
    | _ => none
  | c :: r =>
    if isNameStart c then
      some (String.ofList (c :: r.takeWhile isNamePart), r.dropWhile isNamePart)
    else if isSpecial c then some (String.singleton c, r)
    else none
  | [] => none

def readQuoted : Nat → List Char → Option (Word × List Char)
  | 0, _ => none
  | _, [] => none
  | n + 1, c :: r =>
    if c = '"' then some ([], r)
    else if c = '\\' then
      match r with
      | [] => none
      | d :: r' => do
        let (word, rest) ← readQuoted n r'
        if d = '\n' then some (word, rest)
        else if d = '$' ∨ d = '"' ∨ d = '\\' ∨ d = '\x60' then some (.text [d] :: word, rest)
        else some (.text ['\\', d] :: word, rest)
    else if c = '$' then
      match parameterName? r with
      | some (name, r') => do
        let (word, rest) ← readQuoted n r'
        some (.parameter name true :: word, rest)
      | none => do
        let (word, rest) ← readQuoted n r
        some (.text ['$'] :: word, rest)
    else do
      let (word, rest) ← readQuoted n r
      some (.text [c] :: word, rest)

def readWord : Nat → List Char → Option (Word × List Char)
  | 0, _ => none
  | _, [] => some ([], [])
  | n + 1, c :: r =>
    if endsWord c then some ([], c :: r)
    else if c = '\'' then
      match r.dropWhile (· != '\'') with
      | [] => none
      | _ :: r' => do
        let (word, rest) ← readWord n r'
        some (.text (r.takeWhile (· != '\'')) :: word, rest)
    else if c = '"' then do
      let (quoted, r') ← readQuoted (r.length + 1) r
      let (word, rest) ← readWord n r'
      some (.text [] :: quoted ++ word, rest)
    else if c = '\\' then
      match r with
      | [] => some ([.text ['\\']], [])
      | d :: r' => do
        let (word, rest) ← readWord n r'
        if d = '\n' then some (word, rest) else some (.text [d] :: word, rest)
    else if c = '$' then
      match parameterName? r with
      | some (name, r') => do
        let (word, rest) ← readWord n r'
        some (.parameter name false :: word, rest)
      | none => do
        let (word, rest) ← readWord n r
        some (.text ['$'] :: word, rest)
    else do
      let (word, rest) ← readWord n r
      some (.text [c] :: word, rest)

/-- The operators, longer ones before those that they begin with. -/
def operators : List (List Char) :=
  [">>", ">&", "<&", "&&", "||", ";;", ">", "<", ";", "&", "|", "(", ")", "\n"].map String.toList

def lineEnds (s : List Char) : Nat := s.count '\n'

/-- Cuts a script into tokens. A number directly before a redirection is part of its
operator. -/
def tokens : Nat → Nat → List Char → Option (List Token)
  | 0, _, _ => none
  | _, _, [] => some []
  | n + 1, line, c :: r =>
    if isBlank c then tokens n line r
    else if c = '#' then tokens n line (r.dropWhile (· != '\n'))
    else if c = '\\' ∧ r.head? = some '\n' then tokens n (line + 1) (r.drop 1)
    else
      let digits := (c :: r).takeWhile Char.isDigit
      let behind := (c :: r).dropWhile Char.isDigit
      if digits ≠ [] ∧ (behind.head? = some '>' ∨ behind.head? = some '<') then
        match operators.find? fun o => o.isPrefixOf behind with
        | some o => do
          let rest ← tokens n line (behind.drop o.length)
          some (.operator line (String.ofList (digits ++ o)) :: rest)
        | none => none
      else
        match operators.find? fun o => o.isPrefixOf (c :: r) with
        | some o => do
          let rest ← tokens n (line + lineEnds o) ((c :: r).drop o.length)
          some (.operator line (String.ofList o) :: rest)
        | none => do
          let (word, behind) ← readWord (r.length + 2) (c :: r)
          let eaten := (c :: r).take (r.length + 1 - behind.length)
          let rest ← tokens n (line + lineEnds eaten) behind
          some (.word line word :: rest)

/-! ### Commands -/

/-- The text of a word that is written without quotes and parameters, one character a
fragment. -/
def plainText? (w : Word) : Option String :=
  (w.mapM fun
    | Fragment.text [c] => some c
    | _ => none).map String.ofList

def assignment? (w : Word) : Option (String × Word) :=
  let isPlain (f : Fragment) : Bool :=
    match f with
    | .text [c] => isNamePart c
    | _ => false
  match plainText? (w.takeWhile isPlain), w.dropWhile isPlain with
  | some name, .text ['='] :: value =>
    if name.toList.head?.any isNameStart then some (name, value) else none
  | _, _ => none

def redirectionOf? (symbol : String) : Option (Nat × String) :=
  let digits := symbol.toList.takeWhile Char.isDigit
  let sign := String.ofList (symbol.toList.dropWhile Char.isDigit)
  let given := digits.foldl (fun n c => 10 * n + (c.toNat - 48)) 0
  if sign = "<" ∨ sign = "<&" then some (if digits = [] then 0 else given, sign)
  else if sign = ">" ∨ sign = ">>" ∨ sign = ">&" then some (if digits = [] then 1 else given, sign)
  else none

def redirection? (descriptor : Nat) (sign : String) (target : Word) : Option Redirection :=
  if sign = ">" then some (.output descriptor false target)
  else if sign = ">>" then some (.output descriptor true target)
  else if sign = "<" then some (.input target)
  else (plainText? target).bind String.toNat? |>.map (.duplicate descriptor)

def readRedirections : List Token → Option (List Redirection × List Token)
  | .operator line symbol :: .word wordLine target :: rest =>
    match redirectionOf? symbol with
    | some (descriptor, sign) => do
      let redirection ← redirection? descriptor sign target
      let (others, rest) ← readRedirections rest
      some (redirection :: others, rest)
    | none => some ([], .operator line symbol :: .word wordLine target :: rest)
  | tokens => some ([], tokens)

/-- The assignments, words and redirections of a simple command. -/
structure Parts where
  assignments : List (String × Word) := []
  words : List Word := []
  redirections : List Redirection := []

def readParts (parts : Parts) : List Token → Option (Parts × List Token)
  | .word _ w :: rest =>
    match parts.words, assignment? w with
    | [], some a => readParts { parts with assignments := parts.assignments ++ [a] } rest
    | _, _ => readParts { parts with words := parts.words ++ [w] } rest
  | .operator line symbol :: rest =>
    match redirectionOf? symbol, rest with
    | some (descriptor, sign), .word _ target :: rest => do
      let redirection ← redirection? descriptor sign target
      readParts { parts with redirections := parts.redirections ++ [redirection] } rest
    | some _, _ => none
    | none, _ => some (parts, .operator line symbol :: rest)
  | [] => some (parts, [])

def reserved? : List Token → Option String
  | .word _ w :: _ => plainText? w
  | _ => none

def isOperator (symbol : String) : List Token → Bool
  | .operator _ s :: _ => s == symbol
  | _ => false

def skipLines (ts : List Token) : List Token :=
  ts.dropWhile fun t => isOperator "\n" [t]

def skipSeparators (ts : List Token) : List Token :=
  ts.dropWhile fun t => isOperator "\n" [t] || isOperator ";" [t]

def lineOf : List Token → Nat
  | .word line _ :: _ => line
  | .operator line _ :: _ => line
  | [] => 0

/-- The reserved words that end a list of commands. -/
def listEnds : List String := ["then", "else", "elif", "fi", "\x7d"]

def expectWord (word : String) (ts : List Token) : Option (List Token) :=
  if reserved? ts = some word then some (ts.drop 1) else none

mutual

def readList : Nat → List Token → Option (Command × List Token)
  | 0, _ => none
  | n + 1, ts =>
    let ts := skipSeparators ts
    if ts.isEmpty || isOperator ")" ts || (reserved? ts).any listEnds.contains then
      some (.nothing, ts)
    else do
      let (first, ts) ← readAndOr n ts
      let (second, ts) ← readList n ts
      some (.sequence first second, ts)

def readAndOr : Nat → List Token → Option (Command × List Token)
  | 0, _ => none
  | n + 1, ts => do
    let (first, ts) ← readPipeline n ts
    readMoreAndOr n first ts

def readMoreAndOr : Nat → Command → List Token → Option (Command × List Token)
  | 0, _, _ => none
  | n + 1, first, ts =>
    if isOperator "&&" ts then do
      let (second, ts) ← readPipeline n (skipLines (ts.drop 1))
      readMoreAndOr n (.both first second) ts
    else if isOperator "||" ts then do
      let (second, ts) ← readPipeline n (skipLines (ts.drop 1))
      readMoreAndOr n (.either first second) ts
    else some (first, ts)

/-- Reads commands that are joined by `|`. -/
def readPipeline : Nat → List Token → Option (Command × List Token)
  | 0, _ => none
  | n + 1, ts =>
    if reserved? ts = some "!" then do
      let (body, ts) ← readPipeline n (ts.drop 1)
      some (.negation body, ts)
    else do
      let (first, ts) ← readCommand n ts
      if isOperator "|" ts then do
        let (second, ts) ← readPipeline n (skipLines (ts.drop 1))
        some (.pipe first second, ts)
      else some (first, ts)

def readCommand : Nat → List Token → Option (Command × List Token)
  | 0, _ => none
  | n + 1, ts =>
    if isOperator "(" ts then do
      let (body, rest) ← readList n (ts.drop 1)
      if isOperator ")" rest then do
        let (redirections, rest) ← readRedirections (rest.drop 1)
        some (.subshell (lineOf ts) body redirections, rest)
      else none
    else if reserved? ts = some "\x7b" then do
      let (body, rest) ← readList n (ts.drop 1)
      let rest ← expectWord "\x7d" rest
      let (redirections, rest) ← readRedirections rest
      some (.group (lineOf ts) body redirections, rest)
    else if reserved? ts = some "if" then do
      let (command, rest) ← readConditional n (ts.drop 1)
      let (redirections, rest) ← readRedirections rest
      some (.group (lineOf ts) command redirections, rest)
    else do
      let (parts, rest) ← readParts {} ts
      if parts.assignments.isEmpty && parts.words.isEmpty && parts.redirections.isEmpty then none
      else some (.simple (lineOf ts) parts.assignments parts.words parts.redirections, rest)

def readConditional : Nat → List Token → Option (Command × List Token)
  | 0, _ => none
  | n + 1, ts => do
    let (condition, ts) ← readList n ts
    let ts ← expectWord "then" ts
    let (onSuccess, ts) ← readList n ts
    if reserved? ts = some "elif" then do
      let (onFailure, ts) ← readConditional n (ts.drop 1)
      some (.conditional condition onSuccess onFailure, ts)
    else if reserved? ts = some "else" then do
      let (onFailure, ts) ← readList n (ts.drop 1)
      let ts ← expectWord "fi" ts
      some (.conditional condition onSuccess onFailure, ts)
    else do
      let ts ← expectWord "fi" ts
      some (.conditional condition onSuccess .nothing, ts)

end

def Command.ofScript? (script : String) : Option Command := do
  let text := script.toList
  let ts ← tokens (text.length + 1) 1 text
  let (command, rest) ← readList (8 * ts.length + 8) ts
  if rest.isEmpty then some command else none

end DecoratorGraph.Shell
