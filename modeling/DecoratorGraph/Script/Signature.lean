import DecoratorGraph.Script.Grammar
/-!
# Patterns and signatures

The left sides of declarations and the heads of functions. Nothing of them is kept, but they
have to be read to find where they end, since default values are expressions.
-/

namespace DecoratorGraph.Script

/-- Skips the body of a template up to and with the closing mark, the substitutions being
read by `inner`. -/
def skipTemplate (inner : Skipper) : Nat → Skipper
  | 0, _ => none
  | n + 1, s =>
    match s with
    | [] => none
    | '\\' :: _ :: r => skipTemplate inner n r
    | '$' :: '{' :: r =>
      match (inner r).bind (symbol? '\x7d') with
      | some r => skipTemplate inner n r
      | none => none
    | c :: r => if c = '\x60' then some r else skipTemplate inner n r

/-- Skips the key of a member: a word, a string, a number, a private name, or an expression
in brackets. -/
def Grammar.key (g : Grammar) : Skipper := fun s =>
  match skip s with
  | [] => none
  | c :: r =>
    if c = '"' ∨ c = '\'' then closeQuote? c r
    else if c = '[' then (g.skipSequence r).bind (symbol? ']')
    else if c = '#' then skipWord? r
    else if c.isDigit ∨ c = '.' ∧ r.head?.any Char.isDigit then some (afterNumber (c :: r))
    else skipWord? (c :: r)

def Grammar.initializer (g : Grammar) (place : Place) : Skipper := fun s =>
  match symbol? '=' s with
  | some r => (g.expression place r).map Prod.snd
  | none => some s

def Grammar.patternItem (g : Grammar) : Skipper := fun s =>
  match symbols? "..." s with
  | some r => g.pattern r
  | none => (g.pattern s).bind (g.initializer .inBrackets)

def Grammar.patternMember (g : Grammar) : Skipper := fun s =>
  match symbols? "..." s with
  | some r => g.pattern r
  | none => do
    let r ← g.key s
    match symbol? ':' r with
    | some r => (g.pattern r).bind (g.initializer .inBrackets)
    | none => g.initializer .inBrackets r

/-- Skips a pattern: a name, an object pattern or an array pattern. -/
def Grammar.readPattern (g : Grammar) : Skipper := fun s =>
  match skip s with
  | [] => none
  | c :: r =>
    if c = '\x7b' then skipList '\x7d' g.patternMember g.depth r
    else if c = '[' then skipList ']' g.patternItem g.depth r
    else skipWord? (c :: r)

def Grammar.annotation (g : Grammar) : Skipper := fun s =>
  match symbol? ':' s with
  | some r => g.type r
  | none => some s

def parameterModifiers : List String :=
  ["public", "private", "protected", "override", "readonly", "accessor"]

def startsPattern (s : List Char) : Bool :=
  match skip s with
  | c :: _ => isWordStart c || c == '\x7b' || c == '['
  | [] => false

/-- Skips the modifiers of a parameter; a word that nothing to be modified follows is the
parameter itself. -/
def parameterModifier : Skipper := fun s =>
  match word? (skip s) with
  | some (w, r) => if w ∈ parameterModifiers ∧ startsPattern r then some r else none
  | none => none

def dottedTail : Nat → List Char → List Char
  | 0, s => s
  | n + 1, s =>
    match (symbol? '.' s).bind fun r => skipWord? (skip r) with
    | some r => dottedTail n r
    | none => s

def Grammar.skipArguments (g : Grammar) : Skipper := fun s => do
  let r ← symbol? '(' s
  skipList ')' (fun s => do
    let s := skipOptional (symbols? "...") s
    (g.expression .inBrackets s).map Prod.snd) g.depth r

def Grammar.typeArguments (g : Grammar) : Skipper := fun s =>
  (symbol? '<' s).bind (skipList '>' g.type g.depth)

def Grammar.skipDecorator (g : Grammar) : Skipper := fun s => do
  let r ← symbol? '@' s
  match symbol? '(' r with
  | some r => (g.skipSequence r).bind (symbol? ')')
  | none =>
    let r ← skipWord? (skip r)
    let r := dottedTail g.depth r
    match (g.skipArguments (skipOptional g.typeArguments r)) with
    | some r => some r
    | none => some r

def Grammar.parameter (g : Grammar) : Skipper := fun s => do
  let s := skipMany g.skipDecorator g.depth s
  let s := skipMany parameterModifier g.depth s
  let s := skipOptional (symbols? "...") s
  let r ← g.pattern s
  let r ← g.annotation (skipOptional (symbol? '?') r)
  g.initializer .inBrackets r

def Grammar.parameters (g : Grammar) : Skipper := fun s =>
  (symbol? '(' s).bind (skipList ')' g.parameter g.depth)

def Grammar.typeParameter (g : Grammar) : Skipper := fun s => do
  let modifier : Skipper := fun s =>
    match word? (skip s) with
    | some (w, r) =>
      if w ∈ ["const", "in", "out"] ∧ (nextWord? r).any (· != "extends") then some r else none
    | none => none
  let r ← skipWord? (skip (skipMany modifier g.depth s))
  let r ←
    match keyword? "extends" r with
    | some r => g.type r
    | none => some r
  match symbol? '=' r with
  | some r => g.type r
  | none => some r

def Grammar.typeParameters (g : Grammar) : Skipper := fun s =>
  (symbol? '<' s).bind (skipList '>' g.typeParameter g.depth)

def Grammar.signature (g : Grammar) : Skipper := fun s => do
  let r ← g.parameters (skipOptional g.typeParameters s)
  g.annotation r

end DecoratorGraph.Script
