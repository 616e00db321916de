import DecoratorGraph.Declaration
import DecoratorGraph.Script.Lexeme
/-!
# Grammars

The constructs of a script contain each other: a call contains expressions, a function
contains statements, a type can contain parameters. Each construct is therefore defined
over a `Grammar`, a record of readers for the constructs nested in it, and the reader of a
whole script closes the circle by building grammars of growing depth. A construct that is
nested deeper than its grammar allows is not read.

A reader takes the text ahead, blanks included, and gives what it read together with what is
left directly behind the last lexeme. A skipper reads a construct of which nothing is kept.
-/

namespace DecoratorGraph.Script

/-- The two dialects: they differ in what `<` starts in an expression, a type assertion or
an element. -/
inductive Dialect where
  | typeScript
  | tsx
  deriving DecidableEq, Repr

abbrev Reader (α : Type) := List Char → Option (α × List Char)

abbrev Skipper := List Char → Option (List Char)

/-- Where an expression stands, as far as that decides what belongs to it. -/
structure Place where
  /-- In the head of a loop, where `in` is no operator. -/
  loopHead : Bool
  /-- Before a colon, where a parenthesis followed by a colon is no parameter list. -/
  beforeColon : Bool
  /-- Inside brackets, where the end of a line ends no statement. -/
  bracketed : Bool

def Place.free : Place := ⟨false, false, false⟩

def Place.inBrackets : Place := ⟨false, false, true⟩

/-- What a statement declares, and the decorators that stand in front of it. -/
structure Statement where
  name : Option String
  kind : DeclarationKind
  annotations : List Annotation

def Statement.plain : Statement := ⟨none, .other, []⟩

/-- The readers of the constructs that may be nested in another. -/
structure Grammar where
  dialect : Dialect
  /-- The line on which the text ahead starts. -/
  line : List Char → Nat
  /-- How often constructs may still be nested or follow each other. -/
  depth : Nat
  /-- One expression without a comma. -/
  expression : Place → Reader Expr
  /-- The operand of a prefix operator. -/
  operand : Place → Reader Expr
  type : Skipper
  pattern : Skipper
  statement : Reader Statement
  /-- A markup element. -/
  element : Reader Expr

def Grammar.empty (dialect : Dialect) (line : List Char → Nat) : Grammar where
  dialect := dialect
  line := line
  depth := 0
  expression _ _ := none
  operand _ _ := none
  type _ := none
  pattern _ := none
  statement _ := none
  element _ := none

/-- The expression whose node kind and text are kept. -/
def otherBetween (kind : String) (start rest : List Char) : Expr :=
  .other kind (textBetween start rest)

def skipMany (p : Skipper) : Nat → List Char → List Char
  | 0, s => s
  | n + 1, s =>
    match p s with
    | some r => skipMany p n r
    | none => s

def skipOptional (p : Skipper) (s : List Char) : List Char := (p s).getD s

/-- Skips the items of a list up to and with its closing character. Items are separated by
commas, and an item may be missing. -/
def skipList (close : Char) (item : Skipper) : Nat → Skipper
  | 0, _ => none
  | n + 1, s =>
    match skip s with
    | [] => none
    | c :: r =>
      if c = close then some r
      else if c = ',' then skipList close item n r
      else
        match item (c :: r) with
        | none => none
        | some r =>
          match skip r with
          | [] => none
          | d :: r' =>
            if d = close then some r' else if d = ',' then skipList close item n r' else none

def readList {α : Type} (close : Char) (item : Reader α) : Nat → Reader (List α)
  | 0, _ => none
  | n + 1, s =>
    match skip s with
    | [] => none
    | c :: r =>
      if c = close then some ([], r)
      else if c = ',' then readList close item n r
      else
        match item (c :: r) with
        | none => none
        | some (x, r) =>
          match skip r with
          | [] => none
          | d :: r' =>
            if d = close then some ([x], r')
            else if d = ',' then (readList close item n r').map fun (xs, r'') => (x :: xs, r'')
            else none

/-- The end of a statement: a semicolon, or nothing before a closing brace, at the end of
the text and at the end of a line. -/
def endStatement : Skipper := fun s =>
  match skip s with
  | [] => some s
  | c :: r =>
    if c = ';' then some r
    else if c = '\x7d' ∨ crossesLine s then some s
    else none

/-- An expression, or several with commas between them, and whether there are several. -/
def Grammar.commaTail (g : Grammar) (place : Place) : Nat → List Char → Option (List Char)
  | 0, _ => none
  | n + 1, s =>
    match symbol? ',' s with
    | none => some s
    | some r =>
      match g.expression place r with
      | none => none
      | some (_, r) => commaTail g place n r

/-- A comma expression: one expression, or several of which only the text is kept. -/
def Grammar.sequence (g : Grammar) (place : Place) : Reader Expr := fun s => do
  let (e, r) ← g.expression place s
  match symbol? ',' r with
  | none => some (e, r)
  | some _ =>
    let rest ← g.commaTail place g.depth r
    some (otherBetween "sequence_expression" (skip s) rest, rest)

def Grammar.skipSequence (g : Grammar) : Skipper := fun s =>
  (g.sequence .inBrackets s).map Prod.snd

def Grammar.blockTail (g : Grammar) : Nat → Skipper
  | 0, _ => none
  | n + 1, s =>
    match symbol? '\x7d' s with
    | some r => some r
    | none =>
      match g.statement s with
      | some (_, r) => blockTail g n r
      | none => none

def Grammar.block (g : Grammar) : Skipper := fun s =>
  (symbol? '\x7b' s).bind (g.blockTail g.depth)

def Grammar.condition (g : Grammar) : Skipper := fun s => do
  let r ← symbol? '(' s
  let r ← g.skipSequence r
  symbol? ')' r

end DecoratorGraph.Script
