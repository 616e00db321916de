import DecoratorGraph.Script.Statement
/-!
# Reading a script

The grammar of each depth reads nested constructs by the grammar one level below. No
construct of a text is nested deeper than a small multiple of its length, so the depth that
`ParsedFile.read` allows is never felt.
-/

namespace DecoratorGraph.Script

def Grammar.deeper (g : Grammar) : Grammar where
  dialect := g.dialect
  line := g.line
  depth := g.depth + 1
  expression := g.readExpression
  operand := g.readOperand
  type := g.readType
  pattern := g.readPattern
  statement := g.readStatement
  element := g.readElement

/-- The grammar that nests constructs at most `n` deep. -/
def Grammar.ofDepth (dialect : Dialect) (line : List Char → Nat) : Nat → Grammar
  | 0 => .empty dialect line
  | n + 1 => (Grammar.ofDepth dialect line n).deeper

/-- The line on which `rest` starts, a suffix of `source`: one more than the line feeds
before it. -/
def lineOf (source rest : List Char) : Nat := 1 + (between source rest).count '\n'

/-- What is left after a stretch that is no statement: the rest of its line is passed over. -/
def afterStretch (s : List Char) : List Char := (s.dropWhile fun c => c != '\n').drop 1

/-- Reads the statements of a script. A stretch that is no statement is one declaration of
no particular kind. -/
def Grammar.declarations (g : Grammar) : Nat → List Char → List Declaration
  | 0, _ => []
  | n + 1, s =>
    match skip s with
    | [] => []
    | c :: r =>
      match g.statement (c :: r) with
      | some (d, rest) =>
        ⟨d.name, d.kind, g.line (c :: r), d.annotations⟩ :: declarations g n rest
      | none => ⟨none, .other, g.line (c :: r), []⟩ :: declarations g n (afterStretch (c :: r))

/-- Reads a script. A first line that starts with `#!` is a declaration of no particular
kind. -/
def Grammar.script (g : Grammar) (source : List Char) : List Declaration :=
  match skip source with
  | '#' :: '!' :: r =>
    ⟨none, .other, g.line ('#' :: '!' :: r), []⟩ ::
      g.declarations g.depth (r.dropWhile fun c => c != '\n')
  | s => g.declarations g.depth s

def declarations (dialect : Dialect) (source : List Char) : List Declaration :=
  (Grammar.ofDepth dialect (lineOf source) (2 * source.length + 8)).script source

end DecoratorGraph.Script

namespace DecoratorGraph

def ParsedFile.read (dialect : Script.Dialect) (path : Path) (source : String) : ParsedFile :=
  ⟨path, Script.declarations dialect source.toList⟩

end DecoratorGraph
