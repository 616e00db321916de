import DecoratorGraph.Script.Expression
import DecoratorGraph.Script.Markup
import DecoratorGraph.Script.Types
import DecoratorGraph.Text.Basic
/-!
# Statements

A statement is read to find where it ends; what is kept of it is what it declares: its kind,
its name, and the decorators in front of it.
-/

namespace DecoratorGraph.Script

/-! ### Decorators -/

/-- The text of a decorator behind its marks, without blanks at the ends. -/
def decoratorText (s : List Char) : String :=
  String.ofList (Text.trim (s.dropWhile fun c => c = '@'))

/-- Reads a decorator. Its callee is known for a call of a plain name only, and only then
are its arguments kept. -/
def Grammar.decorator (g : Grammar) : Reader Annotation := fun s => do
  let start := skip s
  let r ← symbol? '@' s
  let unresolved (rest : List Char) : Annotation × List Char :=
    (⟨none, [], decoratorText (between start rest), g.line start⟩, rest)
  match symbol? '(' r with
  | some r =>
    let rest ← (g.skipSequence r).bind (symbol? ')')
    some (unresolved rest)
  | none =>
    let (w, named) ← word? (skip r)
    let callee := dottedTail g.depth named
    match g.arguments (skipOptional g.typeArguments callee) with
    | none => some (unresolved callee)
    | some (arguments, rest) =>
      if (symbol? '.' named).isSome then some (unresolved rest)
      else some (⟨some w, arguments, decoratorText (between start rest), g.line start⟩, rest)

def Grammar.decorators (g : Grammar) : Nat → List Char → List Annotation × List Char
  | 0, s => ([], s)
  | n + 1, s =>
    match g.decorator s with
    | none => ([], s)
    | some (a, r) =>
      let (as, r) := decorators g n r
      (a :: as, r)

/-! ### Declarations -/

def Grammar.variableRest (g : Grammar) (place : Place) : Skipper := fun s => do
  let r ← g.annotation (skipOptional (symbol? '!') s)
  g.initializer place r

/-- Reads the variables of a declaration; the text of the first pattern names it. -/
def Grammar.variables (g : Grammar) (place : Place) : Reader String := fun s => do
  let named ← g.pattern s
  let further : Skipper := fun s => (g.pattern s).bind (g.variableRest place)
  let r ← g.variableRest place named
  some (textBetween (skip s) named, skipFurther further g.depth r)

def Grammar.variableTail (g : Grammar) : Reader Statement := fun s => do
  let (name, r) ← g.variables .free s
  let r ← endStatement r
  some (⟨some name, .variable, []⟩, r)

def Grammar.functionDeclaration (g : Grammar) : Reader Statement := fun s => do
  let (name, r) ← word? (skip (skipOptional (symbol? '*') s))
  let r ← g.signature r
  let r ← if next? r = some '\x7b' then g.block r else endStatement r
  some (⟨some name, .function, []⟩, r)

def Grammar.classDeclaration (g : Grammar) : Reader Statement := fun s => do
  let (name, r) ← g.classTail s
  let name ← name
  some (⟨some name, .classLike, []⟩, r)

def Grammar.interfaceTail (g : Grammar) : Reader Statement := fun s => do
  let (name, r) ← word? (skip s)
  let r := skipOptional g.typeParameters r
  let r ←
    match keyword? "extends" r with
    | some r => (g.type r).map (skipFurther g.type g.depth)
    | none => some r
  if next? r = some '\x7b' then do
    let r ← group? r
    some (⟨some name, .interface, []⟩, r)
  else none

def Grammar.typeAlias (g : Grammar) : Reader Statement := fun s =>
  if crossesLine s then none
  else do
    let (name, r) ← word? (skip s)
    let r ← symbol? '=' (skipOptional g.typeParameters r)
    let r ← (g.type r).bind endStatement
    some (⟨some name, .interface, []⟩, r)

def enumTail : Reader Statement := fun s => do
  let (name, r) ← word? (skip s)
  if next? r = some '\x7b' then do
    let r ← group? r
    some (⟨some name, .other, []⟩, r)
  else none

/-- Reads a module behind its keyword: a dotted name or a string, and a body that may be
missing. -/
def Grammar.moduleTail (g : Grammar) : Reader Statement := fun s =>
  if crossesLine s then none
  else do
    let start := skip s
    let named ←
      match start with
      | '"' :: r => closeQuote? '"' r
      | '\'' :: r => closeQuote? '\'' r
      | _ => (skipWord? start).map (dottedTail g.depth)
    some (⟨some (textBetween start named), .other, []⟩, skipOptional g.block named)

def fromTail : Skipper := fun s => do
  let r ←
    match skip s with
    | '"' :: r => closeQuote? '"' r
    | '\'' :: r => closeQuote? '\'' r
    | _ => none
  match keyword? "with" r with
  | some r => group? r
  | none =>
    match keyword? "assert" r with
    | some r' => if crossesLine r then some r else group? r'
    | none => some r

/-- Skips what an import names: a default name, everything under a name, or a list. -/
def importClause : Skipper := fun s =>
  match skip s with
  | '*' :: r => (keyword? "as" r).bind fun r => skipWord? (skip r)
  | '{' :: r => closeGroup? [.bracket '\x7d'] r
  | s => skipWord? s

def Grammar.importTail (g : Grammar) : Skipper := fun s =>
  let named : Skipper := fun s => do
    let r ← importClause s
    match symbol? '=' r with
    | some r => g.skipSequence r
    | none =>
      let r ←
        match symbol? ',' r with
        | some r => importClause r
        | none => some r
      (keyword? "from" r).bind fromTail
  let typed (w : String) : Option (List Char) := (keyword? w s).bind named
  match fromTail s with
  | some r => some r
  | none =>
    match typed "type" with
    | some r => some r
    | none =>
      match typed "typeof" with
      | some r => some r
      | none => named s

def Grammar.declaration (g : Grammar) (w : String) (r : List Char) :
    Option (Statement × List Char) :=
  match w with
  | "var" => g.variableTail r
  | "let" => if startsPattern r then g.variableTail r else none
  | "const" =>
    match keyword? "enum" r with
    | some r => enumTail r
    | none => g.variableTail r
  | "function" => g.functionDeclaration r
  | "async" =>
    if crossesLine r then none else (keyword? "function" r).bind g.functionDeclaration
  | "class" => g.classDeclaration r
  | "abstract" => (keyword? "class" r).bind g.classDeclaration
  | "interface" => g.interfaceTail r
  | "type" => g.typeAlias r
  | "enum" => enumTail r
  | "module" => g.moduleTail r
  | "declare" => if crossesLine r then none else ambient r
  | "import" =>
    if next? r = some '(' ∨ next? r = some '.' then none
    else ((g.importTail r).bind endStatement).map fun r => (.plain, r)
  | _ => none
where
  /-- Reads what follows the word `declare`: a declaration without a name of its own. -/
  ambient (r : List Char) : Option (Statement × List Char) :=
    let plain (rest : List Char) : Statement × List Char := (.plain, rest)
    match (keyword? "global" r).bind g.block with
    | some rest => some (plain rest)
    | none => do
      let (w, r') ← word? (skip r)
      if w = "namespace" then (g.moduleTail r').map fun (_, rest) => plain rest
      else if w = "class" ∨ w = "abstract" ∨ w = "async" ∨ w = "declare" then
        (g.statement (skip r)).map fun (_, rest) => plain rest
      else
        let property : Option (List Char) := do
          let r ← if w = "module" then symbol? '.' r' else none
          let r ← skipWord? (skip r)
          let r ← symbol? ':' r
          (g.type r).bind endStatement
        match property with
        | some rest => some (plain rest)
        | none => (g.statement (skip r)).map fun (_, rest) => plain rest

/-! ### Exports -/

def Grammar.exportClause (g : Grammar) : Skipper := fun s =>
  match skip s with
  | '*' :: r => do
    let r :=
      match keyword? "as" r with
      | some r => (skipWord? (skip r)).getD (((fromTail r)).getD r)
      | none => r
    (keyword? "from" r).bind fromTail
  | '{' :: r => do
    let r ← closeGroup? [.bracket '\x7d'] r
    match keyword? "from" r with
    | some r => fromTail r
    | none => some r
  | '=' :: r => g.skipSequence r
  | _ => none

/-- Reads an exported value behind the word `default`: only a class counts as a
declaration, and only an element without a closing tag has a name. -/
def Grammar.exportedValue (g : Grammar) : Reader Statement := fun s => do
  let (annotations, classAhead) := g.decorators g.depth s
  let (e, r) ← g.expression .free s
  let r ← endStatement r
  match e with
  | .other kind _ =>
    if kind = "class" then some (⟨none, .classLike, annotations⟩, r)
    else if kind = "jsx_self_closing_element" then some (⟨g.elementName? classAhead, .other, []⟩, r)
    else some (.plain, r)
  | _ => some (.plain, r)

/-- Reads the declaration ahead, with decorators in front if it is a class. -/
def Grammar.decorated (g : Grammar) : Reader Statement := fun s => do
  let (annotations, r) := g.decorators g.depth s
  let (w, r) ← word? (skip r)
  let (declared, r) ←
    if annotations = [] then
      (if w = "namespace" then g.moduleTail r else g.declaration w r)
    else if w = "class" ∨ w = "abstract" then g.declaration w r
    else none
  some (⟨declared.name, declared.kind, annotations⟩, r)

/-- Reads an export behind its keyword; `annotations` stand in front of it. -/
def Grammar.exportTail (g : Grammar) (annotations : List Annotation) : Reader Statement :=
  fun s =>
  let exported (inner : Option (Statement × List Char)) : Option (Statement × List Char) :=
    inner.map fun (declared, r) =>
      (⟨declared.name, declared.kind, annotations ++ declared.annotations⟩, r)
  let plain (rest : Option (List Char)) : Option (Statement × List Char) :=
    (rest.bind endStatement).map fun r => (⟨none, .other, annotations⟩, r)
  match keyword? "default" s with
  | some r =>
    match exported (g.decorated r) with
    | some result => some result
    | none => exported (g.exportedValue r)
  | none =>
    match plain (g.exportClause s) with
    | some result => some result
    | none =>
      match plain ((keyword? "type" s).bind g.exportClause) with
      | some result => some result
      | none =>
        let global : Option (List Char) := do
          let r ← keyword? "as" s
          let r ← keyword? "namespace" r
          skipWord? (skip r)
        match plain global with
        | some result => some result
        | none => exported (g.decorated s)

/-! ### Control -/

def Grammar.skipStatement (g : Grammar) : Skipper := fun s => (g.statement s).map Prod.snd

/-- Skips the head of a loop behind its opening parenthesis: what a variable ranges over, or
a start, a test and a step. -/
def Grammar.loopHead (g : Grammar) : Skipper := fun s => do
  let place : Place := ⟨true, false, true⟩
  let declared : Option (List Char) := do
    let (w, r) ← word? (skip s)
    if w = "var" ∨ w = "const" ∨ w = "let" ∧ startsPattern r then
      (g.variables place r).map Prod.snd
    else none
  let start :=
    match declared with
    | some r => r
    | none => ((g.sequence place s).map Prod.snd).getD s
  let range :=
    match keyword? "of" start with
    | some r => some r
    | none => keyword? "in" start
  match range with
  | some r => (g.skipSequence r).bind (symbol? ')')
  | none =>
    let r ← symbol? ';' start
    let r ← symbol? ';' (skipOptional g.skipSequence r)
    symbol? ')' (skipOptional g.skipSequence r)

def Grammar.switchTail (g : Grammar) : Nat → Skipper
  | 0, _ => none
  | n + 1, s =>
    match symbol? '\x7d' s with
    | some r => some r
    | none =>
      let label :=
        match keyword? "case" s with
        | some r => (g.skipSequence r).bind (symbol? ':')
        | none => (keyword? "default" s).bind (symbol? ':')
      match label with
      | some r => switchTail g n r
      | none =>
        match g.skipStatement s with
        | some r => switchTail g n r
        | none => none

def Grammar.handlers (g : Grammar) : Skipper := fun s => do
  let r ←
    match keyword? "catch" s with
    | none => some s
    | some r =>
      let parameter : Skipper := fun s => do
        let r ← symbol? '(' s
        let r ← (g.pattern r).bind g.annotation
        symbol? ')' r
      g.block (skipOptional parameter r)
  match keyword? "finally" r with
  | some r => g.block r
  | none => some r

def Grammar.optionalValue (g : Grammar) : Skipper := fun s =>
  match endStatement s with
  | some r => some r
  | none => (g.sequence .free s).bind fun (_, r) => endStatement r

def Grammar.control (g : Grammar) (w : String) (r : List Char) : Option (List Char) :=
  match w with
  | "if" => do
    let r ← (g.condition r).bind g.skipStatement
    match keyword? "else" r with
    | some r => g.skipStatement r
    | none => some r
  | "while" => (g.condition r).bind g.skipStatement
  | "with" => (g.condition r).bind g.skipStatement
  | "do" => do
    let r ← g.skipStatement r
    let r ← (keyword? "while" r).bind g.condition
    some (skipOptional (symbol? ';') r)
  | "for" => do
    let r ← symbol? '(' (skipOptional (keyword? "await") r)
    (g.loopHead r).bind g.skipStatement
  | "switch" => do
    let r ← (g.condition r).bind (symbol? '\x7b')
    g.switchTail g.depth r
  | "try" => (g.block r).bind g.handlers
  | "return" => if crossesLine r then endStatement r else g.optionalValue r
  | "throw" => (g.sequence .free r).bind fun (_, r) => endStatement r
  | "break" => label r
  | "continue" => label r
  | "debugger" => endStatement r
  | _ => none
where
  /-- Skips a label that may be missing, and the end of the statement. -/
  label (s : List Char) : Option (List Char) :=
    if crossesLine s then endStatement s else endStatement ((skipWord? (skip s)).getD s)

/-! ### Statements -/

def Grammar.expressionStatement (g : Grammar) : Reader Statement := fun s => do
  let (_, r) ← g.sequence .free s
  let r ← endStatement r
  some (.plain, r)

/-- Reads the statement behind decorators: an export, a class, or a class without a name,
whose decorators belong to an expression. -/
def Grammar.decoratedStatement (g : Grammar) : Reader Statement := fun s => do
  let (annotations, r) := g.decorators g.depth s
  match keyword? "export" r with
  | some r => g.exportTail annotations r
  | none =>
    match g.decorated s with
    | some result => some result
    | none => g.expressionStatement s

def Grammar.wordStatement (g : Grammar) (start : List Char) (w : String) (r : List Char) :
    Option (Statement × List Char) :=
  let special : Option (Statement × List Char) :=
    if w = "export" then g.exportTail [] r
    else
      match g.declaration w r with
      | some result => some result
      | none =>
        match g.control w r with
        | some r => some (.plain, r)
        | none => ((symbol? ':' r).bind g.skipStatement).map fun r => (.plain, r)
  match special with
  | some result => some result
  | none => g.expressionStatement start

def Grammar.readStatement (g : Grammar) : Reader Statement := fun s =>
  match skip s with
  | [] => none
  | c :: r =>
    let start := c :: r
    if c = ';' then some (.plain, r)
    else if c = '\x7b' then (g.block start).map fun r => (.plain, r)
    else if c = '@' then g.decoratedStatement start
    else
      match word? start with
      | some (w, r) => g.wordStatement start w r
      | none => g.expressionStatement start

end DecoratorGraph.Script
