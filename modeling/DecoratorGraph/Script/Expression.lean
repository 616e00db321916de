import DecoratorGraph.Script.ClassBody
import DecoratorGraph.Script.Literal
/-!
# Expressions

An expression is an operand with its suffixes, followed by operators, a condition or an
assignment. Every expression that a configuration cannot use is kept as the kind of its
outermost construct and its text, so of a chain of operators only the last one to be applied
matters: operators of all strengths give one kind, and `as`, `satisfies` and `!` apply to
everything in front of them in the chain.
-/

namespace DecoratorGraph.Script

/-! ### Operators -/

def firstAhead? (texts : List String) (s : List Char) : Option (String × List Char) :=
  texts.findSome? fun text => (ahead? text s).map fun r => (text, r)

def compoundAssignments : List String :=
  [">>>=", "**=", "<<=", ">>=", "&&=", "||=", "??=", "+=", "-=", "*=", "/=", "%=", "&=", "|=",
    "^="]

def assignment? : Reader String := fun s =>
  match firstAhead? compoundAssignments (skip s) with
  | some (_, r) => some ("augmented_assignment_expression", r)
  | none =>
    match skip s with
    | '=' :: r =>
      if r.head? = some '=' ∨ r.head? = some '>' then none else some ("assignment_expression", r)
    | _ => none

/-- The operators between two operands that are written with signs; longer ones come first. -/
def operatorSigns : List String :=
  [">>>", "===", "!==", "**", "<<", ">>", "&&", "||", "??", "<=", ">=", "==", "!=", "+", "-", "*",
    "/", "%", "&", "|", "^", "<", ">"]

/-- Whether a sign is doubled as in an increment. -/
def isStep (s : List Char) : Bool :=
  match s with
  | '+' :: '+' :: _ => true
  | '-' :: '-' :: _ => true
  | _ => false

/-- The operator between two operands that is the next lexeme, and whether it is the power
operator, which alone groups to the right. -/
def binaryOperator? (place : Place) : Reader Bool := fun s =>
  if (assignment? s).isSome ∨ isStep (skip s) then none
  else
    match firstAhead? operatorSigns (skip s) with
    | some (sign, r) => some (sign == "**", r)
    | none =>
      match word? (skip s) with
      | some (w, r) =>
        if w = "instanceof" ∨ w = "in" ∧ place.loopHead = false then some (false, r) else none
      | none => none

/-- The node kind of the type operator that is the next lexeme, `as` or `satisfies`. -/
def typeOperator? (place : Place) : Reader String := fun s =>
  if crossesLine s ∧ place.bracketed = false then none
  else
    match word? (skip s) with
    | some (w, r) =>
      if w = "as" then some ("as_expression", r)
      else if w = "satisfies" then some ("satisfies_expression", r)
      else none
    | none => none

/-! ### Literals -/

def Grammar.argument (g : Grammar) : Reader Expr := fun s =>
  match symbols? "..." s with
  | some r => (g.expression .inBrackets r).map fun (_, r) =>
      (otherBetween "spread_element" (skip s) r, r)
  | none => g.expression .inBrackets s

def Grammar.arguments (g : Grammar) : Reader (List Expr) := fun s =>
  (symbol? '(' s).bind (readList ')' g.argument g.depth)

/-- The name that a key gives to its member: a word and a number as they are written, a
string by its value; an expression in brackets gives none. -/
def keyName? (s rest : List Char) : Option String :=
  match skip s with
  | c :: r =>
    if c = '"' ∨ c = '\'' then some (Literal.value (between (c :: r) rest))
    else if c = '[' ∨ c = '#' then none
    else some (textBetween (c :: r) rest)
  | [] => none

def Grammar.pair (g : Grammar) : Reader Property := fun s => do
  let r ← g.key s
  let r' ← symbol? ':' r
  let (value, rest) ← g.expression .inBrackets r'
  some (⟨keyName? s r, value⟩, rest)

def Grammar.method (g : Grammar) : Reader Property := fun s => do
  let key := skip (skipMany memberModifier g.depth s)
  let r ← g.key key
  let rest ← (g.signature (skipOptional (symbol? '?') r)).bind g.block
  some (⟨some (textBetween key r), otherBetween "method_definition" (skip s) rest⟩, rest)

/-- Reads a member that is a single word, possibly with a default value as in a pattern. -/
def Grammar.shorthand (g : Grammar) : Reader Property := fun s => do
  let (w, r) ← word? (skip s)
  match assignment? r with
  | none => some (.named w (.identifier w), r)
  | some (_, r) =>
    let (_, r) ← g.expression .inBrackets r
    some (⟨none, otherBetween "object_assignment_pattern" (skip s) r⟩, r)

def Grammar.property (g : Grammar) : Reader Property := fun s =>
  match symbols? "..." s with
  | some r => (g.expression .inBrackets r).map fun (_, r) =>
      (⟨none, otherBetween "spread_element" (skip s) r⟩, r)
  | none =>
    match g.pair s with
    | some p => some p
    | none =>
      match g.method s with
      | some p => some p
      | none => g.shorthand s

def escapeLength (s : List Char) : Nat :=
  match s with
  | '\\' :: 'x' :: _ => 4
  | '\\' :: 'u' :: '{' :: r => 4 + (r.takeWhile fun c => c ≠ '\x7d').length
  | '\\' :: 'u' :: _ => 6
  | '\\' :: '\r' :: '\n' :: _ => 3
  | '\\' :: c :: r =>
    if '0' ≤ c ∧ c ≤ '7' then
      2 + ((r.take 2).takeWhile fun d => '0' ≤ d ∧ d ≤ '7').length
    else 2
  | _ => 1

def afterFragment : List Char → List Char
  | [] => []
  | '$' :: '{' :: r => '$' :: '{' :: r
  | c :: r => if c = '\\' ∨ c = '\x60' then c :: r else afterFragment r

/-- Reads the parts of a template up to and with the closing mark: runs of plain characters,
escapes and substitutions. -/
def Grammar.templateParts (g : Grammar) : Nat → Reader (List Expr)
  | 0, _ => none
  | n + 1, s =>
    match s with
    | [] => none
    | '$' :: '{' :: r =>
      match (g.sequence .inBrackets r).bind fun (_, r) => symbol? '\x7d' r with
      | none => none
      | some rest => (templateParts g n rest).map fun (parts, r) =>
          (otherBetween "template_substitution" s rest :: parts, r)
    | c :: r =>
      if c = '\x60' then some ([], r)
      else if c = '\\' then
        let rest := s.drop (escapeLength s)
        (templateParts g n rest).map fun (parts, r) =>
          (otherBetween "escape_sequence" s rest :: parts, r)
      else
        let rest := afterFragment r
        (templateParts g n rest).map fun (parts, r) =>
          (otherBetween "string_fragment" s rest :: parts, r)

def hasSubstitution : List Char → Bool
  | [] => false
  | '\\' :: _ :: r => hasSubstitution r
  | '$' :: '{' :: _ => true
  | c :: r => if c = '\x60' then false else hasSubstitution r

/-- Reads a template whose first mark has been read: without substitutions it is a string. -/
def Grammar.template (g : Grammar) (start r : List Char) : Option (Expr × List Char) :=
  if hasSubstitution r then
    (skipTemplate g.skipSequence (r.length + 1) r).map fun rest =>
      (otherBetween "template_string" start rest, rest)
  else
    (closeQuote? '\x60' r).map fun rest => (.string (Literal.value (between start rest)), rest)

/-! ### Functions and classes -/

def Grammar.functionTail (g : Grammar) (start r : List Char) : Option (Expr × List Char) := do
  let (kind, r) :=
    match symbol? '*' r with
    | some r => ("generator_function", r)
    | none => ("function_expression", r)
  let r := (skipWord? (skip r)).getD r
  let rest ← (g.signature r).bind g.block
  some (otherBetween kind start rest, rest)

def Grammar.arrowTail (g : Grammar) (place : Place) : Skipper := fun s => do
  let r ← symbols? "=>" s
  if next? r = some '\x7b' then g.block r else (g.expression place r).map Prod.snd

/-- Reads the parameters of an arrow function: a word, or a signature. The type of the result
is left out where a colon means something else. -/
def Grammar.arrowHead (g : Grammar) (place : Place) : Skipper := fun s =>
  match skip s with
  | [] => none
  | c :: r =>
    if c = '(' ∨ c = '<' then
      if place.beforeColon then g.parameters (skipOptional g.typeParameters s) else g.signature s
    else skipWord? (c :: r)

/-- Whether a word that could also be the end of a statement is one: the line ends behind it,
and what follows on the next line does not continue an expression. -/
def endsAtWord (place : Place) (s : List Char) : Bool :=
  crossesLine s && !place.bracketed && next? s != some '(' && next? s != some '<'

def Grammar.arrow (g : Grammar) (place : Place) : Reader Expr := fun s =>
  let plain := (g.arrowHead place s).bind (g.arrowTail place)
  let rest :=
    match plain with
    | some rest => some rest
    | none =>
      match keyword? "async" s with
      | some r =>
        if endsAtWord place r then none else (g.arrowHead place r).bind (g.arrowTail place)
      | none => none
  rest.map fun rest => (otherBetween "arrow_function" (skip s) rest, rest)

def Grammar.classExpression (g : Grammar) (start r : List Char) : Option (Expr × List Char) :=
  (g.classTail r).map fun (_, rest) => (otherBetween "class" start rest, rest)

/-! ### Operands -/

/-- The words that stand for an expression of their own kind. -/
def constantWords : List String :=
  ["this", "super", "null", "true", "false", "undefined", "import"]

/-- Whether type arguments that end here belong to the expression in front of them: not if
an operand follows, since they are comparisons then. -/
def endsTypeArguments (s : List Char) : Bool :=
  match skip s with
  | [] => true
  | c :: r =>
    if isWordStart c then
      crossesLine s || (nextWord? s).any fun w =>
        ["as", "satisfies", "instanceof", "in", "implements", "extends", "of"].contains w
    else if c = '!' then r.head? == some '='
    else !(c.isDigit || "\"'\x60[+-~/<@#(\\".toList.contains c)

def Grammar.ownTypeArguments (g : Grammar) : Skipper := fun s =>
  (g.typeArguments s).filter fun r => next? r == some '(' || endsTypeArguments r

/-- Reads one selection behind an expression: a member, an index or a non-null mark. -/
def Grammar.selection (g : Grammar) (start : List Char) : Reader Expr := fun s =>
  match skip s with
  | '.' :: r =>
    match skip r with
    | '#' :: r => (skipWord? r).map fun rest => (.member (textBetween start rest), rest)
    | r => (skipWord? r).map fun rest => (.member (textBetween start rest), rest)
  | '[' :: r => do
    let (_, r) ← g.sequence .inBrackets r
    let rest ← symbol? ']' r
    some (otherBetween "subscript_expression" start rest, rest)
  | '!' :: r =>
    if crossesLine s ∨ r.head? = some '=' then none
    else some (otherBetween "non_null_expression" start r, r)
  | _ => none

def Grammar.optionalSelection (g : Grammar) (start : List Char) (e : Expr) : Reader Expr :=
  fun s =>
  match skip s with
  | [] => none
  | c :: r =>
    if c.isDigit ∧ crossesLine s = false ∧ s.head? = some c then none
    else if c = '[' then g.selection start (c :: r)
    else if c = '(' ∨ c = '<' then
      (g.arguments (skipOptional g.typeArguments (c :: r))).map fun (arguments, rest) =>
        (.call e arguments, rest)
    else if c = '#' then (skipWord? r).map fun rest => (.member (textBetween start rest), rest)
    else (skipWord? (c :: r)).map fun rest => (.member (textBetween start rest), rest)

def Grammar.suffix (g : Grammar) (start : List Char) (e : Expr) : Reader Expr := fun s =>
  match skip s with
  | [] => none
  | c :: r =>
    if c = '(' then (g.arguments (c :: r)).map fun (arguments, rest) => (.call e arguments, rest)
    else if c = '.' ∨ c = '[' then g.selection start (c :: r)
    else if c = '\x60' then
      (g.templateParts g.depth r).map fun (parts, rest) => (.call e parts, rest)
    else if c = '?' ∧ r.head? = some '.' then g.optionalSelection start e (r.drop 1)
    else if isStep (c :: r) ∧ crossesLine s = false then
      some (otherBetween "update_expression" start (r.drop 1), r.drop 1)
    else if c = '<' then
      match g.ownTypeArguments (c :: r) with
      | none => none
      | some rest =>
        match g.arguments rest with
        | some (arguments, rest) => some (.call e arguments, rest)
        | none => some (otherBetween "instantiation_expression" start rest, rest)
    else none

def Grammar.suffixes (g : Grammar) (start : List Char) : Nat → Expr → List Char → Expr × List Char
  | 0, e, s => (e, s)
  | n + 1, e, s =>
    match g.suffix start e s with
    | some (e', r) => suffixes g start n e' r
    | none => (e, s)

def Grammar.selections (g : Grammar) (start : List Char) :
    Nat → Expr → List Char → Expr × List Char
  | 0, e, s => (e, s)
  | n + 1, e, s =>
    match g.selection start s with
    | some (e', r) => selections g start n e' r
    | none => (e, s)

def Grammar.namespaceTail (g : Grammar) (start r : List Char) : Option (Expr × List Char) :=
  if crossesLine r then none
  else do
    let r ← skipWord? (skip r)
    let rest ← g.block (dottedTail g.depth r)
    some (otherBetween "internal_module" start rest, rest)

def Grammar.wordExpression (g : Grammar) (start : List Char) (w : String) (r : List Char) :
    Option (Expr × List Char) :=
  if w ∈ constantWords then some (.other w w, r)
  else if w = "function" then g.functionTail start r
  else if w = "class" then g.classExpression start r
  else
    let special : Option (Expr × List Char) :=
      if w = "async" ∧ crossesLine r = false then
        (keyword? "function" r).bind (g.functionTail start)
      else if w = "namespace" then g.namespaceTail start r
      else none
    match special with
    | some result => some result
    | none => some (.identifier w, r)

/-- Reads an expression that no operator takes apart, other than one with `new`. -/
def Grammar.atom (g : Grammar) : Reader Expr := fun s =>
  match skip s with
  | [] => none
  | c :: r =>
    let start := c :: r
    if c = '"' ∨ c = '\'' then
      (closeQuote? c r).map fun rest => (.string (Literal.value (between start rest)), rest)
    else if c = '[' then
      (readList ']' g.argument g.depth r).map fun (items, rest) => (.array items, rest)
    else if c = '\x7b' then
      (readList '\x7d' g.property g.depth r).map fun (members, rest) => (.object members, rest)
    else if c = '(' then do
      let (e, r) ← g.sequence .inBrackets r
      let rest ← symbol? ')' r
      some (e, rest)
    else if c = '\x60' then g.template start r
    else if c.isDigit ∨ c = '.' then
      if c = '.' ∧ !(r.head?.any Char.isDigit) then none
      else some (otherBetween "number" start (afterNumber start), afterNumber start)
    else if c = '/' then
      (afterPattern? r).map fun rest => (otherBetween "regex" start rest, rest)
    else if c = '#' then
      (skipWord? r).map fun rest => (otherBetween "private_property_identifier" start rest, rest)
    else if c = '@' then
      (keyword? "class" (skipMany g.skipDecorator g.depth start)).bind (g.classExpression start)
    else
      match word? start with
      | none => none
      | some (w, r) => g.wordExpression start w r

/-- Reads what follows the word `new`: the target of the construction, or what is
constructed and its arguments, which may be left out. -/
def Grammar.newTail (g : Grammar) (start : List Char) : Nat → Reader Expr
  | 0, _ => none
  | n + 1, s =>
    match (symbol? '.' s).bind (keyword? "target") with
    | some rest => some (otherBetween "meta_property" start rest, rest)
    | none =>
      let inner :=
        match keyword? "new" s with
        | some r => newTail g (skip s) n r
        | none => g.atom s
      match inner with
      | none => none
      | some (e, r) =>
        let (callee, r) := g.selections (skip s) g.depth e r
        let r' := skipOptional g.typeArguments r
        match g.arguments r' with
        | some (arguments, rest) => some (.call callee arguments, rest)
        | none => some (.call callee [], r')

def Grammar.primary (g : Grammar) : Reader Expr := fun s =>
  match keyword? "new" s with
  | some r => g.newTail (skip s) g.depth r
  | none => g.atom s

/-- Reads what stands behind the operand of `await` and belongs to it: type operators and
non-null marks. -/
def Grammar.awaitTail (g : Grammar) (place : Place) (start : List Char) :
    Nat → List Char → List Char
  | 0, s => s
  | n + 1, s =>
    match typeOperator? place s with
    | some (_, r) =>
      match g.type r with
      | some r => awaitTail g place start n r
      | none => s
    | none =>
      if next? s = some '!' then
        match g.selection start s with
        | some (e, r) => awaitTail g place start n (g.suffixes start g.depth e r).2
        | none => s
      else s

def prefixWords : List String := ["typeof", "void", "delete"]

def Grammar.prefixed (g : Grammar) (place : Place) (kind : String) (start r : List Char) :
    Option (Expr × List Char) :=
  (g.operand place r).map fun (_, rest) => (otherBetween kind start rest, rest)

def Grammar.typeAssertion (g : Grammar) (place : Place) : Reader Expr := fun s => do
  let r ← symbol? '<' s
  let r ← g.type r
  let r ← symbol? '>' r
  g.prefixed place "type_assertion" (skip s) r

def Grammar.readOperand (g : Grammar) (place : Place) : Reader Expr := fun s =>
  match skip s with
  | [] => none
  | c :: r =>
    let start := c :: r
    if c = '!' ∨ c = '~' then g.prefixed place "unary_expression" start r
    else if isStep start then g.prefixed place "update_expression" start (r.drop 1)
    else if c = '+' ∨ c = '-' then g.prefixed place "unary_expression" start r
    else
      let element :=
        if c = '<' then
          match g.dialect with
          | .typeScript => g.typeAssertion place start
          | .tsx => g.element start
        else none
      match element with
      | some (e, r) =>
        if g.dialect = .tsx then some (g.suffixes start g.depth e r) else some (e, r)
      | none =>
        match word? start with
        | some (w, r) =>
          if w ∈ prefixWords then g.prefixed place "unary_expression" start r
          else if w = "await" then do
            let (_, r) ← g.operand place r
            let rest := g.awaitTail place (skip r) g.depth r
            some (otherBetween "await_expression" start rest, rest)
          else (g.primary start).map fun (e, r) => g.suffixes start g.depth e r
        | none => (g.primary start).map fun (e, r) => g.suffixes start g.depth e r

/-! ### Chains of operators -/

/-- Reads the operators behind an operand. `power` says that the last of them is the power
operator, whose right operand takes what follows it. -/
def Grammar.chainTail (g : Grammar) (place : Place) (start : List Char) :
    Nat → Bool → Expr → List Char → Expr × List Char
  | 0, _, e, s => (e, s)
  | n + 1, power, e, s =>
    let grown (kind : String) (r : List Char) : Expr :=
      otherBetween (if power then "binary_expression" else kind) start r
    if next? s = some '!' ∧ (binaryOperator? place s).isNone then
      match g.selection start s with
      | none => (e, s)
      | some (e', r) =>
        let (e', r) := g.suffixes start g.depth e' r
        let operand := if power then otherBetween "binary_expression" start r else e'
        chainTail g place start n power operand r
    else
      match typeOperator? place s with
      | some (kind, r) =>
        match g.type r with
        | none => (e, s)
        | some r => chainTail g place start n power (grown kind r) r
      | none =>
        match binaryOperator? place s with
        | none => (e, s)
        | some (power, r) =>
          match g.operand place r with
          | none => (e, s)
          | some (_, r) =>
            chainTail g place start n power (otherBetween "binary_expression" start r) r

def Grammar.chain (g : Grammar) (place : Place) : Reader Expr := fun s =>
  (g.readOperand place s).map fun (e, r) => g.chainTail place (skip s) g.depth false e r

/-- Reads the two branches of a condition whose question mark has been read. -/
def Grammar.branches (g : Grammar) (place : Place) : Skipper := fun s => do
  let first (beforeColon : Bool) : Option (List Char) := do
    let (_, r) ← g.expression ⟨false, beforeColon, true⟩ s
    symbol? ':' r
  let r ←
    match first false with
    | some r => some r
    | none => first true
  (g.expression place r).map Prod.snd

def Grammar.assignment (g : Grammar) (place : Place) : Reader Expr := fun s => do
  let (e, r) ← g.chain place s
  match assignment? r with
  | some (kind, r) =>
    let (_, rest) ← g.expression place r
    some (otherBetween kind (skip s) rest, rest)
  | none =>
    match symbol? '?' r with
    | none => some (e, r)
    | some r' =>
      let rest ← g.branches place r'
      some (otherBetween "ternary_expression" (skip s) rest, rest)

def yieldsNothing (s : List Char) : Bool :=
  match skip s with
  | [] => true
  | c :: _ => crossesLine s || ")]\x7d,;:".toList.contains c

def Grammar.yieldTail (g : Grammar) (place : Place) : Skipper := fun s =>
  if yieldsNothing s then some s
  else (g.expression place (skipOptional (symbol? '*') s)).map Prod.snd

/-- Whether an arrow function can start with the next lexeme. -/
def startsArrow (s : List Char) : Bool :=
  match skip s with
  | c :: _ => isWordStart c || c == '(' || c == '<' || c == '\\'
  | [] => false

def Grammar.readExpression (g : Grammar) (place : Place) : Reader Expr := fun s =>
  match (if startsArrow s then g.arrow place s else none) with
  | some result => some result
  | none =>
    match keyword? "yield" s with
    | some r => (g.yieldTail place r).map fun rest =>
        (otherBetween "yield_expression" (skip s) rest, rest)
    | none => g.assignment place s

end DecoratorGraph.Script
