import DecoratorGraph.Script.Signature
/-!
# Types

Nothing of a type is kept, but where it ends decides what belongs to the expression or the
declaration around it.
-/

namespace DecoratorGraph.Script

/-- Skips an item of a tuple type: a type, with a label, with `...` in front or with a
question mark behind. -/
def Grammar.tupleItem (g : Grammar) : Skipper := fun s => do
  let s := skipOptional (symbols? "...") s
  let labelled : Option (List Char) := do
    let r ← skipWord? (skip s)
    symbol? ':' (skipOptional (symbol? '?') r)
  let r ← g.type (labelled.getD s)
  some (skipOptional (symbol? '?') r)

def Grammar.functionType (g : Grammar) : Skipper := fun s => do
  let r ← g.parameters (skipOptional g.typeParameters s)
  let r ← symbols? "=>" r
  g.type r

def Grammar.typeReference (g : Grammar) : Skipper := fun s => do
  let r ← skipWord? (skip s)
  some (skipOptional g.typeArguments (dottedTail g.depth r))

/-- Skips what may be asked for the type of a value: a dotted name, possibly of an import,
with indices and type arguments. -/
def Grammar.typeQuery (g : Grammar) : Skipper := fun s => do
  let step : Skipper := fun s =>
    match symbol? '.' s with
    | some r =>
      match symbol? '#' r with
      | some r => skipWord? r
      | none => skipWord? (skip r)
    | none =>
      match symbols? "?." s with
      | some r => skipWord? (skip r)
      | none => none
  let r ← skipWord? (skip s)
  let r := if nextWord? s = some "import" then skipOptional group? r else r
  some (skipOptional g.typeArguments (skipMany step g.depth r))

/-- Skips a type that is no operator and has nothing behind it. -/
def Grammar.primaryType (g : Grammar) : Skipper := fun s =>
  match skip s with
  | [] => none
  | c :: r =>
    if c = '(' then
      match g.functionType (c :: r) with
      | some rest => some rest
      | none => (g.type r).bind (symbol? ')')
    else if c = '<' then g.functionType (c :: r)
    else if c = '[' then skipList ']' g.tupleItem g.depth r
    else if c = '\x7b' then closeGroup? [.bracket '\x7d'] r
    else if c = '"' ∨ c = '\'' then closeQuote? c r
    else if c = '\x60' then skipTemplate g.type (r.length + 1) r
    else if c = '*' then some r
    else if c = '-' then some (afterNumber (skip r))
    else if c.isDigit then some (afterNumber (c :: r))
    else
      match word? (c :: r) with
      | none => none
      | some (w, rest) =>
        if w = "new" then g.functionType rest
        else if w = "abstract" then
          match keyword? "new" rest with
          | some rest => g.functionType rest
          | none => g.typeReference (c :: r)
        else if w = "typeof" then g.typeQuery rest
        else if w = "import" then
          (group? rest).map fun rest => skipOptional g.typeArguments (dottedTail g.depth rest)
        else g.typeReference (c :: r)

def Grammar.typeSuffix (g : Grammar) : Skipper := fun s =>
  if crossesLine s then none
  else
    match symbol? '[' s with
    | none => none
    | some r =>
      match symbol? ']' r with
      | some r => some r
      | none => (g.type r).bind (symbol? ']')

def typeOperators : List String := ["keyof", "unique", "readonly"]

def startsType (s : List Char) : Bool :=
  match skip s with
  | c :: _ => isWordStart c || "([\x7b<\"'-\x60".toList.contains c
  | [] => false

/-- Skips an operator in front of a type, a word or the question mark of an optional value; a
word that no type follows is a type itself. -/
def typeOperator : Skipper := fun s =>
  match word? (skip s) with
  | some (w, r) =>
    if w ∈ typeOperators ∧ startsType r ∧ nextWord? r ≠ some "extends" ∧
        symbol? '<' r = none ∧ !(crossesLine r) then some r
    else none
  | none => symbol? '?' s

def Grammar.inferredType (g : Grammar) (constraint : Skipper) : Skipper := fun s => do
  let r ← keyword? "infer" s
  let r ← skipWord? (skip r)
  if g.depth = 0 then none
  else
    match keyword? "extends" r with
    | some r' => some ((constraint r').getD r)
    | none => some r

def Grammar.typeOperand (g : Grammar) : Skipper := fun s =>
  let s := skipMany typeOperator g.depth s
  let inferred := g.inferredType (fun s =>
    (g.primaryType s).map (skipMany g.typeSuffix g.depth)) s
  match inferred with
  | some r => some r
  | none => (g.primaryType s).map (skipMany g.typeSuffix g.depth)

def unionSign : Skipper := fun s =>
  match skip s with
  | c :: r =>
    if (c = '|' ∨ c = '&') ∧ r.head? ≠ some c ∧ r.head? ≠ some '=' then some r else none
  | [] => none

def Grammar.unionType (g : Grammar) : Skipper := fun s => do
  let r ← g.typeOperand (skipOptional unionSign s)
  some (skipMany (fun s => (unionSign s).bind g.typeOperand) g.depth r)

/-- Skips a type: a predicate on a value, or a union, possibly with a condition on it. -/
def Grammar.readType (g : Grammar) : Skipper := fun s => do
  let asserted := (keyword? "asserts" s).filter fun r =>
    (nextWord? r).any (fun w => w != "is" && w != "extends") && !(crossesLine r)
  let s := asserted.getD s
  let subject := (skipWord? (skip s)).bind fun r =>
    if crossesLine r then none else keyword? "is" r
  match subject with
  | some r => g.type r
  | none =>
    let r ← g.unionType s
    match (if crossesLine r ∧ nextWord? r ≠ some "extends" then none else keyword? "extends" r) with
    | none => some r
    | some r' =>
      let conditional : Option (List Char) := do
        let r ← g.unionType r'
        let r ← symbol? '?' r
        let r ← g.type r
        let r ← symbol? ':' r
        g.type r
      some (conditional.getD r)

end DecoratorGraph.Script
