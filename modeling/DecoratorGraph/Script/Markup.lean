import DecoratorGraph.Script.Grammar
/-!
# Markup elements

The elements that the dialect with markup allows among its expressions. Text inside an
element is not a script, so its quotes, slashes and words mean nothing.
-/

namespace DecoratorGraph.Script

def afterTagWord? (s : List Char) : Option (List Char) :=
  (skipWord? (skip s)).map fun r => r.dropWhile fun c => isWordPart c || c == '-'

def Grammar.tagName (g : Grammar) : Skipper := fun s => do
  let part : Skipper := fun s =>
    match skip s with
    | '.' :: r => afterTagWord? r
    | ':' :: r => afterTagWord? r
    | _ => none
  let r ← afterTagWord? s
  some (skipMany part g.depth r)

def Grammar.embedded (g : Grammar) : Skipper := fun s => do
  let r ← symbol? '\x7b' s
  match symbol? '\x7d' r with
  | some r => some r
  | none => (g.skipSequence (skipOptional (symbols? "...") r)).bind (symbol? '\x7d')

/-- Skips a quoted attribute value; it knows no escapes. -/
def closeAttribute? (quote : Char) : List Char → Option (List Char)
  | [] => none
  | c :: r => if c = quote then some r else closeAttribute? quote r

def Grammar.attribute (g : Grammar) : Skipper := fun s =>
  match g.embedded s with
  | some r => some r
  | none => do
    let r ← g.tagName s
    match symbol? '=' r with
    | none => some r
    | some r =>
      match skip r with
      | '"' :: r => closeAttribute? '"' r
      | '\'' :: r => closeAttribute? '\'' r
      | '<' :: r => (g.element ('<' :: r)).map Prod.snd
      | r => g.embedded r

def Grammar.contents (g : Grammar) : Nat → Skipper
  | 0, _ => none
  | n + 1, s =>
    match s with
    | [] => none
    | c :: r =>
      if c = '<' then
        match symbol? '/' r with
        | some r => symbol? '>' (skipOptional g.tagName r)
        | none =>
          match g.element (c :: r) with
          | some (_, r) => contents g n r
          | none => none
      else if c = '\x7b' then
        match g.embedded (c :: r) with
        | some r => contents g n r
        | none => none
      else contents g n r

def Grammar.readElement (g : Grammar) : Reader Expr := fun s => do
  let r ← symbol? '<' s
  let head : Skipper := fun r => do
    let r ← g.tagName r
    let r := skipOptional (fun s => (symbol? '<' s).bind (skipList '>' g.type g.depth)) r
    some (skipMany g.attribute g.depth r)
  let r := skipOptional head r
  match (symbol? '/' r).bind (symbol? '>') with
  | some rest => some (otherBetween "jsx_self_closing_element" (skip s) rest, rest)
  | none =>
    let r ← symbol? '>' r
    let rest ← g.contents g.depth r
    some (otherBetween "jsx_element" (skip s) rest, rest)

def Grammar.elementName? (g : Grammar) (s : List Char) : Option String := do
  let r ← symbol? '<' s
  let rest ← g.tagName r
  some (textBetween (skip r) rest)

end DecoratorGraph.Script
