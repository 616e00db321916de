import DecoratorGraph.Script.Signature
/-!
# Classes

What follows the word `class`: a name, the classes and interfaces it builds on, and the
members. Only the name is kept.
-/

namespace DecoratorGraph.Script

def memberModifiers : List String :=
  ["public", "private", "protected", "static", "abstract", "override", "readonly", "declare",
    "async", "accessor", "get", "set"]

def startsKey (s : List Char) : Bool :=
  match skip s with
  | c :: _ => isWordStart c || c.isDigit || "\"'[#*\\".toList.contains c
  | [] => false

/-- Skips a modifier; a word that no key follows is a key itself. -/
def memberModifier : Skipper := fun s =>
  match word? (skip s) with
  | some (w, r) => if w ∈ memberModifiers ∧ startsKey r then some r else none
  | none => symbol? '*' s

def Grammar.indexParameter (g : Grammar) : Skipper := fun s => do
  let r ← symbol? '[' s
  let r ← skipWord? (skip r)
  let r ← symbol? ':' r
  let r ← g.type r
  symbol? ']' r

/-- Skips the end of a member, which may also be a comma. -/
def endMember : Skipper := fun s =>
  match symbol? ',' s with
  | some r => some r
  | none => endStatement s

def Grammar.member (g : Grammar) : Skipper := fun s =>
  match symbol? ';' s with
  | some r => some r
  | none =>
    match g.skipDecorator s with
    | some r => some r
    | none =>
      match (keyword? "static" s).bind g.block with
      | some r => some r
      | none =>
        let s := skipMany memberModifier g.depth s
        match g.indexParameter s with
        | some r => (g.annotation r).bind endMember
        | none => do
          let r ← g.key s
          let r := skipOptional (symbol? '!') (skipOptional (symbol? '?') r)
          if next? r = some '(' ∨ next? r = some '<' then do
            let r ← g.signature r
            if next? r = some '\x7b' then g.block r else endMember r
          else do
            let r ← g.annotation r
            let r ← g.initializer .free r
            endMember r

def Grammar.membersTail (g : Grammar) : Nat → Skipper
  | 0, _ => none
  | n + 1, s =>
    match symbol? '\x7d' s with
    | some r => some r
    | none =>
      match g.member s with
      | some r => membersTail g n r
      | none => none

/-- Skips further items behind commas. -/
def skipFurther (item : Skipper) : Nat → List Char → List Char :=
  skipMany fun s => (symbol? ',' s).bind item

def Grammar.heritage (g : Grammar) : Skipper := fun s => do
  let base : Skipper := fun s => do
    let (_, r) ← g.operand .free s
    some (skipOptional g.typeArguments r)
  let r ←
    match keyword? "extends" s with
    | some r => (base r).map (skipFurther base g.depth)
    | none => some s
  match keyword? "implements" r with
  | some r => (g.type r).map (skipFurther g.type g.depth)
  | none => some r

/-- Reads what follows the word `class`: its name, if it has one. -/
def Grammar.classTail (g : Grammar) : Reader (Option String) := fun s => do
  let (name, r) :=
    match word? (skip s) with
    | some (w, r) => if w = "extends" ∨ w = "implements" then (none, s) else (some w, r)
    | none => (none, s)
  let r ← g.heritage (skipOptional g.typeParameters r)
  let r ← symbol? '\x7b' r
  let r ← g.membersTail g.depth r
  some (name, r)

end DecoratorGraph.Script
