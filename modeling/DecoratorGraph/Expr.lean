/-!
# Expressions of a decorator configuration

The part of an expression that a decorator configuration can use: string literals,
references, arrays, objects and calls. Every other expression is kept as its node kind
and its source text, so that it can still be named in a diagnostic.
-/

namespace DecoratorGraph

mutual

/-- An expression as far as a configuration can use it. -/
inductive Expr where
  /-- A quoted string or a template without substitutions, by its value. -/
  | string (value : String)
  | identifier (name : String)
  /-- A dotted reference such as `forms.Directives`, as it is written. -/
  | member (text : String)
  | array (items : List Expr)
  | object (members : List Property)
  /-- A call or a `new` expression. -/
  | call (callee : Expr) (arguments : List Expr)
  /-- Any other expression: its node kind and its source text. -/
  | other (kind text : String)

/-- A member of an object literal. Spread members and members with a computed key have
no name. -/
structure Property where
  name : Option String
  value : Expr

end

instance : Inhabited Expr := ⟨.other "" ""⟩

namespace Expr

/-- The text that stands for an expression in a list of dependencies: the name of a
reference, the contents of a string, the callee of a call. -/
def literalText : Expr → String
  | .string text | .identifier text | .member text | .other _ text => text
  | .call callee _ => callee.literalText
  | .array _ => "[..]"
  | .object _ => "\x7b..\x7d"

/-- The shape of an expression as diagnostics name it. -/
def shape : Expr → String
  | .string _ => "string literal"
  | .identifier _ => "identifier"
  | .member _ => "member expression"
  | .array _ => "array literal"
  | .object _ => "object literal"
  | .call _ _ => "call expression"
  | .other _ _ => "unsupported expression"

end Expr

namespace Property

def named (name : String) (value : Expr) : Property := ⟨some name, value⟩

/-- Whether the member carries this very name; a member without a name never does. -/
def isNamed (p : Property) (name : String) : Bool := p.name == some name

@[simp] theorem isNamed_named (n m : String) (e : Expr) :
    (named n e).isNamed m = decide (n = m) := by
  by_cases h : n = m <;> simp [named, isNamed, h]

end Property

end DecoratorGraph
