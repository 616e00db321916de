import DecoratorGraph.Expr
import DecoratorGraph.Path
/-!
# Declarations of a source file

A parsed file is the list of its top-level declarations, each with the decorators attached
to it. It is built once by reading the source and never changed afterwards, so it can be
stored and read again in place of the source.
-/

namespace DecoratorGraph

inductive DeclarationKind where
  | classLike
  | function
  | variable
  | interface
  | other
  deriving DecidableEq, Repr

/-- A decorator attached to a declaration. The callee is known for a plain named call such
as `@Component(…)` only; a bare decorator and one with a dotted callee have none, and then
no arguments either. -/
structure Annotation where
  callee : Option String
  arguments : List Expr
  /-- The source text behind the `@`, for diagnostics. -/
  text : String
  line : Nat

/-- The trailing argument, by convention the configuration object. -/
def Annotation.configArgument? (a : Annotation) : Option Expr := a.arguments.getLast?

structure Declaration where
  /-- Present for a named declaration only. -/
  name : Option String
  kind : DeclarationKind
  line : Nat
  /-- The attached decorators in source order. -/
  annotations : List Annotation

/-- The declarations of one source file, in source order. -/
structure ParsedFile where
  path : Path
  declarations : List Declaration

end DecoratorGraph
