import DecoratorGraph.Path
/-!
# Dependency records

What one decorator says about the declaration it stands on: the directives and providers
that the declaration uses and the template that it renders. A category that the decorator
does not mention is absent, which is not the same as an empty list.
-/

namespace DecoratorGraph

inductive Category where
  | directives
  | providers
  | templateUrl
  deriving DecidableEq, Repr

namespace Category

/-- All categories, in the order in which they are read and drawn. -/
def all : List Category := [.directives, .providers, .templateUrl]

theorem mem_all (c : Category) : c ∈ all := by cases c <;> simp [all]

def key : Category → String
  | .directives => "directives"
  | .providers => "providers"
  | .templateUrl => "templateUrl"

end Category

/-- The dependencies listed under each category, where the category is mentioned. -/
structure Dependencies where
  directives : Option (List String) := none
  providers : Option (List String) := none
  templateUrl : Option (List String) := none
  deriving DecidableEq, Repr

namespace Dependencies

def allEmpty : Dependencies := ⟨some [], some [], some []⟩

def get? (d : Dependencies) : Category → Option (List String)
  | .directives => d.directives
  | .providers => d.providers
  | .templateUrl => d.templateUrl

/-- The entries of a category, none if it is absent. -/
def entries (d : Dependencies) (c : Category) : List String := (d.get? c).getD []

end Dependencies

structure Record where
  name : String
  file : Path
  dependencies : Dependencies
  deriving DecidableEq, Repr

end DecoratorGraph
