import DecoratorGraph.Record
/-!
# The dependency graph

One node for each record, its component, and one node for each dependency that some record
lists, shared by all records that list it under the same category. An edge leads from a
component to each of its dependencies, in the order of the record, repetitions included.

Nodes are found by their id. The id of a component is made from its name and from how many
components of that name came before, the id of a dependency from its kind and its name.
-/

namespace DecoratorGraph

inductive NodeKind where
  | component
  | directive
  | provider
  | template
  deriving DecidableEq, Repr

inductive EdgeKind where
  | uses
  | provides
  | renders
  deriving DecidableEq, Repr

/-- The kind of the nodes under a category. -/
def Category.nodeKind : Category → NodeKind
  | .directives => .directive
  | .providers => .provider
  | .templateUrl => .template

def Category.edgeKind : Category → EdgeKind
  | .directives => .uses
  | .providers => .provides
  | .templateUrl => .renders

theorem Category.nodeKind_ne_component (c : Category) : c.nodeKind ≠ .component := by
  cases c <;> simp [nodeKind]

def NodeKind.label : NodeKind → String
  | .component => "component"
  | .directive => "directive"
  | .provider => "provider"
  | .template => "template"

structure Node where
  id : String
  name : String
  kind : NodeKind
  file : Option Path
  deriving DecidableEq, Repr

/-- The id of the component that has `occurrence` components of its name before it. -/
def componentId (name : String) (occurrence : Nat) : String :=
  if occurrence = 0 then "component:" ++ name
  else "component:" ++ name ++ "#" ++ toString occurrence

def dependencyId (kind : NodeKind) (name : String) : String := kind.label ++ ":" ++ name

def Node.component (r : Record) (occurrence : Nat) : Node :=
  ⟨componentId r.name occurrence, r.name, .component, some r.file⟩

def Node.dependency (kind : NodeKind) (name : String) : Node :=
  ⟨dependencyId kind name, name, kind, none⟩

/-- An edge between the nodes at two indices. -/
structure Edge where
  source : Nat
  target : Nat
  kind : EdgeKind
  deriving DecidableEq, Repr

/-- A dependency graph: its nodes and edges in the order in which they were added. -/
structure DependencyGraph where
  nodes : List Node := []
  edges : List Edge := []
  deriving DecidableEq, Repr

/-! ### Looking through the nodes -/

def lastIndex? (id : String) : List Node → Option Nat
  | [] => none
  | n :: rest =>
    match lastIndex? id rest with
    | some i => some (i + 1)
    | none => if n.id = id then some 0 else none

theorem lastIndex?_append_singleton (id : String) (nodes : List Node) (n : Node) :
    lastIndex? id (nodes ++ [n]) =
      if n.id = id then some nodes.length else lastIndex? id nodes := by
  induction nodes with
  | nil => rfl
  | cons m nodes ih =>
    simp only [List.cons_append, lastIndex?, ih]
    by_cases h : n.id = id
    · simp only [h, if_true, List.length_cons]
    · simp only [h, if_false]

def componentCount (name : String) (nodes : List Node) : Nat :=
  nodes.countP fun n => n.kind = .component ∧ n.name = name

theorem componentCount_append_singleton (name : String) (nodes : List Node) (n : Node) :
    componentCount name (nodes ++ [n]) =
      if n.kind = .component ∧ n.name = name then componentCount name nodes + 1
      else componentCount name nodes := by
  simp only [componentCount, List.countP_append, List.countP_singleton, decide_eq_true_eq]
  split <;> rfl

/-! ### Building a graph -/

/-- A graph that is being built. Two tables are kept beside it, in which a later entry hides an
earlier one of the same key: under which index an id was added, and how many components have a
name. They say what a look through the nodes would. -/
structure GraphBuilder extends DependencyGraph where
  indices : List (String × Nat) := []
  counts : List (String × Nat) := []
  indices_eq : ∀ id, indices.lookup id = lastIndex? id nodes := by exact fun _ => rfl
  counts_eq : ∀ name, (counts.lookup name).getD 0 = componentCount name nodes := by
    exact fun _ => rfl

namespace GraphBuilder

/-- The index of the node that is found under an id: the one that was added last. -/
def indexOf? (b : GraphBuilder) (id : String) : Option Nat := b.indices.lookup id

theorem indexOf?_eq (b : GraphBuilder) (id : String) : b.indexOf? id = lastIndex? id b.nodes :=
  b.indices_eq id

def occurrences (b : GraphBuilder) (name : String) : Nat := (b.counts.lookup name).getD 0

theorem occurrences_eq (b : GraphBuilder) (name : String) :
    b.occurrences name = componentCount name b.nodes :=
  b.counts_eq name

theorem lookup_indices_cons (b : GraphBuilder) (n : Node) (id : String) :
    ((n.id, b.nodes.length) :: b.indices).lookup id = lastIndex? id (b.nodes ++ [n]) := by
  rw [lastIndex?_append_singleton, ← b.indices_eq, List.lookup_cons]
  by_cases h : n.id = id
  · simp [h]
  · simp [h, beq_false_of_ne (Ne.symm h)]

def addComponent (b : GraphBuilder) (r : Record) : GraphBuilder × Nat :=
  let n := Node.component r (b.occurrences r.name)
  ({  nodes := b.nodes ++ [n]
      edges := b.edges
      indices := (n.id, b.nodes.length) :: b.indices
      counts := (r.name, b.occurrences r.name + 1) :: b.counts
      indices_eq := b.lookup_indices_cons n
      counts_eq := fun name => by
        rw [componentCount_append_singleton, ← b.occurrences_eq name, List.lookup_cons]
        by_cases h : r.name = name
        · simp [h, n, Node.component]
        · simp [h, beq_false_of_ne (Ne.symm h), n, Node.component, occurrences] },
    b.nodes.length)

def addDependencyNode (b : GraphBuilder) (c : Category) (name : String) : GraphBuilder × Nat :=
  let n := Node.dependency c.nodeKind name
  ({  nodes := b.nodes ++ [n]
      edges := b.edges
      indices := (n.id, b.nodes.length) :: b.indices
      counts := b.counts
      indices_eq := b.lookup_indices_cons n
      counts_eq := fun other => by
        rw [componentCount_append_singleton, b.counts_eq]
        simp [n, Node.dependency, c.nodeKind_ne_component] },
    b.nodes.length)

/-- The index of the node of a dependency, which is added unless it is there. -/
def dependencyIndex (b : GraphBuilder) (c : Category) (name : String) : GraphBuilder × Nat :=
  match b.indexOf? (dependencyId c.nodeKind name) with
  | some i => (b, i)
  | none => b.addDependencyNode c name

def addEdge (b : GraphBuilder) (e : Edge) : GraphBuilder := { b with edges := b.edges ++ [e] }

def addDependency (source : Nat) (c : Category) (b : GraphBuilder) (name : String) :
    GraphBuilder :=
  let (b, target) := b.dependencyIndex c name
  b.addEdge ⟨source, target, c.edgeKind⟩

def addCategory (source : Nat) (d : Dependencies) (b : GraphBuilder) (c : Category) :
    GraphBuilder :=
  (d.entries c).foldl (addDependency source c) b

def addRecord (b : GraphBuilder) (r : Record) : GraphBuilder × Nat :=
  let (b, source) := b.addComponent r
  (Category.all.foldl (addCategory source r.dependencies) b, source)

def ofRecords (records : List Record) : GraphBuilder :=
  records.foldl (fun b r => (b.addRecord r).1) {}

@[simp] theorem ofRecords_nil : ofRecords [] = {} := rfl

theorem ofRecords_append_singleton (records : List Record) (r : Record) :
    ofRecords (records ++ [r]) = ((ofRecords records).addRecord r).1 := by
  simp [ofRecords]

end GraphBuilder

/-- The graph of a list of records. -/
def DependencyGraph.ofRecords (records : List Record) : DependencyGraph :=
  (GraphBuilder.ofRecords records).toDependencyGraph

end DecoratorGraph
