import DecoratorGraph.Drawing.Settings
import DecoratorGraph.Graph
/-!
# Graph text

The text that describes a graph to Graphviz: a template in which the settings and the
statements for nodes and edges are filled in. Names stand in quotes, where quotes and
backslashes have a backslash in front.
-/

namespace DecoratorGraph.Drawing

def escape (s : List Char) : List Char :=
  s.flatMap fun c => if c = '\\' ∨ c = '"' then ['\\', c] else [c]

@[simp] theorem escape_nil : escape [] = [] := rfl

theorem escape_append (s t : List Char) : escape (s ++ t) = escape s ++ escape t := by
  simp [escape]

def quoted (name : String) : List Char := '"' :: escape name.toList ++ ['"']

/-! ### Colours -/

def digitsValue (digits : List Char) : Nat :=
  digits.foldl (fun n c => 10 * n + (c.toNat - '0'.toNat)) 0

/-- How many colours a scheme has, judging by its name: the number at its end, of which two
digits count if they make a number up to 12 and otherwise one. -/
def paletteSize (scheme : String) : Nat :=
  let digits := (scheme.toList.reverse.takeWhile Char.isDigit).reverse
  let two := digitsValue (digits.drop (digits.length - 2))
  let one := digitsValue (digits.drop (digits.length - 1))
  if 2 ≤ digits.length ∧ 1 ≤ two ∧ two ≤ 12 then two
  else if 1 ≤ digits.length ∧ 1 ≤ one ∧ one ≤ 12 then one
  else 1

/-- The colours of the nodes: components take the colours of the palette in turn, beginning
with the colour `next` counted from 0, every other kind has a colour of its own. -/
def nodeColors (palette : Nat) : Nat → List Node → List Nat
  | _, [] => []
  | next, n :: rest =>
    match n.kind with
    | .component => (next % palette + 1) :: nodeColors palette (next + 1) rest
    | .provider => 3 :: nodeColors palette next rest
    | .directive => 5 :: nodeColors palette next rest
    | .template => 7 :: nodeColors palette next rest

/-- The colour of the edges that start at the node with this index: the colour of a
component. Edges start at components only, so the first colour is never fallen back on. -/
def edgeColor (nodes : List Node) (colors : List Nat) (source : Nat) : Nat :=
  match nodes[source]? with
  | some n => if n.kind = .component then colors.getD source 1 else 1
  | none => 1

/-! ### Statements -/

def shape (s : Settings) : NodeKind → String
  | .component => s.moduleShape
  | .provider => s.providerShape
  | .directive => s.directiveShape
  | .template => "note"

def lineStyle : EdgeKind → String
  | .uses => "solid"
  | .provides => "bold"
  | .renders => "dashed"

def indent : List Char := "    ".toList

def nodeStatement (s : Settings) (n : Node) (color : Nat) : List Char :=
  indent ++ quoted n.id ++ " [label=".toList ++ quoted n.name ++ ", shape=".toList ++
    (shape s n.kind).toList ++ ", fillcolor=".toList ++ Text.decimal color ++
    (match n.file with
      | some file => ", tooltip=".toList ++ quoted file.text
      | none => []) ++ "];\n".toList

def idAt (nodes : List Node) (i : Nat) : String := ((nodes[i]?).map Node.id).getD ""

def edgeStatement (nodes : List Node) (colors : List Nat) (e : Edge) : List Char :=
  indent ++ quoted (idAt nodes e.source) ++ " -> ".toList ++ quoted (idAt nodes e.target) ++
    " [color=".toList ++ Text.decimal (edgeColor nodes colors e.source) ++ ", style=".toList ++
    (lineStyle e.kind).toList ++ "];\n".toList

/-- The statements for the nodes of a graph, and after an empty line those for its edges. -/
def body (s : Settings) (g : DependencyGraph) : List Char :=
  let colors := nodeColors (paletteSize s.colorScheme) 0 g.nodes
  (List.zipWith (nodeStatement s) g.nodes colors).flatten ++ ['\n'] ++
    g.edges.flatMap (edgeStatement g.nodes colors)

/-! ### Templates -/

def standardTemplate : String :=
  "digraph \"\x7bname\x7d\" \x7b
    graph [fontname=\"helvetica\", rankdir=LR, splines=true, overlap=false, nodesep=0.4, ranksep=1.2];
    node [fontname=\"helvetica\", fontsize=11, colorscheme=\x7bscheme\x7d, style=\"filled\"];
    edge [fontname=\"helvetica\", fontsize=9, colorscheme=\x7bscheme\x7d, arrowsize=0.7];

    subgraph cluster_legend \x7b
        label=\"Legend\";
        fontname=\"helvetica\";
        legend_component [label=\"Component\", shape=\x7b1\x7d, fillcolor=1];
        legend_provider [label=\"Provider\", shape=\x7b2\x7d, fillcolor=3];
        legend_directive [label=\"Directive\", shape=\x7b3\x7d, fillcolor=5];
        legend_template [label=\"Template\", shape=note, fillcolor=7];
    \x7d

\x7bcomponents\x7d
\x7d
"

/-- The places of a template that the settings fill, in the order in which they are filled,
and what is put there. -/
def settingsFor (s : Settings) : List (List Char × List Char) :=
  [("\x7b1\x7d".toList, s.moduleShape.toList),
    ("\x7b2\x7d".toList, s.providerShape.toList),
    ("\x7b3\x7d".toList, s.directiveShape.toList),
    ("\x7bscheme\x7d".toList, s.colorScheme.toList),
    ("\x7bname\x7d".toList, escape s.name.toList)]

def bodyPlace : List Char := "\x7bcomponents\x7d".toList

/-- Fills places one after the other. -/
def fill (values : List (List Char × List Char)) (template : List Char) : List Char :=
  values.foldl (fun text place => Text.replace place.1 place.2 text) template

def dotText (s : Settings) (template : String) (records : List Record) : String :=
  String.ofList <| Text.replace bodyPlace (body s (.ofRecords records))
    (fill (settingsFor s) template.toList)

end DecoratorGraph.Drawing
