import DecoratorGraph.Drawing.Dot
import DecoratorGraph.Proofs.Graph.Construction
import DecoratorGraph.Proofs.Text.Pieces

/-!
# Reading statements back

A reader for the statements of a graph. Inside quotes it takes a backslash together with the
character behind it, so a quoted name ends at the first quote that no backslash stands before.
Everything outside quotes is either fixed by the settings or a number, and the kind of a node is
told by its id. Each reader is given with the statement that it reads what is written in front of
any text, so that no name can end early, hide a statement or add one.
-/

namespace DecoratorGraph

/-! ### Readers -/

namespace Text

@[simp] theorem dropPrefix?_append_self (piece rest : List Char) :
    (piece ++ rest).dropPrefix? piece = some rest :=
  List.dropPrefix?_append_of_beq rest (beq_self_eq_true piece)

/-- Reads one thing after the other as long as the text begins with a mark. The fuel bounds how
many are read. -/
def readMany {α : Type} (mark : List Char) (read : List Char → Option (α × List Char)) :
    Nat → List Char → Option (List α × List Char)
  | 0, _ => none
  | fuel + 1, text =>
    if mark.isPrefixOf text then do
      let (a, rest) ← read text
      let (l, rest) ← readMany mark read fuel rest
      some (a :: l, rest)
    else some ([], text)

def readAll {α : Type} (mark : List Char) (read : List Char → Option (α × List Char))
    (text : List Char) : Option (List α × List Char) :=
  readMany mark read (text.length + 1) text

/-- What is written one after the other is read back, if each thing is read in front of any
text. -/
theorem readAll_flatMap {α β : Type} {mark : List Char}
    {read : List Char → Option (α × List Char)} {write : β → List Char} (value : β → α)
    {l : List β} {rest : List Char} (hne : mark ≠ []) (hmark : ∀ b ∈ l, mark <+: write b)
    (hrest : ¬mark <+: rest)
    (hread : ∀ b ∈ l, ∀ rest, read (write b ++ rest) = some (value b, rest)) :
    readAll mark read (l.flatMap write ++ rest) = some (l.map value, rest) := by
  suffices h : ∀ fuel, (l.flatMap write ++ rest).length ≤ fuel →
      readMany mark read (fuel + 1) (l.flatMap write ++ rest) = some (l.map value, rest) from
    h _ (Nat.le_refl _)
  induction l with
  | nil =>
      intro fuel _
      have hstop : mark.isPrefixOf rest = false := by
        rwa [Bool.eq_false_iff, ne_eq, List.isPrefixOf_iff_prefix]
      simp [readMany, hstop]
  | cons b l ih =>
      intro fuel hfuel
      have hb := hmark b List.mem_cons_self
      have hgo : mark.isPrefixOf (write b ++ (l.flatMap write ++ rest)) = true :=
        List.isPrefixOf_iff_prefix.2 (hb.trans (List.prefix_append _ _))
      -- A piece is not empty, since it begins with the mark, so the text gets shorter.
      have hpos := Nat.lt_of_lt_of_le (List.length_pos_iff.2 hne) hb.length_le
      rw [List.flatMap_cons, List.append_assoc, List.length_append] at hfuel
      have hl := ih (fun c hc => hmark c (List.mem_cons_of_mem _ hc))
        (fun c hc => hread c (List.mem_cons_of_mem _ hc)) (fuel - 1) (by omega)
      rw [Nat.sub_add_cancel (by omega)] at hl
      rw [List.flatMap_cons, List.append_assoc, readMany, if_pos hgo, hread b List.mem_cons_self]
      simp [hl]

end Text

namespace Drawing

/-! ### Names in quotes -/

/-- Reads up to the closing quote. A backslash stands for the character behind it. -/
def readEscaped : List Char → Option (List Char × List Char)
  | [] => none
  | '"' :: rest => some ([], rest)
  | ['\\'] => none
  | '\\' :: c :: rest => do
    let (s, rest) ← readEscaped rest
    some (c :: s, rest)
  | c :: rest => do
    let (s, rest) ← readEscaped rest
    some (c :: s, rest)

theorem readEscaped_escape (s rest : List Char) :
    readEscaped (escape s ++ '"' :: rest) = some (s, rest) := by
  induction s with
  | nil => rfl
  | cons c s ih =>
      have hsplit : escape (c :: s) = escape [c] ++ escape s := escape_append [c] s
      rw [hsplit, List.append_assoc]
      by_cases hspecial : c = '\\' ∨ c = '"'
      · have hc : escape [c] = ['\\', c] := by simp [escape, hspecial]
        rw [hc, List.cons_append, List.cons_append, List.nil_append, readEscaped, ih]
        rfl
      · have hc : escape [c] = [c] := by simp [escape, hspecial]
        rw [not_or] at hspecial
        rw [hc, List.cons_append, List.nil_append, readEscaped, ih]
        · rfl
        all_goals simp [hspecial]

def readQuoted : List Char → Option (String × List Char)
  | '"' :: rest => do
    let (s, rest) ← readEscaped rest
    some (String.ofList s, rest)
  | _ => none

@[simp] theorem readQuoted_quoted (name : String) (rest : List Char) :
    readQuoted (quoted name ++ rest) = some (name, rest) := by
  simp [quoted, readQuoted, readEscaped_escape]

/-! ### Statements for nodes -/

def kindOf? (id : String) : Option NodeKind :=
  [.component, .directive, .provider, .template].find? fun kind =>
    (kind.label ++ ":").toList.isPrefixOf id.toList

theorem kindOf?_id {n : Node} (hn : n.Mentionable) : kindOf? n.id = some n.kind := by
  rcases hn with ⟨r, k, rfl⟩ | ⟨⟨c, name⟩, rfl⟩
  · simp [kindOf?, Node.component, toList_componentId, NodeKind.label]
  · cases c <;>
      simp [kindOf?, Node.ofListed, Node.dependency, dependencyId, Category.nodeKind,
        NodeKind.label]

def readFile (text : List Char) : Option (Option Path × List Char) :=
  match text.dropPrefix? ", tooltip=".toList with
  | some text => do
    let (file, text) ← readQuoted text
    some (some ⟨file⟩, text)
  | none => some (none, text)

def readNode (s : Settings) (text : List Char) : Option (Node × List Char) := do
  let (id, text) ← readQuoted (← text.dropPrefix? indent)
  let kind ← kindOf? id
  let (name, text) ← readQuoted (← text.dropPrefix? " [label=".toList)
  let text ← text.dropPrefix? ", shape=".toList
  let text ← text.dropPrefix? (shape s kind).toList
  let text ← text.dropPrefix? ", fillcolor=".toList
  let (file, text) ← readFile (text.dropWhile Char.isDigit)
  let text ← text.dropPrefix? "];\n".toList
  some (⟨id, name, kind, file⟩, text)

theorem readFile_of_no_file (rest : List Char) :
    readFile ("];\n".toList ++ rest) = some (none, "];\n".toList ++ rest) := rfl

theorem readFile_of_file (file : Path) (rest : List Char) :
    readFile (", tooltip=".toList ++ (quoted file.text ++ rest)) = some (some file, rest) := by
  simp only [readFile, Text.dropPrefix?_append_self, readQuoted_quoted, Option.bind_eq_bind,
    Option.bind_some]

theorem readNode_nodeStatement (s : Settings) {n : Node} (hn : n.Mentionable) (color : Nat)
    (rest : List Char) : readNode s (nodeStatement s n color ++ rest) = some (n, rest) := by
  obtain ⟨id, name, kind, file⟩ := n
  have hkind : kindOf? id = some kind := kindOf?_id hn
  cases file with
  | none =>
      have hdigits : (Text.decimal color ++ ("];\n".toList ++ rest)).dropWhile Char.isDigit =
          "];\n".toList ++ rest := Text.dropWhile_decimal color (by simp)
      simp only [readNode, nodeStatement, List.append_assoc, List.nil_append,
        Text.dropPrefix?_append_self, readQuoted_quoted, hkind, hdigits, readFile_of_no_file,
        Option.bind_eq_bind, Option.bind_some]
  | some file =>
      have hdigits : (Text.decimal color ++ (", tooltip=".toList ++
            (quoted file.text ++ ("];\n".toList ++ rest)))).dropWhile Char.isDigit =
          ", tooltip=".toList ++ (quoted file.text ++ ("];\n".toList ++ rest)) :=
        Text.dropWhile_decimal color (by simp)
      simp only [readNode, nodeStatement, List.append_assoc, Text.dropPrefix?_append_self,
        readQuoted_quoted, hkind, hdigits, readFile_of_file, Option.bind_eq_bind,
        Option.bind_some]

/-! ### Statements for edges -/

/-- An edge as the text has it: the ids at its ends, and its kind. -/
structure Arrow where
  source : String
  target : String
  kind : EdgeKind
  deriving DecidableEq, Repr

def arrows (g : DependencyGraph) : List Arrow :=
  g.edges.map fun e => ⟨idAt g.nodes e.source, idAt g.nodes e.target, e.kind⟩

def readStyle (text : List Char) : Option (EdgeKind × List Char) :=
  [.uses, .provides, .renders].findSome? fun kind =>
    (text.dropPrefix? (lineStyle kind).toList).map fun rest => (kind, rest)

theorem readStyle_lineStyle (kind : EdgeKind) (rest : List Char) :
    readStyle ((lineStyle kind).toList ++ rest) = some (kind, rest) := by
  cases kind <;> simp [readStyle, lineStyle, List.findSome?, List.dropPrefix?]

def readEdge (text : List Char) : Option (Arrow × List Char) := do
  let (source, text) ← readQuoted (← text.dropPrefix? indent)
  let (target, text) ← readQuoted (← text.dropPrefix? " -> ".toList)
  let text ← text.dropPrefix? " [color=".toList
  let text ← (text.dropWhile Char.isDigit).dropPrefix? ", style=".toList
  let (kind, text) ← readStyle text
  let text ← text.dropPrefix? "];\n".toList
  some (⟨source, target, kind⟩, text)

theorem readEdge_edgeStatement (nodes : List Node) (colors : List Nat) (e : Edge)
    (rest : List Char) :
    readEdge (edgeStatement nodes colors e ++ rest) =
      some (⟨idAt nodes e.source, idAt nodes e.target, e.kind⟩, rest) := by
  have hdigits : (Text.decimal (edgeColor nodes colors e.source) ++ (", style=".toList ++
        ((lineStyle e.kind).toList ++ ("];\n".toList ++ rest)))).dropWhile Char.isDigit =
      ", style=".toList ++ ((lineStyle e.kind).toList ++ ("];\n".toList ++ rest)) :=
    Text.dropWhile_decimal _ (by simp)
  simp only [readEdge, edgeStatement, List.append_assoc, Text.dropPrefix?_append_self,
    readQuoted_quoted, hdigits, readStyle_lineStyle, Option.bind_eq_bind, Option.bind_some]

/-! ### The statements of a graph -/

def readBody (s : Settings) (text : List Char) : Option (List Node × List Arrow) := do
  let (nodes, text) ← Text.readAll indent (readNode s) text
  let (arrows, text) ← Text.readAll indent readEdge (← text.dropPrefix? ['\n'])
  if text = [] then some (nodes, arrows) else none

theorem length_nodeColors (palette : Nat) (nodes : List Node) (next : Nat) :
    (nodeColors palette next nodes).length = nodes.length := by
  induction nodes generalizing next with
  | nil => rfl
  | cons n nodes ih => cases hkind : n.kind <;> simp [nodeColors, hkind, ih]

theorem indent_prefix_nodeStatement (s : Settings) (n : Node) (color : Nat) :
    indent <+: nodeStatement s n color := by
  simp only [nodeStatement, List.append_assoc]
  exact List.prefix_append _ _

theorem indent_prefix_edgeStatement (nodes : List Node) (colors : List Nat) (e : Edge) :
    indent <+: edgeStatement nodes colors e := by
  simp only [edgeStatement, List.append_assoc]
  exact List.prefix_append _ _

theorem readAll_nodeStatements (s : Settings) {nodes : List Node}
    (hnodes : ∀ n ∈ nodes, n.Mentionable) {colors : List Nat}
    (hlength : colors.length = nodes.length) (rest : List Char) :
    Text.readAll indent (readNode s)
        ((List.zipWith (nodeStatement s) nodes colors).flatten ++ '\n' :: rest) =
      some (nodes, '\n' :: rest) := by
  have hpairs : (List.zipWith (nodeStatement s) nodes colors).flatten =
      (nodes.zip colors).flatMap fun p => nodeStatement s p.1 p.2 := by
    rw [List.flatMap_def, List.map_zip_eq_zipWith]
    rfl
  have hstop : ¬indent <+: '\n' :: rest := by simp [indent]
  rw [hpairs, Text.readAll_flatMap Prod.fst (by decide)
    (fun p _ => indent_prefix_nodeStatement s p.1 p.2) hstop
    (fun p hp => readNode_nodeStatement s (hnodes _ (List.of_mem_zip hp).1) p.2),
    List.map_fst_zip (Nat.le_of_eq hlength.symm)]

theorem readAll_edgeStatements (g : DependencyGraph) (colors : List Nat) :
    Text.readAll indent readEdge (g.edges.flatMap (edgeStatement g.nodes colors)) =
      some (arrows g, []) := by
  have hread := Text.readAll_flatMap _ (by decide)
    (fun e (_ : e ∈ g.edges) => indent_prefix_edgeStatement g.nodes colors e)
    (by decide : ¬indent <+: []) (fun e _ => readEdge_edgeStatement g.nodes colors e)
  rwa [List.append_nil] at hread

/-- The statements of a graph of records are read back to its nodes and edges. -/
theorem readBody_body (s : Settings) (records : List Record) :
    readBody s (body s (.ofRecords records)) =
      some ((DependencyGraph.ofRecords records).nodes, arrows (.ofRecords records)) := by
  have hnodes : ∀ n ∈ (DependencyGraph.ofRecords records).nodes, n.Mentionable := by
    intro n hn
    rw [ofRecords_eq] at hn
    exact mentionable_of_mem_mentioned n (List.mem_eraseDups.1 hn)
  have hblank (rest : List Char) : ('\n' :: rest).dropPrefix? ['\n'] = some rest :=
    Text.dropPrefix?_append_self ['\n'] rest
  simp only [readBody, body, List.append_assoc, List.cons_append, List.nil_append,
    readAll_nodeStatements s hnodes (length_nodeColors _ _ _), hblank, readAll_edgeStatements,
    Option.bind_eq_bind, Option.bind_some, if_true]

end Drawing

end DecoratorGraph
