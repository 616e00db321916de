import DecoratorGraph.Proofs.Drawing.Reading

/-!
# The colours of the statements

Each statement for a node or an edge has the number of a colour in it. `painting` lists the
statements of a graph with these numbers, and the text that they make is the one that is drawn. The
numbers of the components are those of the scheme in turn, whatever dependencies stand between the
components, and an edge has the number of the component at which it starts, since edges start
nowhere else. The other nodes have numbers that do not depend on the scheme.
-/

namespace DecoratorGraph

def Category.color : Category → Nat
  | .directives => 5
  | .providers => 3
  | .templateUrl => 7

theorem Category.color_pos (c : Category) : 1 ≤ c.color := by cases c <;> decide

theorem Category.nodeKind_inj {c d : Category} : c.nodeKind = d.nodeKind ↔ c = d := by
  cases c <;> cases d <;> decide

theorem NodeKind.eq_component_or (kind : NodeKind) :
    kind = .component ∨ ∃ c : Category, kind = c.nodeKind := by
  cases kind with
  | component => exact Or.inl rfl
  | directive => exact Or.inr ⟨.directives, rfl⟩
  | provider => exact Or.inr ⟨.providers, rfl⟩
  | template => exact Or.inr ⟨.templateUrl, rfl⟩

theorem mem_listed {d : Dependencies} {l : Category × String} :
    l ∈ d.listed ↔ l.2 ∈ d.entries l.1 := by
  simp [Dependencies.listed, Category.mem_all, Prod.ext_iff]

namespace Drawing

/-! ### The number of colours -/

/-- However a scheme is named, it has colours, and not more than twelve. -/
theorem paletteSize_bounds (scheme : String) :
    1 ≤ paletteSize scheme ∧ paletteSize scheme ≤ 12 := by
  unfold paletteSize
  dsimp only
  split
  · rename_i h
    exact h.2
  · split
    · rename_i h
      exact h.2
    · exact ⟨Nat.le_refl 1, by decide⟩

theorem mod_paletteSize_bounds (scheme : String) (k : Nat) :
    1 ≤ k % paletteSize scheme + 1 ∧ k % paletteSize scheme + 1 ≤ paletteSize scheme :=
  ⟨Nat.le_add_left 1 _, Nat.mod_lt k (paletteSize_bounds scheme).1⟩

/-! ### Statements with their colours -/

/-- The statements of a graph: its nodes and its edges, each with the number of its colour. -/
structure Painting where
  nodes : List (Node × Nat)
  arrows : List (Arrow × Nat)

def arrowStatement (a : Arrow) (color : Nat) : List Char :=
  indent ++ quoted a.source ++ " -> ".toList ++ quoted a.target ++ " [color=".toList ++
    Text.decimal color ++ ", style=".toList ++ (lineStyle a.kind).toList ++ "];\n".toList

def Painting.text (s : Settings) (p : Painting) : List Char :=
  (p.nodes.flatMap fun n => nodeStatement s n.1 n.2) ++ '\n' ::
    p.arrows.flatMap fun a => arrowStatement a.1 a.2

def Painting.colors (p : Painting) : List Nat := p.nodes.map Prod.snd ++ p.arrows.map Prod.snd

/-- An edge with its colour. -/
def paintedArrow (nodes : List Node) (colors : List Nat) (e : Edge) : Arrow × Nat :=
  (⟨idAt nodes e.source, idAt nodes e.target, e.kind⟩, edgeColor nodes colors e.source)

def painting (s : Settings) (g : DependencyGraph) : Painting :=
  let colors := nodeColors (paletteSize s.colorScheme) 0 g.nodes
  ⟨g.nodes.zip colors, g.edges.map (paintedArrow g.nodes colors)⟩

theorem text_painting (s : Settings) (g : DependencyGraph) :
    (painting s g).text s = body s g := by
  simp only [Painting.text, painting, body, List.append_assoc, List.singleton_append]
  congr 1
  · rw [List.flatMap_def, List.map_zip_eq_zipWith]
    rfl
  · rw [List.flatMap_map]
    rfl

theorem map_fst_painting (s : Settings) (g : DependencyGraph) :
    (painting s g).nodes.map Prod.fst = g.nodes :=
  List.map_fst_zip (Nat.le_of_eq (length_nodeColors _ _ _).symm)

/-! ### The colours of the nodes -/

/-- Components have the colours of the palette in turn, whatever stands between them. -/
theorem filter_component_nodeColors (palette next : Nat) (nodes : List Node) :
    (nodes.zip (nodeColors palette next nodes)).filter (fun p => p.1.kind = .component) =
      ((nodes.filter fun n => n.kind = .component).zipIdx next).map
        fun p => (p.1, p.2 % palette + 1) := by
  induction nodes generalizing next with
  | nil => rfl
  | cons n nodes ih => cases hkind : n.kind <;> simp [nodeColors, hkind, ih]

/-- The components of the graph are painted in the order of their records. -/
theorem filter_component_painting (s : Settings) (records : List Record) :
    (painting s (.ofRecords records)).nodes.filter (fun p => p.1.kind = .component) =
      records.mapIdx fun k r =>
        (.component r ((records.take k).countP fun earlier => earlier.name = r.name),
          k % paletteSize s.colorScheme + 1) := by
  rw [painting, filter_component_nodeColors, nodes_ofRecords, filter_component_nodes, numbered]
  refine List.ext_getElem? fun k => ?_
  simp only [List.getElem?_map, List.getElem?_zipIdx, List.getElem?_mapIdx, Option.map_map,
    Nat.zero_add]
  rfl

/-- The first node has a colour, that of its category unless it is a component. -/
theorem exists_nodeColors_cons (palette next : Nat) (n : Node) (nodes : List Node) :
    ∃ color next', nodeColors palette next (n :: nodes) = color :: nodeColors palette next' nodes ∧
      ∀ category : Category, n.kind = category.nodeKind → color = category.color := by
  cases hkind : n.kind <;> simp only [nodeColors, hkind] <;>
    refine ⟨_, _, rfl, fun category h => ?_⟩ <;> cases category <;> first | rfl | cases h

/-! ### The colours of the edges -/

/-- The colour of the edges that start at a component is the one that it is painted in. -/
theorem edgeColor_eq {nodes : List Node} {colors : List Nat} {i : Nat} {n : Node} {c : Nat}
    (h : (nodes.zip colors)[i]? = some (n, c)) (hkind : n.kind = .component) :
    edgeColor nodes colors i = c := by
  obtain ⟨hnode, hcolor⟩ := List.getElem?_zip_eq_some.1 h
  simp only [edgeColor, hnode, hkind, if_true, List.getD_eq_getElem?_getD, hcolor,
    Option.getD_some]

/-- Edges start at components, and end at nodes. -/
theorem ends_of_mem_edges {records : List Record} {e : Edge}
    (he : e ∈ (DependencyGraph.ofRecords records).edges) :
    (∃ n, (DependencyGraph.ofRecords records).nodes[e.source]? = some n ∧ n.kind = .component) ∧
      ∃ m, (DependencyGraph.ofRecords records).nodes[e.target]? = some m := by
  rw [ofRecords_eq] at he ⊢
  obtain ⟨p, hp, he⟩ := List.mem_flatMap.1 he
  obtain ⟨l, hl, rfl⟩ := List.mem_map.1 he
  have hsource := mem_mentioned_of_mem_numbered hp List.mem_cons_self
  have htarget := mem_mentioned_of_mem_numbered hp
    (List.mem_cons_of_mem _ (List.mem_map_of_mem (f := Node.ofListed) hl))
  exact ⟨⟨_, List.getElem?_idxOf (List.mem_eraseDups.2 hsource), rfl⟩,
    _, List.getElem?_idxOf (List.mem_eraseDups.2 htarget)⟩

section Records

variable (s : Settings) (records : List Record)

/-- An edge is painted like the component at which it starts. -/
theorem paintedArrow_of_mem_edges {e : Edge}
    (he : e ∈ (DependencyGraph.ofRecords records).edges) :
    ∃ n m c, (painting s (.ofRecords records)).nodes[e.source]? = some (n, c) ∧
      n.kind = .component ∧ (DependencyGraph.ofRecords records).nodes[e.target]? = some m ∧
      paintedArrow (DependencyGraph.ofRecords records).nodes
          (nodeColors (paletteSize s.colorScheme) 0 (DependencyGraph.ofRecords records).nodes) e =
        (⟨n.id, m.id, e.kind⟩, c) := by
  obtain ⟨⟨n, hn, hkind⟩, m, hm⟩ := ends_of_mem_edges he
  obtain ⟨c, hc⟩ : ∃ c, (nodeColors (paletteSize s.colorScheme) 0
      (DependencyGraph.ofRecords records).nodes)[e.source]? = some c := by
    have hsource := (List.getElem?_eq_some_iff.1 hn).1
    rw [← length_nodeColors (paletteSize s.colorScheme) _ 0] at hsource
    exact ⟨_, List.getElem?_eq_getElem hsource⟩
  have hpainted : (painting s (.ofRecords records)).nodes[e.source]? = some (n, c) :=
    List.getElem?_zip_eq_some.2 ⟨hn, hc⟩
  refine ⟨n, m, c, hpainted, hkind, hm, ?_⟩
  simp only [paintedArrow, idAt, hn, hm, edgeColor_eq hpainted hkind, Option.map_some,
    Option.getD_some]

/-- How the statements of a graph of records are coloured. The component of the record with `k`
records before it has the colour `k`, counted round the palette, whatever else is drawn. The
statement of an edge has the colour that stands in the statement of its source, and this is a
component, so no edge falls back on another colour. -/
theorem body_colors :
    body s (.ofRecords records) = (painting s (.ofRecords records)).text s ∧
    (painting s (.ofRecords records)).nodes.map Prod.fst =
      (DependencyGraph.ofRecords records).nodes ∧
    (painting s (.ofRecords records)).nodes.filter (fun p => p.1.kind = .component) =
      records.mapIdx (fun k r =>
        (.component r ((records.take k).countP fun earlier => earlier.name = r.name),
          k % paletteSize s.colorScheme + 1)) ∧
    List.Forall₂ (fun e a => ∃ n m,
        (painting s (.ofRecords records)).nodes[e.source]? = some (n, a.2) ∧
        n.kind = .component ∧
        (DependencyGraph.ofRecords records).nodes[e.target]? = some m ∧
        a.1 = ⟨n.id, m.id, e.kind⟩)
      (DependencyGraph.ofRecords records).edges (painting s (.ofRecords records)).arrows ∧
    1 ≤ paletteSize s.colorScheme ∧ paletteSize s.colorScheme ≤ 12 := by
  refine ⟨(text_painting s _).symm, map_fst_painting s _, filter_component_painting s records, ?_,
    paletteSize_bounds s.colorScheme⟩
  refine List.forall₂_map_right_iff.2 (List.forall₂_same.2 fun e he => ?_)
  obtain ⟨n, m, c, hn, hkind, hm, harrow⟩ := paintedArrow_of_mem_edges s records he
  rw [harrow]
  exact ⟨n, m, hn, hkind, hm, rfl⟩

/-! ### Colours that a scheme has -/

/-- A scheme has a colour with this number. -/
def InScheme (scheme : String) (color : Nat) : Prop := 1 ≤ color ∧ color ≤ paletteSize scheme

variable {s records}

theorem inScheme_of_component {n : Node} {c : Nat}
    (h : (n, c) ∈ (painting s (.ofRecords records)).nodes) (hkind : n.kind = .component) :
    InScheme s.colorScheme c := by
  have hmem : (n, c) ∈ (painting s (.ofRecords records)).nodes.filter
      fun p => p.1.kind = .component := List.mem_filter.2 ⟨h, by simpa using hkind⟩
  rw [filter_component_painting, List.mem_mapIdx] at hmem
  obtain ⟨k, _, hk⟩ := hmem
  obtain rfl := (Prod.mk.inj hk).2
  exact mod_paletteSize_bounds s.colorScheme k

theorem inScheme_of_arrow {a : Arrow} {c : Nat}
    (h : (a, c) ∈ (painting s (.ofRecords records)).arrows) : InScheme s.colorScheme c := by
  obtain ⟨e, he, hpainted⟩ := List.mem_map.1 h
  obtain ⟨n, m, c', hn, hkind, -, harrow⟩ := paintedArrow_of_mem_edges s records he
  cases hpainted.symm.trans harrow
  exact inScheme_of_component (List.mem_of_getElem? hn) hkind

/-- A node under a category has the colour of the category. -/
theorem color_of_nodeKind {palette next : Nat} {nodes : List Node} {n : Node} {c : Nat}
    (h : (n, c) ∈ nodes.zip (nodeColors palette next nodes)) {category : Category}
    (hkind : n.kind = category.nodeKind) : c = category.color := by
  induction nodes generalizing next with
  | nil => cases h
  | cons m nodes ih =>
      obtain ⟨color, next', hcolors, hcolor⟩ := exists_nodeColors_cons palette next m nodes
      rw [hcolors, List.zip_cons_cons, List.mem_cons, Prod.mk.injEq] at h
      rcases h with ⟨rfl, rfl⟩ | h
      · exact hcolor category hkind
      · exact ih h

/-- A category has nodes if some record lists something under it. -/
theorem exists_mem_nodes_iff {category : Category} :
    (∃ n ∈ (DependencyGraph.ofRecords records).nodes, n.kind = category.nodeKind) ↔
      ∃ r ∈ records, r.dependencies.entries category ≠ [] := by
  simp only [nodes_ofRecords, List.mem_eraseDups]
  constructor
  · rintro ⟨n, hn, hkind⟩
    obtain ⟨p, hp, hn⟩ := List.mem_flatMap.1 hn
    rcases List.mem_cons.1 hn with rfl | hn
    · exact absurd hkind.symm category.nodeKind_ne_component
    · obtain ⟨l, hl, rfl⟩ := List.mem_map.1 hn
      have hrecord : p.1 ∈ records := by
        rw [← map_fst_numbered records]
        exact List.mem_map_of_mem hp
      refine ⟨p.1, hrecord, List.ne_nil_of_mem (a := l.2) ?_⟩
      rw [← Category.nodeKind_inj.1 hkind]
      exact mem_listed.1 hl
  · rintro ⟨r, hr, hne⟩
    obtain ⟨name, hname⟩ := List.exists_mem_of_ne_nil _ hne
    rw [← map_fst_numbered records] at hr
    obtain ⟨p, hp, rfl⟩ := List.mem_map.1 hr
    have hlisted : (category, name) ∈ p.1.dependencies.listed := mem_listed.2 hname
    exact ⟨.ofListed (category, name), mem_mentioned_of_mem_numbered hp
      (List.mem_cons_of_mem _ (List.mem_map_of_mem hlisted)), rfl⟩

/-- Whether all colours in the statements of a graph of records are in the scheme. Those of the
components and of the edges always are. A dependency has the number of its category, and no scheme
is asked whether it has that many colours. -/
theorem colors_inScheme_iff :
    body s (.ofRecords records) = (painting s (.ofRecords records)).text s ∧
    (∀ n c, (n, c) ∈ (painting s (.ofRecords records)).nodes → n.kind = .component →
      InScheme s.colorScheme c) ∧
    (∀ a c, (a, c) ∈ (painting s (.ofRecords records)).arrows → InScheme s.colorScheme c) ∧
    (∀ n c (category : Category), (n, c) ∈ (painting s (.ofRecords records)).nodes →
      n.kind = category.nodeKind → c = category.color) ∧
    ((∀ c ∈ (painting s (.ofRecords records)).colors, InScheme s.colorScheme c) ↔
      ∀ r ∈ records, ∀ category : Category, r.dependencies.entries category ≠ [] →
        category.color ≤ paletteSize s.colorScheme) := by
  refine ⟨(text_painting s _).symm, fun _ _ => inScheme_of_component, fun _ _ => inScheme_of_arrow,
    fun _ _ _ h => color_of_nodeKind h, fun hall r hr category hne => ?_, fun hlarge c hc => ?_⟩
  · obtain ⟨n, hn, hkind⟩ := exists_mem_nodes_iff.2 ⟨r, hr, hne⟩
    rw [← map_fst_painting s] at hn
    obtain ⟨⟨n, c⟩, hpainted, rfl⟩ := List.mem_map.1 hn
    rw [← color_of_nodeKind hpainted hkind]
    exact (hall c (List.mem_append_left _ (List.mem_map_of_mem hpainted))).2
  · rcases List.mem_append.1 hc with hc | hc
    · obtain ⟨⟨n, c⟩, hpainted, rfl⟩ := List.mem_map.1 hc
      rcases n.kind.eq_component_or with hkind | ⟨category, hkind⟩
      · exact inScheme_of_component hpainted hkind
      · have hn : n ∈ (DependencyGraph.ofRecords records).nodes := by
          rw [← map_fst_painting s]
          exact List.mem_map_of_mem hpainted
        obtain ⟨r, hr, hne⟩ := exists_mem_nodes_iff.1 ⟨n, hn, hkind⟩
        have hcolor := hlarge r hr category hne
        rw [← color_of_nodeKind hpainted hkind] at hcolor
        exact ⟨color_of_nodeKind hpainted hkind ▸ category.color_pos, hcolor⟩
    · obtain ⟨⟨a, c⟩, hpainted, rfl⟩ := List.mem_map.1 hc
      exact inScheme_of_arrow hpainted

/-- A scheme of one colour, and a provider that is drawn in the third. -/
example : (painting (.resolve { colorScheme := some "svg" })
    (.ofRecords [⟨"A", ⟨"a.ts"⟩, { providers := some ["B"] }⟩])).colors = [1, 3, 1] := by
  decide +kernel

end Records

end Drawing

end DecoratorGraph
