import DecoratorGraph.Proofs.Graph.Construction

/-!
# Reading records off their graph

The edges that start at a component are those of its record, since no two records share a
component. So the names that they lead to, kind by kind, are the lists of the record.

`Depicts` collects what is known of the graph of a list of records: the nodes and the edges are
exactly those that the records call for, and the records can be read back.
-/

namespace DecoratorGraph

namespace DependencyGraph

def targets (g : DependencyGraph) (source : Nat) (kind : EdgeKind) : List String :=
  (g.edges.filter fun e => e.source = source ∧ e.kind = kind).filterMap fun e =>
    g.nodes[e.target]?.map Node.name

/-- The record of a component at an index, which lists what its edges lead to. -/
def recordAt? (g : DependencyGraph) (n : Node) (index : Nat) : Option Record :=
  n.file.map fun file =>
    ⟨n.name, file, some (g.targets index .uses), some (g.targets index .provides),
      some (g.targets index .renders)⟩

def toRecords (g : DependencyGraph) : List Record :=
  g.nodes.zipIdx.filterMap fun e => g.recordAt? e.1 e.2

end DependencyGraph

/-- The record with an empty list under each category that is absent. -/
def Record.filled (r : Record) : Record :=
  ⟨r.name, r.file, some (r.dependencies.entries .directives),
    some (r.dependencies.entries .providers), some (r.dependencies.entries .templateUrl)⟩

theorem Category.edgeKind_inj {c d : Category} : c.edgeKind = d.edgeKind ↔ c = d := by
  cases c <;> cases d <;> decide

theorem map_snd_filter_listed (d : Dependencies) (c : Category) :
    (d.listed.filter fun l => l.1 = c).map Prod.snd = d.entries c := by
  cases c <;> simp [Dependencies.listed, Category.all, List.filter_map, Function.comp_def]

section

variable {records : List Record} {p : Record × Nat}

/-- Edges of two records start at one node only if the records have one component. -/
theorem component_eq_of_mem_edgesOf {q : Record × Nat} (hq : q ∈ numbered records) {e : Edge}
    (he : e ∈ edgesOf (mentioned records).eraseDups q)
    (hsource : e.source = (mentioned records).eraseDups.idxOf (.component p.1 p.2)) :
    Node.component q.1 q.2 = .component p.1 p.2 := by
  obtain ⟨l, -, rfl⟩ := List.mem_map.1 he
  have hmem := List.mem_eraseDups.2 (mem_mentioned_of_mem_numbered hq List.mem_cons_self)
  exact (List.idxOf_inj hmem).1 hsource

/-- The other records have other components. -/
theorem component_ne_of_split {before after : List (Record × Nat)}
    (hsplit : numbered records = before ++ p :: after) {q : Record × Nat}
    (hq : q ∈ before ++ after) : Node.component q.1 q.2 ≠ .component p.1 p.2 := by
  have hnodup := nodup_components records
  rw [hsplit, List.map_append, List.map_cons, List.nodup_middle, List.nodup_cons] at hnodup
  intro heq
  refine hnodup.1 ?_
  rw [← List.map_append, ← heq]
  exact List.mem_map_of_mem (f := fun p => Node.component p.1 p.2) hq

theorem filter_edgesOf_other {q : Record × Nat} (hq : q ∈ numbered records)
    (hne : Node.component q.1 q.2 ≠ .component p.1 p.2) (kind : EdgeKind) :
    (edgesOf (mentioned records).eraseDups q).filter (fun e =>
      e.source = (mentioned records).eraseDups.idxOf (.component p.1 p.2) ∧ e.kind = kind) =
      [] := by
  rw [List.filter_eq_nil_iff]
  intro e he hsource
  rw [decide_eq_true_eq] at hsource
  exact hne (component_eq_of_mem_edgesOf hq he hsource.1)

theorem filter_edgesOf_own (p : Record × Nat) (kind : EdgeKind) :
    (edgesOf (mentioned records).eraseDups p).filter (fun e =>
      e.source = (mentioned records).eraseDups.idxOf (.component p.1 p.2) ∧ e.kind = kind) =
      (edgesOf (mentioned records).eraseDups p).filter fun e => e.kind = kind := by
  refine List.filter_congr fun e he => ?_
  obtain ⟨l, -, rfl⟩ := List.mem_map.1 he
  simp

/-- The edges from a component are those of its record. -/
theorem filter_source_edges (hp : p ∈ numbered records) (kind : EdgeKind) :
    ((numbered records).flatMap (edgesOf (mentioned records).eraseDups)).filter (fun e =>
        e.source = (mentioned records).eraseDups.idxOf (.component p.1 p.2) ∧ e.kind = kind) =
      (edgesOf (mentioned records).eraseDups p).filter fun e => e.kind = kind := by
  obtain ⟨before, after, hsplit⟩ := List.append_of_mem hp
  have hother (q : Record × Nat) (hq : q ∈ before ++ after) :
      (edgesOf (mentioned records).eraseDups q).filter (fun e =>
        e.source = (mentioned records).eraseDups.idxOf (.component p.1 p.2) ∧ e.kind = kind) =
        [] := by
    refine filter_edgesOf_other ?_ (component_ne_of_split hsplit hq) kind
    rw [hsplit]
    rcases List.mem_append.1 hq with hq | hq
    · exact List.mem_append_left _ hq
    · exact List.mem_append_right _ (List.mem_cons_of_mem p hq)
  rw [hsplit, List.flatMap_append, List.flatMap_cons, List.filter_append, List.filter_append,
    List.filter_flatMap, List.filter_flatMap, filter_edgesOf_own,
    List.flatMap_eq_nil_iff.2 fun q hq => hother q (List.mem_append_left after hq),
    List.flatMap_eq_nil_iff.2 fun q hq => hother q (List.mem_append_right before hq),
    List.nil_append, List.append_nil]

/-- The edges of a component lead to what its record lists. -/
theorem targets_ofRecords (hp : p ∈ numbered records) (c : Category) :
    (DependencyGraph.ofRecords records).targets
        ((mentioned records).eraseDups.idxOf (.component p.1 p.2)) c.edgeKind =
      p.1.dependencies.entries c := by
  have hname (l : Category × String) (hl : l ∈ p.1.dependencies.listed) :
      (mentioned records).eraseDups[(mentioned records).eraseDups.idxOf (Node.ofListed l)]?.map
        Node.name = some l.2 := by
    have hmem := mem_mentioned_of_mem_numbered hp
      (List.mem_cons_of_mem _ (List.mem_map_of_mem (f := Node.ofListed) hl))
    rw [List.getElem?_idxOf (List.mem_eraseDups.2 hmem)]
    rfl
  rw [ofRecords_eq, DependencyGraph.targets, filter_source_edges hp, edgesOf, List.filter_map,
    List.filterMap_map, ← map_snd_filter_listed, ← List.filterMap_eq_map]
  simp only [Function.comp_def, Category.edgeKind_inj]
  exact List.filterMap_congr fun l hl => hname l (List.mem_filter.1 hl).1

theorem recordAt?_component (hp : p ∈ numbered records) :
    (DependencyGraph.ofRecords records).recordAt? (.component p.1 p.2)
        ((mentioned records).eraseDups.idxOf (.component p.1 p.2)) = some p.1.filled := by
  have hdirectives := targets_ofRecords hp .directives
  have hproviders := targets_ofRecords hp .providers
  have htemplates := targets_ofRecords hp .templateUrl
  simp only [Category.edgeKind] at hdirectives hproviders htemplates
  simp only [DependencyGraph.recordAt?, hdirectives, hproviders, htemplates]
  rfl

end

theorem recordAt?_dependency (g : DependencyGraph) (l : Category × String) (index : Nat) :
    g.recordAt? (.ofListed l) index = none := rfl

/-- The records can be read off the graph. -/
theorem toRecords_ofRecords (records : List Record) :
    (DependencyGraph.ofRecords records).toRecords = records.map Record.filled := by
  have hnodes : (DependencyGraph.ofRecords records).nodes = (mentioned records).eraseDups := by
    rw [ofRecords_eq]
  generalize hg : DependencyGraph.ofRecords records = g at hnodes
  -- Only components have a file, so no other node gives a record.
  have hcomponents (index : Node → Nat) :
      g.nodes.filterMap (fun n => g.recordAt? n (index n)) =
        (g.nodes.filter fun n => n.kind = .component).filterMap fun n =>
          g.recordAt? n (index n) := by
    rw [List.filterMap_filter]
    refine List.filterMap_congr fun n hn => ?_
    rw [hnodes, List.mem_eraseDups] at hn
    rcases mem_mentioned hn with ⟨r, k, -, rfl⟩ | ⟨l, rfl⟩
    · simp [Node.component]
    · simp [recordAt?_dependency]
  calc g.toRecords
      = g.nodes.filterMap fun n => g.recordAt? n (g.nodes.idxOf n) := by
        have hnodup : g.nodes.Nodup := hnodes ▸ nodup_eraseDups _
        rw [DependencyGraph.toRecords, zipIdx_of_nodup hnodup, List.filterMap_map]
        rfl
    _ = (numbered records).filterMap fun p =>
          g.recordAt? (.component p.1 p.2) (g.nodes.idxOf (.component p.1 p.2)) := by
        rw [hcomponents, hnodes, filter_component_nodes, List.filterMap_map]
        rfl
    _ = (numbered records).map fun p => p.1.filled := by
        rw [← List.filterMap_eq_map]
        refine List.filterMap_congr fun p hp => ?_
        rw [hnodes, ← hg, recordAt?_component hp]
        rfl
    _ = records.map Record.filled := by
        conv_rhs => rw [← map_fst_numbered records, List.map_map]
        rfl

/-- A graph of records that loses nothing and invents nothing. -/
structure DependencyGraph.Depicts (g : DependencyGraph) (records : List Record) : Prop where
  /-- Each node stands where the records mention it first. -/
  nodes : g.nodes = (mentioned records).eraseDups
  distinct : g.nodes.Nodup
  components : g.nodes.filter (fun n => n.kind = .component) =
    (numbered records).map fun p => .component p.1 p.2
  namesAndFiles : (g.nodes.filter fun n => n.kind = .component).map (fun n => (n.name, n.file)) =
    records.map fun r => (r.name, some r.file)
  dependencies : g.nodes.filter (fun n => n.kind ≠ .component) =
    ((records.flatMap fun r => r.dependencies.listed).map Node.ofListed).eraseDups
  edges : g.edges = (numbered records).flatMap (edgesOf g.nodes)
  /-- The lists of every record can be read off the edges of its component. -/
  readBack : g.toRecords = records.map Record.filled

theorem ofRecords_depicts (records : List Record) :
    (DependencyGraph.ofRecords records).Depicts records := by
  have hcomponents := filter_component_nodes records
  refine ⟨?_, ?_, ?_, ?_, ?_, ?_, toRecords_ofRecords records⟩
  · rw [ofRecords_eq]
  · rw [ofRecords_eq]
    exact nodup_eraseDups (mentioned records)
  · rw [ofRecords_eq]
    exact hcomponents
  · rw [ofRecords_eq, hcomponents, List.map_map]
    conv_rhs => rw [← map_fst_numbered records, List.map_map]
    rfl
  · rw [ofRecords_eq]
    exact filter_dependency_nodes records
  · rw [ofRecords_eq]

end DecoratorGraph
