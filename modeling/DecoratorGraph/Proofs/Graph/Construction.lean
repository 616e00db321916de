import DecoratorGraph.Proofs.Graph.Ids
import Mathlib.Data.List.Induction
import Mathlib.Data.List.Nodup

/-!
# What the graph of a list of records is made of

The nodes of the graph are all that the records mention, in the order in which it is mentioned
first: each record mentions its component and then its dependencies. The edges are those of the
records, in their order. Nothing else gets in: a dependency is looked up by an id that no
component has, whatever the names are.
-/

namespace DecoratorGraph

/-! ### Lists without repetitions -/

section EraseDups

variable {α : Type} [BEq α] [LawfulBEq α]

theorem eraseDups_append_singleton (l : List α) (a : α) :
    (l ++ [a]).eraseDups = if a ∈ l then l.eraseDups else l.eraseDups ++ [a] := by
  rw [List.eraseDups_append]
  split
  · rename_i h
    simp [List.removeAll, h]
  · rename_i h
    simp [List.removeAll, h, List.eraseDups_cons]

theorem nodup_eraseDups (l : List α) : l.eraseDups.Nodup := by
  induction l using List.reverseRecOn with
  | nil => exact List.nodup_nil
  | append_singleton l a ih =>
      rw [eraseDups_append_singleton]
      split
      · exact ih
      · rename_i h
        rw [List.nodup_append]
        refine ⟨ih, List.nodup_singleton a, ?_⟩
        intro b hb c hc hbc
        rw [hbc, List.mem_singleton.1 hc] at hb
        exact h (List.mem_eraseDups.1 hb)

theorem filter_eraseDups (p : α → Bool) (l : List α) :
    l.eraseDups.filter p = (l.filter p).eraseDups := by
  induction l using List.reverseRecOn with
  | nil => rfl
  | append_singleton l a ih =>
      rw [eraseDups_append_singleton, List.filter_append]
      cases h : p a with
      | false => split <;> simp [h, ih]
      | true =>
          have hfilter : [a].filter p = [a] := by simp [h]
          rw [hfilter, eraseDups_append_singleton]
          simp only [List.mem_filter, h, and_true]
          split
          · exact ih
          · rw [List.filter_append, ih, hfilter]

theorem eraseDups_of_nodup {l : List α} (h : l.Nodup) : l.eraseDups = l := by
  induction l using List.reverseRecOn with
  | nil => rfl
  | append_singleton l a ih =>
      rw [List.nodup_append] at h
      obtain ⟨hl, -, ha⟩ := h
      rw [eraseDups_append_singleton, if_neg fun hmem => ha a hmem a List.mem_cons_self rfl, ih hl]

/-- What is mentioned later does not move what was mentioned before. -/
theorem idxOf_eraseDups_append {l : List α} {a : α} (h : a ∈ l) (r : List α) :
    (l ++ r).eraseDups.idxOf a = l.eraseDups.idxOf a := by
  rw [List.eraseDups_append]
  exact List.idxOf_append_of_mem (List.mem_eraseDups.2 h)

theorem zipIdx_of_nodup {l : List α} (h : l.Nodup) :
    l.zipIdx = l.map fun a => (a, l.idxOf a) := by
  refine List.ext_getElem (by simp) fun i hi _ => ?_
  simp [h.idxOf_getElem]

end EraseDups

/-! ### What records mention -/

/-- The dependencies that are listed, each with its category, in the order in which they are
drawn. -/
def Dependencies.listed (d : Dependencies) : List (Category × String) :=
  Category.all.flatMap fun c => (d.entries c).map fun name => (c, name)

def Node.ofListed (l : Category × String) : Node := .dependency l.1.nodeKind l.2

/-- Records with the number of earlier records that have the same name. -/
def numbered (records : List Record) : List (Record × Nat) :=
  records.mapIdx fun i r => (r, (records.take i).countP fun s => s.name = r.name)

/-- The nodes that a numbered record mentions. -/
def mentionedBy (p : Record × Nat) : List Node :=
  .component p.1 p.2 :: p.1.dependencies.listed.map .ofListed

def mentioned (records : List Record) : List Node := (numbered records).flatMap mentionedBy

def edgesOf (nodes : List Node) (p : Record × Nat) : List Edge :=
  p.1.dependencies.listed.map fun l =>
    ⟨nodes.idxOf (.component p.1 p.2), nodes.idxOf (.ofListed l), l.1.edgeKind⟩

theorem numbered_append_singleton (records : List Record) (r : Record) :
    numbered (records ++ [r]) =
      numbered records ++ [(r, records.countP fun s => s.name = r.name)] := by
  unfold numbered
  rw [List.mapIdx_concat, List.take_left]
  congr 1
  rw [List.mapIdx_eq_mapIdx_iff]
  intro i hi
  rw [List.take_append_of_le_length (Nat.le_of_lt hi)]

theorem mentioned_append_singleton (records : List Record) (r : Record) :
    mentioned (records ++ [r]) =
      mentioned records ++ mentionedBy (r, records.countP fun s => s.name = r.name) := by
  rw [mentioned, numbered_append_singleton, List.flatMap_append, List.flatMap_singleton, mentioned]

theorem map_fst_numbered (records : List Record) : (numbered records).map Prod.fst = records := by
  induction records using List.reverseRecOn with
  | nil => rfl
  | append_singleton records r ih => simp [numbered_append_singleton, ih]

/-- The number of a record is smaller than the number of records that have its name. -/
theorem lt_of_mem_numbered {records : List Record} {r : Record} {k : Nat}
    (h : (r, k) ∈ numbered records) : k < records.countP fun s => s.name = r.name := by
  induction records using List.reverseRecOn with
  | nil => cases h
  | append_singleton records s ih =>
      rw [numbered_append_singleton, List.mem_append, List.mem_singleton] at h
      rw [List.countP_append]
      rcases h with h | h
      · exact Nat.lt_of_lt_of_le (ih h) (Nat.le_add_right _ _)
      · cases h
        simp

theorem component_ne_ofListed (r : Record) (k : Nat) (l : Category × String) :
    Node.component r k ≠ .ofListed l := by
  intro h
  exact l.1.nodeKind_ne_component (congrArg Node.kind h).symm

theorem component_inj {r s : Record} {j k : Nat} (h : Node.component r j = .component s k) :
    r.name = s.name ∧ r.file = s.file ∧ j = k := by
  simp only [Node.component, Node.mk.injEq, Option.some.injEq, true_and] at h
  obtain ⟨hid, hname, hfile⟩ := h
  rw [hname] at hid
  exact ⟨hname, hfile, componentId_inj_right.1 hid⟩

/-- Mentioned nodes are components or dependencies. -/
theorem mem_mentioned {records : List Record} {n : Node} (h : n ∈ mentioned records) :
    (∃ r k, (r, k) ∈ numbered records ∧ n = .component r k) ∨ ∃ l, n = .ofListed l := by
  obtain ⟨⟨r, k⟩, hp, hn⟩ := List.mem_flatMap.1 h
  rcases List.mem_cons.1 hn with rfl | hn
  · exact Or.inl ⟨r, k, hp, rfl⟩
  · obtain ⟨l, -, rfl⟩ := List.mem_map.1 hn
    exact Or.inr ⟨l, rfl⟩

/-- A component is new when its record is added. -/
theorem component_not_mem_mentioned (records : List Record) (r : Record) :
    Node.component r (records.countP fun s => s.name = r.name) ∉ mentioned records := by
  intro h
  rcases mem_mentioned h with ⟨s, k, hs, hn⟩ | ⟨l, hn⟩
  · obtain ⟨hname, -, hk⟩ := component_inj hn
    have hlt := lt_of_mem_numbered hs
    rw [← hname, ← hk] at hlt
    exact Nat.lt_irrefl _ hlt
  · exact component_ne_ofListed r _ l hn

theorem nodup_components (records : List Record) :
    ((numbered records).map fun p => Node.component p.1 p.2).Nodup := by
  induction records using List.reverseRecOn with
  | nil => exact List.nodup_nil
  | append_singleton records r ih =>
      rw [numbered_append_singleton, List.map_append, List.nodup_append]
      refine ⟨ih, List.nodup_singleton _, ?_⟩
      intro n hn m hm hnm
      obtain ⟨p, hp, rfl⟩ := List.mem_map.1 hn
      rw [List.map_singleton, List.mem_singleton] at hm
      refine component_not_mem_mentioned records r ?_
      rw [← hm, ← hnm]
      exact List.mem_flatMap.2 ⟨p, hp, List.mem_cons_self⟩

/-! ### Adding records -/

def Node.Mentionable (n : Node) : Prop := (∃ r k, n = .component r k) ∨ ∃ l, n = .ofListed l

/-- A dependency is told by its id. -/
theorem Node.Mentionable.eq_ofListed {n : Node} (hn : n.Mentionable) {l : Category × String}
    (hid : n.id = (Node.ofListed l).id) : n = .ofListed l := by
  rcases hn with ⟨r, k, rfl⟩ | ⟨l', rfl⟩
  · exact absurd hid (componentId_ne_dependencyId l.1.nodeKind_ne_component r.name l.2 k)
  · obtain ⟨hkind, hname⟩ := dependencyId_inj.1 hid
    rw [Node.ofListed, Node.ofListed, hkind, hname]

theorem mentionable_of_mem_mentioned {records : List Record} :
    ∀ n ∈ mentioned records, n.Mentionable := by
  intro n hn
  rcases mem_mentioned hn with ⟨r, k, -, rfl⟩ | ⟨l, rfl⟩
  · exact Or.inl ⟨r, k, rfl⟩
  · exact Or.inr ⟨l, rfl⟩

namespace GraphBuilder

variable {b : GraphBuilder} {ms : List Node} {es : List Edge}

/-- A dependency that is mentioned already is found at its node, and any other one gets a node
of its own. -/
theorem dependencyIndex_eq (hb : b.toDependencyGraph = ⟨ms.eraseDups, es⟩)
    (hms : ∀ n ∈ ms, n.Mentionable) (l : Category × String) :
    (b.dependencyIndex l.1 l.2).1.toDependencyGraph =
        ⟨(ms ++ [Node.ofListed l]).eraseDups, es⟩ ∧
      (b.dependencyIndex l.1 l.2).2 =
        (ms ++ [Node.ofListed l]).eraseDups.idxOf (Node.ofListed l) := by
  have hnodes : b.nodes = ms.eraseDups := congrArg DependencyGraph.nodes hb
  rw [eraseDups_append_singleton]
  by_cases hl : Node.ofListed l ∈ ms
  · have hfind : b.indexOf? (dependencyId l.1.nodeKind l.2) =
        some (ms.eraseDups.idxOf (Node.ofListed l)) := by
      have hmem := List.mem_eraseDups.2 hl
      rw [indexOf?_eq, hnodes]
      refine lastIndex?_eq_some (n := Node.ofListed l) (List.getElem?_idxOf hmem) ?_
      intro j n hj hid
      rw [(hms n (List.mem_eraseDups.1 (List.mem_of_getElem? hj))).eq_ofListed hid] at hj
      exact (List.getElem?_inj (List.getElem?_eq_some_iff.1 hj).1 (nodup_eraseDups ms)).1
        (hj.trans (List.getElem?_idxOf hmem).symm)
    rw [dependencyIndex, hfind, if_pos hl]
    exact ⟨hb, rfl⟩
  · have hfind : b.indexOf? (dependencyId l.1.nodeKind l.2) = none := by
      rw [indexOf?_eq, hnodes]
      refine lastIndex?_eq_none_iff.2 fun n hn hid => hl ?_
      have hn := List.mem_eraseDups.1 hn
      rwa [(hms n hn).eq_ofListed (l := l) hid] at hn
    have hnew : Node.ofListed l ∉ ms.eraseDups := mt List.mem_eraseDups.1 hl
    have hedges : b.edges = es := congrArg DependencyGraph.edges hb
    rw [dependencyIndex, hfind, if_neg hl, List.idxOf_append_of_notMem hnew]
    simp [addDependencyNode, hnodes, hedges, Node.ofListed]

theorem foldl_addDependency (source : Nat) (ls : List (Category × String))
    (hb : b.toDependencyGraph = ⟨ms.eraseDups, es⟩) (hms : ∀ n ∈ ms, n.Mentionable) :
    (ls.foldl (fun b l => addDependency source l.1 b l.2) b).toDependencyGraph =
      ⟨(ms ++ ls.map Node.ofListed).eraseDups, es ++ ls.map fun l =>
        ⟨source, (ms ++ ls.map Node.ofListed).eraseDups.idxOf (Node.ofListed l),
          l.1.edgeKind⟩⟩ := by
  induction ls generalizing b ms es with
  | nil => simpa using hb
  | cons l ls ih =>
      have hms' : ∀ n ∈ ms ++ [Node.ofListed l], n.Mentionable := by
        intro n hn
        rcases List.mem_append.1 hn with hn | hn
        · exact hms n hn
        · exact Or.inr ⟨l, List.mem_singleton.1 hn⟩
      have hindex :
          (ms ++ [Node.ofListed l] ++ ls.map Node.ofListed).eraseDups.idxOf (Node.ofListed l) =
            (ms ++ [Node.ofListed l]).eraseDups.idxOf (Node.ofListed l) :=
        idxOf_eraseDups_append (by simp) _
      obtain ⟨hgraph, htarget⟩ := dependencyIndex_eq hb hms l
      have hadded : (addDependency source l.1 b l.2).toDependencyGraph =
          ⟨(ms ++ [Node.ofListed l]).eraseDups, es ++ [⟨source,
            (ms ++ [Node.ofListed l]).eraseDups.idxOf (Node.ofListed l), l.1.edgeKind⟩]⟩ := by
        have hnodes : (b.dependencyIndex l.1 l.2).1.nodes = (ms ++ [Node.ofListed l]).eraseDups :=
          congrArg DependencyGraph.nodes hgraph
        have hedges : (b.dependencyIndex l.1 l.2).1.edges = es :=
          congrArg DependencyGraph.edges hgraph
        rw [← htarget, ← hnodes, ← hedges]
        rfl
      rw [List.foldl_cons, ih hadded hms']
      simp only [← hindex, List.map_cons, List.append_assoc, List.singleton_append]

/-- Adding a record adds the edges of all its dependencies one after the other. -/
theorem addRecord_eq (b : GraphBuilder) (r : Record) :
    (b.addRecord r).1 =
      r.dependencies.listed.foldl (fun h l => addDependency b.nodes.length l.1 h l.2)
        (b.addComponent r).1 := by
  simp only [addRecord, addComponent, Dependencies.listed, List.foldl_flatMap, List.foldl_map]
  rfl

end GraphBuilder

/-! ### The graph of a list of records -/

theorem filter_component_mentioned (records : List Record) :
    (mentioned records).filter (fun n => n.kind = .component) =
      (numbered records).map fun p => .component p.1 p.2 := by
  induction records using List.reverseRecOn with
  | nil => rfl
  | append_singleton records r ih =>
      have hlisted (ls : List (Category × String)) :
          (ls.map Node.ofListed).filter (fun n => n.kind = .component) = [] := by
        rw [List.filter_eq_nil_iff]
        intro n hn
        obtain ⟨l, -, rfl⟩ := List.mem_map.1 hn
        have hkind : (Node.ofListed l).kind ≠ .component := l.1.nodeKind_ne_component
        simpa using hkind
      rw [mentioned_append_singleton, numbered_append_singleton, List.filter_append, ih,
        List.map_append, mentionedBy, List.filter_cons_of_pos (by simp [Node.component]), hlisted,
        List.map_singleton]

/-- The components of the graph stand for the records, in their order. -/
theorem filter_component_nodes (records : List Record) :
    (mentioned records).eraseDups.filter (fun n => n.kind = .component) =
      (numbered records).map fun p => .component p.1 p.2 := by
  rw [filter_eraseDups, filter_component_mentioned, eraseDups_of_nodup (nodup_components records)]

theorem componentCount_mentioned (records : List Record) (name : String) :
    componentCount name (mentioned records).eraseDups =
      records.countP fun s => s.name = name := by
  have hcomponents := congrArg (List.countP fun n => n.name = name) (filter_component_nodes records)
  rw [List.countP_filter, List.countP_map] at hcomponents
  have hrecords : (numbered records).countP ((fun s => decide (s.name = name)) ∘ Prod.fst) =
      records.countP fun s => s.name = name := by
    rw [← List.countP_map, map_fst_numbered]
  rw [componentCount, ← hrecords]
  simpa [and_comm, Function.comp_def, Node.component] using hcomponents

theorem mem_mentioned_of_mem_numbered {records : List Record} {p : Record × Nat}
    (hp : p ∈ numbered records) {n : Node} (hn : n ∈ mentionedBy p) : n ∈ mentioned records :=
  List.mem_flatMap.2 ⟨p, hp, hn⟩

/-- Nodes that are added later do not change the edges of earlier records. -/
theorem edgesOf_append {records : List Record} {p : Record × Nat} (hp : p ∈ numbered records)
    (more : List Node) :
    edgesOf (mentioned records ++ more).eraseDups p = edgesOf (mentioned records).eraseDups p := by
  refine List.map_congr_left fun l hl => ?_
  have hsource := mem_mentioned_of_mem_numbered hp List.mem_cons_self
  have htarget := mem_mentioned_of_mem_numbered hp
    (List.mem_cons_of_mem _ (List.mem_map_of_mem (f := Node.ofListed) hl))
  rw [idxOf_eraseDups_append hsource, idxOf_eraseDups_append htarget]

/-- The nodes are what the records mention, in the order in which it is mentioned first, and the
edges are those of the records. -/
theorem ofRecords_eq (records : List Record) :
    DependencyGraph.ofRecords records =
      ⟨(mentioned records).eraseDups,
        (numbered records).flatMap (edgesOf (mentioned records).eraseDups)⟩ := by
  induction records using List.reverseRecOn with
  | nil => rfl
  | append_singleton records r ih =>
      have hnew := component_not_mem_mentioned records r
      generalize hk : records.countP (fun s => s.name = r.name) = k at hnew
      have hmention : ∀ n ∈ mentioned records ++ [.component r k], n.Mentionable := by
        intro n hn
        rcases List.mem_append.1 hn with hn | hn
        · exact mentionable_of_mem_mentioned n hn
        · exact Or.inl ⟨r, k, List.mem_singleton.1 hn⟩
      have hadded : (mentioned records ++ [Node.component r k]).eraseDups =
          (mentioned records).eraseDups ++ [.component r k] := by
        rw [eraseDups_append_singleton, if_neg hnew]
      have hall : mentioned (records ++ [r]) =
          mentioned records ++ [.component r k] ++ r.dependencies.listed.map Node.ofListed := by
        rw [mentioned_append_singleton, hk, mentionedBy, List.append_assoc, List.singleton_append]
      -- The component of `r` is new, so it gets the next free index.
      have hsource : (mentioned (records ++ [r])).eraseDups.idxOf (.component r k) =
          (mentioned records).eraseDups.length := by
        rw [hall, idxOf_eraseDups_append (by simp), hadded,
          List.idxOf_append_of_notMem (mt List.mem_eraseDups.1 hnew)]
        simp
      -- Nodes that were there keep their indices, so earlier edges stay what they are.
      have hedges : (numbered records).flatMap (edgesOf (mentioned (records ++ [r])).eraseDups) =
          (numbered records).flatMap (edgesOf (mentioned records).eraseDups) := by
        rw [hall, List.append_assoc]
        exact List.flatMap_congr fun p hp => edgesOf_append hp _
      have hnodes : (GraphBuilder.ofRecords records).nodes = (mentioned records).eraseDups :=
        congrArg DependencyGraph.nodes ih
      have hcomponent : ((GraphBuilder.ofRecords records).addComponent r).1.toDependencyGraph =
          ⟨(mentioned records ++ [Node.component r k]).eraseDups,
            (numbered records).flatMap (edgesOf (mentioned records).eraseDups)⟩ := by
        have hedges : (GraphBuilder.ofRecords records).edges =
            (numbered records).flatMap (edgesOf (mentioned records).eraseDups) :=
          congrArg DependencyGraph.edges ih
        simp only [GraphBuilder.addComponent, GraphBuilder.occurrences_eq, hnodes, hedges,
          componentCount_mentioned, hk, hadded]
      rw [DependencyGraph.ofRecords, GraphBuilder.ofRecords_append_singleton,
        GraphBuilder.addRecord_eq, GraphBuilder.foldl_addDependency _ _ hcomponent hmention, ← hall,
        numbered_append_singleton, hk, List.flatMap_append, List.flatMap_singleton, hedges,
        edgesOf, hsource, hnodes]

theorem nodes_ofRecords (records : List Record) :
    (DependencyGraph.ofRecords records).nodes = (mentioned records).eraseDups := by
  rw [ofRecords_eq]

/-- The dependencies of the graph are those that are listed, each at its first occurrence. -/
theorem filter_dependency_nodes (records : List Record) :
    (mentioned records).eraseDups.filter (fun n => n.kind ≠ .component) =
      ((records.flatMap fun r => r.dependencies.listed).map Node.ofListed).eraseDups := by
  rw [filter_eraseDups]
  congr 1
  induction records using List.reverseRecOn with
  | nil => rfl
  | append_singleton records r ih =>
      have hlisted : (r.dependencies.listed.map Node.ofListed).filter
          (fun n => n.kind ≠ .component) = r.dependencies.listed.map Node.ofListed := by
        rw [List.filter_eq_self]
        intro n hn
        obtain ⟨l, -, rfl⟩ := List.mem_map.1 hn
        have hkind : (Node.ofListed l).kind ≠ .component := l.1.nodeKind_ne_component
        simpa using hkind
      rw [mentioned_append_singleton, List.filter_append, ih, mentionedBy,
        List.filter_cons_of_neg (by simp [Node.component]), hlisted, List.flatMap_append,
        List.map_append, List.flatMap_singleton]

end DecoratorGraph
