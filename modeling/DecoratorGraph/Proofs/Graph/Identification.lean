import DecoratorGraph.Proofs.Graph.Construction

/-!
# When ids identify nodes

The id of a repeated component is its name with a number behind a `#`, which another component
may have for its name. `ids_identify_iff` says exactly when ids are distinct, and that nodes are
then found by their ids: a component with such a name has to come in a list of records in which
the name before the `#` is not repeated as often as the number says.
-/

namespace DecoratorGraph

variable {records : List Record}

/-- Two records with one name have different numbers. -/
theorem eq_of_mem_numbered {r s : Record} {k : Nat} (hr : (r, k) ∈ numbered records)
    (hs : (s, k) ∈ numbered records) (hname : r.name = s.name) : r = s := by
  induction records using List.reverseRecOn with
  | nil => cases hr
  | append_singleton records x ih =>
      rw [numbered_append_singleton, List.mem_append, List.mem_singleton] at hr hs
      rcases hr with hr | hr <;> rcases hs with hs | hs
      · exact ih hr hs
      · cases hs
        have hlt := lt_of_mem_numbered hr
        rw [hname] at hlt
        exact absurd hlt (Nat.lt_irrefl _)
      · cases hr
        have hlt := lt_of_mem_numbered hs
        rw [hname] at hlt
        exact absurd hlt (Nat.lt_irrefl _)
      · cases hr
        cases hs
        rfl

/-- Every number below the number of records with a name is the number of one of them. -/
theorem exists_mem_numbered {name : String} {k : Nat}
    (h : k < records.countP fun s => s.name = name) :
    ∃ r, (r, k) ∈ numbered records ∧ r.name = name := by
  induction records using List.reverseRecOn with
  | nil => cases h
  | append_singleton records x ih =>
      rw [numbered_append_singleton]
      rw [List.countP_append] at h
      by_cases hk : k < records.countP fun s => s.name = name
      · obtain ⟨r, hr, hname⟩ := ih hk
        exact ⟨r, List.mem_append_left _ hr, hname⟩
      · by_cases hx : x.name = name
        · have hcount : k = records.countP fun s => s.name = x.name := by
            simp only [List.countP_singleton, hx] at h ⊢
            simp at h
            omega
          exact ⟨x, by simp [hcount], hx⟩
        · simp [hx] at h
          exact absurd h hk

/-- Ids of components are distinct unless a name is that of a repeated component with its number
behind it. -/
theorem component_eq_of_id_eq
    (hmarks : ∀ r ∈ records, ∀ name k, 0 < k → r.name = name ++ "#" ++ toString k →
      records.countP (fun s => s.name = name) ≤ k)
    {r s : Record} {j k : Nat} (hr : (r, j) ∈ numbered records) (hs : (s, k) ∈ numbered records)
    (hid : componentId r.name j = componentId s.name k) : (r, j) = (s, k) := by
  have hmem {x : Record} {i : Nat} (hx : (x, i) ∈ numbered records) : x ∈ records := by
    rw [← map_fst_numbered records]
    exact List.mem_map_of_mem (f := Prod.fst) hx
  rcases componentId_eq_iff.1 hid with ⟨hname, rfl⟩ | ⟨-, hk, hname⟩ | ⟨-, hj, hname⟩
  · rw [eq_of_mem_numbered hr hs hname]
  · have hle := hmarks r (hmem hr) s.name k hk hname
    exact absurd (lt_of_mem_numbered hs) (Nat.not_lt_of_le hle)
  · have hle := hmarks s (hmem hs) r.name j hj hname
    exact absurd (lt_of_mem_numbered hr) (Nat.not_lt_of_le hle)

/-- Mentioned nodes with one id are one node, as long as that is so for components. -/
theorem node_eq_of_id_eq
    (hcomponents : ∀ r s j k, (r, j) ∈ numbered records → (s, k) ∈ numbered records →
      componentId r.name j = componentId s.name k → (r, j) = (s, k))
    {m n : Node} (hm : m ∈ mentioned records) (hn : n ∈ mentioned records) (hid : m.id = n.id) :
    m = n := by
  rcases mem_mentioned hn with ⟨s, k, hs, rfl⟩ | ⟨l, rfl⟩
  · rcases mem_mentioned hm with ⟨r, j, hr, rfl⟩ | ⟨l, rfl⟩
    · cases hcomponents r s j k hr hs hid
      rfl
    · exact (Node.Mentionable.eq_ofListed (Or.inl ⟨s, k, rfl⟩) hid.symm).symm
  · exact (mentionable_of_mem_mentioned m hm).eq_ofListed hid

/-- The ids of a graph are distinct, and every node is found by its id. -/
def GraphBuilder.IdsIdentify (b : GraphBuilder) : Prop :=
  (b.nodes.map Node.id).Nodup ∧ ∀ i n, b.nodes[i]? = some n → b.indexOf? n.id = some i

theorem GraphBuilder.idsIdentify_of_injective {b : GraphBuilder} (hnodes : b.nodes.Nodup)
    (hinjective : ∀ m ∈ b.nodes, ∀ n ∈ b.nodes, m.id = n.id → m = n) : b.IdsIdentify := by
  refine ⟨(List.nodup_map_iff_inj_on hnodes).2 hinjective, fun i n hi => ?_⟩
  rw [indexOf?_eq]
  refine lastIndex?_eq_some hi fun j m hj hid => ?_
  rw [hinjective m (List.mem_of_getElem? hj) n (List.mem_of_getElem? hi) hid] at hj
  exact (List.getElem?_inj (List.getElem?_eq_some_iff.1 hj).1 hnodes).1 (hj.trans hi.symm)

/-- The ids of the graph of records identify its nodes exactly if no record has a name that is
the name of some records with a number behind a `#` that is the number of one of them. -/
theorem ids_identify_iff (records : List Record) :
    (GraphBuilder.ofRecords records).IdsIdentify ↔
      ∀ r ∈ records, ∀ name k, 0 < k → r.name = name ++ "#" ++ toString k →
        records.countP (fun s => s.name = name) ≤ k := by
  have hnodes : (GraphBuilder.ofRecords records).nodes = (mentioned records).eraseDups :=
    nodes_ofRecords records
  have hnodup := nodup_eraseDups (mentioned records)
  constructor
  · intro ⟨hids, _⟩ r hr name k hk hname
    rw [hnodes, List.nodup_map_iff_inj_on hnodup] at hids
    by_contra hlt
    -- The first record with the name of `r` and the record with the number `k` clash.
    have hpos : 0 < records.countP fun s => s.name = r.name :=
      List.countP_pos_iff.2 ⟨r, hr, by simp⟩
    obtain ⟨x, hx, hxname⟩ := exists_mem_numbered hpos
    obtain ⟨y, hy, hyname⟩ := exists_mem_numbered (Nat.lt_of_not_le hlt)
    have hid : (Node.component x 0).id = (Node.component y k).id := by
      refine componentId_eq_iff.2 (Or.inr (Or.inl ⟨rfl, hk, ?_⟩))
      rw [hxname, hyname, hname]
    have hmem {p : Record × Nat} (hp : p ∈ numbered records) :
        Node.component p.1 p.2 ∈ (mentioned records).eraseDups :=
      List.mem_eraseDups.2 (mem_mentioned_of_mem_numbered hp List.mem_cons_self)
    have hsame := (component_inj (hids _ (hmem hx) _ (hmem hy) hid)).1
    rw [hxname, hyname, hname] at hsame
    exact ne_append_mark name k hsame.symm
  · intro hmarks
    refine GraphBuilder.idsIdentify_of_injective (hnodes ▸ hnodup) ?_
    rw [hnodes]
    intro m hm n hn hid
    exact node_eq_of_id_eq (fun r s j k hr hs h => component_eq_of_id_eq hmarks hr hs h)
      (List.mem_eraseDups.1 hm) (List.mem_eraseDups.1 hn) hid

example : (DependencyGraph.ofRecords [⟨"A", ⟨"a.ts"⟩, {}⟩, ⟨"A", ⟨"a.ts"⟩, {}⟩,
    ⟨"A#1", ⟨"b.ts"⟩, {}⟩]).nodes.map Node.id =
      ["component:A", "component:A#1", "component:A#1"] := by decide

end DecoratorGraph
