import DecoratorGraph.Graph

/-!
# Ids of nodes

The first character of an id tells the kind of its node, so a dependency never has the id of a
component, and a dependency is told by its id. A component is told by its id together with its
name only: the second component with the name `A` has the id of a first component with the name
`A#1`. `componentId_eq_iff` says that there are no other cases.
-/

namespace DecoratorGraph

/-! ### Numbers at the end of a text -/

namespace Text

theorem not_mem_decimal (n : Nat) : '#' ∉ decimal n := by
  intro h
  have hdigit := Nat.isDigit_of_mem_toDigits (by decide) (by decide) h
  revert hdigit
  decide

theorem decimal_injective {m n : Nat} (h : decimal m = decimal n) : m = n := by
  rw [decimal, decimal] at h
  rw [← Nat.ofDigitChars_ten_toDigits (n := m), h, Nat.ofDigitChars_ten_toDigits]

/-- A number behind a mark is told apart from what stands before the mark. -/
theorem append_decimal_inj {s r : List Char} {m n : Nat} :
    s ++ '#' :: decimal m = r ++ '#' :: decimal n ↔ s = r ∧ m = n := by
  constructor
  · intro h
    have hdigits := congrArg (afterLast '#') h
    rw [afterLast_append_cons (not_mem_decimal m), afterLast_append_cons (not_mem_decimal n)]
      at hdigits
    rw [hdigits] at h
    exact ⟨List.append_cancel_right h, decimal_injective hdigits⟩
  · rintro ⟨rfl, rfl⟩
    rfl

end Text

/-! ### Dependencies -/

theorem NodeKind.eq_of_head?_label {kind kind' : NodeKind}
    (h : kind.label.toList.head? = kind'.label.toList.head?) : kind = kind' := by
  revert h
  cases kind <;> cases kind' <;> decide

theorem head?_dependencyId (kind : NodeKind) (name : String) :
    (dependencyId kind name).toList.head? = kind.label.toList.head? := by
  cases kind <;> simp [dependencyId, NodeKind.label]

theorem dependencyId_inj {kind kind' : NodeKind} {name name' : String} :
    dependencyId kind name = dependencyId kind' name' ↔ kind = kind' ∧ name = name' := by
  constructor
  · intro h
    have hhead := congrArg (fun id => id.toList.head?) h
    simp only [head?_dependencyId] at hhead
    obtain rfl := NodeKind.eq_of_head?_label hhead
    simpa [dependencyId] using h
  · rintro ⟨rfl, rfl⟩
    rfl

/-! ### Components -/

def occurrenceMark : Nat → List Char
  | 0 => []
  | k + 1 => '#' :: Text.decimal (k + 1)

theorem toList_componentId (name : String) (k : Nat) :
    (componentId name k).toList = "component:".toList ++ (name.toList ++ occurrenceMark k) := by
  cases k with
  | zero => simp [componentId, occurrenceMark]
  | succ k => simp [componentId, occurrenceMark, Text.decimal]

theorem head?_componentId (name : String) (k : Nat) :
    (componentId name k).toList.head? = NodeKind.component.label.toList.head? := by
  rw [toList_componentId]
  rfl

theorem componentId_ne_dependencyId {kind : NodeKind} (hkind : kind ≠ .component)
    (name name' : String) (k : Nat) : componentId name k ≠ dependencyId kind name' := by
  intro h
  have hhead := congrArg (fun id => id.toList.head?) h
  simp only [head?_componentId, head?_dependencyId] at hhead
  exact hkind (NodeKind.eq_of_head?_label hhead).symm

/-- Two components have one id if they are the same occurrence of one name, or if one of them is
the first one with a name that is the name of the other one with its number behind it. -/
theorem componentId_eq_iff {name name' : String} {k k' : Nat} :
    componentId name k = componentId name' k' ↔
      name = name' ∧ k = k' ∨
      k = 0 ∧ 0 < k' ∧ name = name' ++ "#" ++ toString k' ∨
      k' = 0 ∧ 0 < k ∧ name' = name ++ "#" ++ toString k := by
  have hid : componentId name k = componentId name' k' ↔
      name.toList ++ occurrenceMark k = name'.toList ++ occurrenceMark k' := by
    rw [← String.toList_inj, toList_componentId, toList_componentId, List.append_cancel_left_eq]
  rw [hid]
  cases k with
  | zero =>
      cases k' with
      | zero => simp [occurrenceMark, String.toList_inj]
      | succ k' => simp [occurrenceMark, Text.decimal, ← String.toList_inj]
  | succ k =>
      cases k' with
      | zero => simp [occurrenceMark, Text.decimal, ← String.toList_inj, eq_comm]
      | succ k' => simp [occurrenceMark, Text.append_decimal_inj, String.toList_inj]

theorem ne_append_mark (name : String) (k : Nat) : name ≠ name ++ "#" ++ toString k := by
  intro h
  have hlength := congrArg (fun s => s.toList.length) h
  simp at hlength

theorem componentId_inj_right {name : String} {k k' : Nat} :
    componentId name k = componentId name k' ↔ k = k' := by
  rw [componentId_eq_iff]
  constructor
  · rintro (⟨-, h⟩ | ⟨-, -, h⟩ | ⟨-, -, h⟩)
    · exact h
    · exact absurd h (ne_append_mark name k')
    · exact absurd h (ne_append_mark name k)
  · intro h
    exact Or.inl ⟨rfl, h⟩

/-! ### Finding a node by its id -/

theorem lastIndex?_eq_none_iff {id : String} {nodes : List Node} :
    lastIndex? id nodes = none ↔ ∀ n ∈ nodes, n.id ≠ id := by
  induction nodes with
  | nil => simp [lastIndex?]
  | cons m nodes ih =>
      rw [lastIndex?, List.forall_mem_cons, ← ih]
      cases lastIndex? id nodes with
      | none => simp
      | some i => simp

/-- A node is found if no other one has its id. -/
theorem lastIndex?_eq_some {nodes : List Node} {i : Nat} {n : Node} (hi : nodes[i]? = some n)
    (hunique : ∀ j m, nodes[j]? = some m → m.id = n.id → j = i) :
    lastIndex? n.id nodes = some i := by
  induction nodes generalizing i with
  | nil => cases hi
  | cons m nodes ih =>
      cases i with
      | zero =>
          cases hi
          have hnone : lastIndex? n.id nodes = none := by
            rw [lastIndex?_eq_none_iff]
            intro x hx hid
            obtain ⟨j, hj⟩ := List.mem_iff_getElem?.1 hx
            cases hunique (j + 1) x hj hid
          simp [lastIndex?, hnone]
      | succ i =>
          have hrest : lastIndex? n.id nodes = some i :=
            ih hi fun j x hj hid => Nat.succ.inj (hunique (j + 1) x hj hid)
          simp [lastIndex?, hrest]

end DecoratorGraph
