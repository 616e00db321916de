import DecoratorGraph.Proofs.Script.FormLexemes

/-!
# Reading types and signatures

Types, patterns and the heads of functions are skipped up to where they end, if the grammar one
level below reads the constructs nested in them (`Grammar.ReadsForms`). Every construct is given by
the text behind the gap in front of it, which is what its reader looks at first.
-/

namespace DecoratorGraph.Script

/-! ### Where constructs begin -/

section Begin

variable {F : Forms} {s t r : List Char} {c : Char}

theorem IsPrimaryType.opens (h : IsPrimaryType F s t) : Opens s := by
  cases h with
  | reference hw _ _ _ _ => exact hw.opens _
  | query _ _ _ _ _ _ _ _ => exact IsName.opens (w := "typeof".toList) (by decide) _
  | imported _ _ _ _ => exact IsName.opens (w := "import".toList) (by decide) _
  | string hs => exact hs.opens
  | template _ => exact ⟨'\x60', _, rfl, Or.inl (by decide)⟩
  | number hn => exact hn.opens
  | negative _ _ => exact ⟨'-', _, rfl, Or.inl (by decide)⟩
  | tuple _ => exact ⟨'[', _, rfl, Or.inl (by decide)⟩
  | object _ => exact ⟨'\x7b', _, rfl, Or.inl (by decide)⟩
  | parens _ _ _ => exact ⟨'(', _, rfl, Or.inl (by decide)⟩

theorem isName_of_mem {words : List String} (hwords : words.all (fun w => decide (IsName w.toList)))
    {w : String} (hw : w ∈ words) : IsName w.toList :=
  of_decide_eq_true (List.all_eq_true.1 hwords w hw)

theorem IsBareType.opens (h : IsBareType F s t) : Opens s := by
  cases h with
  | plain h _ => exact h.opens
  | inferred _ _ _ _ _ _ => exact IsName.opens (w := "infer".toList) (by decide) _

theorem IsOperandType.opens (h : IsOperandType F s t) : Opens s := by
  cases h with
  | plain h => exact h.opens
  | operator hw _ _ _ _ _ => exact (isName_of_mem (by decide) hw).opens _

theorem IsUnion.opens (h : IsUnion F s t) : Opens s := by
  cases h with
  | one h => exact h.opens
  | cons h _ _ _ _ => exact h.opens

/-- A type begins as an expression does, or with the parameters of the type of a function. -/
def OpensType (s : List Char) : Prop := Opens s ∨ ∃ r, s = '<' :: r

theorem OpensType.exists_cons (h : OpensType s) :
    ∃ c r, s = c :: r ∧ skip (c :: r) = c :: r ∧ (c ∈ nonOpeners → c = '<') := by
  obtain h | ⟨r, rfl⟩ := h
  · obtain ⟨c, r, rfl, hself, hnot⟩ := h.exists_cons
    exact ⟨c, r, rfl, hself, fun hc => absurd hc hnot⟩
  · exact ⟨'<', r, rfl, skip_of_startsLexeme (by decide) r, fun _ => rfl⟩

theorem IsType.opens (h : IsType F s t) : OpensType s := by
  have hword {w : String} (hw : IsName w.toList) (r : List Char) : OpensType (w.toList ++ r) :=
    Or.inl (hw.opens r)
  cases h with
  | union h => exact Or.inl h.opens
  | conditional h _ _ _ _ _ _ => exact Or.inl h.opens
  | function hc _ =>
      simp only [List.mem_cons, List.not_mem_nil, or_false] at hc
      obtain rfl | rfl := hc
      · exact Or.inl ⟨'(', _, rfl, Or.inl (by decide)⟩
      · exact Or.inr ⟨_, rfl⟩
  | constructor _ => exact hword (w := "new") (by decide) _
  | abstractConstructor _ _ _ => exact hword (w := "abstract") (by decide) _
  | predicate h =>
      obtain ⟨hw, -, -, -, -, -, -⟩ := h
      exact Or.inl (hw.opens _)
  | assertion _ _ _ _ _ _ _ => exact hword (w := "asserts") (by decide) _

theorem IsPattern.opens (h : IsPattern F s t) : Opens s := by
  cases h with
  | name hw _ => exact hw.opens t
  | object _ => exact ⟨'\x7b', _, rfl, Or.inl (by decide)⟩
  | array _ => exact ⟨'[', _, rfl, Or.inl (by decide)⟩

theorem IsAtom.opens (h : IsAtom F s t) : Opens s := by
  cases h with
  | string hs => exact hs.opens
  | template _ => exact ⟨'\x60', _, rfl, Or.inl (by decide)⟩
  | name hw _ _ => exact hw.opens t
  | constant hw _ => exact (isName_of_mem (by decide) hw).opens t
  | number hn => exact hn.opens
  | regex h => exact h.opens
  | array _ => exact ⟨'[', _, rfl, Or.inl (by decide)⟩
  | object _ => exact ⟨'\x7b', _, rfl, Or.inl (by decide)⟩
  | parens _ _ _ => exact ⟨'(', _, rfl, Or.inl (by decide)⟩
  | group _ _ _ => exact ⟨'(', _, rfl, Or.inl (by decide)⟩
  | construction _ _ _ _ _ _ _ _ => exact IsName.opens (w := "new".toList) (by decide) _
  | function _ _ => exact IsName.opens (w := "function".toList) (by decide) _
  | asyncFunction _ _ _ _ _ => exact IsName.opens (w := "async".toList) (by decide) _
  | classLike _ _ => exact IsName.opens (w := "class".toList) (by decide) _

theorem IsTarget.opens (h : IsTarget F s t) : Opens s := by
  obtain ⟨h, -⟩ := h
  exact h.opens

theorem IsOperand.opens (h : IsOperand F s t) : Opens s := by
  have hsigns : ∀ c ∈ ['!', '~', '+', '-'], c ∈ openers := forall_sign (by decide)
  cases h with
  | target h => exact h.opens
  | sign hc _ _ => exact ⟨_, _, rfl, Or.inl (hsigns _ hc)⟩
  | step hc _ =>
      have hsteps : ∀ c ∈ ['+', '-'], c ∈ openers := forall_sign (by decide)
      exact ⟨_, _, rfl, Or.inl (hsteps _ hc)⟩
  | word hw _ _ => exact (isName_of_mem (by decide) hw).opens _

theorem IsChain.opens {within : Bool} (h : IsChain F within s t) : Opens s := by
  obtain ⟨h, -, -, -⟩ := h
  exact h.opens

theorem ArrowHead.opens (h : ArrowHead F s t) : Opens s := by
  cases h with
  | name hw _ _ => exact hw.opens t
  | parameters _ _ => exact ⟨'(', _, rfl, Or.inl (by decide)⟩

theorem IsExpression.opens {within : Bool} (h : IsExpression F within s t) : Opens s := by
  cases h with
  | chain h => exact h.opens
  | assignment h _ _ _ => exact h.opens
  | conditional h _ _ _ _ => exact h.opens
  | arrow h _ => exact h.opens
  | asyncArrow _ _ _ _ _ => exact IsName.opens (w := "async".toList) (by decide) _
  | yieldNothing _ _ | yield _ _ _ _ | yieldAll _ _ _ =>
      exact IsName.opens (w := "yield".toList) (by decide) _

/-- Every construct of some depth is a construct over those one level below. -/
theorem Forms.IsLevel.eq_or (hF : F.IsLevel) :
    F = .empty ∨ ∃ F' : Forms, F'.IsLevel ∧ F = F'.deeper := by
  obtain ⟨n, rfl⟩ := hF
  cases n with
  | zero => exact Or.inl rfl
  | succ n => exact Or.inr ⟨_, ⟨n, rfl⟩, rfl⟩

theorem Forms.IsLevel.opens_type (hF : F.IsLevel) (h : F.type s t) : OpensType s := by
  obtain rfl | ⟨F, -, rfl⟩ := hF.eq_or
  · exact h.elim
  · exact IsType.opens h

theorem Forms.IsLevel.symbol?_type (hF : F.IsLevel) (h : Spaced F.type s t) (hc : c ∈ nonOpeners)
    (hne : c ≠ '<') : symbol? c s = none := by
  obtain @⟨gap, s, _, hgap, h⟩ := h
  obtain ⟨d, v, rfl, hself, hopener⟩ := (hF.opens_type h).exists_cons
  rw [symbol?_of_skip (hgap.skip_of_skip hself), if_neg]
  rintro rfl
  exact hne (hopener hc)

theorem Forms.IsLevel.opens_pattern (hF : F.IsLevel) (h : F.pattern s t) : Opens s := by
  obtain rfl | ⟨F, -, rfl⟩ := hF.eq_or
  · exact h.elim
  · exact IsPattern.opens h

theorem Forms.IsLevel.opens_expression (hF : F.IsLevel) {within : Bool}
    (h : F.expressionAt within s t) : Opens s := by
  obtain rfl | ⟨F, -, rfl⟩ := hF.eq_or
  · exact h.elim
  · exact IsExpression.opens h

theorem Forms.IsLevel.opens_operand (hF : F.IsLevel) (h : F.operand s t) : Opens s := by
  obtain rfl | ⟨F, -, rfl⟩ := hF.eq_or
  · exact h.elim
  · exact IsOperand.opens h

end Begin

/-- What stands behind an operand without being a part of it: marks, and then types of the value. -/
def Behind (place : Place) (s t : List Char) : Prop :=
  EndsOperand place t ∧
    ∃ F r, Forms.IsLevel F ∧ Marks F s r ∧ (r = t ∨ Assertions F r t ∧ EndsType t)

/-- Where an expression may stand, given whether `in` may be an operator of it. -/
structure Place.Admits (place : Place) (within : Bool) : Prop where
  colon : place.beforeColon = false
  head : within = true → place.loopHead = false

theorem Place.admits_inBrackets (within : Bool) : Place.inBrackets.Admits within :=
  ⟨rfl, fun _ => rfl⟩

theorem Place.admits_free (within : Bool) : Place.free.Admits within := ⟨rfl, fun _ => rfl⟩

def itemSigns : List Char := [',', ')', ']', '\x7d', '=', ':']

/-- What stands behind a pattern with which an expression begins that ends in front of `t`: nothing,
a value that is assigned to it, or something that no item of a list goes on with. -/
inductive Grammar.GoesOn (g : Grammar) (t : List Char) : List Char → Prop
  | ended : GoesOn g t t
  | assigned {s r : List Char} (hskip : skip s = '=' :: r)
      (hread : ∀ e u, g.expression .inBrackets r = some (e, u) → u = t) : GoesOn g t s
  | further {s r : List Char} {d : Char} (hskip : skip s = d :: r) (hd : d ∉ '?' :: itemSigns) :
      GoesOn g t s
  | question {s r u : List Char} {d : Char} (hskip : skip s = '?' :: r) (hnext : skip r = d :: u)
      (hd : d ∉ itemSigns) : GoesOn g t s

/-- What is skipped as a pattern goes on as the expression that ends in front of `t` does. -/
def Grammar.Covers (g : Grammar) (s t : List Char) : Prop :=
  ∀ r, g.pattern s = some r → g.GoesOn t r

/-- A grammar that reads the constructs of any depth in texts of less than `k` characters, up to
where they end. -/
structure Grammar.ReadsForms (g : Grammar) (k : Nat) : Prop where
  types : g.ReadsTypes k
  pattern {F : Forms} {s t : List Char} (hF : F.IsLevel) (h : Spaced F.pattern s t)
    (hs : s.length < k) : g.pattern s = some t
  cover {F : Forms} {s t : List Char} (hF : F.IsLevel) (h : Spaced F.expression s t)
    (hs : s.length < k) (ht : Closes t) : g.Covers s t
  expression {F : Forms} {s t : List Char} {place : Place} {within : Bool} (hF : F.IsLevel)
    (h : Spaced (F.expressionAt within) s t) (hs : s.length < k) (hplace : place.Admits within)
    (ht : EndsExpression place t) : ∃ e, g.expression place s = some (e, t)
  target {F : Forms} {s t : List Char} (hF : F.IsLevel) (h : Spaced F.target s t)
    (hs : s.length < k) (ht : EndsTarget t) (place : Place) :
    ∃ e, g.operand place s = some (e, t)
  operand {F : Forms} {s r t : List Char} {place : Place} (hF : F.IsLevel)
    (h : Spaced F.operand s r) (hs : s.length < k) (ht : Behind place r t) :
    ∃ e u, g.operand place s = some (e, u) ∧ Behind place u t
  statement {F : Forms} {s t : List Char} (hF : F.IsLevel) (h : Spaced F.statement s t)
    (hs : s.length + 1 < k) : ∃ d, g.statement s = some (d, t)
  clause {F : Forms} {s t : List Char} (hF : F.IsLevel) (h : Spaced F.clause s t)
    (hs : s.length + 1 < k) (ht : EndsClause t) : ∃ d, g.statement s = some (d, t)

theorem Grammar.ReadsForms.level {g : Grammar} {k : Nat} (hg : g.ReadsForms k) : g.IsLevel :=
  hg.types.level

theorem Grammar.ReadsForms.consumes {g : Grammar} {k : Nat} (hg : g.ReadsForms k) : g.Consumes :=
  hg.types.consumes

theorem Grammar.ReadsForms.depth {g : Grammar} {k : Nat} (hg : g.ReadsForms k) : k ≤ g.depth :=
  hg.types.depth_eq.ge

theorem Grammar.ReadsForms.type {g : Grammar} {k : Nat} (hg : g.ReadsForms k) {F : Forms}
    {s t : List Char} (hF : F.IsLevel) (h : Spaced F.type s t) (hs : s.length < k)
    (ht : EndsType t) : g.type s = some t :=
  hg.types.type hF h hs ht

/-! ### Spaced items and lists -/

section Items

variable {Item : Form} {F : Forms} {g : Grammar} {k : Nat} {s t r : List Char} {close : Char}

/-- Behind the gap stands the item. -/
theorem Spaced.skip (h : Spaced Item s t) (hopens : ∀ {s t}, Item s t → Opens s) :
    Item (skip s) t ∧ (skip s).length ≤ s.length := by
  obtain @⟨g, s, _, hg, h⟩ := h
  have hskip : Script.skip (g ++ s) = s := by
    rw [skip_append_of_gap hg, (hopens h).skip_eq]
  rw [hskip, List.length_append]
  exact ⟨h, by omega⟩

theorem spaced_of_item (h : Item s t) : Spaced Item s t := .mk (g := []) .nil h

theorem Leaves.length_le {o : Option (List Char)} (h : Leaves s o) (ho : o = some t) :
    t.length ≤ s.length := List.IsSuffix.length_le (h t ho)

theorem Reads.length_le {α : Type} {o : Option (α × List Char)} {a : α} (h : Script.Reads s o)
    (ho : o = some (a, t)) : t.length ≤ s.length := List.IsSuffix.length_le (h (a, t) ho)

theorem EndsItem.exists_sign (h : EndsItem close t) (hclose : close ∈ [')', ']', '\x7d', '>']) :
    ∃ d r, skip t = d :: r ∧ d ∈ [',', ')', ']', '\x7d', '>'] := by
  obtain ⟨d, r, hskip, rfl | rfl⟩ := h
  · exact ⟨',', r, hskip, by decide⟩
  · exact ⟨d, r, hskip, List.mem_cons_of_mem _ hclose⟩

/-- Where an item of a list ends, a type ends as well. -/
theorem EndsItem.endsType (h : EndsItem close t) (hclose : close ∈ [')', ']', '\x7d', '>']) :
    EndsType t := by
  obtain ⟨d, r, hskip, hd⟩ := h.exists_sign hclose
  have hsigns : ∀ d ∈ [',', ')', ']', '\x7d', '>'],
      d ∉ ['.', '<', '[', '|', '&', '\\'] ∧ isWordPart d = false := forall_sign (by decide)
  exact endsType_of_sign hskip (hsigns d hd).1 (hsigns d hd).2

theorem EndsItem.endsExpression {place : Place} (h : EndsItem close t)
    (hclose : close ∈ [')', ']', '\x7d']) : EndsExpression place t := by
  have hends : ∀ d ∈ [')', ']', '\x7d'], d ∈ valueEnds := forall_sign (by decide)
  obtain ⟨d, r, hskip, rfl | rfl⟩ := h
  · exact endsExpression_of_sign hskip (by decide)
  · exact endsExpression_of_sign hskip (hends d hclose)

theorem EndsItem.symbol?_eq_none (h : EndsItem close t) {c : Char} (hcomma : c ≠ ',')
    (hclose : c ≠ close) : symbol? c t = none := by
  obtain ⟨d, r, hskip, rfl | rfl⟩ := h
  · rw [symbol?_of_skip hskip, if_neg hcomma.symm]
  · rw [symbol?_of_skip hskip, if_neg hclose.symm]

/-- What begins an expression begins no list and ends none. -/
theorem Opens.item (h : Opens s) (hclose : close ∈ nonOpeners) :
    ∃ c r, s = c :: r ∧ skip (c :: r) = c :: r ∧ c ≠ close ∧ c ≠ ',' := by
  obtain ⟨c, r, rfl, hself, hsign⟩ := h.exists_cons
  refine ⟨c, r, rfl, hself, ?_, ?_⟩
  · rintro rfl
    exact hsign hclose
  · rintro rfl
    exact hsign (by decide)

/-- What ends an item ends its type. -/
theorem readsItems_type (hg : g.ReadsForms k) (hF : F.IsLevel)
    (hclose : close ∈ [')', ']', '\x7d', '>']) :
    ReadsItems F.type close g.type.reader k where
  opens h := by
    have hsigns : ∀ c ∈ [')', ']', '\x7d', '>'], c ∈ nonOpeners ∧ c ≠ '<' :=
      forall_sign (by decide)
    obtain ⟨hmem, hne⟩ := hsigns close hclose
    obtain ⟨c, r, rfl, hself, hopener⟩ := (hF.opens_type h).exists_cons
    refine ⟨c, r, rfl, hself, ?_, ?_⟩
    · rintro rfl
      exact hne (hopener hmem)
    · rintro rfl
      exact absurd (hopener (by decide)) (by decide)
  leaves := Skipper.reads hg.consumes.type
  read h hs hend := by
    have hread := hg.type hF (spaced_of_item h) hs (hend.endsType hclose)
    exact ⟨(), by rw [Skipper.reader, hread, Option.map_some]⟩

theorem Enclosed.length_lt {opening : Char} (h : Enclosed opening Item close s t) :
    ∃ r, Sign opening s r ∧ Items Item close r t ∧ r.length < s.length := by
  obtain ⟨ho, h⟩ := h
  exact ⟨_, ho, h, ho.length_lt⟩

theorem typeArguments_of_enclosed (hg : g.ReadsForms k) (hF : F.IsLevel)
    (h : Enclosed '<' F.type '>' s t) (hs : s.length ≤ k) : g.typeArguments s = some t := by
  have hdepth := hg.depth
  obtain ⟨r, ho, hitems, hlength⟩ := h.length_lt
  rw [Grammar.typeArguments, ho.symbol?_eq (by decide), Option.bind_some]
  exact skipList_of_items (readsItems_type hg hF (by decide)) (by decide) (by decide) hitems
    (by omega) g.depth (by omega)

theorem typeArguments_eq_none (g : Grammar) (h : symbol? '<' s = none) :
    g.typeArguments s = none := by
  rw [Grammar.typeArguments, h, Option.bind_none]

/-- Type arguments are skipped if they are there. -/
theorem skipOptional_typeArguments_of_form (hg : g.ReadsForms k) (hF : F.IsLevel)
    (h : Opt (Enclosed '<' F.type '>') s t) (hs : s.length ≤ k) (ht : symbol? '<' t = none) :
    skipOptional g.typeArguments s = t := by
  cases h with
  | none => exact skipOptional_of_none (typeArguments_eq_none g ht)
  | some h => exact skipOptional_of_some (typeArguments_of_enclosed hg hF h hs)

/-- Behind optional type arguments stands what follows them, or the sign that opens them. -/
theorem symbol?_of_opt (h : Opt (Enclosed '<' Item close) s t) {c : Char} (hc : c ≠ '<')
    (ht : symbol? c t = none) : symbol? c s = none := by
  cases h with
  | none => exact ht
  | some h =>
      obtain ⟨r, ho, -, -⟩ := h.length_lt
      exact ho.symbol?_eq_none (by decide) hc.symm

/-- A dotted name is skipped to its end. -/
theorem dottedTail_of_dotted (h : Dotted s t) (ht : symbol? '.' t = none) (n : Nat)
    (hn : s.length ≤ n) : dottedTail n s = t := by
  induction h generalizing n with
  | nil =>
      cases n with
      | zero => rfl
      | succ n => rw [dottedTail, ht, Option.bind_none]
  | cons hp hw _ ih =>
      have hpoint := hp.length_lt
      have hname := hw.length_lt
      obtain ⟨n, rfl⟩ : ∃ m, n = m + 1 := ⟨n - 1, by omega⟩
      rw [dottedTail, hp.symbol?_eq (by decide), Option.bind_some, hw.skipWord?_eq]
      exact ih ht n (by omega)

theorem Dotted.length_le (h : Dotted s t) : t.length ≤ s.length := by
  induction h with
  | nil => exact Nat.le_refl _
  | cons hp hw _ ih =>
      have hpoint := hp.length_lt
      have hname := hw.length_lt
      omega

theorem Dotted.symbol?_eq_none (h : Dotted s t) {c : Char} (hc : c ≠ '.')
    (ht : symbol? c t = none) : symbol? c s = none := by
  cases h with
  | nil => exact ht
  | cons hp _ _ => exact hp.symbol?_eq_none (by decide) hc.symm

end Items

/-! ### Parts behind a sign -/

section Led

variable {Item : Form} {F : Forms} {g : Grammar} {k : Nat} {s t r : List Char} {c d : Char}

theorem symbol?_of_led (h : Led c Item s t) (hc : startsLexeme c = true) (hne : c ≠ d)
    (ht : symbol? d t = none) : symbol? d s = none := by
  cases h with
  | none => exact ht
  | some hsign _ => exact hsign.symbol?_eq_none hc hne

theorem endsType_of_led (h : Led c Item s t) (hc : startsLexeme c = true)
    (hsign : c ∉ ['.', '<', '[', '|', '&', '\\'] ∧ isWordPart c = false) (ht : EndsType t) :
    EndsType s := by
  cases h with
  | none => exact ht
  | some h _ => exact endsType_of_sign (h.skip_eq hc) hsign.1 hsign.2

theorem annotation_of_led (hg : g.ReadsForms k) (hF : F.IsLevel) (h : Led ':' F.type s t)
    (hs : s.length ≤ k) (ht : EndsType t) (hcolon : symbol? ':' t = none) :
    g.annotation s = some t := by
  cases h with
  | none => rw [Grammar.annotation, hcolon]
  | some hsign h =>
      have hlength := hsign.length_lt
      rw [Grammar.annotation, hsign.symbol?_eq (by decide)]
      exact hg.type hF h (by omega) ht

theorem initializer_of_led (hg : g.ReadsForms k) (hF : F.IsLevel) {place : Place} {within : Bool}
    (hplace : place.Admits within) (h : Led '=' (F.expressionAt within) s t) (hs : s.length ≤ k)
    (ht : EndsExpression place t) (hequals : symbol? '=' t = none) :
    g.initializer place s = some t := by
  cases h with
  | none => rw [Grammar.initializer, hequals]
  | some hsign h =>
      have hlength := hsign.length_lt
      obtain ⟨e, he⟩ := hg.expression hF h (by omega) hplace ht
      rw [Grammar.initializer, hsign.symbol?_eq (by decide)]
      simp [he]

/-- A default value is skipped up to the end of an item of a list. -/
theorem initializer_of_item (hg : g.ReadsForms k) (hF : F.IsLevel) (h : Led '=' F.expression s t)
    (hs : s.length ≤ k) {close : Char} (hclose : close ∈ [')', ']', '\x7d'])
    (ht : EndsItem close t) : g.initializer .inBrackets s = some t := by
  have hne : ∀ c ∈ [')', ']', '\x7d'], '=' ≠ c := forall_sign (by decide)
  exact initializer_of_led hg hF (Place.admits_inBrackets true) h hs (ht.endsExpression hclose)
    (ht.symbol?_eq_none (by decide) (hne close hclose))

end Led

/-! ### Comma expressions and keys -/

section Keys

variable {F : Forms} {g : Grammar} {k : Nat} {s t r : List Char} {c : Char} {place : Place}
variable {within : Bool}

/-- Expressions behind commas are skipped as long as one follows. -/
theorem commaTail_of_further (hg : g.ReadsForms k) (hF : F.IsLevel)
    (h : Further (F.expressionAt within) s t) (hs : s.length ≤ k) (hplace : place.Admits within)
    (ht : EndsExpression place t) (hlast : symbol? ',' t = none) (n : Nat) (hn : s.length < n) :
    g.commaTail place n s = some t := by
  induction h generalizing n with
  | nil =>
      obtain ⟨n, rfl⟩ : ∃ m, n = m + 1 := ⟨n - 1, by omega⟩
      rw [Grammar.commaTail, hlast]
  | @cons s r u t hc h hf ih =>
      have hends : EndsExpression place u := by
        cases hf with
        | nil => exact ht
        | cons hc _ _ => exact hc.endsExpression (by decide)
      have hr := hc.length_lt
      obtain ⟨e, he⟩ := hg.expression hF h (by omega) hplace hends
      have hu := (hg.consumes.expression place r).length_le he
      obtain ⟨n, rfl⟩ : ∃ m, n = m + 1 := ⟨n - 1, by omega⟩
      rw [Grammar.commaTail, hc.symbol?_eq (by decide)]
      simp only [he]
      exact ih (by omega) ht hlast n (by omega)

/-- A comma expression is read up to where its last expression ends. -/
theorem exists_sequence_of_form (hg : g.ReadsForms k) (hF : F.IsLevel)
    (h : Sequenced (F.expressionAt within) s t) (hs : s.length < k) (hplace : place.Admits within)
    (ht : EndsExpression place t) (hcomma : symbol? ',' t = none) :
    ∃ e, g.sequence place s = some (e, t) := by
  have hdepth := hg.depth
  obtain @⟨_, r, _, h, hf⟩ := h
  have hends : EndsExpression place r := by
    cases hf with
    | nil => exact ht
    | cons hc _ _ => exact hc.endsExpression (by decide)
  obtain ⟨e, he⟩ := hg.expression hF h hs hplace hends
  have hr := (hg.consumes.expression place s).length_le he
  have hrest := commaTail_of_further hg hF hf (by omega) hplace ht hcomma g.depth (by omega)
  rw [Grammar.sequence, he]
  simp only [Option.bind_eq_bind, Option.bind_some]
  cases hf with
  | nil =>
      rw [hcomma]
      exact ⟨_, rfl⟩
  | cons hc _ _ =>
      rw [hc.symbol?_eq (by decide)]
      simp only [hrest, Option.bind_some]
      exact ⟨_, rfl⟩

/-- An expression in front of the sign that closes a bracket is skipped. -/
theorem skipSequence_of_form (hg : g.ReadsForms k) (hF : F.IsLevel) (h : Sequenced F.expression s r)
    (hc : Sign c r t) (hclose : c ∈ [')', ']', '\x7d', ':', ';']) (hs : s.length < k) :
    (∃ e, g.sequence .inBrackets s = some (e, r)) ∧ g.skipSequence s = some r := by
  have hsigns : ∀ c ∈ [')', ']', '\x7d', ':', ';'], c ∈ valueEnds ∧ startsLexeme c = true ∧
      c ≠ ',' := forall_sign (by decide)
  obtain ⟨hends, hstarts, hne⟩ := hsigns c hclose
  obtain ⟨e, he⟩ : ∃ e, g.sequence .inBrackets s = some (e, r) :=
    exists_sequence_of_form hg hF h hs (Place.admits_inBrackets true) (hc.endsExpression hends)
      (hc.symbol?_eq_none hstarts hne)
  exact ⟨⟨e, he⟩, by rw [Grammar.skipSequence, he, Option.map_some]⟩

theorem key_of_name (g : Grammar) {w : List Char} (hw : IsName w) (hend : EndsWord t) :
    g.key (w ++ t) = some t := (key_of_spells g (.word hw) hend).1

/-- A key is skipped to its end. -/
theorem key_of_form (hg : g.ReadsForms k) (hF : F.IsLevel) (h : IsKey F s t) (hs : s.length ≤ k) :
    g.key s = some t := by
  have hskip := h.skip_eq
  cases h with
  | name hw hend => exact key_of_name g hw hend
  | string hs =>
      obtain ⟨quote, hquote, body, rfl, hclose⟩ := hs.exists_quote
      simp only [List.mem_cons, List.not_mem_nil, or_false] at hquote
      rw [Grammar.key, hskip]
      simp only [hquote, if_true, hclose]
  | number hn =>
      obtain ⟨c, r, rfl, hdigit⟩ := hn.exists_digit
      have hsigns : ∀ d ∈ ['"', '\'', '[', '#'], d.isDigit = false := forall_sign (by decide)
      have hne : ∀ d ∈ ['"', '\'', '[', '#'], c ≠ d := by
        rintro d hd rfl
        exact Bool.false_ne_true ((hsigns c hd).symm.trans hdigit)
      rw [Grammar.key, hskip]
      simp [hne '"' (by decide), hne '\'' (by decide), hne '[' (by decide), hne '#' (by decide),
        hdigit, afterNumber_of_number hn]
  | hidden hw hend =>
      rw [Grammar.key, hskip]
      simp [hw.skipWord?_append hend]
  | computed he hc =>
      rw [List.length_cons] at hs
      rw [Grammar.key, hskip]
      simp [(skipSequence_of_form hg hF he hc (by decide) hs).2,
        hc.symbol?_eq (show startsLexeme ']' = true by decide)]

end Keys

/-! ### Patterns -/

section Patterns

variable {F : Forms} {g : Grammar} {k : Nat} {s t r : List Char} {close : Char}

theorem symbols?_dots_append (s : List Char) : symbols? "..." ("...".toList ++ s) = some s := by
  have hskip : skip ("...".toList ++ s) = "...".toList ++ s :=
    skip_of_startsLexeme (c := '.') (by decide) _
  rw [symbols?, hskip, ahead?, if_pos (List.isPrefixOf_iff_prefix.2 ⟨s, rfl⟩)]
  rfl

theorem skip_dots (s : List Char) : skip ("...".toList ++ s) = "...".toList ++ s :=
  skip_of_startsLexeme (c := '.') (by decide) _

theorem item_of_dots (s : List Char) (hclose : close ≠ '.') :
    ∃ c r, "...".toList ++ s = c :: r ∧ skip (c :: r) = c :: r ∧ c ≠ close ∧ c ≠ ',' :=
  ⟨'.', '.' :: '.' :: s, rfl, skip_dots s, hclose.symm, by decide⟩

theorem readsItems_patternItem (hg : g.ReadsForms k) (hF : F.IsLevel) :
    ReadsItems (PatternItem F) ']' g.patternItem.reader k where
  opens h := by
    cases h with
    | rest _ => exact item_of_dots _ (by decide)
    | plain h _ => exact (hF.opens_pattern h).item (by decide)
  leaves := Skipper.reads (leaves_patternItem hg.consumes)
  read {s t} h hs hend := by
    refine ⟨(), ?_⟩
    rw [Skipper.reader, Option.map_eq_some_iff]
    refine ⟨_, ?_, rfl⟩
    cases h with
    | rest h =>
        simp only [List.length_append] at hs
        rw [Grammar.patternItem, symbols?_dots_append]
        exact hg.pattern hF h (by omega)
    | @plain _ r _ h he =>
        have hread := hg.pattern hF (spaced_of_item h) hs
        have hlength := (hg.consumes.pattern s).length_le hread
        rw [Grammar.patternItem, (hF.opens_pattern h).symbols?_eq_none, hread, Option.bind_some]
        exact initializer_of_item hg hF he (by omega) (by decide) hend

theorem readsItems_patternMember (hg : g.ReadsForms k) (hF : F.IsLevel) :
    ReadsItems (PatternMember F) '\x7d' g.patternMember.reader k where
  opens h := by
    cases h with
    | rest _ => exact item_of_dots _ (by decide)
    | pair hk _ _ _ => exact hk.item (by decide)
    | shorthand hw _ _ => exact (hw.opens _).item (by decide)
  leaves := Skipper.reads (leaves_patternMember hg.consumes)
  read {s t} h hs hend := by
    refine ⟨(), ?_⟩
    rw [Skipper.reader, Option.map_eq_some_iff]
    refine ⟨_, ?_, rfl⟩
    cases h with
    | rest h =>
        simp only [List.length_append] at hs
        rw [Grammar.patternMember, symbols?_dots_append]
        exact hg.pattern hF h (by omega)
    | @pair _ r u v _ hk hc hp he =>
        have hkey := key_of_form hg hF hk hs.le
        have hle := (leaves_key hg.consumes s).length_le hkey
        have hcolon := hc.length_lt
        have hpattern := hg.pattern hF hp (by omega)
        have hlength := (hg.consumes.pattern u).length_le hpattern
        rw [Grammar.patternMember, hk.symbols?_eq_none, hkey]
        simp only [Option.bind_eq_bind, Option.bind_some, hc.symbol?_eq (by decide), hpattern]
        exact initializer_of_item hg hF he (by omega) (by decide) hend
    | @shorthand w r t hw hend' he =>
        simp only [List.length_append] at hs
        have hcolon := symbol?_of_led he (by decide) (by decide)
          (hend.symbol?_eq_none (c := ':') (by decide) (by decide))
        rw [Grammar.patternMember, (hw.opens _).symbols?_eq_none,
          key_of_name g hw hend']
        simp only [Option.bind_eq_bind, Option.bind_some, hcolon]
        exact initializer_of_item hg hF he (by omega) (by decide) hend

/-- A pattern is skipped to its end. -/
theorem readPattern_of_form (hg : g.ReadsForms k) (hF : F.IsLevel) (h : IsPattern F (skip s) t)
    (hs : s.length ≤ k) : g.readPattern s = some t := by
  have hdepth := hg.depth
  have hle := (skip_suffix s).length_le
  generalize hskip : skip s = c at h hle
  cases h with
  | name hw hend =>
      have hread := hw.skipWord?_append hend
      obtain ⟨d, u, hcons, -, hsign⟩ :=
        hw.exists_head t (show ['\x7b', '['].all (fun d => !isWordStart d) = true by decide)
      simp only [List.mem_cons, List.not_mem_nil, or_false, not_or] at hsign
      rw [hcons] at hskip hread
      rw [Grammar.readPattern, hskip]
      simp only [hsign, if_false, hread]
  | @object u _ h =>
      rw [List.length_cons] at hle
      rw [Grammar.readPattern, hskip]
      simp only [if_true]
      exact skipList_of_items (readsItems_patternMember hg hF) (by decide) (by decide) h
        (by omega) g.depth (by omega)
  | @array u _ h =>
      rw [List.length_cons] at hle
      rw [Grammar.readPattern, hskip]
      simp only [Char.reduceEq, if_false, if_true]
      exact skipList_of_elements (readsItems_patternItem hg hF) (by decide) (by decide) h
        (by omega) g.depth (by omega)

end Patterns

/-! ### Arguments and decorators -/

section Arguments

variable {Item : Form} {F : Forms} {g : Grammar} {k : Nat} {s t r u : List Char} {close c : Char}

theorem Spaced.symbol?_eq_none (h : Spaced Item s t) (hopens : ∀ {s t}, Item s t → Opens s)
    (hc : c ∈ nonOpeners) : symbol? c s = none := by
  obtain @⟨gap, s, _, hgap, h⟩ := h
  obtain ⟨d, v, rfl, hself, hsign⟩ := (hopens h).exists_cons
  have hne : d ≠ c := by
    rintro rfl
    exact hsign hc
  rw [symbol?_of_skip (hgap.skip_of_skip hself), if_neg hne]

theorem Spaced.symbols?_eq_none (h : Spaced Item s t) (hopens : ∀ {s t}, Item s t → Opens s) :
    symbols? "..." s = none := by
  obtain @⟨gap, s, _, hgap, h⟩ := h
  rw [symbols?, skip_append_of_gap hgap, ← symbols?, (hopens h).symbols?_eq_none]

/-- An argument is read up to where it ends. -/
theorem exists_argument_of_form (hg : g.ReadsForms k) (hF : F.IsLevel) (h : IsArgument F s t)
    (hs : s.length < k) (ht : EndsExpression .inBrackets t) :
    ∃ e, g.argument s = some (e, t) := by
  cases h with
  | plain h =>
      rw [Grammar.argument, (hF.opens_expression h).symbols?_eq_none]
      exact hg.expression hF (spaced_of_item h) hs (Place.admits_inBrackets true) ht
  | spread h =>
      simp only [List.length_append] at hs
      obtain ⟨e, he⟩ := hg.expression hF h (by omega) (Place.admits_inBrackets true) ht
      rw [Grammar.argument, symbols?_dots_append]
      simp [he]

theorem readsItems_argument (hg : g.ReadsForms k) (hF : F.IsLevel) (hclose : close ∈ [')', ']']) :
    ReadsItems (IsArgument F) close g.argument k where
  opens h := by
    have hsigns : ∀ c ∈ [')', ']'], c ∈ nonOpeners ∧ c ≠ '.' := forall_sign (by decide)
    cases h with
    | plain h => exact (hF.opens_expression h).item (hsigns close hclose).1
    | spread _ => exact item_of_dots _ (hsigns close hclose).2
  leaves := reads_argument hg.consumes
  read h hs hend := by
    have hsigns : ∀ c ∈ [')', ']'], c ∈ [')', ']', '\x7d'] := forall_sign (by decide)
    exact exists_argument_of_form hg hF h hs (hend.endsExpression (hsigns close hclose))

theorem exists_arguments_of_form (hg : g.ReadsForms k) (hF : F.IsLevel)
    (h : Enclosed '(' (IsArgument F) ')' s t) (hs : s.length ≤ k) :
    ∃ es, g.arguments s = some (es, t) := by
  have hdepth := hg.depth
  obtain ⟨r, ho, hitems, hlength⟩ := h.length_lt
  rw [Grammar.arguments, ho.symbol?_eq (by decide), Option.bind_some]
  exact exists_readList (readsItems_argument hg hF (by decide)) (by decide) (by decide)
    hitems.elements
    (by omega) g.depth (by omega)

/-- Skipped arguments are those that are read. -/
theorem skipArguments_eq (g : Grammar) (s : List Char) :
    g.skipArguments s = (g.arguments s).map Prod.snd := by
  have hitem :
      (fun s => (g.expression .inBrackets (skipOptional (symbols? "...") s)).map Prod.snd) =
        fun s => (g.argument s).map Prod.snd := by
    funext s
    rw [Grammar.argument, skipOptional]
    cases symbols? "..." s with
    | none => rfl
    | some r => simp [Option.map_map, Function.comp_def]
  rw [Grammar.skipArguments, Grammar.arguments]
  cases symbol? '(' s with
  | none => rfl
  | some r =>
      simp only [Option.bind_eq_bind, Option.bind_some]
      rw [hitem, skipList_map]

theorem IsDecorator.exists_mark (h : IsDecorator F s t) : ∃ r, s = '@' :: r := by
  cases h with
  | bare _ _ _ => exact ⟨_, rfl⟩
  | call _ _ _ => exact ⟨_, rfl⟩

theorem skipDecorator_eq_none (g : Grammar) (h : symbol? '@' s = none) :
    g.skipDecorator s = none := by
  rw [Grammar.skipDecorator, h]
  rfl

theorem IsDecorator.length_lt (hg : g.ReadsForms k) (hF : F.IsLevel) (h : IsDecorator F s t)
    (hs : s.length ≤ k) : t.length < s.length := by
  cases h with
  | bare hn hd _ =>
      have hr := hn.length_lt
      have ht := hd.length_le
      rw [List.length_cons]
      omega
  | @call s r u _ hn hd ha =>
      rw [List.length_cons] at hs ⊢
      have hr := hn.length_lt
      have hu := hd.length_le
      obtain ⟨es, hes⟩ := exists_arguments_of_form hg hF ha (by omega)
      have ht := (reads_arguments hg.consumes u).length_le hes
      omega

/-- Skipped decorators are those that are read. -/
theorem skipDecorator_eq (g : Grammar) (s : List Char) :
    g.skipDecorator s = (g.decorator s).map Prod.snd := by
  rw [Grammar.skipDecorator, Grammar.decorator]
  cases symbol? '@' s with
  | none => rfl
  | some r =>
      simp only [Option.bind_eq_bind, Option.bind_some, skipArguments_eq, skipWord?]
      cases symbol? '(' r with
      | some r =>
          dsimp only
          cases (g.skipSequence r).bind (symbol? ')') <;> rfl
      | none =>
          cases word? (skip r) with
          | none => rfl
          | some named =>
              simp only [Option.map_some, Option.bind_some]
              cases g.arguments (skipOptional g.typeArguments (dottedTail g.depth named.2)) with
              | none => rfl
              | some result =>
                  dsimp only [Option.map_some]
                  split <;> rfl

/-- A decorator inside a class is skipped to its end. -/
theorem skipDecorator_of_form (hg : g.ReadsForms k) (hF : F.IsLevel)
    (h : Spaced (IsDecorator F) s t) (hs : s.length ≤ k) : g.skipDecorator s = some t := by
  have hdepth := hg.depth
  obtain @⟨gap, s, _, hgap, h⟩ := h
  rw [List.length_append] at hs
  cases h with
  | @bare s r _ hn hd hnext =>
      rw [List.length_cons] at hs
      have hmark : symbol? '@' (gap ++ '@' :: s) = some s := by
        rw [symbol?_of_skip (hgap.skip_append (by decide) s), if_pos rfl]
      have hlength := hn.length_lt
      obtain ⟨w, hw, hskip, -⟩ := hn.exists_name
      have hopen : symbol? '(' t = none := hnext.symbol?_eq_none (by decide) (by decide)
      have htype : skipOptional g.typeArguments t = t := skipOptional_of_none
        (typeArguments_eq_none g (hnext.symbol?_eq_none (by decide) (by decide)))
      have harguments : g.arguments t = none := by
        rw [Grammar.arguments, hopen, Option.bind_none]
      rw [Grammar.skipDecorator, hmark]
      simp only [Option.bind_eq_bind, Option.bind_some, symbol?_of_name hw hskip
        (show isWordStart '(' = false by decide), hn.skipWord?_eq, dottedTail_of_dotted hd
        (hnext.symbol?_eq_none (by decide) (by decide)) g.depth (by omega), htype,
        skipArguments_eq, harguments, Option.map_none]
  | @call s r u _ hn hd ha =>
      rw [List.length_cons] at hs
      have hmark : symbol? '@' (gap ++ '@' :: s) = some s := by
        rw [symbol?_of_skip (hgap.skip_append (by decide) s), if_pos rfl]
      have hname := hn.length_lt
      have hdotted := hd.length_le
      obtain ⟨w, hw, hskip, -⟩ := hn.exists_name
      obtain ⟨v, ho, -, -⟩ := ha.length_lt
      have hopen := ho.skip_eq (by decide)
      have hpoint : symbol? '.' u = none := by
        rw [symbol?_of_skip hopen, if_neg (by decide)]
      have hless : symbol? '<' u = none := by
        rw [symbol?_of_skip hopen, if_neg (by decide)]
      obtain ⟨es, hes⟩ := exists_arguments_of_form hg hF ha (by omega)
      rw [Grammar.skipDecorator, hmark]
      simp only [Option.bind_eq_bind, Option.bind_some, symbol?_of_name hw hskip
        (show isWordStart '(' = false by decide), hn.skipWord?_eq,
        dottedTail_of_dotted hd hpoint g.depth (by omega),
        skipOptional_of_none (typeArguments_eq_none g hless), skipArguments_eq, hes,
        Option.map_some]

end Arguments

/-! ### Parameters -/

section Parameters

variable {F : Forms} {g : Grammar} {k : Nat} {s t r u : List Char} {words : List String}

/-- One more construct is skipped. -/
theorem skipMany_of_some {p : Skipper} (hp : p s = some r) (hr : r <:+ s)
    (h : ∀ n, r.length ≤ n → skipMany p n r = u) (n : Nat) (hn : s.length ≤ n) :
    skipMany p n s = u := by
  obtain heq | hlt := Nat.eq_or_lt_of_le hr.length_le
  · obtain rfl := hr.eq_of_length heq
    exact h n hn
  · obtain ⟨n, rfl⟩ : ∃ m, n = m + 1 := ⟨n - 1, by omega⟩
    rw [skipMany, hp]
    exact h n (by omega)

theorem IsName.startsPattern {w : List Char} (hw : IsName w) (u : List Char) :
    ∃ c r, w ++ u = c :: r ∧ startsLexeme c = true ∧
      (isWordStart c || c == '\x7b' || c == '[') = true := by
  obtain ⟨c, v, rfl, hc, -⟩ := hw.exists_cons
  exact ⟨c, v ++ u, rfl, startsLexeme_of_isWordPart (isWordPart_of_isWordStart hc), by simp [hc]⟩

theorem Forms.IsLevel.starts_pattern (hF : F.IsLevel) (h : F.pattern s t) :
    ∃ c r, s = c :: r ∧ startsLexeme c = true ∧
      (isWordStart c || c == '\x7b' || c == '[') = true := by
  obtain rfl | ⟨F, -, rfl⟩ := hF.eq_or
  · exact h.elim
  · cases h with
    | name hw _ => exact hw.startsPattern _
    | object _ => exact ⟨'\x7b', _, rfl, by decide, by decide⟩
    | array _ => exact ⟨'[', _, rfl, by decide, by decide⟩

/-- Nothing but a name or a pattern begins a parameter with words in front of it. -/
theorem Prefixed.exists_cons (hF : F.IsLevel) (h : Prefixed words (IsParameter F) s t) :
    ∃ c r, s = c :: r ∧ startsLexeme c = true ∧
      (isWordStart c || c == '\x7b' || c == '[') = true := by
  cases h with
  | word _ hname _ _ _ => exact hname.startsPattern _
  | here h =>
      obtain ⟨hp, -, -, -⟩ := h
      exact hF.starts_pattern hp

theorem ParameterItem.exists_cons (hF : F.IsLevel) (h : ParameterItem F s t) :
    ∃ c r, s = c :: r ∧ startsLexeme c = true ∧ c ∉ ['@', ',', ')'] := by
  cases h with
  | rest _ _ => exact ⟨'.', _, rfl, by decide, by decide⟩
  | plain h =>
      obtain ⟨c, r, rfl, hstarts, hc⟩ := h.exists_cons hF
      have hsigns : ∀ d ∈ ['@', ',', ')'],
          (isWordStart d || d == '\x7b' || d == '[') = false := forall_sign (by decide)
      refine ⟨c, r, rfl, hstarts, fun hmem => ?_⟩
      exact Bool.false_ne_true ((hsigns c hmem).symm.trans hc)

/-- What follows the name of a parameter begins no pattern. -/
theorem startsPattern_eq_false (hq : Opt (Sign '?') s r) (ht : Led ':' F.type r u)
    {v : List Char} (he : Led '=' F.expression u v) (hend : EndsItem ')' v) :
    startsPattern s = false := by
  have hnot {c : Char} {s t : List Char} (hskip : skip s = c :: t)
      (hc : c ∈ ['?', ':', '=', ',', ')']) : startsPattern s = false := by
    have hsigns : ∀ c ∈ ['?', ':', '=', ',', ')'],
        (isWordStart c || c == '\x7b' || c == '[') = false := forall_sign (by decide)
    rw [startsPattern, hskip]
    exact hsigns c hc
  cases hq with
  | some h => exact hnot (h.skip_eq (by decide)) (by decide)
  | none =>
      cases ht with
      | some h _ => exact hnot (h.skip_eq (by decide)) (by decide)
      | none =>
          cases he with
          | some h _ => exact hnot (h.skip_eq (by decide)) (by decide)
          | none =>
              obtain ⟨d, w, hskip, rfl | rfl⟩ := hend
              · exact hnot hskip (by decide)
              · exact hnot hskip (by decide)

/-- The words in front of a parameter are skipped. -/
theorem exists_skipMany_parameterModifier (hF : F.IsLevel)
    (h : Spaced (Prefixed parameterWords (IsParameter F)) s t) (ht : EndsItem ')' t) :
    ∃ u, Spaced (IsParameter F) u t ∧ u.length ≤ s.length ∧
      ∀ n, s.length ≤ n → skipMany parameterModifier n s = u := by
  obtain @⟨gap, s, _, hgap, h⟩ := h
  induction h generalizing gap with
  | @here s t h =>
      refine ⟨gap ++ s, .mk hgap h, Nat.le_refl _, fun n _ => skipMany_of_none ?_ n⟩
      obtain @⟨_, r, u, v, _, hp, hq, hty, he⟩ := h
      obtain rfl | ⟨F, -, rfl⟩ := hF.eq_or
      · exact hp.elim
      · cases hp with
        | @name w _ hw hend =>
            rw [parameterModifier, hgap.skip_name hw, hw.word?_append hend]
            simp [startsPattern_eq_false hq hty he ht]
        | object _ =>
            rw [parameterModifier, hgap.skip_append (by decide),
              word?_of_sign (by decide) (by decide)]
        | array _ =>
            rw [parameterModifier, hgap.skip_append (by decide),
              word?_of_sign (by decide) (by decide)]
  | @word w gap' s t hw hname hg hend h ih =>
      obtain ⟨u, hu, hlength, hread⟩ := ih ht hg
      have hmodifier : parameterModifier (gap ++ (w ++ (gap' ++ s))) = some (gap' ++ s) := by
        have hmem : ∀ v ∈ parameterWords, v ∈ parameterModifiers := by decide
        obtain ⟨c, r, rfl, hstarts, hc⟩ := h.exists_cons hF
        have hpattern : startsPattern (gap' ++ c :: r) = true := by
          rw [startsPattern, hg.skip_append hstarts]
          exact hc
        rw [parameterModifier, hgap.skip_name hname, hname.word?_append hend]
        simp [hmem _ hw, hpattern]
      refine ⟨u, hu, ?_, skipMany_of_some hmodifier ⟨gap ++ w, by simp⟩ hread⟩
      simp only [List.length_append] at hlength ⊢
      omega

/-- The decorators in front of a parameter are skipped. -/
theorem exists_skipMany_skipDecorator (hg : g.ReadsForms k) (hF : F.IsLevel)
    (h : Spaced (IsMarkedParameter F) s t) (hs : s.length ≤ k) :
    ∃ u, Spaced (ParameterItem F) u t ∧ u.length ≤ s.length ∧
      ∀ n, s.length ≤ n → skipMany g.skipDecorator n s = u := by
  obtain @⟨gap, s, _, hgap, h⟩ := h
  induction h generalizing gap with
  | @plain s t h =>
      refine ⟨gap ++ s, .mk hgap h, Nat.le_refl _, fun n _ => skipMany_of_none ?_ n⟩
      obtain ⟨c, r, rfl, hstarts, hsign⟩ := h.exists_cons hF
      have hmark : c ≠ '@' := by
        rintro rfl
        exact hsign (by decide)
      exact skipDecorator_eq_none g
        (by rw [symbol?_of_skip (hgap.skip_append hstarts r), if_neg hmark])
  | @decorator s gap' r t hd hgap' _ ih =>
      have hread := skipDecorator_of_form hg hF (.mk hgap hd) hs
      have hsuffix := leaves_skipDecorator hg.consumes (gap ++ s) _ hread
      have hle := List.IsSuffix.length_le hsuffix
      obtain ⟨u, hu, hlength, hmany⟩ := ih hgap' (by omega)
      exact ⟨u, hu, by omega, skipMany_of_some hread hsuffix hmany⟩

/-- A parameter is skipped up to the end of its place in the list. -/
theorem parameter_of_form (hg : g.ReadsForms k) (hF : F.IsLevel) (h : IsMarkedParameter F s t)
    (hs : s.length < k) (hend : EndsItem ')' t) : g.parameter s = some t := by
  have hdepth := hg.depth
  have hequals : symbol? '=' t = none := hend.symbol?_eq_none (by decide) (by decide)
  have hcolon : symbol? ':' t = none := hend.symbol?_eq_none (by decide) (by decide)
  have hquestion : symbol? '?' t = none := hend.symbol?_eq_none (by decide) (by decide)
  obtain ⟨u, hu, hle, hmany⟩ := exists_skipMany_skipDecorator hg hF (spaced_of_item h) hs.le
  obtain @⟨gap, u, _, hgap, hitem⟩ := hu
  rw [Grammar.parameter]
  simp only [hmany g.depth (by omega)]
  cases hitem with
  | plain h =>
      obtain ⟨v, hv, hlength, hwords⟩ :=
        exists_skipMany_parameterModifier hF (.mk hgap h) hend
      obtain @⟨gap', v, _, hgap', @⟨_, r, x, y, _, hp, hq, ht, he⟩⟩ := hv
      have hpattern := hg.pattern hF (.mk hgap' hp) (by omega)
      have hr := (hg.consumes.pattern _).length_le hpattern
      have hdots : symbols? "..." (gap' ++ v) = none :=
        (Spaced.mk hgap' hp).symbols?_eq_none hF.opens_pattern
      have hcolon' := symbol?_of_led he (by decide) (by decide) hcolon
      have htype : EndsType y :=
        endsType_of_led he (by decide) (by decide) (hend.endsType (by decide))
      have hmark := skipOptional_of_opt hq (by decide) (symbol?_of_led ht (by decide) (by decide)
        (symbol?_of_led he (by decide) (by decide) hquestion))
      have hannotation := annotation_of_led hg hF ht (by omega) htype hcolon'
      have hy := (leaves_typeAfterColon hg.consumes x).length_le hannotation
      simp only [hwords g.depth (by omega), skipOptional_of_none hdots, hpattern, hmark.1,
        hannotation, Option.bind_eq_bind, Option.bind_some]
      exact initializer_of_item hg hF he (by omega) (by decide) hend
  | @rest v r _ hp ht =>
      have hskip : skip (gap ++ ("...".toList ++ v)) = "...".toList ++ v := by
        rw [skip_append_of_gap hgap, skip_dots]
      have hdots : symbols? "..." (gap ++ ("...".toList ++ v)) = some v := by
        rw [symbols?, skip_append_of_gap hgap, ← symbols?, symbols?_dots_append]
      have hwords : parameterModifier (gap ++ ("...".toList ++ v)) = none := by
        rw [parameterModifier, hskip]
        rfl
      simp only [List.length_append] at hle
      have hpattern := hg.pattern hF hp (by omega)
      have hr := (hg.consumes.pattern _).length_le hpattern
      have hannotation := annotation_of_led hg hF ht (by omega) (hend.endsType (by decide)) hcolon
      have hmark : skipOptional (symbol? '?') r = r :=
        skipOptional_of_none (symbol?_of_led ht (by decide) (by decide) hquestion)
      simp only [skipMany_of_none hwords, skipOptional_of_some hdots, hpattern, hmark, hannotation,
        Option.bind_eq_bind, Option.bind_some]
      rw [Grammar.initializer, hequals]

theorem readsItems_parameter (hg : g.ReadsForms k) (hF : F.IsLevel) :
    ReadsItems (IsMarkedParameter F) ')' g.parameter.reader k where
  opens h := by
    cases h with
    | plain h =>
        obtain ⟨c, r, rfl, hstarts, hsign⟩ := h.exists_cons hF
        simp only [List.mem_cons, List.not_mem_nil, or_false, not_or] at hsign
        exact ⟨c, r, rfl, skip_of_startsLexeme hstarts r, hsign.2.2, hsign.2.1⟩
    | decorator hd _ _ =>
        obtain ⟨r, rfl⟩ := hd.exists_mark
        exact ⟨'@', r, rfl, skip_of_startsLexeme (by decide) r, by decide, by decide⟩
  leaves := Skipper.reads (leaves_parameter hg.consumes)
  read h hs hend := by
    have hread := parameter_of_form hg hF h hs hend
    exact ⟨(), by rw [Skipper.reader, hread, Option.map_some]⟩

theorem parameters_of_form (hg : g.ReadsForms k) (hF : F.IsLevel)
    (h : Enclosed '(' (IsMarkedParameter F) ')' s t) (hs : s.length ≤ k) :
    g.parameters s = some t := by
  have hdepth := hg.depth
  obtain ⟨r, ho, hitems, hlength⟩ := h.length_lt
  rw [Grammar.parameters, ho.symbol?_eq (by decide), Option.bind_some]
  exact skipList_of_items (readsItems_parameter hg hF) (by decide) (by decide) hitems
    (by omega) g.depth (by omega)

/-- A sign that begins no pattern. -/
theorem readPattern_eq_none (g : Grammar) {c : Char} (hskip : skip s = c :: r)
    (hc : isWordStart c = false) (hb : c ∉ ['\\', '\x7b', '[']) : g.readPattern s = none := by
  simp only [List.mem_cons, List.not_mem_nil, or_false, not_or] at hb
  have hword : skipWord? (c :: r) = none := by
    rw [skipWord?, word?_of_sign hc hb.1, Option.map_none]
  rw [Grammar.readPattern, hskip]
  simp only [hb, if_false, hword]

theorem pattern_eq_none (hg : g.IsLevel) {c : Char} (hskip : skip s = c :: r)
    (hc : isWordStart c = false) (hb : c ∉ ['\\', '\x7b', '[']) : g.pattern s = none := by
  obtain ⟨dialect, line, n, rfl⟩ := hg
  cases n with
  | zero => rfl
  | succ n => exact readPattern_eq_none _ hskip hc hb

theorem readPattern_of_name (g : Grammar) {w : List Char} (hw : IsName w) (hskip : skip s = w ++ t)
    (hend : EndsWord t) : g.readPattern s = some t := by
  have hread := hw.skipWord?_append hend
  obtain ⟨c, r, hcons, -, hsign⟩ :=
    hw.exists_head t (show ['\x7b', '['].all (fun d => !isWordStart d) = true by decide)
  simp only [List.mem_cons, List.not_mem_nil, or_false, not_or] at hsign
  rw [hcons] at hskip hread
  rw [Grammar.readPattern, hskip]
  simp only [hsign, if_false, hread]

/-- Where a name is read as a pattern, it is skipped. -/
theorem pattern_of_name (hg : g.IsLevel) {w : List Char} (hw : IsName w) (hend : EndsWord t) :
    g.pattern (w ++ t) = none ∨ g.pattern (w ++ t) = some t := by
  obtain ⟨dialect, line, n, rfl⟩ := hg
  cases n with
  | zero => exact Or.inl rfl
  | succ n => exact Or.inr (readPattern_of_name _ hw (hw.skip_append t) hend)

theorem NextNot.exists_skip {words : List String} {signs : List Char} (h : NextNot words signs s)
    (hsigns : signs.all (fun d => !isWordStart d) = true) : ∃ d r, skip s = d :: r ∧ d ∉ signs := by
  cases h with
  | sign hg hstarts _ hnot =>
      exact ⟨_, _, hg.skip_append hstarts _, fun hmem => hnot (List.mem_cons_of_mem _ hmem)⟩
  | slash hg ht hnot => exact ⟨'/', _, hg.skip_of_skip (skip_of_slash ht), hnot⟩
  | word hg hw _ _ =>
      obtain ⟨d, r, hcons, -, hnot⟩ := hw.exists_head _ hsigns
      exact ⟨d, r, by rw [hg.skip_name hw, hcons], hnot⟩

/-- A word is skipped where a pattern is. -/
theorem pattern_of_word (hg : g.IsLevel) (hdepth : 0 < g.depth)
    (h : skipWord? (skip s) = some t) : g.pattern s = some t := by
  obtain ⟨dialect, line, n, rfl⟩ := hg
  cases n with
  | zero => exact absurd hdepth (Nat.lt_irrefl 0)
  | succ n =>
      show Grammar.readPattern _ s = some t
      cases hskip : skip s with
      | nil =>
          rw [hskip] at h
          cases h
      | cons c r =>
          rw [hskip] at h
          have hne {d : Char} (hd : isWordStart d = false) (hb : d ≠ '\\') : c ≠ d := by
            rintro rfl
            rw [skipWord?, word?_of_sign hd hb] at h
            cases h
          have hbrace : c ≠ '\x7b' := hne (by decide) (by decide)
          have hbracket : c ≠ '[' := hne (by decide) (by decide)
          rw [Grammar.readPattern, hskip]
          simp only [hbrace, hbracket, if_false, h]

/-- What begins as no parameter does is read as none, or something follows that ends none. -/
theorem parameter_of_noParameter (hg : g.IsLevel) (h : NoParameter s) :
    ∃ c r, skip s = c :: r ∧ c ≠ ')' ∧ c ≠ ',' ∧ (g.parameter (c :: r) = none ∨
      ∃ t d v, g.parameter (c :: r) = some t ∧ skip t = d :: v ∧ d ≠ ')' ∧ d ≠ ',') := by
  cases h with
  | @sign gap c t hgap hc =>
      have hsigns : ∀ c ∈ "\"'\x60(!~+-0123456789".toList, startsLexeme c = true ∧
          isWordStart c = false ∧ c ∉ ['\\', '\x7b', '['] ∧ c ≠ '@' ∧ c ≠ '.' ∧ c ≠ ')' ∧ c ≠ ',' :=
        forall_sign (by decide)
      obtain ⟨hstarts, hstart, hb, hmark, hpoint, hclose, hcomma⟩ := hsigns c hc
      have hskip := skip_of_startsLexeme hstarts t
      have hdecorator : g.skipDecorator (c :: t) = none :=
        skipDecorator_eq_none g (by rw [symbol?_of_skip hskip, if_neg hmark])
      have hmodifier : parameterModifier (c :: t) = none := by
        rw [parameterModifier, hskip, word?_of_sign hstart (fun h => hb (by simp [h]))]
      have hdots : symbols? "..." (c :: t) = none :=
        symbols?_of_ne (c := '.') (u := ['.', '.']) rfl hskip hpoint
      refine ⟨c, t, hgap.skip_append hstarts t, hclose, hcomma, Or.inl ?_⟩
      rw [Grammar.parameter]
      simp only [skipMany_of_none hdecorator, skipMany_of_none hmodifier,
        skipOptional_of_none hdots, pattern_eq_none hg hskip hstart hb, Option.bind_eq_bind,
        Option.bind_none]
  | @word gap w t hgap hw hfree hend hnext =>
      obtain ⟨d, v, hd, hnot⟩ := hnext.exists_skip (by decide)
      simp only [List.mem_cons, List.not_mem_nil, or_false, not_or] at hnot
      obtain ⟨c, r, hcons, hstarts, hsign⟩ := hw.exists_head t
        (show [')', ',', '@'].all (fun d => !isWordStart d) = true by decide)
      simp only [List.mem_cons, List.not_mem_nil, or_false, not_or] at hsign
      have hskip := hw.skip_append t
      have hdecorator : g.skipDecorator (w ++ t) = none :=
        skipDecorator_eq_none g (symbol?_of_name hw hskip (by decide))
      have hmodifier : parameterModifier (w ++ t) = none := by
        have hmem : ∀ v ∈ parameterModifiers, v ∈ "accessor" :: parameterWords := by decide
        rw [parameterModifier, hskip, hw.word?_append hend]
        simp [mt (hmem _) hfree]
      have hread : g.parameter (w ++ t) =
          (g.pattern (w ++ t)).bind fun r => (g.annotation (skipOptional (symbol? '?') r)).bind
            (g.initializer .inBrackets) := by
        rw [Grammar.parameter]
        simp only [skipMany_of_none hdecorator, skipMany_of_none hmodifier,
          skipOptional_of_none (hw.opens t).symbols?_eq_none]
        rfl
      refine ⟨c, r, by rw [hgap.skip_name hw, hcons], hsign.1, hsign.2.1, ?_⟩
      rw [← hcons, hread]
      obtain hnone | hsome := pattern_of_name hg hw hend
      · exact Or.inl (by rw [hnone, Option.bind_none])
      · have hquestion : symbol? '?' t = none := by rw [symbol?_of_skip hd, if_neg hnot.1]
        have hcolon : symbol? ':' t = none := by rw [symbol?_of_skip hd, if_neg hnot.2.1]
        have hequals : symbol? '=' t = none := by rw [symbol?_of_skip hd, if_neg hnot.2.2.1]
        refine Or.inr ⟨t, d, v, ?_, hd, hnot.2.2.2.2, hnot.2.2.2.1⟩
        rw [hsome, Option.bind_some, skipOptional_of_none hquestion, Grammar.annotation, hcolon]
        simp only [Option.bind_some]
        rw [Grammar.initializer, hequals]

/-- A text that begins as no parameter does is no list of parameters. -/
theorem parameters_eq_none (hg : g.IsLevel) (h : NoParameter r) (hs : symbol? '(' s = some r) :
    g.parameters s = none := by
  obtain ⟨c, v, hskip, hclose, hcomma, hread⟩ := parameter_of_noParameter hg h
  rw [Grammar.parameters, hs, Option.bind_some]
  cases g.depth with
  | zero => rfl
  | succ n =>
      rw [skipList, hskip]
      simp only [hclose, hcomma, if_false]
      obtain hnone | ⟨t, d, w, hsome, hd, hdclose, hdcomma⟩ := hread
      · rw [hnone]
      · simp only [hsome, hd, hdclose, hdcomma, if_false]

/-! ### Expressions that are skipped as parameters -/

theorem Grammar.GoesOn.endsAt (h : g.GoesOn t r) :
    r = t ∨ ∃ d u, skip r = d :: u ∧ d ∉ closers := by
  have hsigns : ∀ c ∈ closers, c ∈ itemSigns := forall_sign (by decide)
  cases h with
  | ended => exact Or.inl rfl
  | assigned hskip _ => exact Or.inr ⟨_, _, hskip, by decide⟩
  | further hskip hd =>
      exact Or.inr ⟨_, _, hskip, fun hmem => hd (List.mem_cons_of_mem _ (hsigns _ hmem))⟩
  | question hskip _ _ => exact Or.inr ⟨_, _, hskip, by decide⟩

theorem Grammar.GoesOn.colon (h : g.GoesOn t r) (ht : symbol? ':' t = none) :
    symbol? ':' r = none := by
  cases h with
  | ended => exact ht
  | assigned hskip _ => rw [symbol?_of_skip hskip, if_neg (by decide)]
  | further hskip hd => rw [symbol?_of_skip hskip, if_neg (by rintro rfl; exact hd (by decide))]
  | question hskip _ _ => rw [symbol?_of_skip hskip, if_neg (by decide)]

theorem endsAt_initializer_of_sign (g : Grammar) {d : Char} (hskip : skip r = d :: u)
    (hd : d ∉ itemSigns) (t : List Char) : EndsAt (g.initializer .inBrackets r) t := by
  have hsigns : ∀ c ∈ closers, c ∈ itemSigns := forall_sign (by decide)
  have hequals : symbol? '=' r = none := by
    rw [symbol?_of_skip hskip, if_neg (by rintro rfl; exact hd (by decide))]
  rw [Grammar.initializer, hequals]
  rintro v hv
  obtain rfl := Option.some.inj hv
  exact Or.inr ⟨d, u, hskip, mt (hsigns d) hd⟩

/-- With a default value, a pattern with which an expression begins is the expression, or something
follows that ends no item. -/
theorem Grammar.GoesOn.initializer (h : g.GoesOn t r) (ht : Closes t) :
    EndsAt (g.initializer .inBrackets r) t := by
  cases h with
  | ended =>
      rw [Grammar.initializer, ht.symbol?_eq_none (by decide)]
      exact endsAt_self t
  | assigned hskip hread =>
      rw [Grammar.initializer, symbol?_of_skip hskip, if_pos rfl]
      intro u hu
      obtain ⟨p, hp, rfl⟩ := Option.map_eq_some_iff.1 hu
      exact Or.inl (hread p.1 p.2 hp)
  | further hskip hd =>
      exact endsAt_initializer_of_sign g hskip (fun hmem => hd (List.mem_cons_of_mem _ hmem)) t
  | question hskip _ _ => exact endsAt_initializer_of_sign g hskip (by decide) t

/-- The same goes for a parameter, which may have a type. -/
theorem Grammar.GoesOn.parameter (h : g.GoesOn t r) (ht : Closes t) :
    EndsAt ((g.annotation (skipOptional (symbol? '?') r)).bind (g.initializer .inBrackets)) t := by
  have hplain (hquestion : symbol? '?' r = none) (hcolon : symbol? ':' r = none) :
      (g.annotation (skipOptional (symbol? '?') r)).bind (g.initializer .inBrackets) =
        g.initializer .inBrackets r := by
    rw [skipOptional_of_none hquestion, Grammar.annotation, hcolon]
    rfl
  cases h with
  | ended =>
      rw [hplain (ht.symbol?_eq_none (by decide)) (ht.symbol?_eq_none (by decide))]
      exact Grammar.GoesOn.ended.initializer ht
  | assigned hskip hread =>
      rw [hplain (by rw [symbol?_of_skip hskip, if_neg (by decide)])
        (by rw [symbol?_of_skip hskip, if_neg (by decide)])]
      exact (Grammar.GoesOn.assigned hskip hread).initializer ht
  | @further _ _ d hskip hd =>
      rw [hplain (by rw [symbol?_of_skip hskip, if_neg (by rintro rfl; exact hd (by decide))])
        (by rw [symbol?_of_skip hskip, if_neg (by rintro rfl; exact hd (by decide))])]
      exact (Grammar.GoesOn.further hskip hd).initializer ht
  | @question _ r u d hskip hnext hd =>
      have hquestion := (symbol?_of_skip hskip '?').trans (if_pos rfl)
      have hcolon : symbol? ':' r = none := by
        rw [symbol?_of_skip hnext, if_neg (by rintro rfl; exact hd (by decide))]
      rw [skipOptional_of_some hquestion, Grammar.annotation, hcolon]
      exact endsAt_initializer_of_sign g hnext hd t

theorem Grammar.Covers.endsAt (h : g.Covers s t) : EndsAt (g.pattern s) t := fun r hr =>
  (h r hr).endsAt

theorem Grammar.Covers.initializer (h : g.Covers s t) (ht : Closes t) :
    EndsAt ((g.pattern s).bind (g.initializer .inBrackets)) t :=
  endsAt_bind fun r hr => (h r hr).initializer ht

/-- An expression is skipped as a parameter, or something follows that ends none. -/
theorem coversItems_unmarked (hg : g.ReadsForms k) (hF : F.IsLevel) :
    CoversItems (Unmarked F) ')' g.parameter k where
  opens h := by
    cases h with
    | sign _ h => exact (hF.opens_expression h).item (by decide)
    | word _ _ _ h => exact (hF.opens_expression h).item (by decide)
  leaves := leaves_parameter hg.consumes
  ends {s t} h hs hend := by
    obtain ⟨hexpression, hmodifier⟩ : F.expression s t ∧ parameterModifier s = none := by
      cases h with
      | sign hc h =>
          have hsigns : ∀ c ∈ "\"'\x60(!~+-0123456789[\x7b/".toList, isWordStart c = false ∧
              c ≠ '\\' := forall_sign (by decide)
          obtain ⟨hstart, hb⟩ := hsigns _ hc
          refine ⟨h, ?_⟩
          rw [parameterModifier, (hF.opens_expression h).skip_eq, word?_of_sign hstart hb]
      | @word w s _ hw hend hfree h =>
          have hmem : ∀ v ∈ parameterModifiers, v ∈ "accessor" :: parameterWords := by decide
          refine ⟨h, ?_⟩
          rw [parameterModifier, hw.skip_append, hw.word?_append hend]
          simp [mt (hmem _) hfree]
    have hopens := hF.opens_expression hexpression
    obtain ⟨c, r, rfl, hself, hnot⟩ := hopens.exists_cons
    have hmark : c ≠ '@' := by
      rintro rfl
      exact hnot (by decide)
    have hdecorator : g.skipDecorator (c :: r) = none := skipDecorator_eq_none g
      (by rw [symbol?_of_skip hself, if_neg hmark])
    have hread : g.parameter (c :: r) =
        (g.pattern (c :: r)).bind fun r => (g.annotation (skipOptional (symbol? '?') r)).bind
          (g.initializer .inBrackets) := by
      rw [Grammar.parameter]
      simp only [skipMany_of_none hdecorator, skipMany_of_none hmodifier,
        skipOptional_of_none hopens.symbols?_eq_none]
      rfl
    have hcloses := hend.closes (by decide)
    have hcover := hg.cover hF (spaced_of_item hexpression) hs hcloses
    rw [hread]
    exact endsAt_bind fun u hu => (hcover u hu).parameter hcloses

/-- Where expressions in parentheses are skipped as parameters, all of them are. -/
theorem parameters_of_group (hg : g.ReadsForms k) (hF : F.IsLevel)
    (h : Sequenced (Unmarked F) r u) (hc : Sign ')' u t) (hr : r.length < k)
    (hs : symbol? '(' s = some r) : ∀ v, g.parameters s = some v → v = t := by
  intro v hv
  rw [Grammar.parameters, hs, Option.bind_some] at hv
  exact skipList_endsAt (coversItems_unmarked hg hF) (by decide)
    (items_of_sequenced h hc).elements hr _ v hv

end Parameters

/-! ### Signatures -/

section Signatures

variable {F : Forms} {g : Grammar} {k : Nat} {s t r u : List Char}

/-- A sign ends the name of a type parameter. -/
theorem nextWord?_of_sign {d : Char} (h : skip s = d :: r) (hd : isWordStart d = false)
    (hb : d ≠ '\\') : nextWord? s = none := by
  rw [nextWord?, h, word?_of_sign hd hb, Option.map_none]

theorem nextWord?_of_name {w : List Char} (hskip : skip s = w ++ r) (hw : IsName w)
    (hend : EndsWord r) : nextWord? s = some (String.ofList w) := by
  rw [nextWord?, hskip, hw.word?_append hend, Option.map_some]

theorem typeDefault_of_none (g : Grammar) (h : symbol? '=' s = none) :
    (match symbol? '=' s with
      | some r => g.type r
      | none => some s) = some s := by
  rw [h]

theorem typeDefault_of_led (hg : g.ReadsForms k) (hF : F.IsLevel) (h : Led '=' F.type s t)
    (hs : s.length ≤ k) (hend : EndsItem '>' t) :
    (match symbol? '=' s with
      | some r => g.type r
      | none => some s) = some t := by
  have hequals : symbol? '=' t = none := hend.symbol?_eq_none (by decide) (by decide)
  cases h with
  | none => exact typeDefault_of_none g hequals
  | some hsign h =>
      have hlength := hsign.length_lt
      rw [hsign.symbol?_eq (by decide)]
      exact hg.type hF h (by omega) (hend.endsType (by decide))

theorem exists_sign_of_led {Item : Form} (h : Led '=' Item s t) (hend : EndsItem '>' t) :
    ∃ d r, skip s = d :: r ∧ isWordStart d = false ∧ d ≠ '\\' := by
  cases h with
  | some h _ => exact ⟨'=', _, h.skip_eq (by decide), by decide, by decide⟩
  | none =>
      obtain ⟨d, r, hskip, rfl | rfl⟩ := hend
      · exact ⟨',', r, hskip, by decide, by decide⟩
      · exact ⟨'>', r, hskip, by decide, by decide⟩

/-- Skips a word in front of a type parameter. -/
def typeModifier : Skipper := fun s =>
  match word? (skip s) with
  | some (w, r) =>
    if w ∈ ["const", "in", "out"] ∧ (nextWord? r).any (· != "extends") then some r else none
  | none => none

def Grammar.boundedParameter (g : Grammar) : Skipper := fun s => do
  let r ← skipWord? (skip s)
  let r ←
    match keyword? "extends" r with
    | some r => g.type r
    | none => some r
  match symbol? '=' r with
  | some r => g.type r
  | none => some r

theorem typeParameter_eq (g : Grammar) (s : List Char) :
    g.typeParameter s = g.boundedParameter (skipMany typeModifier g.depth s) := rfl

theorem typeModifier_of_name {gap w : List Char} (hgap : Gap gap) (hw : IsName w)
    (hend : EndsWord r) :
    typeModifier (gap ++ (w ++ r)) =
      if String.ofList w ∈ ["const", "in", "out"] ∧ (nextWord? r).any (· != "extends") then some r
      else none := by
  rw [typeModifier, hgap.skip_name hw, hw.word?_append hend]

theorem TypeParameterItem.exists_name (h : TypeParameterItem F s t) :
    ∃ w r, s = w ++ r ∧ IsName w ∧ EndsWord r := by
  cases h with
  | plain h =>
      cases h with
      | plain hw hend _ => exact ⟨_, _, rfl, hw, hend⟩
      | bounded hw hend _ _ _ => exact ⟨_, _, rfl, hw, hend⟩
  | word hw hgap hne _ _ =>
      exact ⟨_, _, rfl, isName_of_mem (by decide) hw, hgap.endsWord hne _⟩

/-- What follows the name of a type parameter is no other name of one. -/
theorem IsTypeParameter.typeModifier_eq_none (h : IsTypeParameter F s t) (hend : EndsItem '>' t)
    {gap : List Char} (hgap : Gap gap) : typeModifier (gap ++ s) = none := by
  cases h with
  | plain hw hend' hd =>
      obtain ⟨d, r, hskip, hstart, hb⟩ := exists_sign_of_led hd hend
      rw [typeModifier_of_name hgap hw hend', nextWord?_of_sign hskip hstart hb]
      simp
  | bounded hw hend' hk _ _ =>
      have hname : IsName "extends".toList := by decide
      obtain ⟨hskip, hr⟩ := hk.skip_eq hname
      rw [typeModifier_of_name hgap hw hend', nextWord?_of_name hskip hname hr]
      simp

/-- The words in front of a type parameter are skipped. -/
theorem exists_skipMany_typeModifier (h : TypeParameterItem F s t) (hend : EndsItem '>' t)
    {gap : List Char} (hgap : Gap gap) :
    ∃ u, Spaced (IsTypeParameter F) u t ∧ u.length ≤ (gap ++ s).length ∧
      ∀ n, (gap ++ s).length ≤ n → skipMany typeModifier n (gap ++ s) = u := by
  induction h generalizing gap with
  | plain h =>
      exact ⟨_, .mk hgap h, Nat.le_refl _,
        fun n _ => skipMany_of_none (h.typeModifier_eq_none hend hgap) n⟩
  | @word w gap' s t hw hgap' hne hno h ih =>
      obtain ⟨u, hu, hle, hmany⟩ := ih hend hgap'
      obtain ⟨v, r, rfl, hv, hr⟩ := h.exists_name
      have hname : IsName w.toList := isName_of_mem (by decide) hw
      have hextends : String.ofList v ≠ "extends" := by
        have hnone := hno.keyword?_eq_none (List.mem_singleton.2 rfl)
        rw [keyword?_of_name hv (hv.skip_append r) hr] at hnone
        exact fun heq => absurd hnone (by simp [heq])
      have hsome : typeModifier (gap ++ (w.toList ++ (gap' ++ (v ++ r)))) =
          some (gap' ++ (v ++ r)) := by
        rw [typeModifier_of_name hgap hname (hgap'.endsWord hne _), String.ofList_toList,
          nextWord?_of_name (hgap'.skip_name hv r) hv hr, if_pos]
        exact ⟨hw, by simpa using hextends⟩
      refine ⟨u, hu, ?_, skipMany_of_some hsome ⟨gap ++ w.toList, by simp⟩ hmany⟩
      simp only [List.length_append] at hle ⊢
      omega

theorem boundedParameter_of_form (hg : g.ReadsForms k) (hF : F.IsLevel)
    (h : Spaced (IsTypeParameter F) s t) (hs : s.length < k) (hend : EndsItem '>' t) :
    g.boundedParameter s = some t := by
  obtain @⟨gap, s, _, hgap, h⟩ := h
  rw [List.length_append] at hs
  cases h with
  | @plain w u _ hw hend' hd =>
      rw [List.length_append] at hs
      obtain ⟨d, r, hskip, hstart, hb⟩ := exists_sign_of_led hd hend
      rw [Grammar.boundedParameter, hgap.skip_name hw, hw.skipWord?_append hend']
      simp only [Option.bind_eq_bind, Option.bind_some, keyword?_of_sign hskip hstart hb]
      exact typeDefault_of_led hg hF hd (by omega) hend
  | @bounded w u r v _ hw hend' hk hb hd =>
      rw [List.length_append] at hs
      have hle := hk.length_le
      have htype := hg.type hF hb (by omega)
        (endsType_of_led hd (by decide) (by decide) (hend.endsType (by decide)))
      have hv := (hg.consumes.type r).length_le htype
      rw [Grammar.boundedParameter, hgap.skip_name hw, hw.skipWord?_append hend']
      simp only [Option.bind_eq_bind, Option.bind_some, hk.keyword?_eq (show IsName _ by decide),
        htype]
      exact typeDefault_of_led hg hF hd (by omega) hend

/-- A type parameter is skipped up to the end of its place in the list. -/
theorem typeParameter_of_form (hg : g.ReadsForms k) (hF : F.IsLevel) (h : TypeParameterItem F s t)
    (hs : s.length < k) (hend : EndsItem '>' t) : g.typeParameter s = some t := by
  have hdepth := hg.depth
  obtain ⟨u, hu, hle, hmany⟩ := exists_skipMany_typeModifier h hend Gap.nil
  rw [List.nil_append] at hle hmany
  rw [typeParameter_eq, hmany g.depth (by omega)]
  exact boundedParameter_of_form hg hF hu (by omega) hend

theorem readsItems_typeParameter (hg : g.ReadsForms k) (hF : F.IsLevel) :
    ReadsItems (TypeParameterItem F) '>' g.typeParameter.reader k where
  opens h := by
    obtain ⟨w, r, rfl, hw, -⟩ := h.exists_name
    exact (hw.opens r).item (by decide)
  leaves := Skipper.reads (leaves_typeParameter hg.consumes)
  read h hs hend := by
    have hread := typeParameter_of_form hg hF h hs hend
    exact ⟨(), by rw [Skipper.reader, hread, Option.map_some]⟩

theorem typeParameters_eq_none (g : Grammar) (h : symbol? '<' s = none) :
    g.typeParameters s = none := by
  rw [Grammar.typeParameters, h, Option.bind_none]

/-- Type parameters are skipped if they are there. -/
theorem skipOptional_typeParameters_of_form (hg : g.ReadsForms k) (hF : F.IsLevel)
    (h : Opt (Enclosed '<' (TypeParameterItem F) '>') s t) (hs : s.length ≤ k)
    (ht : symbol? '<' t = none) :
    skipOptional g.typeParameters s = t ∧ t.length ≤ s.length := by
  have hdepth := hg.depth
  have hsuffix := skipOptional_suffix (leaves_typeParameters hg.consumes) s
  have hread : skipOptional g.typeParameters s = t := by
    cases h with
    | none => exact skipOptional_of_none (typeParameters_eq_none g ht)
    | some h =>
        obtain ⟨r, ho, hitems, hlength⟩ := h.length_lt
        refine skipOptional_of_some ?_
        rw [Grammar.typeParameters, ho.symbol?_eq (by decide), Option.bind_some]
        exact skipList_of_items (readsItems_typeParameter hg hF) (by decide) (by decide) hitems
          (by omega) g.depth (by omega)
  exact ⟨hread, (hread ▸ hsuffix).length_le⟩

/-- A signature is skipped to its end. -/
theorem signature_of_form (hg : g.ReadsForms k) (hF : F.IsLevel) (h : IsSignature F s t)
    (hs : s.length ≤ k) (ht : EndsType t) (hcolon : symbol? ':' t = none) :
    g.signature s = some t := by
  obtain @⟨_, r, u, _, htypes, hp, hresult⟩ := h
  obtain ⟨v, ho, -, -⟩ := hp.length_lt
  have hless : symbol? '<' r = none := ho.symbol?_eq_none (by decide) (by decide)
  obtain ⟨htypes, hr⟩ := skipOptional_typeParameters_of_form hg hF htypes hs hless
  have hparameters := parameters_of_form hg hF hp (by omega)
  have hu := (leaves_parameters hg.consumes r).length_le hparameters
  rw [Grammar.signature, htypes, hparameters]
  exact annotation_of_led hg hF hresult (by omega) ht hcolon

end Signatures

end DecoratorGraph.Script
