import DecoratorGraph.Proofs.Script.Types

/-!
# Reading operators

An operator ends the operand in front of it, and the longest sign that stands there is read. The
signs that could open a list of types are operators where no such list follows (`NoTypes`), since
types are read as far as they go before it is seen whether the list is closed.
-/

namespace DecoratorGraph.Script

variable {F : Forms} {g : Grammar} {k : Nat} {s t r : List Char} {c d : Char} {place : Place}
variable {signs : List Char}

/-! ### Where no list of types stands -/

theorem NoTypeTail.endsType (h : NoTypeTail signs t) (hsigns : signs ∈ [[',', '>'], [')']]) :
    EndsType t ∧ ∃ d r, skip t = d :: r ∧ d ∉ signs := by
  have hfree : ∀ signs ∈ [[',', '>'], [')']], '|' ∉ signs ∧ '&' ∉ signs ∧
      signs.all (fun d => !isWordStart d) = true := by decide
  obtain ⟨hbar, hand, hall⟩ := hfree signs hsigns
  have hdouble {c : Char} (hc : c ∈ ['|', '&']) {u : List Char} (hskip : skip t = c :: c :: u) :
      EndsType t := by
    have hsigns : ∀ c ∈ ['|', '&'], c ∉ ['.', '<', '[', '\\'] ∧ isWordStart c = false :=
      forall_sign (by decide)
    obtain ⟨hnot, hstart⟩ := hsigns c hc
    simp only [List.mem_cons, List.not_mem_nil, or_false, not_or] at hnot
    have hkeyword (w : String) : keyword? w t = none :=
      keyword?_of_sign hskip hstart hnot.2.2.2 w
    exact {
      point := by rw [symbol?_of_skip hskip, if_neg hnot.1]
      arguments := by rw [symbol?_of_skip hskip, if_neg hnot.2.1]
      bracket := Or.inr (by rw [symbol?_of_skip hskip, if_neg hnot.2.2.1])
      union := by
        rw [unionSign, hskip]
        simp
      condition := hkeyword "extends"
      predicate := Or.inr (hkeyword "is") }
  cases h with
  | next h =>
      cases h with
      | @sign g c t hg hstarts hpart hnot =>
          have hskip := hg.skip_append hstarts t
          simp only [List.mem_cons, List.mem_append, List.not_mem_nil, or_false, not_or] at hnot
          exact ⟨endsType_of_sign hskip (by simp [hnot]) hpart, c, t, hskip, hnot.2.2⟩
      | @slash g t hg ht hnot =>
          have hskip := hg.skip_of_skip (skip_of_slash ht)
          rw [List.mem_append, not_or] at hnot
          exact ⟨endsType_of_sign hskip (by decide) (by decide), '/', t, hskip, hnot.2⟩
      | @word g w t hg hw hend hnot =>
          have hskip := hg.skip_name hw t
          simp only [List.mem_cons, List.not_mem_nil, or_false, not_or] at hnot
          obtain ⟨d, u, hcons, -, hsign⟩ := hw.exists_head t hall
          exact ⟨endsType_of_name hskip hw hend hnot.1 (Or.inr hnot.2), d, u, hskip.trans hcons,
            hsign⟩
  | @double g c t hg hc =>
      have hstarts : ∀ c ∈ ['|', '&'], startsLexeme c = true := forall_sign (by decide)
      have hskip := hg.skip_append (hstarts c hc) (c :: t)
      refine ⟨hdouble hc hskip, c, c :: t, hskip, ?_⟩
      simp only [List.mem_cons, List.not_mem_nil, or_false] at hc
      obtain rfl | rfl := hc
      · exact hbar
      · exact hand

/-- A text that begins with a sign is no type if nothing without brackets stands there. -/
theorem readType_eq_none (hskip : skip s = c :: r) (hstart : isWordStart c = false)
    (hnot : c ∉ ['\\', '|', '&', '?']) (h : g.primaryType s = none) : g.readType s = none := by
  simp only [List.mem_cons, List.not_mem_nil, or_false, not_or] at hnot
  have hword : word? (c :: r) = none := word?_of_sign hstart hnot.1 r
  have hkeyword (w : String) : keyword? w s = none := keyword?_of_sign hskip hstart hnot.1 w
  have hunion : skipOptional unionSign s = s :=
    skipOptional_of_none (unionSign_of_skip hskip (by simp [hnot]))
  have hoperator : typeOperator s = none := by
    rw [typeOperator, hskip, hword]
    show symbol? '?' s = none
    rw [symbol?_of_skip hskip, if_neg hnot.2.2.2]
  have hinferred (constraint : Skipper) : g.inferredType constraint s = none := by
    rw [Grammar.inferredType, hkeyword]
    rfl
  have hoperand : g.typeOperand s = none := by
    rw [Grammar.typeOperand]
    simp only [skipMany_of_none hoperator, hinferred, h, Option.map_none]
  have hsubject : skipWord? (skip s) = none := by
    rw [skipWord?, hskip, hword, Option.map_none]
  rw [Grammar.readType]
  simp only [hkeyword, Option.filter_none, Option.getD_none, hsubject, Option.bind_none,
    Grammar.unionType, hunion, hoperand, Option.bind_eq_bind]

theorem primaryType_of_sign (g : Grammar) (hskip : skip s = c :: r) (hc : c ∈ "!~+.#@=".toList) :
    g.primaryType s = none := by
  have hsigns : ∀ c ∈ "!~+.#@=".toList, c ∉ ['(', '<', '[', '\x7b', '"', '\'', '\x60', '*', '-'] ∧
      c.isDigit = false ∧ isWordStart c = false ∧ c ≠ '\\' := forall_sign (by decide)
  obtain ⟨hnot, hdigit, hstart, hb⟩ := hsigns c hc
  simp only [List.mem_cons, List.not_mem_nil, or_false, not_or] at hnot
  rw [Grammar.primaryType, hskip]
  simp only [hnot, hdigit, or_self, if_false, Bool.false_eq_true, word?_of_sign hstart hb]

/-- Behind a second `<` no type parameters are closed. -/
theorem typeParameters_of_noTypeParameter (g : Grammar) (h : NoTypeParameter s)
    (hs : symbol? '<' r = some s) : g.typeParameters r = none := by
  obtain ⟨c, u, hskip, hclose, hcomma, hread⟩ : ∃ c u, skip s = c :: u ∧ c ≠ '>' ∧ c ≠ ',' ∧
      (g.typeParameter (c :: u) = none ∨ ∃ t d v, g.typeParameter (c :: u) = some t ∧
        skip t = d :: v ∧ d ≠ '>' ∧ d ≠ ',') := by
    cases h with
    | @sign gap c t hgap hc hpart hnot =>
        simp only [List.mem_cons, List.not_mem_nil, or_false, not_or] at hnot
        have hstart : isWordStart c = false := by
          simp [isWordStart, hpart]
        have hword : word? (c :: t) = none := word?_of_sign hstart hnot.1 t
        refine ⟨c, t, hgap.skip_append hc t, hnot.2.2, hnot.2.1, Or.inl ?_⟩
        unfold Grammar.typeParameter
        extract_lets modifier
        have hmany : skipMany modifier g.depth (c :: t) = c :: t := by
          refine skipMany_of_none ?_ _
          simp only [modifier, skip_of_startsLexeme hc, hword]
        rw [hmany, skip_of_startsLexeme hc, skipWord?, hword]
        rfl
    | @word gap w t hgap hw hfree hend hnext =>
        obtain ⟨d, v, hd, hnot⟩ := hnext.exists_skip (by decide)
        simp only [List.mem_cons, List.not_mem_nil, or_false, not_or] at hnot
        obtain ⟨c, u, hcons, -, hsign⟩ := hw.exists_head t
          (show [',', '>'].all (fun d => !isWordStart d) = true by decide)
        simp only [List.mem_cons, List.not_mem_nil, or_false, not_or] at hsign
        refine ⟨c, u, by rw [hgap.skip_name hw, hcons], hsign.2, hsign.1, Or.inr
          ⟨t, d, v, ?_, hd, hnot.2.2, hnot.2.1⟩⟩
        unfold Grammar.typeParameter
        extract_lets modifier
        have hmany : skipMany modifier g.depth (w ++ t) = w ++ t := by
          refine skipMany_of_none ?_ _
          simp only [modifier, hw.skip_append, hw.word?_append hend, hfree, false_and, if_false]
        rw [← hcons, hmany, hw.skip_append, hw.skipWord?_append hend]
        simp only [Option.bind_eq_bind, Option.bind_some,
          hnext.keyword?_eq_none (List.mem_singleton.2 rfl)]
        exact typeDefault_of_none g (by rw [symbol?_of_skip hd, if_neg hnot.1])
  rw [Grammar.typeParameters, hs, Option.bind_some]
  cases g.depth with
  | zero => rfl
  | succ n =>
      rw [skipList, hskip]
      simp only [hclose, hcomma, if_false]
      obtain hnone | ⟨t, d, v, hsome, hd, hdclose, hdcomma⟩ := hread
      · rw [hnone]
      · simp only [hsome, hd, hdclose, hdcomma, if_false]

theorem NoType.skip_eq (hF : F.IsLevel) (h : NoType F signs s)
    (hsigns : signs ∈ [[',', '>'], [')']]) :
    ∃ c r, skip s = c :: r ∧ c ∉ signs ∧ NoType F signs (c :: r) := by
  have hall : ∀ signs ∈ [[',', '>'], [')']],
      signs.all (fun c => c ∈ nonOpeners ∧ c ∉ "!~+.#@=(<".toList) = true := by decide
  have hfree : ∀ c ∈ signs, c ∈ nonOpeners ∧ c ∉ "!~+.#@=(<".toList :=
    forall_sign (hall signs hsigns)
  cases h with
  | @ended _ s t h ht =>
      obtain @⟨gap, s, _, hgap, h⟩ := h
      obtain ⟨c, r, rfl, hself, hopener⟩ := (hF.opens_type h).exists_cons
      refine ⟨c, r, hgap.skip_of_skip hself, fun hmem => ?_, .ended (spaced_of_item h) ht⟩
      obtain ⟨hc, hnot⟩ := hfree c hmem
      obtain rfl := hopener hc
      exact hnot (by decide)
  | @sign _ gap c s hgap hc =>
      have hstarts : ∀ c ∈ "!~+.#@=".toList, startsLexeme c = true ∧ c ∈ "!~+.#@=(<".toList :=
        forall_sign (by decide)
      exact ⟨c, s, hgap.skip_append (hstarts c hc).1 s,
        fun hmem => (hfree c hmem).2 (hstarts c hc).2, .sign (g := []) .nil hc⟩
  | @parens _ gap s hgap hno h =>
      exact ⟨'(', s, hgap.skip_append (by decide) s,
        fun hmem => (hfree _ hmem).2 (by decide), .parens (g := []) .nil hno h⟩
  | @angle _ gap s hgap h =>
      exact ⟨'<', s, hgap.skip_append (by decide) s,
        fun hmem => (hfree _ hmem).2 (by decide), .angle (g := []) .nil h⟩

/-- What no grammar one level below reads as a type is none. -/
theorem Grammar.ReadsTypes.type_eq_none (hg : g.ReadsTypes k) (hs : s.length < k)
    (h : ∀ {g' : Grammar} {k' : Nat}, g'.ReadsTypes k' → s.length ≤ k' → g'.readType s = none) :
    g.type s = none := by
  cases hg with
  | empty => rfl
  | deeper hg _ => exact h hg (Nat.le_of_lt_succ hs)

/-- What begins as no type that one of the signs ends is read as none, or something else ends it. -/
theorem NoType.type_eq (hF : F.IsLevel) (h : NoType F signs s)
    (hsigns : signs ∈ [[',', '>'], [')']]) (hg : g.ReadsTypes k) (hs : s.length < k) :
    g.type s = none ∨ ∃ t d r, g.type s = some t ∧ skip t = d :: r ∧ d ∉ signs := by
  induction h generalizing g k with
  | ended h ht =>
      obtain ⟨hend, d, r, hskip, hd⟩ := ht.endsType hsigns
      exact Or.inr ⟨_, d, r, hg.type hF h hs hend, hskip, hd⟩
  | @sign _ gap c s hgap hc =>
      have hc' : ∀ c ∈ "!~+.#@=".toList, startsLexeme c = true ∧ isWordStart c = false ∧
          c ∉ ['\\', '|', '&', '?'] := forall_sign (by decide)
      obtain ⟨hstarts, hstart, hnot⟩ := hc' c hc
      have hskip := hgap.skip_append hstarts s
      exact Or.inl (hg.type_eq_none hs fun _ _ =>
        readType_eq_none hskip hstart hnot (primaryType_of_sign _ hskip hc))
  | @parens _ gap s hgap hno _ ih =>
      have hskip : skip (gap ++ '(' :: s) = '(' :: s := hgap.skip_append (by decide) s
      refine Or.inl (hg.type_eq_none hs fun {g' k'} hg' hle => ?_)
      simp only [List.length_append, List.length_cons] at hle
      have hopen : symbol? '(' ('(' :: s) = some s := by
        rw [symbol?_of_skip (skip_of_startsLexeme (by decide) s), if_pos rfl]
      have hless : symbol? '<' ('(' :: s) = none := by
        rw [symbol?_of_skip (skip_of_startsLexeme (by decide) s), if_neg (by decide)]
      have hfunction : g'.functionType ('(' :: s) = none := by
        rw [Grammar.functionType, skipOptional_of_none (typeParameters_eq_none g' hless),
          parameters_eq_none hg'.level hno hopen]
        rfl
      refine readType_eq_none hskip (by decide) (by decide) ?_
      rw [Grammar.primaryType, hskip]
      simp only [if_true, hfunction]
      obtain hnone | ⟨t, d, r, hsome, hd, hnot⟩ := ih (by decide) hg' (by omega)
      · rw [hnone, Option.bind_none]
      · rw [hsome, Option.bind_some, symbol?_of_skip hd,
          if_neg fun heq => hnot (List.mem_singleton.2 heq)]
  | @angle _ gap s hgap h =>
      have hskip : skip (gap ++ '<' :: s) = '<' :: s := hgap.skip_append (by decide) s
      have hself : skip ('<' :: s) = '<' :: s := skip_of_startsLexeme (by decide) s
      refine Or.inl (hg.type_eq_none hs fun {g' k'} _ _ =>
        readType_eq_none hskip (by decide) (by decide) ?_)
      have hopen : symbol? '<' ('<' :: s) = some s := by
        rw [symbol?_of_skip hself, if_pos rfl]
      have hparameters : g'.parameters ('<' :: s) = none := by
        rw [Grammar.parameters, symbol?_of_skip hself, if_neg (by decide), Option.bind_none]
      rw [Grammar.primaryType, hskip]
      simp only [Char.reduceEq, if_false, if_true, Grammar.functionType,
        skipOptional_of_none (typeParameters_of_noTypeParameter g' h hopen), hparameters,
        Option.bind_eq_bind, Option.bind_none]

/-- A text that is no list of types is not read as one. -/
theorem skipList_of_noTypes (hF : F.IsLevel) (h : NoTypes F s) (hg : g.ReadsTypes k)
    (hs : s.length < k) (n : Nat) : skipList '>' g.type n s = none := by
  induction h generalizing n with
  | @here s h =>
      have hsigns : [',', '>'] ∈ [[',', '>'], [')']] := by decide
      obtain ⟨c, r, hskip, hnot, h⟩ := h.skip_eq hF hsigns
      simp only [List.mem_cons, List.not_mem_nil, or_false, not_or] at hnot
      cases n with
      | zero => rfl
      | succ n =>
          have hle := (skip_suffix s).length_le
          rw [hskip] at hle
          rw [skipList, hskip]
          simp only [hnot, if_false]
          obtain hnone | ⟨t, d, u, hsome, hd, hdnot⟩ := h.type_eq hF hsigns hg (by omega)
          · rw [hnone]
          · simp only [List.mem_cons, List.not_mem_nil, or_false, not_or] at hdnot
            simp only [hsome, hd, hdnot, if_false]
  | @further s r u h hc _ ih =>
      obtain @⟨gap, s, _, hgap, h⟩ := h
      obtain ⟨c, v, rfl, hself, hopener⟩ := (hF.opens_type h).exists_cons
      have hclose : c ≠ '>' := by
        rintro rfl
        exact absurd (hopener (by decide)) (by decide)
      have hcomma : c ≠ ',' := by
        rintro rfl
        exact absurd (hopener (by decide)) (by decide)
      have hsign := hc.skip_eq (by decide)
      rw [List.length_append] at hs
      have hread := hg.type hF (spaced_of_item h) (by omega)
        (endsType_of_sign hsign (by decide) (by decide))
      have hr := (hg.consumes.type _).length_le hread
      have hu := hc.length_lt
      cases n with
      | zero => rfl
      | succ n =>
          rw [skipList, hgap.skip_of_skip hself]
          simp only [hclose, hcomma, if_false, hread, hsign, Char.reduceEq, if_true]
          exact ih (by omega) n

/-- A sign that opens no list of types is no suffix. -/
theorem suffix_eq_none_of_noTypes (hF : F.IsLevel) (h : NoTypes F r) (hskip : skip t = '<' :: r)
    (hg : g.ReadsTypes k) (ht : t.length ≤ k) (start : List Char) (e : Expr) :
    g.suffix start e t = none := by
  have hle := (skip_suffix t).length_le
  rw [hskip, List.length_cons] at hle
  have hopen : symbol? '<' ('<' :: r) = some r := by
    rw [symbol?_of_skip (skip_of_startsLexeme (by decide) r), if_pos rfl]
  have hown : g.ownTypeArguments ('<' :: r) = none := by
    rw [Grammar.ownTypeArguments, Grammar.typeArguments, hopen, Option.bind_some,
      skipList_of_noTypes hF h hg (by omega), Option.filter_none]
  have hstep : isStep ('<' :: r) = false := rfl
  rw [Grammar.suffix, hskip]
  simp only [Char.reduceEq, or_self, if_false, false_and, hstep, Bool.false_eq_true, if_true, hown]

/-! ### Operators -/

theorem firstAhead?_eq {texts : List String} {op : String}
    (hop : texts.find? (fun text => text.toList.isPrefixOf op.toList) = some op)
    (hlong : ∀ text ∈ texts, text.toList <+: op.toList ++ t → text.length ≤ op.length) :
    firstAhead? texts (op.toList ++ t) = some (op, t) := by
  induction texts with
  | nil => simp at hop
  | cons text texts ih =>
      rw [List.forall_mem_cons] at hlong
      by_cases hprefix : text.toList <+: op.toList
      · -- The first text that the operator begins with is the operator.
        obtain rfl : text = op := by
          simpa [List.find?_cons, List.isPrefixOf_iff_prefix.2 hprefix] using hop
        have hahead : ahead? text (text.toList ++ t) = some t := by
          rw [ahead?, if_pos (List.isPrefixOf_iff_prefix.2 ⟨t, rfl⟩), ← String.length_toList,
            List.drop_left]
        rw [firstAhead?, List.findSome?_cons, hahead]
        rfl
      · have hnot : ¬text.toList <+: op.toList ++ t := fun h =>
          hprefix (List.prefix_of_prefix_length_le h ⟨t, rfl⟩
            (by simpa only [String.length_toList] using hlong.1 h))
        have hrest := ih (by simpa [List.find?_cons, hprefix] using hop) hlong.2
        rw [firstAhead?, List.findSome?_cons, ahead?,
          if_neg (mt List.isPrefixOf_iff_prefix.1 hnot)]
        exact hrest

/-- What is used of an operator to see that it is no suffix, no mark and no arrow. -/
theorem exists_of_mem_operators {op : String} (h : op ∈ binarySigns ++ angleSigns) :
    ∃ d r, op.toList = d :: r ∧ (startsLexeme d = true ∨ d = '/' ∧ r = []) ∧
      isWordPart d = false ∧ d ≠ '\\' ∧ (op ∈ binarySigns → d ∉ suffixStarts) ∧
      (op ∈ angleSigns → d = '<') ∧ (d = '?' → r.head? = some '?') ∧
      (d ∈ ['!', '='] → r.head? = some '=') ∧ (d ∈ ['+', '-'] → r = []) := by
  simp only [binarySigns, angleSigns, List.cons_append, List.nil_append, List.mem_cons,
    List.not_mem_nil, or_false] at h
  rcases h with rfl | rfl | rfl | rfl | rfl | rfl | rfl | rfl | rfl | rfl | rfl | rfl | rfl | rfl |
    rfl | rfl | rfl | rfl | rfl | rfl | rfl | rfl | rfl <;>
  exact ⟨_, _, rfl, by decide⟩

section Signs

variable {op : String} (hop : op ∈ binarySigns ++ angleSigns)
variable (hlong : ∀ sign ∈ longSigns, sign.toList <+: op.toList ++ t → sign.length ≤ op.length)

include hlong

/-- A sign that stands where an operator does is no longer than it. -/
theorem prefix_of_operator {sign : String} (hsign : sign ∈ longSigns)
    (h : sign.toList <+: op.toList ++ t) : sign.toList <+: op.toList :=
  List.prefix_of_prefix_length_le h ⟨t, rfl⟩ (by
    simpa only [String.length_toList] using hlong sign hsign h)

include hop

theorem skip_operator : skip (op.toList ++ t) = op.toList ++ t := by
  obtain ⟨d, r, hcons, hstarts | ⟨rfl, rfl⟩, -⟩ := exists_of_mem_operators hop
  · rw [hcons]
    exact skip_of_startsLexeme hstarts _
  · -- Two slashes, or a slash and a star, would be the longer sign of a comment.
    have hcomment (sign : String) (c : Char) (hsign : sign ∈ longSigns)
        (htext : sign.toList = ['/', c]) : t.head? ≠ some c := by
      intro hhead
      have hbegins : sign.toList <+: op.toList ++ t := by
        rw [htext, hcons, ← List.cons_head?_tail hhead]
        exact ⟨t.tail, rfl⟩
      have hprefix := prefix_of_operator hlong hsign hbegins
      rw [htext, hcons] at hprefix
      exact absurd hprefix.length_le (by simp)
    rw [hcons]
    exact skip_of_slash (by
      simp [hcomment "//" '/' (by decide) rfl, hcomment "/*" '*' (by decide) rfl])

theorem isStep_of_operator : isStep (op.toList ++ t) = false := by
  obtain ⟨d, r, hcons, -, -, -, -, -, -, -, hstep⟩ := exists_of_mem_operators hop
  rw [hcons, List.cons_append, isStep.eq_def]
  have hlength : op.length = r.length + 1 := by
    rw [← String.length_toList, hcons, List.length_cons]
  -- A sign that is doubled would be the longer sign of an increment.
  have hdouble (sign : String) (c : Char) (hsign : sign ∈ longSigns) (hc : c ∈ ['+', '-'])
      (htext : sign.toList = [c, c]) (u : List Char) : d :: (r ++ t) ≠ c :: c :: u := by
    intro heq
    obtain ⟨rfl, htail⟩ := List.cons.inj heq
    have hle := hlong sign hsign (by
      rw [hcons, htext, List.cons_append, htail]
      exact ⟨u, rfl⟩)
    rw [hlength, hstep hc, ← String.length_toList, htext] at hle
    simp at hle
  split
  · next heq => exact absurd heq (hdouble "++" '+' (by decide) (by decide) rfl _)
  · next heq => exact absurd heq (hdouble "--" '-' (by decide) (by decide) rfl _)
  · rfl

theorem assignment?_of_operator (hskip : skip s = op.toList ++ t) : assignment? s = none := by
  have hnone : ∀ op ∈ binarySigns ++ angleSigns, ∀ sign ∈ compoundAssignments,
      ¬sign.toList <+: op.toList := by
    decide
  have hmem : ∀ sign ∈ compoundAssignments, sign ∈ longSigns := by decide
  have hfirst : firstAhead? compoundAssignments (op.toList ++ t) = none :=
    firstAhead?_eq_none fun sign hsign h =>
      hnone op hop sign hsign (prefix_of_operator hlong (hmem sign hsign) h)
  obtain ⟨d, r, hcons, -, -, -, -, -, -, hequals, -⟩ := exists_of_mem_operators hop
  rw [assignment?, hskip, hfirst]
  rw [hcons, List.cons_append]
  by_cases hd : d = '='
  · obtain ⟨v, rfl⟩ : ∃ v, r = '=' :: v :=
      ⟨_, (List.cons_head?_tail (hequals (by simp [hd]))).symm⟩
    simp [hd]
  · split <;> simp_all

theorem binaryOperator?_of_operator (hskip : skip s = op.toList ++ t) :
    ∃ power, binaryOperator? place s = some (power, t) := by
  have hfind : ∀ op ∈ binarySigns ++ angleSigns,
      operatorSigns.find? (fun text => text.toList.isPrefixOf op.toList) = some op := by
    decide
  have hmem : ∀ sign ∈ operatorSigns, sign ∈ longSigns := by decide
  have hfirst := firstAhead?_eq (t := t) (hfind op hop) fun sign hsign =>
    hlong sign (hmem sign hsign)
  refine ⟨op == "**", ?_⟩
  rw [binaryOperator?, assignment?_of_operator hop hlong hskip, hskip, hfirst,
    isStep_of_operator hop hlong]
  simp

/-- The sign of an operator ends the operand in front of it, if no suffix begins with it. -/
theorem endsOperand_of_operator (hskip : skip s = op.toList ++ t)
    (hsuffix : op ∈ angleSigns → EndsTarget s) : EndsOperand place s := by
  obtain ⟨d, r, hcons, -, hpart, hb, hnot, -, hoption, hequals, -⟩ := exists_of_mem_operators hop
  have hstep := isStep_of_operator hop hlong
  rw [hcons, List.cons_append] at hskip hstep
  have hstart : isWordStart d = false := by
    simp [isWordStart, hpart]
  have htarget : EndsTarget s := by
    obtain hbinary | hangle := List.mem_append.1 hop
    · exact endsTarget_of_skip hskip (hnot hbinary) hstep
        (fun hd => by rw [List.head?_append, hoption hd]; simp)
        (fun hd => by rw [List.head?_append, hequals (by simp [hd])]; simp)
    · exact hsuffix hangle
  refine ⟨htarget, fun v hv => ?_, typeOperator?_of_sign hskip hstart hb⟩
  obtain ⟨hd, rfl⟩ := List.cons.inj (hskip.symm.trans hv)
  rw [List.head?_append, hequals (by simp [hd])]
  rfl

end Signs

/-- So does the word of an operator, where it is one. -/
theorem endsOperand_of_operatorWord {w : String} (h : Keyword w s t)
    (hw : w = "instanceof" ∨ w = "in" ∧ place.loopHead = false) :
    EndsOperand place s ∧ ∃ power, binaryOperator? place s = some (power, t) := by
  have hname : IsName w.toList := by
    obtain rfl | ⟨rfl, -⟩ := hw <;> decide
  obtain ⟨hskip, hend⟩ := h.skip_eq hname
  have hword : word? (skip s) = some (w, t) := by
    rw [hskip, hname.word?_append hend, String.ofList_toList]
  obtain ⟨d, r, hcons, -, hsigns⟩ := hname.exists_head t
    (show ('!' :: operatorStarts).all (fun d => !isWordStart d) = true by decide)
  rw [List.mem_cons, not_or] at hsigns
  rw [hcons] at hskip
  have htype : typeOperator? place s = none := by
    rw [typeOperator?, hword]
    obtain rfl | ⟨rfl, -⟩ := hw <;> simp
  refine ⟨⟨endsTarget_of_name (hskip.trans hcons.symm) hname, fun r hr => ?_, htype⟩, false, ?_⟩
  · exact absurd (List.cons.inj (hskip.symm.trans hr)).1 hsigns.1
  · have hall : operatorSigns.all
        (fun text => text.toList.head?.any operatorStarts.contains) = true := by decide
    rw [hskip] at hword
    rw [binaryOperator?, assignment?_of_skip hskip hsigns.2, hskip, isStep_of_not_mem hsigns.2,
      firstAhead?_eq_none (not_prefix_of_head hall hsigns.2 r), hword]
    simp [hw]

/-- An operator ends the operand in front of it, and is read. -/
theorem Operator.endsOperand (hF : F.IsLevel) {within : Bool} (h : Operator F within s t)
    (hplace : within = true → place.loopHead = false) :
    EndsOperand place s ∧ ∃ power, binaryOperator? place s = some (power, t) := by
  cases h with
  | @sign g op t hg hop hlong =>
      have hmem : op ∈ binarySigns ++ angleSigns := List.mem_append_left _ hop
      have hskip : skip (g ++ (op.toList ++ t)) = op.toList ++ t := by
        rw [skip_append_of_gap hg, skip_operator hmem hlong]
      have hnot : ∀ op ∈ binarySigns, op ∉ angleSigns := by decide
      exact ⟨endsOperand_of_operator hmem hlong hskip fun h => absurd h (hnot op hop),
        binaryOperator?_of_operator hmem hlong hskip⟩
  | @angle g op t hg hop hlong hno =>
      have hmem : op ∈ binarySigns ++ angleSigns := List.mem_append_right _ hop
      have hskip : skip (g ++ (op.toList ++ t)) = op.toList ++ t := by
        rw [skip_append_of_gap hg, skip_operator hmem hlong]
      refine ⟨endsOperand_of_operator hmem hlong hskip fun _ => ?_,
        binaryOperator?_of_operator hmem hlong hskip⟩
      obtain ⟨d, r, hcons, -, -, -, -, hless, -⟩ := exists_of_mem_operators hmem
      obtain rfl := hless hop
      rw [hcons] at hno
      have hskip' : skip (g ++ (op.toList ++ t)) = '<' :: (r ++ t) := by
        rw [hskip, hcons, List.cons_append]
      exact ⟨fun hg ht start e => suffix_eq_none_of_noTypes hF hno hskip' hg ht start e,
        not_arrow_of_skip hskip' (by decide)⟩
  | word h => exact endsOperand_of_operatorWord h (Or.inl rfl)
  | within hwithin h => exact endsOperand_of_operatorWord h (Or.inr ⟨rfl, hplace hwithin⟩)

/-! ### Assignments and types of values -/

theorem assignment?_of_plain (h : Sign '=' s t) (hnext : t.head? ∉ [some '=', some '>']) :
    assignment? s = some ("assignment_expression", t) := by
  have hsigns : compoundAssignments.all
      (fun text => text.toList.head?.any ">*<&|?+-/%^".toList.contains) = true := by decide
  have hfirst : firstAhead? compoundAssignments ('=' :: t) = none :=
    firstAhead?_eq_none (not_prefix_of_head hsigns (by decide) t)
  simp only [List.mem_cons, List.not_mem_nil, or_false] at hnext
  rw [assignment?, h.skip_eq (by decide), hfirst]
  simp [hnext]

theorem assignment?_of_compound {op : String} (hop : op ∈ compoundAssignments)
    (hskip : skip s = op.toList ++ t) :
    assignment? s = some ("augmented_assignment_expression", t) := by
  have hfind : ∀ op ∈ compoundAssignments,
      compoundAssignments.find? (fun text => text.toList.isPrefixOf op.toList) = some op := by
    decide
  -- No such sign begins with another one.
  have hproper : ∀ op ∈ compoundAssignments, ∀ text ∈ compoundAssignments,
      op.toList <+: text.toList → text.length ≤ op.length := by
    decide
  have hfirst := firstAhead?_eq (t := t) (hfind op hop) fun text htext hprefix => by
    by_contra hlong
    refine hlong (hproper op hop text htext (List.prefix_of_prefix_length_le ⟨t, rfl⟩ hprefix ?_))
    simp only [String.length_toList]
    omega
  rw [assignment?, hskip, hfirst]

theorem exists_of_mem_compoundSigns {op : String} (h : op ∈ compoundSigns) :
    op ∈ compoundAssignments ∧ ∃ d e r, op.toList = d :: e :: r ∧
      (startsLexeme d = true ∨ d = '/' ∧ e = '=') ∧ isWordPart d = false ∧ d ∉ ['\\', '!', '='] ∧
      (d ∈ suffixStarts → d = '<' ∧ e = '<' ∧ r = ['=']) ∧
      (d = '+' → e ≠ '+') ∧ (d = '-' → e ≠ '-') ∧ (d = '?' → e ≠ '.') := by
  simp only [compoundSigns, List.mem_cons, List.not_mem_nil, or_false] at h
  rcases h with rfl | rfl | rfl | rfl | rfl | rfl | rfl | rfl | rfl | rfl | rfl | rfl | rfl | rfl |
    rfl <;>
  exact ⟨by decide, _, _, _, rfl, by decide⟩

theorem skip_compound {op : String} (hop : op ∈ compoundSigns) (t : List Char) :
    skip (op.toList ++ t) = op.toList ++ t := by
  obtain ⟨-, d, e, r, hcons, hstarts | ⟨rfl, rfl⟩, -⟩ := exists_of_mem_compoundSigns hop
  · rw [hcons]
    exact skip_of_startsLexeme hstarts _
  · rw [hcons]
    exact skip_of_slash (by simp)

/-- The sign of an assignment ends what is assigned to, and is read. -/
theorem Assigns.endsOperand (h : Assigns s t) (hnext : t.head? ∉ [some '=', some '>'])
    (place : Place) :
    EndsOperand place s ∧ binaryOperator? place s = none ∧
      ∃ kind, assignment? s = some (kind, t) := by
  obtain ⟨d, r, hskip, hpart, hsign, htarget, kind, hread⟩ :
      ∃ d r, skip s = d :: r ∧ isWordPart d = false ∧ d ∉ ['\\', '!'] ∧ EndsTarget s ∧
        ∃ kind, assignment? s = some (kind, t) := by
    cases h with
    | plain h =>
        have hread := assignment?_of_plain h hnext
        have hskip := h.skip_eq (by decide)
        simp only [List.mem_cons, List.not_mem_nil, or_false, not_or] at hnext
        exact ⟨'=', t, hskip, by decide, by decide, endsTarget_of_skip hskip (by decide) rfl
          (fun hd => absurd hd (by decide)) (fun _ => hnext.2), _, hread⟩
    | @compound g op _ hg hop =>
        obtain ⟨hmem, d, e, r, hcons, -, hpart, hsign, hsuffix, hplus, hminus, hoption⟩ :=
          exists_of_mem_compoundSigns hop
        simp only [List.mem_cons, List.not_mem_nil, or_false, not_or] at hsign
        have hskip : skip (g ++ (op.toList ++ t)) = op.toList ++ t := by
          rw [skip_append_of_gap hg, skip_compound hop]
        have hread := assignment?_of_compound hmem hskip
        rw [hcons, List.cons_append, List.cons_append] at hskip hread ⊢
        refine ⟨d, e :: (r ++ t), hskip, hpart, by simp [hsign], ?_, _, hread⟩
        by_cases hd : d ∈ suffixStarts
        · -- A doubled sign opens no type parameters in front of an equals sign.
          obtain ⟨rfl, rfl, rfl⟩ := hsuffix hd
          have hno : NoTypes .empty ('<' :: (['='] ++ t)) := .here (.angle (g := []) .nil
            (.sign (g := []) .nil (by decide) (by decide) (by decide)))
          exact ⟨fun hg ht start e => suffix_eq_none_of_noTypes ⟨0, rfl⟩ hno hskip hg ht start e,
            not_arrow_of_skip hskip (by decide)⟩
        · have hstep : isStep (d :: e :: (r ++ t)) = false := by
            rw [isStep.eq_def]
            split <;> simp_all
          exact endsTarget_of_skip hskip hd hstep (fun hd => by simpa using hoption hd)
            (fun hd => absurd hd hsign.2.2)
  simp only [List.mem_cons, List.not_mem_nil, or_false, not_or] at hsign
  have hstart : isWordStart d = false := by
    simp [isWordStart, hpart]
  refine ⟨⟨htarget, fun v hv => ?_, typeOperator?_of_sign hskip hstart hsign.1⟩, ?_, kind, hread⟩
  · exact absurd (List.cons.inj (hskip.symm.trans hv)).1 hsign.2
  · rw [binaryOperator?, hread]
    simp

end DecoratorGraph.Script
