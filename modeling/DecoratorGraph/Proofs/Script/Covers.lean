import DecoratorGraph.Proofs.Script.Values

/-!
# Expressions that begin as patterns do

Where an opening parenthesis stands, the parameters of an arrow function are tried before an
expression is. Names, arrays and objects are patterns, too, and an assignment is a pattern with a
default value, so an expression may be skipped as a parameter. What is skipped then is the whole
expression, or something follows that ends no parameter (`covers_of_form`).
-/

namespace DecoratorGraph.Script

variable {F : Forms} {g : Grammar} {k : Nat} {gap s t r u : List Char} {c d : Char}
variable {within : Bool}

/-! ### Items of lists -/

theorem coversItems_argument (hg : g.ReadsForms k) (hF : F.IsLevel) :
    CoversItems (IsArgument F) ']' g.patternItem k where
  opens h := (readsItems_argument hg hF (by decide)).opens h
  leaves := leaves_patternItem hg.consumes
  ends {s t} h hs hend := by
    have hcloses := hend.closes (by decide)
    cases h with
    | plain h =>
        rw [Grammar.patternItem, (hF.opens_expression h).symbols?_eq_none]
        exact Grammar.Covers.initializer (hg.cover hF (spaced_of_item h) hs hcloses) hcloses
    | spread h =>
        simp only [List.length_append] at hs
        rw [Grammar.patternItem, symbols?_dots_append]
        exact Grammar.Covers.endsAt (hg.cover hF h (by omega) hcloses)

/-- A member of an object is skipped as one of a pattern, or something follows that ends none. -/
theorem coversItems_property (hg : g.ReadsForms k) (hF : F.IsLevel) :
    CoversItems (IsProperty F) '\x7d' g.patternMember k where
  opens h := (readsItems_property hg hF).opens h
  leaves := leaves_patternMember hg.consumes
  ends {s t} h hs hend := by
    have hcloses := hend.closes (by decide)
    have hpair {s r u : List Char} (hdots : symbols? "..." s = none) (hkey : g.key s = some r)
        (hc : Sign ':' r u) (he : Spaced F.expression u t) (hs : s.length < k) :
        EndsAt (g.patternMember s) t := by
      have hr := (leaves_key hg.consumes s).length_le hkey
      have hu := hc.length_lt
      rw [Grammar.patternMember, hdots, hkey]
      simp only [Option.bind_eq_bind, Option.bind_some, hc.symbol?_eq (by decide)]
      exact Grammar.Covers.initializer (hg.cover hF he (by omega) hcloses) hcloses
    have hkeyed {s r u : List Char} {d : Char} (hdots : symbols? "..." s = none)
        (hkey : g.key s = some r) (hskip : skip r = d :: u) (hd : d ∉ itemSigns) :
        EndsAt (g.patternMember s) t := by
      have hcolon : symbol? ':' r = none := by
        rw [symbol?_of_skip hskip, if_neg (by rintro rfl; exact hd (by decide))]
      rw [Grammar.patternMember, hdots, hkey]
      simp only [Option.bind_eq_bind, Option.bind_some, hcolon]
      exact endsAt_initializer_of_sign g hskip hd t
    cases h with
    | spread h =>
        simp only [List.length_append] at hs
        rw [Grammar.patternMember, symbols?_dots_append]
        exact Grammar.Covers.endsAt (hg.cover hF h (by omega) hcloses)
    | pair hk hc he => exact hpair hk.symbols?_eq_none (key_of_form hg hF hk hs.le) hc he hs
    | shorthand hw hend' =>
        rw [Grammar.patternMember, (hw.opens _).symbols?_eq_none, key_of_name g hw hend']
        simp only [Option.bind_eq_bind, Option.bind_some,
          hend.symbol?_eq_none (c := ':') (by decide) (by decide), Grammar.initializer,
          hend.symbol?_eq_none (c := '=') (by decide) (by decide)]
        exact endsAt_self t
    | @method s r u _ hk hsig hb =>
        obtain ⟨c, v, hcons, hstarts, hnot, -⟩ := hk.exists_cons
        have hdots : symbols? "..." s = none := by
          rw [hcons]
          refine symbols?_of_ne (c := '.') (u := ['.', '.']) rfl (skip_of_startsLexeme hstarts v) ?_
          rintro rfl
          exact hnot (by decide)
        obtain ⟨d, v, hskip, hmem⟩ := hsig.exists_sign
        have hsigns : ∀ c ∈ ['<', '('], c ∉ itemSigns := forall_sign (by decide)
        have hd := hsigns d hmem
        cases hk with
        | key hk _ => exact hkeyed hdots (key_of_form hg hF hk hs.le) hskip hd
        | bare hw hend _ => exact hkeyed hdots (key_of_name g hw hend) hskip hd
        | word _ hname hgap hend h =>
            obtain ⟨c, v, rfl, hstarts, hnot, -⟩ := h.exists_cons
            have hkeys : ∀ c ∈ itemSigns, c ∈ nonKeys.erase '*' := forall_sign (by decide)
            exact hkeyed hdots (key_of_name g hname hend) (hgap.skip_append hstarts v)
              (mt (hkeys c) hnot)
        | @star gap s _ _ _ =>
            have hkey : g.key ('*' :: (gap ++ s)) = none := by
              rw [Grammar.key, skip_of_startsLexeme (by decide)]
              have hword := word?_of_sign (d := '*') (by decide) (by decide) (gap ++ s)
              simp [skipWord?, hword]
            rw [Grammar.patternMember, hdots, hkey]
            exact endsAt_none t

/-! ### What follows a pattern -/

theorem goesOn_of_opens (hgap : Gap gap) (h : Opens s) : g.GoesOn t (gap ++ s) := by
  have hsigns : ∀ c ∈ '?' :: itemSigns, c ∈ nonOpeners := forall_sign (by decide)
  obtain ⟨c, r, rfl, hself, hnot⟩ := h.exists_cons
  exact .further (hgap.skip_of_skip hself) (mt (hsigns c) hnot)

theorem goesOn_of_spaced {Item : Form} (h : Spaced Item s r)
    (hopens : ∀ {s t}, Item s t → Opens s) :
    g.GoesOn t s := by
  obtain ⟨hgap, h⟩ := h
  exact goesOn_of_opens hgap (hopens h)

/-- No expression begins with the second sign of an operator that begins as an assignment does. -/
theorem goesOn_of_sign (hg : g.IsLevel) {op : String}
    (hop : op ∈ binarySigns ++ angleSigns ++ compoundSigns) (hskip : skip s = op.toList ++ r) :
    g.GoesOn t s := by
  have hall : (binarySigns ++ angleSigns ++ compoundSigns).all (fun op => op.toList.head?.any
      fun c => c ∉ '?' :: itemSigns ∨ c ∈ ['?', '='] ∧ op.toList.tail.head? = some c) = true := by
    decide
  obtain ⟨c, hhead, hc⟩ := (Option.any_eq_true ..).1 (List.all_eq_true.1 hall op hop)
  obtain ⟨v, hcons⟩ : ∃ v, op.toList = c :: v := ⟨_, (List.cons_head?_tail hhead).symm⟩
  rw [hcons, List.cons_append] at hskip
  rw [hcons, List.tail_cons] at hc
  obtain hnot | ⟨hmem, hnext⟩ := of_decide_eq_true hc
  · exact .further hskip hnot
  · obtain ⟨w, rfl⟩ : ∃ w, v = c :: w := ⟨_, (List.cons_head?_tail hnext).symm⟩
    simp only [List.mem_cons, List.not_mem_nil, or_false] at hmem
    obtain rfl | rfl := hmem
    · exact .question hskip (skip_of_startsLexeme (by decide) _) (by decide)
    · refine .assigned hskip fun e u hread => ?_
      rw [List.cons_append, expression_eq_none hg
        (skip_of_startsLexeme (c := '=') (by decide) _) (by decide)] at hread
      cases hread

theorem goesOn_of_keyword {w : String} (h : Keyword w s r) (hw : IsName w.toList) :
    g.GoesOn t s := by
  obtain ⟨hgap, -⟩ := h
  exact goesOn_of_opens hgap (hw.opens _)

theorem Suffixes.goesOn (h : Suffixes F s r) (hr : g.GoesOn t r) : g.GoesOn t s := by
  cases h with
  | nil => exact hr
  | cons h _ =>
      obtain ⟨d, u, hskip, hd | ⟨rfl, hpoint⟩⟩ := h.exists_sign
      · exact .further hskip hd
      · rw [← List.cons_head?_tail hpoint] at hskip
        exact .question hskip (skip_of_startsLexeme (by decide) _) (by decide)

theorem Marks.goesOn (h : Marks F s r) (hr : g.GoesOn t r) : g.GoesOn t s := by
  cases h with
  | nil => exact hr
  | cons hgap _ _ _ _ => exact .further (hgap.skip_append (by decide) _) (by decide)

theorem ChainTail.goesOn (hg : g.IsLevel) (h : ChainTail F within s r) (hr : g.GoesOn t r) :
    g.GoesOn t s := by
  cases h with
  | nil => exact hr
  | cons ho _ _ _ =>
      cases ho with
      | sign hgap hop hlong =>
          have hop' := List.mem_append_left angleSigns hop
          exact goesOn_of_sign hg (List.mem_append_left _ hop')
            (by rw [skip_append_of_gap hgap, skip_operator hop' hlong])
      | angle hgap hop hlong _ =>
          have hop' := List.mem_append_right binarySigns hop
          exact goesOn_of_sign hg (List.mem_append_left _ hop')
            (by rw [skip_append_of_gap hgap, skip_operator hop' hlong])
      | word h => exact goesOn_of_keyword h (by decide)
      | within _ h => exact goesOn_of_keyword h (by decide)

theorem Assertions.goesOn (h : Assertions F s r) (hr : g.GoesOn t r) : g.GoesOn t s := by
  cases h with
  | nil => exact hr
  | cons hgap _ hw _ _ _ => exact goesOn_of_opens hgap ((skip_operatorWord hgap hw []).2.opens _)

/-! ### Expressions -/

/-- What is skipped of an atom as a pattern is all of it, or a word that more of it follows. -/
theorem IsAtom.pattern (hg : g.ReadsForms k) (hF : F.IsLevel) (h : IsAtom F s t) (hgap : Gap gap)
    (hs : s.length ≤ k) : ∀ r, g.readPattern (gap ++ s) = some r → r = t ∨ g.deeper.GoesOn u r := by
  have hname {w r : List Char} (hw : IsName w) (hend : EndsWord r) :
      g.readPattern (gap ++ (w ++ r)) = some r :=
    readPattern_of_name g hw (hgap.skip_name hw r) hend
  have hsign {c : Char} {v : List Char} (hcons : s = c :: v)
      (hc : c ∈ "\"'\x60(0123456789/".toList) : g.readPattern (gap ++ s) = none := by
    have hsigns : ∀ c ∈ "\"'\x60(0123456789/".toList, isWordStart c = false ∧
        c ∉ ['\\', '\x7b', '['] := forall_sign (by decide)
    have hskip := hgap.skip_of_skip h.opens.skip_eq
    rw [hcons] at hskip ⊢
    exact readPattern_eq_none g hskip (hsigns c hc).1 (hsigns c hc).2
  intro r hr
  cases h with
  | string h =>
      obtain ⟨quote, hquote, body, hcons, -⟩ := h.exists_quote
      have hquotes : ∀ c ∈ ['"', '\''], c ∈ "\"'\x60(0123456789/".toList := forall_sign (by decide)
      rw [hsign hcons (hquotes quote hquote)] at hr
      contradiction
  | template _ =>
      rw [hsign rfl (by decide)] at hr
      contradiction
  | number h =>
      obtain ⟨c, v, hcons, hc⟩ := h.exists_digit
      have hdigits : ∀ c ∈ openers, c.isDigit = true → c ∈ "\"'\x60(0123456789/".toList :=
        forall_sign (by decide)
      rw [hsign hcons (hdigits c (mem_openers_of_isDigit hc) hc)] at hr
      contradiction
  | regex _ | parens _ _ _ =>
      rw [hsign rfl (by decide)] at hr
      contradiction
  | group _ _ _ =>
      rw [hsign rfl (by decide)] at hr
      contradiction
  | name hw _ hend =>
      rw [hname hw hend] at hr
      exact Or.inl (Option.some.inj hr).symm
  | constant hw hend =>
      rw [hname (isName_of_mem (by decide) hw) hend] at hr
      exact Or.inl (Option.some.inj hr).symm
  | @array s _ h =>
      rw [List.length_cons] at hs
      rw [Grammar.readPattern, hgap.skip_append (by decide)] at hr
      exact Or.inl (skipList_endsAt (coversItems_argument hg hF) (by decide) h (by omega) _ _
        (by simpa using hr))
  | @object s _ h =>
      rw [List.length_cons] at hs
      rw [Grammar.readPattern, hgap.skip_append (by decide)] at hr
      exact Or.inl (skipList_endsAt (coversItems_property hg hF) (by decide) h.elements (by omega)
        _ _ (by simpa using hr))
  | construction hgap' hne hw _ _ _ _ _ =>
      rw [hname (w := "new".toList) (by decide) (hgap'.endsWord hne _)] at hr
      obtain rfl := Option.some.inj hr
      exact Or.inr (goesOn_of_opens hgap' (hw.opens _))
  | function hend h =>
      rw [hname (w := "function".toList) (by decide) hend] at hr
      obtain rfl := Option.some.inj hr
      obtain ⟨d, v, hskip, hd⟩ := h.exists_sign
      exact Or.inr (.further hskip hd)
  | asyncFunction hgap' hne _ _ _ =>
      rw [hname (w := "async".toList) (by decide) (hgap'.endsWord hne _)] at hr
      obtain rfl := Option.some.inj hr
      exact Or.inr (goesOn_of_opens hgap' ((show IsName "function".toList by decide).opens _))
  | classLike hend h =>
      rw [hname (w := "class".toList) (by decide) hend] at hr
      obtain rfl := Option.some.inj hr
      obtain ⟨d, v, hskip, hd⟩ := exists_sign_of_class h
      exact Or.inr (.further hskip hd)

theorem IsTarget.covers (hg : g.ReadsForms k) (hF : F.IsLevel) (h : IsTarget F s r) (hgap : Gap gap)
    (hs : s.length ≤ k) (hr : g.deeper.GoesOn t r) : g.deeper.Covers (gap ++ s) t := by
  obtain ⟨h, hsuffixes⟩ := h
  intro v hv
  obtain rfl | hgoes := h.pattern hg hF hgap hs (u := t) v hv
  · exact hsuffixes.goesOn hr
  · exact hgoes

theorem Forms.IsLevel.exists_deeper (pick : Forms → Form) (hF : F.IsLevel)
    (h : Spaced (pick F) s t) (hempty : ∀ s t, ¬pick .empty s t) :
    ∃ F' : Forms, F'.IsLevel ∧ F = F'.deeper := by
  obtain rfl | hdeeper := hF.eq_or
  · obtain ⟨-, h⟩ := h
    exact absurd h (hempty _ _)
  · exact hdeeper

theorem exists_readExpression_of_level (hg : g.ReadsForms k) (hF : F.IsLevel) {place : Place}
    (h : Spaced (F.expressionAt within) s t) (hs : s.length ≤ k) (hplace : place.Admits within)
    (ht : EndsExpression place t) : ∃ e, g.readExpression place s = some (e, t) := by
  obtain ⟨F, hF', rfl⟩ := hF.exists_deeper (Forms.expressionAt · within) h (fun _ _ => id)
  exact readExpression_of_form (F := F) hg hF' h hs hplace ht

/-- What of an expression is skipped as a pattern goes on as the expression does. -/
theorem covers_of_form (hg : g.ReadsForms k) (hF : F.IsLevel) (h : Spaced (IsExpression F true) s t)
    (hs : s.length ≤ k) (ht : Closes t) : g.deeper.Covers s t := by
  have hlevel : g.deeper.IsLevel := hg.level.deeper
  obtain @⟨gap, s, _, hgap, h⟩ := h
  rw [List.length_append] at hs
  have hname {w r : List Char} (hw : IsName w) (hend : EndsWord r) (hr : g.deeper.GoesOn t r) :
      g.deeper.Covers (gap ++ (w ++ r)) t := by
    intro v hv
    obtain rfl := Option.some.inj
      ((readPattern_of_name g hw (hgap.skip_name hw r) hend).symm.trans hv)
    exact hr
  have hsign {c : Char} {v : List Char} (hc : c ∈ "!~+-(".toList) :
      g.deeper.Covers (gap ++ c :: v) t := by
    have hsigns : ∀ c ∈ "!~+-(".toList, startsLexeme c = true ∧ isWordStart c = false ∧
        c ∉ ['\\', '\x7b', '['] := forall_sign (by decide)
    obtain ⟨hstarts, hstart, hnot⟩ := hsigns c hc
    intro r hr
    cases (readPattern_eq_none g (hgap.skip_append hstarts v) hstart hnot).symm.trans hr
  have hchain {r : List Char} (h : IsChain F true s r) (hr : g.deeper.GoesOn t r) :
      g.deeper.Covers (gap ++ s) t := by
    obtain ⟨h, hm, hchain, ha⟩ := h
    have hgoes := hm.goesOn (hchain.goesOn hlevel (ha.goesOn hr))
    cases h with
    | target h => exact h.covers hg hF hgap (by omega) hgoes
    | sign hc _ _ =>
        have hsigns : ∀ c ∈ ['!', '~', '+', '-'], c ∈ "!~+-(".toList := forall_sign (by decide)
        exact hsign (hsigns _ hc)
    | step hc _ =>
        have hsigns : ∀ c ∈ ['+', '-'], c ∈ "!~+-(".toList := forall_sign (by decide)
        exact hsign (hsigns _ hc)
    | word hw hend h =>
        exact hname (isName_of_mem (by decide) hw) hend (goesOn_of_spaced h hF.opens_operand)
  cases h with
  | chain h => exact hchain h .ended
  | assignment h hm ho he =>
      refine h.covers hg hF hgap (by omega) (hm.goesOn ?_)
      cases ho with
      | plain hequals =>
          have hlength := length_lt_of_assignment hg hF (spaced_of_item h) hm (.plain hequals) he
            (by omega)
          refine .assigned (hequals.skip_eq (by decide)) fun e v hread => ?_
          obtain ⟨e', he'⟩ := exists_readExpression_of_level hg hF he (by omega)
            (Place.admits_inBrackets true) (ht.endsExpression .inBrackets)
          exact (Prod.mk.inj (Option.some.inj (hread.symm.trans he'))).2
      | compound hgap' hop =>
          exact goesOn_of_sign hlevel (List.mem_append_right _ hop)
            (by rw [skip_append_of_gap hgap', skip_compound hop])
  | conditional h hq ha _ _ =>
      refine hchain h ?_
      obtain ⟨hgap', ha⟩ := ha
      obtain ⟨c, v, rfl, hself, hnot⟩ := (hF.opens_expression ha).exists_cons
      have hsigns : ∀ c ∈ itemSigns, c ∈ nonOpeners := forall_sign (by decide)
      exact .question (hq.skip_eq (by decide)) (hgap'.skip_of_skip hself) (mt (hsigns c) hnot)
  | arrow hh htail =>
      obtain ⟨u, ha⟩ := htail.exists_arrow
      cases hh with
      | name hw _ hend =>
          refine hname hw hend (.assigned ha.skip_eq fun e u hread => ?_)
          rw [expression_eq_none hlevel (skip_of_startsLexeme (by decide) _) (by decide)] at hread
          cases hread
      | parameters _ _ => exact hsign (by decide)
  | asyncArrow hgap' _ hend hh _ =>
      exact hname (w := "async".toList) (by decide) hend (goesOn_of_opens hgap' hh.opens)
  | yieldNothing hend _ => exact hname (w := "yield".toList) (by decide) hend .ended
  | yield hgap' _ hend he =>
      exact hname (w := "yield".toList) (by decide) hend
        (goesOn_of_opens hgap' (hF.opens_expression he))
  | yieldAll hgap' _ _ =>
      have hstar := hgap'.skip_append (c := '*') (by decide)
      exact hname (w := "yield".toList) (by decide)
        (endsWord_of_skip (hstar _) (by decide) (by decide)) (.further (hstar _) (by decide))

end DecoratorGraph.Script
