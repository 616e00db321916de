import DecoratorGraph.Proofs.Script.Consumption
import DecoratorGraph.Proofs.Script.FormLists

/-!
# Where types and expressions end

A reader goes on as long as what follows can belong to what it reads. `EndsType`, `EndsOperand`,
`EndsChain` and `EndsExpression` say that nothing that follows does; each of them is shown from the
next lexeme.
-/

namespace DecoratorGraph.Script

variable {s t r : List Char} {c d : Char} {w : List Char} {place : Place}

/-! ### Signs -/

theorem firstAhead?_eq_none {texts : List String} (h : ∀ text ∈ texts, ¬text.toList <+: s) :
    firstAhead? texts s = none := by
  rw [firstAhead?, List.findSome?_eq_none_iff]
  intro text htext
  rw [ahead?, if_neg (mt List.isPrefixOf_iff_prefix.1 (h text htext)), Option.map_none]

/-- A text that begins with none of the signs with which the given ones begin. -/
theorem not_prefix_of_head {texts : List String} {signs : List Char}
    (hsigns : texts.all (fun text => text.toList.head?.any fun c => signs.contains c) = true)
    (hd : d ∉ signs) (r : List Char) : ∀ text ∈ texts, ¬text.toList <+: d :: r := by
  intro text htext hbegins
  have hhead := List.all_eq_true.1 hsigns text htext
  obtain ⟨c, hc, hmem⟩ := (Option.any_eq_true ..).1 hhead
  obtain ⟨u, hu⟩ : ∃ u, text.toList = c :: u := ⟨_, (List.cons_head?_tail hc).symm⟩
  rw [hu, List.cons_prefix_cons] at hbegins
  exact hd (hbegins.1 ▸ by simpa using hmem)

def operatorStarts : List Char :=
  ['>', '=', '!', '*', '<', '&', '|', '?', '+', '-', '/', '%', '^']

theorem assignment?_of_skip (h : skip t = d :: r) (hd : d ∉ operatorStarts) :
    assignment? t = none := by
  have hfirst : firstAhead? compoundAssignments (d :: r) = none :=
    firstAhead?_eq_none (not_prefix_of_head (by decide) hd r)
  have hne : d ≠ '=' := by
    rintro rfl
    exact hd (by decide)
  rw [assignment?, h, hfirst]
  simp [hne]

theorem isStep_of_not_mem (hd : d ∉ operatorStarts) (r : List Char) : isStep (d :: r) = false := by
  rw [isStep.eq_def]
  split <;> simp_all [operatorStarts]

theorem binaryOperator?_of_skip (h : skip t = d :: r) (hd : d ∉ operatorStarts)
    (hword : ∀ w u, word? (d :: r) = some (w, u) →
      w ≠ "instanceof" ∧ (w = "in" → place.loopHead = true)) :
    binaryOperator? place t = none := by
  have hfirst : firstAhead? operatorSigns (d :: r) = none :=
    firstAhead?_eq_none (not_prefix_of_head (by decide) hd r)
  rw [binaryOperator?, assignment?_of_skip h hd, h, isStep_of_not_mem hd, hfirst]
  cases hw : word? (d :: r) with
  | none => simp
  | some result =>
      obtain ⟨w, u⟩ := result
      obtain ⟨hinstance, hin⟩ := hword w u hw
      simpa [hinstance] using hin

theorem unionSign_of_skip (h : skip t = d :: r) (hd : d ∉ ['|', '&']) : unionSign t = none := by
  simp only [List.mem_cons, List.not_mem_nil, or_false] at hd
  rw [unionSign, h]
  simp [hd]

theorem typeOperator?_of_sign (h : skip t = d :: r) (hd : isWordStart d = false) (hb : d ≠ '\\') :
    typeOperator? place t = none := by
  rw [typeOperator?, h, word?_of_sign hd hb]
  simp

def suffixStarts : List Char := ['(', '.', '[', '\x60', '<']

theorem suffix_eq_none_of_skip (g : Grammar) {start : List Char} {e : Expr} (h : skip t = d :: r)
    (hd : d ∉ suffixStarts) (hstep : isStep (d :: r) = false)
    (hoption : d = '?' → r.head? ≠ some '.') : g.suffix start e t = none := by
  simp only [suffixStarts, List.mem_cons, List.not_mem_nil, or_false, not_or] at hd
  rw [Grammar.suffix, h]
  simp only [hd, hstep, or_self, if_false, Bool.false_eq_true, false_and]
  rw [if_neg (fun hq => hoption hq.1 hq.2)]

theorem not_arrow_of_skip (h : skip t = d :: r) (hd : d ≠ '=') : symbols? "=>" t = none :=
  symbols?_of_ne (c := '=') (u := ['>']) rfl h hd

/-! ### Ends of types -/

structure EndsUnion (t : List Char) : Prop where
  point : symbol? '.' t = none
  arguments : symbol? '<' t = none
  bracket : crossesLine t = true ∨ symbol? '[' t = none
  union : unionSign t = none

structure EndsType (t : List Char) : Prop extends EndsUnion t where
  condition : keyword? "extends" t = none
  predicate : crossesLine t = true ∨ keyword? "is" t = none

theorem endsType_of_sign (h : skip t = d :: r)
    (hd : d ∉ ['.', '<', '[', '|', '&', '\\']) (hpart : isWordPart d = false) : EndsType t := by
  have hne : ∀ c ∈ ['.', '<', '[', '|', '&', '\\'], d ≠ c := by
    rintro c hc rfl
    exact hd hc
  have hstart : isWordStart d = false := by
    simp [isWordStart, hpart]
  have hb := hne '\\' (by decide)
  have hunion : d ∉ ['|', '&'] := by
    simp [hne '|' (by decide), hne '&' (by decide)]
  exact {
    point := by rw [symbol?_of_skip h, if_neg (hne '.' (by decide))]
    arguments := by rw [symbol?_of_skip h, if_neg (hne '<' (by decide))]
    bracket := Or.inr (by rw [symbol?_of_skip h, if_neg (hne '[' (by decide))])
    union := unionSign_of_skip h hunion
    condition := keyword?_of_sign h hstart hb _
    predicate := Or.inr (keyword?_of_sign h hstart hb _) }

theorem endsUnion_of_name (h : skip t = w ++ r) (hw : IsName w) : EndsUnion t := by
  obtain ⟨d, u, hcons, -, hsigns⟩ :=
    hw.exists_head r (show ['|', '&'].all (fun d => !isWordStart d) = true by decide)
  simp only [List.mem_cons, List.not_mem_nil, or_false, not_or] at hsigns
  exact {
    point := symbol?_of_name hw h (by decide)
    arguments := symbol?_of_name hw h (by decide)
    bracket := Or.inr (symbol?_of_name hw h (by decide))
    union := unionSign_of_skip (h.trans hcons) (by simp [hsigns]) }

theorem endsType_of_name (h : skip t = w ++ r) (hw : IsName w) (hr : EndsWord r)
    (hextends : String.ofList w ≠ "extends")
    (his : crossesLine t = true ∨ String.ofList w ≠ "is") : EndsType t where
  toEndsUnion := endsUnion_of_name h hw
  condition := by rw [keyword?_of_name hw h hr, if_neg hextends]
  predicate := his.imp id fun his => by rw [keyword?_of_name hw h hr, if_neg his]

/-! ### Ends of expressions -/

def Grammar.IsLevel (g : Grammar) : Prop := ∃ dialect line n, g = Grammar.ofDepth dialect line n

theorem Grammar.IsLevel.deeper {g : Grammar} (hg : g.IsLevel) : g.deeper.IsLevel := by
  obtain ⟨dialect, line, n, rfl⟩ := hg
  exact ⟨dialect, line, n + 1, rfl⟩

/-- A grammar each level of which skips the types of any depth up to where they end, in texts that
are no longer than the level is high. -/
inductive Grammar.ReadsTypes : Grammar → Nat → Prop
  | empty (dialect : Dialect) (line : List Char → Nat) : ReadsTypes (.empty dialect line) 0
  | deeper {g : Grammar} {k : Nat} (hg : ReadsTypes g k)
      (htype : ∀ {F : Forms} {s t : List Char}, F.IsLevel → Spaced F.type s t → s.length ≤ k →
        EndsType t → g.readType s = some t) : ReadsTypes g.deeper (k + 1)

theorem Grammar.ReadsTypes.exists_ofDepth {g : Grammar} {k : Nat} (h : g.ReadsTypes k) :
    ∃ dialect line, g = Grammar.ofDepth dialect line k := by
  induction h with
  | empty dialect line => exact ⟨dialect, line, rfl⟩
  | deeper _ _ ih =>
      obtain ⟨dialect, line, rfl⟩ := ih
      exact ⟨dialect, line, rfl⟩

theorem Grammar.ReadsTypes.level {g : Grammar} {k : Nat} (h : g.ReadsTypes k) : g.IsLevel := by
  obtain ⟨dialect, line, rfl⟩ := h.exists_ofDepth
  exact ⟨dialect, line, k, rfl⟩

theorem Grammar.ReadsTypes.consumes {g : Grammar} {k : Nat} (h : g.ReadsTypes k) : g.Consumes := by
  obtain ⟨dialect, line, rfl⟩ := h.exists_ofDepth
  exact consumes_ofDepth dialect line k

theorem Grammar.ReadsTypes.depth_eq {g : Grammar} {k : Nat} (h : g.ReadsTypes k) : g.depth = k := by
  induction h with
  | empty => rfl
  | deeper _ _ ih => exact congrArg Nat.succ ih

theorem Grammar.ReadsTypes.type {g : Grammar} {k : Nat} (h : g.ReadsTypes k) {F : Forms}
    (hF : F.IsLevel) (hs : Spaced F.type s t) (hlength : s.length < k) (ht : EndsType t) :
    g.type s = some t := by
  cases h with
  | empty => exact absurd hlength (Nat.not_lt_zero _)
  | deeper _ htype => exact htype hF hs (Nat.le_of_lt_succ hlength) ht

/-- Nothing that follows is a suffix of what stands in front of it, or the arrow of a function. -/
structure EndsTarget (t : List Char) : Prop where
  suffix {g : Grammar} {k : Nat} (hg : g.ReadsTypes k) (ht : t.length ≤ k) (start : List Char)
    (e : Expr) : g.suffix start e t = none
  arrow : symbols? "=>" t = none

structure EndsOperand (place : Place) (t : List Char) : Prop extends EndsTarget t where
  mark : ∀ r, skip t = '!' :: r → r.head? = some '='
  typeOperator : typeOperator? place t = none

structure EndsChain (place : Place) (t : List Char) : Prop extends EndsOperand place t where
  binary : binaryOperator? place t = none
  assignment : assignment? t = none
  type : EndsType t

structure EndsExpression (place : Place) (t : List Char) : Prop extends EndsChain place t where
  question : symbol? '?' t = none

theorem endsTarget_of_skip (h : skip t = d :: r) (hd : d ∉ suffixStarts)
    (hstep : isStep (d :: r) = false) (hoption : d = '?' → r.head? ≠ some '.')
    (harrow : d = '=' → r.head? ≠ some '>') : EndsTarget t := by
  refine ⟨fun _ _ _ _ => suffix_eq_none_of_skip _ h hd hstep hoption, ?_⟩
  rw [symbols?, h, ahead?, if_neg]
  intro hprefix
  obtain ⟨u, hu⟩ := List.isPrefixOf_iff_prefix.1 hprefix
  obtain ⟨rfl, rfl⟩ : '=' = d ∧ '>' :: u = r := by simpa using hu
  exact harrow rfl rfl

/-- No suffix begins with a name. -/
theorem endsTarget_of_name (h : skip t = w ++ r) (hw : IsName w) :
    EndsTarget t := by
  obtain ⟨d, u, hcons, -, hsigns⟩ := hw.exists_head r
    (show (operatorStarts ++ suffixStarts).all (fun d => !isWordStart d) = true by decide)
  rw [List.mem_append, not_or] at hsigns
  refine endsTarget_of_skip (h.trans hcons) hsigns.2 (isStep_of_not_mem hsigns.1 u) ?_ ?_
  · rintro rfl
    exact absurd hsigns.1 (by decide)
  · rintro rfl
    exact absurd hsigns.1 (by decide)

def valueEnds : List Char := [',', ')', ']', '\x7d', ';', ':', '\x7b']

theorem endsExpression_of_skip (h : skip t = d :: r)
    (hd : d ∉ operatorStarts ++ suffixStarts) (htype : EndsType t)
    (hoperator : typeOperator? place t = none)
    (hword : ∀ w u, word? (d :: r) = some (w, u) →
      w ≠ "instanceof" ∧ (w = "in" → place.loopHead = true)) :
    EndsExpression place t := by
  rw [List.mem_append, not_or] at hd
  have hne : ∀ c ∈ operatorStarts, d ≠ c := by
    rintro c hc rfl
    exact hd.1 hc
  have htarget : EndsTarget t := by
    refine endsTarget_of_skip h hd.2 (isStep_of_not_mem hd.1 r) ?_ ?_
    · exact fun hq => absurd hq (hne '?' (by decide))
    · exact fun he => absurd he (hne '=' (by decide))
  refine ⟨⟨⟨htarget, fun r' hr' => ?_, hoperator⟩, binaryOperator?_of_skip h hd.1 hword,
    assignment?_of_skip h hd.1, htype⟩, ?_⟩
  · exact absurd (List.cons.inj (h.symm.trans hr')).1 (hne '!' (by decide))
  · rw [symbol?_of_skip h, if_neg (hne '?' (by decide))]

theorem endsExpression_of_sign (h : skip t = d :: r) (hd : d ∈ valueEnds) :
    EndsExpression place t := by
  have hsigns : ∀ d ∈ valueEnds, isWordPart d = false ∧ d ≠ '\\' ∧
      d ∉ operatorStarts ++ suffixStarts ∧ d ∉ ['.', '<', '[', '|', '&', '\\'] :=
    forall_sign (by decide)
  obtain ⟨hpart, hb, hnot, htype⟩ := hsigns d hd
  have hstart : isWordStart d = false := by
    simp [isWordStart, hpart]
  have hword : word? (d :: r) = none := word?_of_sign hstart hb r
  exact endsExpression_of_skip h hnot (endsType_of_sign h htype hpart)
    (typeOperator?_of_sign h hstart hb) (by simp [hword])

theorem Sign.endsExpression (h : Sign c s t) (hc : c ∈ valueEnds) : EndsExpression place s := by
  have hstarts : ∀ c ∈ valueEnds, startsLexeme c = true := forall_sign (by decide)
  exact endsExpression_of_sign (h.skip_eq (hstarts c hc)) hc

/-! ### Ends of lines -/

/-- A line ends in a gap if one of its characters ends a line. -/
theorem crossesLine_of_gap {g : List Char} (hg : Gap g) (h : skip s = s) :
    crossesLine (g ++ s) = g.any isLineEnd := by
  rw [crossesLine, skip_append_of_gap hg, h, between_append]

theorem crossesLine_of_lineFeed {g : List Char} (hg : Gap g) (hline : '\n' ∈ g) (h : skip s = s) :
    crossesLine (g ++ s) = true := by
  rw [crossesLine_of_gap hg h]
  exact List.any_eq_true.2 ⟨'\n', hline, rfl⟩

theorem crossesLine_of_inline {g : List Char} (hg : Gap g) (hline : ∀ c ∈ g, c ∉ lineTerminators)
    (h : skip s = s) : crossesLine (g ++ s) = false := by
  rw [crossesLine_of_gap hg h, List.any_eq_false]
  intro c hc hend
  refine hline c hc (endsComment_iff.1 ?_)
  rw [endsComment, hend, Bool.true_or]

theorem typeOperator?_of_line (h : crossesLine t = true) (hplace : place.bracketed = false) :
    typeOperator? place t = none := by
  rw [typeOperator?, if_pos ⟨h, hplace⟩]

/-- A statement ends in front of a closing brace, and where nothing on the next line goes on with
it. -/
theorem EndsClause.endsExpression (h : EndsClause t) (hplace : place.bracketed = false) :
    EndsExpression place t ∧ endStatement t = some t := by
  cases h with
  | @brace _ u hc =>
      have hskip := hc.skip_eq (by decide)
      refine ⟨endsExpression_of_sign hskip (by decide), ?_⟩
      rw [endStatement, hskip]
      simp
  | @word g w u hg hline hw hend hnot =>
      have hskip := hg.skip_name hw u
      have hcross := crossesLine_of_lineFeed hg hline (hw.skip_append u)
      simp only [List.mem_cons, List.not_mem_nil, or_false, not_or] at hnot
      obtain ⟨d, v, hcons, -, hsigns⟩ := hw.exists_head u
        (show (';' :: '\x7d' :: (operatorStarts ++ suffixStarts)).all
          (fun d => !isWordStart d) = true by decide)
      simp only [List.mem_cons, not_or] at hsigns
      refine ⟨endsExpression_of_skip (hskip.trans hcons) hsigns.2.2
        (endsType_of_name hskip hw hend hnot.2.2 (Or.inl hcross))
        (typeOperator?_of_line hcross hplace) fun w' u' hw' => ?_, ?_⟩
      · rw [← hcons, hw.word?_append hend] at hw'
        obtain ⟨rfl, -⟩ := Prod.mk.inj (Option.some.inj hw')
        exact ⟨hnot.2.1, fun hin => absurd hin hnot.1⟩
      · rw [endStatement, hskip, hcons]
        simp [hsigns.1, ← hcons, hcross]
  | @sign g c u hg hline hc =>
      have hsigns : ∀ c ∈ ['@', '#', '"', '\''], startsLexeme c = true ∧ isWordPart c = false ∧
          c ≠ '\\' ∧ c ∉ operatorStarts ++ suffixStarts ∧ c ∉ ['.', '<', '[', '|', '&', '\\'] ∧
          c ≠ ';' := forall_sign (by decide)
      obtain ⟨hstarts, hpart, hb, hnot, htype, hsemicolon⟩ := hsigns c hc
      have hskip := hg.skip_append hstarts u
      have hcross := crossesLine_of_lineFeed hg hline (skip_of_startsLexeme hstarts u)
      have hstart : isWordStart c = false := by
        simp [isWordStart, hpart]
      have hword : word? (c :: u) = none := word?_of_sign hstart hb u
      refine ⟨endsExpression_of_skip hskip hnot
        (endsType_of_sign hskip htype hpart) (typeOperator?_of_sign hskip hstart hb)
        (by simp [hword]), ?_⟩
      rw [endStatement, hskip]
      simp [hsemicolon, hcross]

end DecoratorGraph.Script
