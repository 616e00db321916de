import DecoratorGraph.Proofs.Script.Values

/-!
# Reading statements

A statement is read up to its end, which is a semicolon, a closing brace or the end of a line
(`EndsStatement`). The word that a statement begins with decides how it goes on.
-/

namespace DecoratorGraph.Script

variable {F : Forms} {g : Grammar} {k : Nat} {s t r u : List Char} {c : Char} {w : String}
variable {place : Place} {within : Bool}

/-! ### Variables -/

/-- What may follow a variable of a declaration. -/
structure EndsVariable (place : Place) (t : List Char) : Prop where
  expression : EndsExpression place t
  sign : ∀ c ∈ ['=', ':', '!'], symbol? c t = none

theorem Sign.endsVariable (h : Sign c s t) (hc : c ∈ [',', ';']) : EndsVariable place s := by
  have hsigns : ∀ c ∈ [',', ';'], c ∈ valueEnds ∧ startsLexeme c = true ∧
      ∀ d ∈ ['=', ':', '!'], c ≠ d := by
    simp only [List.mem_cons, List.not_mem_nil, or_false, forall_eq_or_imp, forall_eq]
    decide
  obtain ⟨hends, hstarts, hne⟩ := hsigns c hc
  exact ⟨h.endsExpression hends, fun d hd => h.symbol?_eq_none hstarts (hne d hd)⟩

theorem EndsStatement.endsVariable (h : EndsStatement s t) : EndsVariable .free s := by
  have hsigns : ∀ c ∈ ['=', ':', '!'], c ∈ [',', '=', ':', '!', '?', '(', '<', '\x7b'] :=
    forall_sign (by decide)
  exact ⟨h.expression, fun c hc => h.sign c (hsigns c hc)⟩

/-- A pattern with its type and its first value is skipped. -/
theorem exists_variable_of_form (hg : g.ReadsForms k) (hF : F.IsLevel)
    (h : Spaced (IsVariable F within) s t) (hs : s.length < k) (hplace : place.Admits within)
    (ht : EndsVariable place t) :
    ∃ r, g.pattern s = some r ∧ g.variableRest place r = some t := by
  obtain @⟨gap, s, _, hgap, h⟩ := h
  obtain @⟨_, r, u, v, _, hp, hm, htype, he⟩ := h
  have hpattern := hg.pattern hF (.mk hgap hp) hs
  have hr := (hg.consumes.pattern _).length_le hpattern
  have hmark : symbol? '!' u = none := symbol?_of_led htype (by decide) (by decide)
    (symbol?_of_led he (by decide) (by decide) (ht.sign '!' (by decide)))
  obtain ⟨hdefinite, hu⟩ := skipOptional_of_opt hm (by decide) hmark
  have hannotation := annotation_of_led hg hF htype (by omega)
    (endsType_of_led he (by decide) (by decide) ht.expression.type)
    (symbol?_of_led he (by decide) (by decide) (ht.sign ':' (by decide)))
  have hv := (leaves_typeAfterColon hg.consumes u).length_le hannotation
  refine ⟨r, hpattern, ?_⟩
  rw [Grammar.variableRest, hdefinite, hannotation]
  exact initializer_of_led hg hF hplace he (by omega) ht.expression (ht.sign '=' (by decide))

/-- The variables of a declaration are read to their end. -/
theorem exists_variables_of_form (hg : g.ReadsForms k) (hF : F.IsLevel)
    (h : Sequenced (IsVariable F within) s t) (hs : s.length < k) (hplace : place.Admits within)
    (ht : EndsVariable place t) (hcomma : symbol? ',' t = none) :
    ∃ name, g.variables place s = some (name, t) := by
  have hdepth := hg.depth
  obtain @⟨_, r, _, h, hf⟩ := h
  have hends : EndsVariable place r := by
    cases hf with
    | nil => exact ht
    | cons hc _ _ => exact hc.endsVariable (by decide)
  obtain ⟨u, hpattern, hrest⟩ := exists_variable_of_form hg hF h hs hplace hends
  have hu := (hg.consumes.pattern s).length_le hpattern
  have hr := (leaves_variableRest hg.consumes place u).length_le hrest
  have hleaves (s : List Char) : Leaves s ((g.pattern s).bind (g.variableRest place)) := by
    have := hg.consumes.pattern
    have := leaves_variableRest hg.consumes
    grind
  have hread {s t : List Char} (h : Spaced (IsVariable F within) s t) (hs : s.length < k)
      (hends : EndsVariable place t) : (g.pattern s).bind (g.variableRest place) = some t := by
    obtain ⟨v, hv, hrest⟩ := exists_variable_of_form hg hF h hs hplace hends
    rw [hv, Option.bind_some, hrest]
  have hfurther := skipFurther_of_form hleaves hread (fun hc => hc.endsVariable (by decide)) hf
    (by omega) ht hcomma g.depth (by omega)
  refine ⟨textBetween (skip s) u, ?_⟩
  rw [Grammar.variables, hpattern]
  simp only [Option.bind_eq_bind, Option.bind_some, hrest, hfurther]

theorem startsPattern_of_form (hF : F.IsLevel) (h : Spaced F.pattern s t) :
    startsPattern s = true := by
  obtain @⟨gap, s, _, hgap, h⟩ := h
  obtain ⟨c, r, rfl, hstarts, hc⟩ := hF.starts_pattern h
  rw [startsPattern, hgap.skip_append hstarts]
  exact hc

/-! ### Words of statements -/

theorem readStatement_of_word {w : List Char} (hw : IsName w) (hskip : skip s = w ++ r)
    (hend : EndsWord r) :
    g.readStatement s = g.wordStatement (w ++ r) (String.ofList w) r := by
  have hword := hw.word?_append hend
  obtain ⟨c, v, hcons, -, hnot⟩ := hw.exists_head r
    (show [';', '\x7b', '@'].all (fun d => !isWordStart d) = true by decide)
  simp only [List.mem_cons, List.not_mem_nil, or_false, not_or] at hnot
  rw [Grammar.readStatement, hskip]
  rw [hcons] at hword ⊢
  simp only [hnot, if_false, hword]

def declarationWords : List String :=
  ["var", "let", "const", "function", "async", "class", "abstract", "interface", "type", "enum",
    "module", "declare", "import"]

def controlWords : List String :=
  ["if", "while", "with", "do", "for", "switch", "try", "return", "throw", "break", "continue",
    "debugger"]

theorem declaration_eq_none (g : Grammar) (hw : w ∉ declarationWords) (r : List Char) :
    g.declaration w r = none := by
  unfold Grammar.declaration
  split <;> first | rfl | exact absurd (by decide) hw

theorem control_eq_none (g : Grammar) (hw : w ∉ controlWords) (r : List Char) :
    g.control w r = none := by
  unfold Grammar.control
  split <;> first | rfl | exact absurd (by decide) hw

/-- A word that is none of a statement is a label or begins an expression. -/
theorem wordStatement_of_free (g : Grammar) (hw : w ∉ statementWords) (start : List Char) :
    g.wordStatement start w r = ((symbol? ':' r).bind g.skipStatement).elim
      (g.expressionStatement start) fun rest => some (.plain, rest) := by
  have hwords : ∀ w ∈ declarationWords ++ controlWords, w ∈ statementWords := by decide
  have hexport : w ≠ "export" := by
    rintro rfl
    exact hw (by decide)
  rw [Grammar.wordStatement, if_neg hexport,
    declaration_eq_none g (fun h => hw (hwords w (List.mem_append_left _ h))),
    control_eq_none g (fun h => hw (hwords w (List.mem_append_right _ h)))]
  cases (symbol? ':' r).bind g.skipStatement <;> rfl

theorem wordStatement_of_control (hw : w ∈ controlWords) (h : g.control w r = some t)
    (start : List Char) : g.wordStatement start w r = some (.plain, t) := by
  have hwords : ∀ w ∈ controlWords, w ≠ "export" ∧ w ∉ declarationWords := by decide
  rw [Grammar.wordStatement, if_neg (hwords w hw).1, declaration_eq_none g (hwords w hw).2, h]

theorem wordStatement_of_declaration {d : Statement} (hw : w ≠ "export")
    (h : g.declaration w r = some (d, t)) (start : List Char) :
    g.wordStatement start w r = some (d, t) := by
  rw [Grammar.wordStatement, if_neg hw, h]

theorem exists_readStatement_of_control {gap : List Char} (hgap : Gap gap) (hw : w ∈ controlWords)
    (hend : EndsWord s) (h : g.control w s = some t) :
    ∃ d, g.readStatement (gap ++ (w.toList ++ s)) = some (d, t) := by
  have hname : IsName w.toList := isName_of_mem (by decide) hw
  rw [readStatement_of_word hname (hgap.skip_name hname s) hend, String.ofList_toList,
    wordStatement_of_control hw h]
  exact ⟨_, rfl⟩

theorem exists_readStatement_of_declaration {gap : List Char} (hgap : Gap gap)
    (hw : w ∈ declarationWords) (hend : EndsWord s) (h : ∃ d, g.declaration w s = some (d, t)) :
    ∃ d, g.readStatement (gap ++ (w.toList ++ s)) = some (d, t) := by
  have hname : IsName w.toList := isName_of_mem (by decide) hw
  have hexport : w ≠ "export" := by
    rintro rfl
    exact absurd hw (by decide)
  obtain ⟨d, hd⟩ := h
  rw [readStatement_of_word hname (hgap.skip_name hname s) hend, String.ofList_toList,
    wordStatement_of_declaration hexport hd]
  exact ⟨d, rfl⟩

/-! ### Declarations -/

theorem classDeclaration_of_form (hg : g.ReadsForms k) (hF : F.IsLevel) (h : NamedClass F s t)
    (hs : s.length ≤ k) : ∃ d, g.classDeclaration s = some (d, t) := by
  obtain ⟨name, hread⟩ := classTail_of_named hg hF h hs
  rw [Grammar.classDeclaration, hread]
  exact ⟨_, rfl⟩

theorem exists_decorator_of_form (hg : g.ReadsForms k) (hF : F.IsLevel)
    (h : Spaced (IsDecorator F) s t) (hs : s.length ≤ k) : ∃ a, g.decorator s = some (a, t) := by
  have hread := skipDecorator_of_form hg hF h hs
  rw [skipDecorator_eq, Option.map_eq_some_iff] at hread
  obtain ⟨⟨a, _⟩, hread, rfl⟩ := hread
  exact ⟨a, hread⟩

theorem decorators_of_none (h : g.decorator s = none) (n : Nat) : g.decorators n s = ([], s) := by
  cases n with
  | zero => rfl
  | succ n => rw [Grammar.decorators, h]

/-- The decorators of a class are read up to the word that begins its declaration. -/
theorem exists_decorators_of_class (hg : g.ReadsForms k) (hF : F.IsLevel) (h : IsClass F s t)
    {gap : List Char} (hgap : Gap gap) (hs : (gap ++ s).length ≤ k) :
    ∃ as gap' w r, Gap gap' ∧ w ∈ ["class", "abstract"] ∧ EndsWord r ∧
      (∃ d, g.declaration w r = some (d, t)) ∧
      (∀ n, (gap ++ s).length ≤ n →
        g.decorators n (gap ++ s) = (as, gap' ++ (w.toList ++ r))) ∧
      (as = [] ∧ s = w.toList ++ r ∨ as ≠ [] ∧ ∃ u, s = '@' :: u) := by
  have hplain {w : String} (hw : w ∈ ["class", "abstract"]) {gap : List Char} (hgap : Gap gap)
      (r : List Char) (n : Nat) :
      g.decorators n (gap ++ (w.toList ++ r)) = ([], gap ++ (w.toList ++ r)) := by
    have hname : IsName w.toList := isName_of_mem (by decide) hw
    refine decorators_of_none ?_ n
    rw [Grammar.decorator, symbol?_of_name hname (hgap.skip_name hname r) (by decide)]
    rfl
  induction h generalizing gap with
  | @plain s t hend h =>
      rw [List.length_append, List.length_append] at hs
      exact ⟨[], gap, "class", s, hgap, by decide, hend,
        classDeclaration_of_form hg hF h (by omega), fun n _ => hplain (by decide) hgap s n,
        Or.inl ⟨rfl, rfl⟩⟩
  | @abstract gap' s t hgap' hne hend h =>
      simp only [List.length_append] at hs
      have hclass : Keyword "class" (gap' ++ ("class".toList ++ s)) s := .mk hgap' hend
      obtain ⟨d, hd⟩ := classDeclaration_of_form hg hF h (by omega)
      refine ⟨[], gap, "abstract", gap' ++ ("class".toList ++ s), hgap, by decide,
        hgap'.endsWord hne _, ⟨d, ?_⟩, fun n _ => hplain (by decide) hgap _ n,
        Or.inl ⟨rfl, rfl⟩⟩
      simp only [Grammar.declaration, hclass.keyword?_eq (show IsName "class".toList by decide),
        Option.bind_some, hd]
  | @decorated s gap' r t hd hgap' h ih =>
      obtain ⟨a, hread⟩ := exists_decorator_of_form hg hF (.mk hgap hd) hs
      rw [List.length_append] at hs
      have hlength := hd.length_lt hg hF (by omega)
      obtain ⟨as, gap'', w, u, hgap'', hw, hend, hdeclared, hrest, -⟩ := ih hgap' (by omega)
      refine ⟨a :: as, gap'', w, u, hgap'', hw, hend, hdeclared, fun n hn => ?_,
        Or.inr ⟨List.cons_ne_nil _ _, hd.exists_mark⟩⟩
      rw [List.length_append] at hn
      obtain ⟨n, rfl⟩ : ∃ m, n = m + 1 := ⟨n - 1, by omega⟩
      rw [Grammar.decorators, hread]
      simp only [hrest n (by omega)]

/-- The declaration of a class is read with the decorators in front of it. -/
theorem exists_readStatement_of_class (hg : g.ReadsForms k) (hF : F.IsLevel) (h : IsClass F s t)
    {gap : List Char} (hgap : Gap gap) (hs : (gap ++ s).length ≤ k) :
    ∃ d, g.readStatement (gap ++ s) = some (d, t) := by
  have hdepth := hg.depth
  rw [List.length_append] at hs
  obtain ⟨as, gap', w, r, hgap', hw, hend, ⟨d, hd⟩, hdecorators, hfirst⟩ :=
    exists_decorators_of_class hg hF h Gap.nil (by rw [List.nil_append]; omega)
  have hname : IsName w.toList := isName_of_mem (by decide) hw
  obtain ⟨-, rfl⟩ | ⟨hne, u, rfl⟩ := hfirst
  · have hwords : ∀ w ∈ ["class", "abstract"], w ∈ declarationWords := by decide
    exact exists_readStatement_of_declaration hgap (hwords w hw) hend ⟨d, hd⟩
  · have hskip := hgap'.skip_name hname r
    have hread := hdecorators g.depth (by rw [List.nil_append]; omega)
    rw [List.nil_append] at hread
    have hexport : keyword? "export" (gap' ++ (w.toList ++ r)) = none := by
      have hwords : ∀ w ∈ ["class", "abstract"], w ≠ "export" := by decide
      rw [keyword?_of_name hname hskip hend, String.ofList_toList, if_neg (hwords w hw)]
    have hclass : w = "class" ∨ w = "abstract" := by simpa using hw
    have hdecorated : g.decorated ('@' :: u) = some (⟨d.name, d.kind, as⟩, t) := by
      rw [Grammar.decorated, hread]
      simp only [hskip, hname.word?_append hend, String.ofList_toList, Option.bind_eq_bind,
        Option.bind_some, if_neg hne, if_pos hclass, hd]
    refine ⟨⟨d.name, d.kind, as⟩, ?_⟩
    rw [Grammar.readStatement, hgap.skip_append (by decide)]
    simp only [Char.reduceEq, if_false, if_true]
    rw [Grammar.decoratedStatement, hread]
    simp only [hexport, hdecorated]

theorem enumTail_of_form (hn : Name s r) (ho : Sign '\x7b' r u) (h : Balanced '\x7d' u t) :
    ∃ d, enumTail s = some (d, t) := by
  obtain ⟨w, hw, hskip, hend⟩ := hn.exists_name
  have hgroup := group?_of_balanced (by decide) ho h
  have hnext : next? r = some '\x7b' := by
    rw [next?, ho.skip_eq (by decide), List.head?_cons]
  rw [enumTail, hskip, hw.word?_append hend]
  simp only [Option.bind_eq_bind, Option.bind_some, hnext, if_true, hgroup]
  exact ⟨_, rfl⟩

/-- An interface is read over to its end. -/
theorem interfaceTail_of_form (hg : g.ReadsForms k) (hF : F.IsLevel) {v x : List Char}
    (hn : Name s r) (hp : Opt (Enclosed '<' (TypeParameterItem F) '>') r u)
    (he : Heritage "extends" F.type u v) (ho : Sign '\x7b' v x) (h : Balanced '\x7d' x t)
    (hs : s.length ≤ k) : ∃ d, g.interfaceTail s = some (d, t) := by
  have hextends : IsName "extends".toList := by decide
  obtain ⟨w, hw, hskip, hend⟩ := hn.exists_name
  have hr := hn.length_lt
  have hbrace := ho.skip_eq (by decide)
  have hless : symbol? '<' u = none := by
    cases he with
    | none => exact ho.symbol?_eq_none (by decide) (by decide)
    | some hk _ _ => exact symbol?_of_name hextends (hk.skip_eq hextends).1 (by decide)
  obtain ⟨hparameters, hu⟩ := skipOptional_typeParameters_of_form hg hF hp (by omega) hless
  have hgroup := group?_of_balanced (by decide) ho h
  have hnext : next? v = some '\x7b' := by
    rw [next?, ho.skip_eq (by decide), List.head?_cons]
  rw [Grammar.interfaceTail, hskip, hw.word?_append hend]
  simp only [Option.bind_eq_bind, Option.bind_some, hparameters]
  cases he with
  | none =>
      rw [keyword?_of_sign hbrace (by decide) (by decide)]
      simp only [Option.bind_some, hnext, if_true, hgroup]
      exact ⟨_, rfl⟩
  | some hk h hf =>
      have hk' := hk.length_lt hextends
      have hread := items_of_further hg.consumes.type (fun h hs ht => hg.type hF h hs ht.type) h hf
        (by omega) (ho.endsHeritage (by decide)) (ho.symbol?_eq_none (by decide) (by decide))
        hg.depth
      rw [hk.keyword?_eq hextends]
      simp only [hread, Option.bind_some, hnext, if_true, hgroup]
      exact ⟨_, rfl⟩

/-- A name for a type is read up to the end of the type, and then its end. -/
theorem typeAlias_of_form (hg : g.ReadsForms k) (hF : F.IsLevel) {gap w : List Char} {v : List Char}
    (hgap : Gap gap) (hline : ∀ c ∈ gap, c ∉ lineTerminators) (hw : IsName w) (hend : EndsWord s)
    (hp : Opt (Enclosed '<' (TypeParameterItem F) '>') s r) (he : Sign '=' r u)
    (h : Spaced F.type u v) (hs : (gap ++ (w ++ s)).length ≤ k) (ht : EndsStatement v t) :
    ∃ d, g.typeAlias (gap ++ (w ++ s)) = some (d, t) := by
  simp only [List.length_append] at hs
  obtain ⟨hparameters, hr⟩ := skipOptional_typeParameters_of_form hg hF hp (by omega)
    (he.symbol?_eq_none (by decide) (by decide))
  have hu := he.length_lt
  rw [Grammar.typeAlias, crossesLine_of_inline hgap hline (hw.skip_append s),
    if_neg Bool.false_ne_true, hgap.skip_name hw, hw.word?_append hend]
  simp only [Option.bind_eq_bind, Option.bind_some, hparameters,
    he.symbol?_eq (show startsLexeme '=' = true by decide),
    hg.type hF h (by omega) ht.expression.type, ht.ends]
  exact ⟨_, rfl⟩

/-! ### Clauses -/

/-- An expression that is a statement of its own is read with its end. -/
theorem exists_expressionStatement (hg : g.ReadsForms k) (hF : F.IsLevel)
    (h : Sequenced F.expression s r) (hs : s.length < k) (hr : EndsStatement r t) :
    ∃ d, g.expressionStatement s = some (d, t) := by
  obtain ⟨e, he⟩ : ∃ e, g.sequence .free s = some (e, r) :=
    exists_sequence_of_form hg hF h hs (Place.admits_free true) hr.expression
      (hr.sign ',' (by decide))
  rw [Grammar.expressionStatement, he]
  simp only [Option.bind_eq_bind, Option.bind_some, hr.ends]
  exact ⟨_, rfl⟩

theorem control_of_jump (g : Grammar) (hw : w ∈ ["return", "break", "continue", "debugger"])
    (h : EndsStatement r t) : g.control w r = some t := by
  have hlabel : Grammar.control.label r = some t := by
    rw [Grammar.control.label]
    obtain hline | hword := h.label
    · rw [if_pos hline, h.ends]
    · rw [hword, Option.getD_none, h.ends, ite_self]
  simp only [List.mem_cons, List.not_mem_nil, or_false] at hw
  obtain rfl | rfl | rfl | rfl := hw
  · show (if crossesLine r then endStatement r else g.optionalValue r) = some t
    rw [Grammar.optionalValue, h.ends, ite_self]
  · exact hlabel
  · exact hlabel
  · exact h.ends

theorem control_of_jumpTo (g : Grammar) {gap label : List Char} (hw : w ∈ ["break", "continue"])
    (hgap : Gap gap) (hline : ∀ c ∈ gap, c ∉ lineTerminators) (hlabel : IsName label)
    (hend : EndsWord r) (h : endStatement r = some t) :
    g.control w (gap ++ (label ++ r)) = some t := by
  have hread : Grammar.control.label (gap ++ (label ++ r)) = some t := by
    rw [Grammar.control.label, crossesLine_of_inline hgap hline (hlabel.skip_append r),
      if_neg Bool.false_ne_true, hgap.skip_name hlabel, hlabel.skipWord?_append hend,
      Option.getD_some, h]
  simp only [List.mem_cons, List.not_mem_nil, or_false] at hw
  obtain rfl | rfl := hw
  · exact hread
  · exact hread

/-- What is returned is skipped, since it stands on the line of its keyword. -/
theorem control_of_result (hg : g.ReadsForms k) (hF : F.IsLevel) {gap : List Char} (hgap : Gap gap)
    (hline : ∀ c ∈ gap, c ∉ lineTerminators) (h : F.expression s u) (hf : Further F.expression u r)
    (hs : (gap ++ s).length < k) (hr : EndsStatement r t) :
    g.control "return" (gap ++ s) = some t := by
  have hopens := hF.opens_expression h
  have hcross := crossesLine_of_inline hgap hline hopens.skip_eq
  have hends : endStatement (gap ++ s) = none := by
    obtain ⟨c, v, rfl, hself, hnot⟩ := hopens.exists_cons
    have hsemicolon : c ≠ ';' := fun hc => hnot (by rw [hc]; decide)
    have hbrace : c ≠ '\x7d' := fun hc => hnot (by rw [hc]; decide)
    rw [endStatement, hgap.skip_of_skip hself]
    simp [hsemicolon, hbrace, hcross]
  obtain ⟨e, he⟩ : ∃ e, g.sequence .free (gap ++ s) = some (e, r) :=
    exists_sequence_of_form hg hF (.mk (.mk hgap h) hf) hs (Place.admits_free true) hr.expression
      (hr.sign ',' (by decide))
  show (if crossesLine (gap ++ s) then endStatement (gap ++ s) else g.optionalValue (gap ++ s)) =
    some t
  rw [hcross, if_neg Bool.false_ne_true, Grammar.optionalValue, hends, he]
  exact hr.ends

/-- A statement without the semicolon at its end is read up to there, and then its end. -/
theorem exists_readStatement_of_clause (hg : g.ReadsForms k) (hF : F.IsLevel)
    (h : Spaced (IsClause F) s r) (hs : s.length < k) (hr : EndsStatement r t) :
    ∃ d, g.readStatement s = some (d, t) := by
  obtain @⟨gap, s, _, hgap, h⟩ := h
  rw [List.length_append] at hs
  cases h with
  | value hfirst h hf =>
      obtain ⟨d, hd⟩ := exists_expressionStatement hg hF (.mk (spaced_of_item h) hf) (by omega) hr
      refine ⟨d, ?_⟩
      cases hfirst with
      | @sign c v hc =>
          have hsigns : ∀ c ∈ "\"'[\x60(!~+-0123456789/".toList,
              isWordStart c = false ∧ c ∉ ['\\', ';', '\x7b', '@'] := forall_sign (by decide)
          obtain ⟨hstart, hnot⟩ := hsigns c hc
          simp only [List.mem_cons, List.not_mem_nil, or_false, not_or] at hnot
          rw [Grammar.readStatement, hgap.skip_of_skip (hF.opens_expression h).skip_eq]
          simp only [hnot, if_false, word?_of_sign hstart hnot.1, hd]
      | @word w v hw hfree hend hlabel =>
          rw [readStatement_of_word hw (hgap.skip_name hw v) hend, wordStatement_of_free g hfree,
            hlabel.symbol?_eq_none (by decide) (by decide)]
          exact hd
  | @declaration w v _ hw hend hno h =>
      have hname : IsName w.toList := isName_of_mem (by decide) hw
      rw [List.length_append] at hs
      obtain ⟨name, hread⟩ : ∃ name, g.variables .free v = some (name, r) :=
        exists_variables_of_form hg hF h (by omega) (Place.admits_free true) hr.endsVariable
          (hr.sign ',' (by decide))
      have htail : g.variableTail v = some (⟨some name, .variable, []⟩, t) := by
        rw [Grammar.variableTail, hread]
        simp only [Option.bind_eq_bind, Option.bind_some, hr.ends]
      have hpattern : startsPattern v = true := by
        obtain ⟨⟨hgap', ⟨hp, -, -, -⟩⟩, -⟩ := h
        exact startsPattern_of_form hF (.mk hgap' hp)
      have hwords : ∀ w ∈ ["var", "let", "const"], w ∈ declarationWords := by decide
      refine exists_readStatement_of_declaration hgap (hwords w hw) hend
        ⟨⟨some name, .variable, []⟩, ?_⟩
      simp only [List.mem_cons, List.not_mem_nil, or_false] at hw
      obtain rfl | rfl | rfl := hw
      · exact htail
      · show (if startsPattern v then g.variableTail v else none) = _
        rw [hpattern, if_pos rfl, htail]
      · have henum : keyword? "enum" v = none := hno.keyword?_eq_none (by decide)
        simp only [Grammar.declaration, henum, htail]
  | typeAlias hgap' hne hline hw hend hp he h =>
      rw [List.length_append] at hs
      exact exists_readStatement_of_declaration hgap (by decide) (hgap'.endsWord hne _)
        (typeAlias_of_form hg hF hgap' hline hw hend hp he h (by omega) hr)
  | @jump w _ hw hend =>
      have hwords : ∀ w ∈ ["return", "break", "continue", "debugger"], w ∈ controlWords := by decide
      exact exists_readStatement_of_control hgap (hwords w hw) hend (control_of_jump g hw hr)
  | @jumpTo w gap' label _ hw hgap' hne hline hlabel hend =>
      have hwords : ∀ w ∈ ["break", "continue"], w ∈ controlWords := by decide
      exact exists_readStatement_of_control hgap (hwords w hw) (hgap'.endsWord hne _)
        (control_of_jumpTo g hw hgap' hline hlabel hend hr.ends)
  | @result gap' v x _ hgap' hline hend h hf =>
      rw [List.length_append] at hs
      exact exists_readStatement_of_control hgap (by decide) hend
        (control_of_result hg hF hgap' hline h hf (by omega) hr)
  | @throw v _ hend h =>
      rw [List.length_append] at hs
      obtain ⟨e, he⟩ : ∃ e, g.sequence .free v = some (e, r) :=
        exists_sequence_of_form hg hF h (by omega) (Place.admits_free true) hr.expression
          (hr.sign ',' (by decide))
      refine exists_readStatement_of_control hgap (by decide) hend ?_
      simp only [Grammar.control, he, Option.bind_some, hr.ends]

/-! ### Conditions and branches -/

theorem condition_of_form (hg : g.ReadsForms k) (hF : F.IsLevel) (h : IsCondition F s t)
    (hs : s.length ≤ k) : g.condition s = some t := by
  obtain ⟨ho, he, hc⟩ := h
  have hlength := ho.length_lt
  rw [Grammar.condition, ho.symbol?_eq (by decide)]
  simp only [Option.bind_eq_bind, Option.bind_some,
    (skipSequence_of_form hg hF he hc (by decide) (by omega)).2,
    hc.symbol?_eq (show startsLexeme ')' = true by decide)]

theorem skipStatement_of_statement (hg : g.ReadsForms k) (hF : F.IsLevel)
    (h : Spaced F.statement s t) (hs : s.length + 1 < k) : g.skipStatement s = some t := by
  obtain ⟨d, hd⟩ := hg.statement hF h hs
  rw [Grammar.skipStatement, hd, Option.map_some]

theorem skipStatement_of_clause (hg : g.ReadsForms k) (hF : F.IsLevel) (h : Spaced F.clause s t)
    (hs : s.length + 1 < k) (ht : EndsClause t) : g.skipStatement s = some t := by
  obtain ⟨d, hd⟩ := hg.clause hF h hs ht
  rw [Grammar.skipStatement, hd, Option.map_some]

theorem branch_of_form (hg : g.ReadsForms k) (hF : F.IsLevel) (h : IsBranch F s t)
    (hs : s.length + 1 < k) : g.skipStatement s = some t := by
  cases h with
  | statement h => exact skipStatement_of_statement hg hF h hs
  | clause h hend => exact skipStatement_of_clause hg hF h hs hend

/-! ### Loops -/

/-- A part of a loop that may be missing is skipped up to the sign behind it. -/
theorem skipOptional_of_form (hg : g.ReadsForms k) (hF : F.IsLevel)
    (h : Opt (Sequenced F.expression) s r) (hc : Sign c r t) (hclose : c ∈ [';', ')'])
    (hs : s.length < k) : skipOptional g.skipSequence s = r ∧ r.length ≤ s.length := by
  have hsigns : ∀ c ∈ [';', ')'], c ∈ [')', ']', '\x7d', ':', ';'] ∧ startsLexeme c = true :=
    forall_sign (by decide)
  obtain ⟨hmem, hstarts⟩ := hsigns c hclose
  cases h with
  | none =>
      have hnone : g.skipSequence s = none := by
        rw [Grammar.skipSequence, Grammar.sequence,
          expression_eq_none hg.level (hc.skip_eq hstarts) (List.mem_append_left ['=', '>'] hclose)]
        rfl
      exact ⟨skipOptional_of_none hnone, Nat.le_refl _⟩
  | some h =>
      have hread := (skipSequence_of_form hg hF h hc hmem hs).2
      exact ⟨skipOptional_of_some hread, (leaves_skipSequence hg.consumes s).length_le hread⟩

/-- What is left behind what a loop starts with. -/
def Grammar.loopStart (g : Grammar) (s : List Char) : List Char :=
  let place : Place := ⟨true, false, true⟩
  let declared : Option (List Char) := do
    let (w, r) ← word? (skip s)
    if w = "var" ∨ w = "const" ∨ w = "let" ∧ startsPattern r then
      (g.variables place r).map Prod.snd
    else none
  match declared with
  | some r => r
  | none => ((g.sequence place s).map Prod.snd).getD s

/-- Skips the rest of the head of a loop, what it ranges over or its test and its step. -/
def Grammar.loopRest (g : Grammar) (s : List Char) : Option (List Char) :=
  let range :=
    match keyword? "of" s with
    | some r => some r
    | none => keyword? "in" s
  match range with
  | some r => (g.skipSequence r).bind (symbol? ')')
  | none => do
    let r ← symbol? ';' s
    let r ← symbol? ';' (skipOptional g.skipSequence r)
    symbol? ')' (skipOptional g.skipSequence r)

theorem loopHead_eq (g : Grammar) (s : List Char) : g.loopHead s = g.loopRest (g.loopStart s) := rfl

theorem loopStart_of_declaration (hw : w ∈ ["var", "let", "const"]) (hd : Keyword w s r)
    (hpattern : startsPattern r = true) {name : String}
    (h : g.variables ⟨true, false, true⟩ r = some (name, t)) : g.loopStart s = t := by
  have hname : IsName w.toList := isName_of_mem (by decide) hw
  obtain ⟨hskip, hend⟩ := hd.skip_eq hname
  have hdeclares : w = "var" ∨ w = "const" ∨ w = "let" ∧ startsPattern r = true := by
    simp only [List.mem_cons, List.not_mem_nil, or_false] at hw
    obtain rfl | rfl | rfl := hw
    · exact Or.inl rfl
    · exact Or.inr (Or.inr ⟨rfl, hpattern⟩)
    · exact Or.inr (Or.inl rfl)
  rw [Grammar.loopStart, hskip, hname.word?_append hend, String.ofList_toList]
  simp only [Option.bind_eq_bind, Option.bind_some, if_pos hdeclares, h, Option.map_some]

theorem loopStart_of_value {gap : List Char} (hgap : Gap gap) (hfirst : BeginsValue s)
    (hskip : skip s = s) {e : Expr} (h : g.sequence ⟨true, false, true⟩ (gap ++ s) = some (e, t)) :
    g.loopStart (gap ++ s) = t := by
  cases hfirst with
  | @sign c v hc =>
      have hsigns : ∀ c ∈ "\"'[\x60(!~+-0123456789/".toList, isWordStart c = false ∧ c ≠ '\\' :=
        forall_sign (by decide)
      obtain ⟨hstart, hb⟩ := hsigns c hc
      rw [Grammar.loopStart, hgap.skip_of_skip hskip, word?_of_sign hstart hb, h]
      rfl
  | @word w v hw hfree hend _ =>
      have hwords : ∀ w ∈ ["var", "let", "const"], w ∈ statementWords := by decide
      have hnot := mt (hwords _) hfree
      simp only [List.mem_cons, List.not_mem_nil, or_false, not_or] at hnot
      rw [Grammar.loopStart, hgap.skip_name hw v, hw.word?_append hend, h]
      simp only [Option.bind_eq_bind, Option.bind_some, hnot, false_and, or_self, if_false,
        Option.map_some, Option.getD_some]

/-- In the head of a loop an expression ends in front of what the loop ranges over. -/
theorem Keyword.endsExpression {place : Place} (h : Keyword w s t) (hw : w ∈ ["of", "in"])
    (hplace : place.loopHead = true) : EndsExpression place s := by
  have hwords : ∀ w ∈ ["of", "in"], IsName w.toList ∧ w ≠ "extends" ∧ w ≠ "is" ∧ w ≠ "as" ∧
      w ≠ "satisfies" ∧ w ≠ "instanceof" := by decide
  obtain ⟨hname, hextends, his, has, hsatisfies, hinstance⟩ := hwords w hw
  obtain ⟨hskip, hend⟩ := h.skip_eq hname
  have hword := hname.word?_append hend
  rw [String.ofList_toList] at hword
  obtain ⟨d, v, hcons, -, hsigns⟩ := hname.exists_head t
    (show (operatorStarts ++ suffixStarts).all (fun d => !isWordStart d) = true by decide)
  have htype : EndsType s := endsType_of_name hskip hname hend
    (by rwa [String.ofList_toList]) (Or.inr (by rwa [String.ofList_toList]))
  have hoperator : typeOperator? place s = none := by
    rw [typeOperator?, hskip, hword]
    simp [has, hsatisfies]
  refine endsExpression_of_skip (hskip.trans hcons) hsigns htype hoperator fun w' u hw' => ?_
  rw [← hcons, hword] at hw'
  obtain ⟨rfl, -⟩ := Prod.mk.inj (Option.some.inj hw')
  exact ⟨hinstance, fun _ => hplace⟩

/-- What a loop ranges over is skipped. -/
theorem loopRest_of_range (hg : g.ReadsForms k) (hF : F.IsLevel) (hw : w ∈ ["of", "in"])
    (ho : Keyword w s r) (he : Sequenced F.expression r u) (hc : Sign ')' u t) (hs : s.length < k) :
    g.loopRest s = some t := by
  have hname : IsName w.toList := isName_of_mem (by decide) hw
  have hr := ho.length_le
  have hrange := (skipSequence_of_form hg hF he hc (by decide) (show r.length < k by omega)).2
  rw [Grammar.loopRest]
  simp only [List.mem_cons, List.not_mem_nil, or_false] at hw
  obtain rfl | rfl := hw
  · simp only [ho.keyword?_eq hname, hrange, Option.bind_some,
      hc.symbol?_eq (show startsLexeme ')' = true by decide)]
  · simp only [ho.keyword?_ne hname (show "in" ≠ "of" by decide), ho.keyword?_eq hname, hrange,
      Option.bind_some, hc.symbol?_eq (show startsLexeme ')' = true by decide)]

/-- What a loop that counts starts with is skipped. -/
theorem loopStart_of_form (hg : g.ReadsForms k) (hF : F.IsLevel) (h : LoopStart F s r)
    (hc : Sign ';' r t) (hs : s.length < k) : g.loopStart s = r ∧ r.length ≤ s.length := by
  cases h with
  | none =>
      have hskip := hc.skip_eq (by decide)
      rw [Grammar.loopStart, hskip, word?_of_sign (by decide) (by decide), Grammar.sequence,
        expression_eq_none hg.level hskip (by decide)]
      exact ⟨rfl, Nat.le_refl _⟩
  | @declaration w _ v _ hw hd h =>
      have hv := hd.length_le
      obtain ⟨name, hread⟩ : ∃ name, g.variables ⟨true, false, true⟩ v = some (name, r) :=
        exists_variables_of_form hg hF h (by omega) ⟨rfl, fun h => absurd h Bool.false_ne_true⟩
          (hc.endsVariable (by decide)) (hc.symbol?_eq_none (by decide) (by decide))
      have hpattern : startsPattern v = true := by
        obtain ⟨⟨hgap, ⟨hp, -, -, -⟩⟩, -⟩ := h
        exact startsPattern_of_form hF (.mk hgap hp)
      have hr := (reads_variables hg.consumes _ v).length_le hread
      exact ⟨loopStart_of_declaration hw hd hpattern hread, by omega⟩
  | @value gap s v _ hgap hfirst h hf =>
      obtain ⟨e, he⟩ : ∃ e, g.sequence ⟨true, false, true⟩ (gap ++ s) = some (e, r) :=
        exists_sequence_of_form hg hF (.mk (.mk hgap h) hf) hs
          ⟨rfl, fun h => absurd h Bool.false_ne_true⟩ (hc.endsExpression (by decide))
          (hc.symbol?_eq_none (by decide) (by decide))
      exact ⟨loopStart_of_value hgap hfirst (hF.opens_expression h).skip_eq he,
        (reads_sequence hg.consumes _ _).length_le he⟩

/-- The head of a loop is skipped, whether it ranges over something or counts. -/
theorem loopHead_of_form (hg : g.ReadsForms k) (hF : F.IsLevel) (h : IsLoopHead F s t)
    (hs : s.length < k) : g.loopHead s = some t := by
  rw [loopHead_eq]
  cases h with
  | @each w v _ r u x y _ hw hd hp hv ho he hc =>
      have hname : IsName v.toList := isName_of_mem (by decide) hv
      have hr := hd.length_le
      have hpattern := hg.pattern hF hp (by omega)
      have hu := (hg.consumes.pattern r).length_le hpattern
      have hsign {c : Char} (hc : isWordStart c = false) : symbol? c u = none :=
        symbol?_of_name hname (ho.skip_eq hname).1 hc
      have hrest : g.variableRest ⟨true, false, true⟩ u = some u := by
        rw [Grammar.variableRest, skipOptional_of_none (hsign (by decide)), Grammar.annotation,
          hsign (by decide)]
        simp only [Option.bind_eq_bind, Option.bind_some, Grammar.initializer,
          hsign (show isWordStart '=' = false by decide)]
      have hvariables : g.variables ⟨true, false, true⟩ r = some (textBetween (skip r) u, u) := by
        rw [Grammar.variables, hpattern]
        simp only [Option.bind_eq_bind, Option.bind_some, hrest, skipFurther]
        rw [skipMany_of_none (by rw [hsign (by decide), Option.bind_none])]
      rw [loopStart_of_declaration hw hd (startsPattern_of_form hF hp) hvariables]
      exact loopRest_of_range hg hF hv ho he hc (by omega)
  | @ranged w gap s r u v _ hgap hfirst h hw ho he hc =>
      have hname : IsName w.toList := isName_of_mem (by decide) hw
      obtain ⟨e, hread⟩ : ∃ e, g.sequence ⟨true, false, true⟩ (gap ++ s) = some (e, r) :=
        exists_sequence_of_form hg hF (.mk (.mk hgap h) .nil) hs
          ⟨rfl, fun h => absurd h Bool.false_ne_true⟩ (ho.endsExpression hw rfl)
          (symbol?_of_name hname (ho.skip_eq hname).1 (by decide))
      have hr := (reads_sequence hg.consumes _ _).length_le hread
      rw [loopStart_of_value hgap hfirst (hF.opens_expression h).skip_eq hread]
      exact loopRest_of_range hg hF hw ho he hc (by omega)
  | @count _ r u v x y _ hstart hc htest hc' hstep hc'' =>
      obtain ⟨hread, hr⟩ := loopStart_of_form hg hF hstart hc hs
      have hu := hc.length_lt
      obtain ⟨htest, hv⟩ := skipOptional_of_form hg hF htest hc' (by decide) (by omega)
      have hx := hc'.length_lt
      obtain ⟨hstep, -⟩ := skipOptional_of_form hg hF hstep hc'' (by decide) (by omega)
      have hkeyword (w : String) : keyword? w r = none :=
        keyword?_of_sign (hc.skip_eq (by decide)) (by decide) (by decide) w
      rw [hread, Grammar.loopRest]
      simp only [hkeyword, hc.symbol?_eq (show startsLexeme ';' = true by decide),
        Option.bind_eq_bind, Option.bind_some, htest,
        hc'.symbol?_eq (show startsLexeme ';' = true by decide), hstep,
        hc''.symbol?_eq (show startsLexeme ')' = true by decide)]

/-! ### Cases and handlers -/

def Grammar.caseLabel (g : Grammar) : Skipper := fun s =>
  match keyword? "case" s with
  | some r => (g.skipSequence r).bind (symbol? ':')
  | none => (keyword? "default" s).bind (symbol? ':')

/-- Skips a label or a statement between the braces of a switch. -/
def Grammar.skipCase (g : Grammar) : Skipper := fun s =>
  match g.caseLabel s with
  | some r => some r
  | none => g.skipStatement s

theorem leaves_skipCase (hg : g.Consumes) (s : List Char) : Leaves s (g.skipCase s) := by
  have hskipSequence := leaves_skipSequence hg
  have hskipStatement := leaves_skipStatement hg
  unfold Grammar.skipCase Grammar.caseLabel
  grind

/-- What stands between the braces of a switch is skipped up to the closing one. -/
theorem switchTail_of_sequence (hg : g.ReadsForms k) (hF : F.IsLevel)
    (h : Sequence (CaseItem F) F.clause s t) (hs : s.length + 1 < k) (n : Nat) (hn : s.length ≤ n) :
    g.switchTail n s = some t := by
  have hskip {s t : List Char} (hread : g.skipStatement s = some t)
      (h : Spaced (fun s _ => BeginsStatement s) s t) :
      symbol? '\x7d' s = none ∧ g.skipCase s = some t := by
    obtain ⟨hbrace, hcase, hdefault⟩ := BeginsStatement.spaced_eq_none h
    refine ⟨hbrace, ?_⟩
    rw [Grammar.skipCase, Grammar.caseLabel, hcase, hdefault]
    exact hread
  refine tail_of_sequence (fun n s => ?_) (leaves_skipCase hg.consumes) (fun h hle => ?_)
    (fun h hle hend => ?_) h (Nat.le_refl _) n hn
  · rw [Grammar.switchTail]
    show (match symbol? '\x7d' s with
      | some r => some r
      | none =>
        match g.caseLabel s with
        | some r => g.switchTail n r
        | none =>
          match g.skipStatement s with
          | some r => g.switchTail n r
          | none => none) = _
    rw [Grammar.skipCase]
    cases symbol? '\x7d' s <;> cases g.caseLabel s <;> cases g.skipStatement s <;> rfl
  · obtain @⟨gap, s, _, hgap, h⟩ := h
    rw [List.length_append] at hle
    cases h with
    | @label s r _ hend he hc =>
        have hname : IsName "case".toList := by decide
        have hkeyword := hgap.skip_name hname s
        rw [List.length_append] at hle
        refine ⟨symbol?_of_name hname hkeyword (by decide), ?_⟩
        rw [Grammar.skipCase, Grammar.caseLabel, keyword?_of_name hname hkeyword hend,
          if_pos (by decide)]
        simp only [(skipSequence_of_form hg hF he hc (by decide) (show s.length < k by omega)).2,
          Option.bind_some, hc.symbol?_eq (show startsLexeme ':' = true by decide)]
    | @default s _ hc =>
        have hname : IsName "default".toList := by decide
        have hkeyword := hgap.skip_name hname s
        have hend := hc.endsWord (by decide) (by decide) (by decide)
        refine ⟨symbol?_of_name hname hkeyword (by decide), ?_⟩
        rw [Grammar.skipCase, Grammar.caseLabel, keyword?_of_name hname hkeyword hend,
          if_neg (by decide), keyword?_of_name hname hkeyword hend, if_pos (by decide)]
        simp only [Option.bind_some, hc.symbol?_eq (show startsLexeme ':' = true by decide)]
    | statement h =>
        exact hskip (skipStatement_of_statement hg hF (.mk hgap h)
          (by rw [List.length_append]; omega)) (.mk hgap (hF.begins_statement h))
  · exact hskip (skipStatement_of_clause hg hF h (by omega) hend) (h.imp hF.begins_clause)

theorem IsCatch.keyword?_eq (h : IsCatch F s t) : ∃ r, keyword? "catch" s = some r := by
  cases h with
  | parameter hk _ _ _ _ _ => exact ⟨_, hk.keyword?_eq (by decide)⟩
  | plain hk _ => exact ⟨_, hk.keyword?_eq (by decide)⟩

/-- What follows a block behind `try` is skipped. -/
theorem handlers_of_form (hg : g.ReadsForms k) (hF : F.IsLevel) (h : Handlers F s t)
    (hs : s.length < k) : g.handlers s = some t := by
  have hfinally {s t : List Char} (h : IsFinally F s t) (hs : s.length < k) :
      keyword? "catch" s = none ∧ (keyword? "finally" s).elim (some s) g.block = some t := by
    obtain ⟨hk, hb⟩ := h
    have hlength := hk.length_le
    exact ⟨hk.keyword?_ne (by decide) (by decide), by
      rw [hk.keyword?_eq (by decide)]
      exact block_of_form hg hF hb (by omega)⟩
  -- A block is skipped behind `catch`, with a parameter in front of it or without one.
  have hcatch {s t : List Char} (h : IsCatch F s t) (hs : s.length < k) :
      g.handlers s = (keyword? "finally" t).elim (some t) g.block ∧ t.length ≤ s.length := by
    cases h with
    | @parameter _ r u v w x _ hk ho hp htype hc hb =>
        have hr := hk.length_le
        have hu := ho.length_lt
        have hpattern := hg.pattern hF hp (by omega)
        have hv := (hg.consumes.pattern u).length_le hpattern
        have hannotation := annotation_of_led hg hF htype (by omega) (endsType_of_sign
          (hc.skip_eq (by decide)) (by decide) (by decide))
          (hc.symbol?_eq_none (by decide) (by decide))
        have hw := (leaves_typeAfterColon hg.consumes v).length_le hannotation
        have hx := hc.length_lt
        have hblock := block_of_form hg hF hb (by omega)
        have ht := (leaves_block hg.consumes x).length_le hblock
        refine ⟨?_, by omega⟩
        rw [Grammar.handlers, hk.keyword?_eq (by decide)]
        simp only [skipOptional, ho.symbol?_eq (show startsLexeme '(' = true by decide), hpattern,
          hannotation, Option.bind_eq_bind, Option.bind_some,
          hc.symbol?_eq (show startsLexeme ')' = true by decide), Option.getD_some, hblock]
        cases keyword? "finally" t <;> rfl
    | @plain _ r _ hk hb =>
        have hr := hk.length_le
        obtain ⟨v, hskip⟩ := hb.skip_eq
        have hopen : symbol? '(' r = none := by
          rw [symbol?_of_skip hskip, if_neg (by decide)]
        have hblock := block_of_form hg hF hb (by omega)
        have ht := (leaves_block hg.consumes r).length_le hblock
        refine ⟨?_, by omega⟩
        rw [Grammar.handlers, hk.keyword?_eq (by decide)]
        simp only [skipOptional, hopen, Option.bind_eq_bind, Option.bind_none, Option.getD_none,
          hblock, Option.bind_some]
        cases keyword? "finally" t <;> rfl
  cases h with
  | «catch» h hno =>
      rw [(hcatch h hs).1, hno.keyword?_eq_none (by decide)]
      rfl
  | «finally» h =>
      obtain ⟨hnone, hread⟩ := hfinally h hs
      rw [Grammar.handlers, hnone, ← hread]
      simp only [Option.bind_eq_bind, Option.bind_some]
      cases keyword? "finally" s <;> rfl
  | both h h' =>
      obtain ⟨hread, hlength⟩ := hcatch h hs
      rw [hread]
      exact (hfinally h' (by omega)).2

/-! ### Statements -/

theorem functionDeclaration_of_form (hg : g.ReadsForms k) (hF : F.IsLevel)
    (h : FunctionTail F Name s t) (hs : s.length < k) :
    ∃ d, g.functionDeclaration s = some (d, t) := by
  obtain @⟨s, r, u, v, t, hstar, hn, hsig, hb⟩ := h
  obtain ⟨w, hw, hskip, hend⟩ := hn.exists_name
  have hu := hn.length_lt
  obtain ⟨x, hopen⟩ := hb.skip_eq
  have hcolon : symbol? ':' v = none := by
    rw [symbol?_of_skip hopen, if_neg (by decide)]
  have hread := skipOptional_of_opt hstar (by decide) (symbol?_of_name hw hskip (by decide))
  have hsignature := signature_of_form hg hF hsig (by omega)
    (endsType_of_sign hopen (by decide) (by decide)) hcolon
  have hv := (leaves_signature hg.consumes u).length_le hsignature
  have hnext : next? v = some '\x7b' := by rw [next?, hopen, List.head?_cons]
  rw [Grammar.functionDeclaration, hread.1, hskip, hw.word?_append hend]
  simp only [Option.bind_eq_bind, Option.bind_some, hsignature, hnext, if_true,
    block_of_form hg hF hb (show v.length < k by omega)]
  exact ⟨_, rfl⟩

/-- A statement is read to its end. -/
theorem exists_readStatement_of_form (hg : g.ReadsForms k) (hF : F.IsLevel)
    (h : Spaced (IsStatement F) s t) (hs : s.length < k) :
    ∃ d, g.readStatement s = some (d, t) := by
  have hdepth := hg.depth
  obtain @⟨gap, s, _, hgap, h⟩ := h
  have hle : s.length ≤ (gap ++ s).length := by
    rw [List.length_append]
    omega
  cases h with
  | empty =>
      rw [Grammar.readStatement, hgap.skip_append (by decide)]
      exact ⟨_, rfl⟩
  | closed h hc => exact exists_readStatement_of_clause hg hF (.mk hgap h) hs hc.endsStatement
  | @block s _ h =>
      rw [List.length_cons] at hle
      have hblock := block_of_form hg hF (.mk (.mk (g := []) .nil) h) (s := '\x7b' :: s)
        (by rw [List.length_cons]; omega)
      rw [Grammar.readStatement, hgap.skip_append (by decide)]
      simp only [Char.reduceEq, if_false, if_true, hblock, Option.map_some]
      exact ⟨_, rfl⟩
  | @ifThen s r _ hc h hno =>
      rw [List.length_append] at hle
      have hlength : "if".toList.length = 2 := rfl
      have hcondition := condition_of_form hg hF hc (by omega)
      have hr := (leaves_condition hg.consumes s).length_le hcondition
      refine exists_readStatement_of_control hgap (by decide) hc.endsWord ?_
      show (do
        let r ← (g.condition s).bind g.skipStatement
        match keyword? "else" r with
        | some r => g.skipStatement r
        | none => some r) = some t
      simp only [hcondition, Option.bind_some, branch_of_form hg hF h (by omega),
        Option.bind_eq_bind, hno.keyword?_eq_none (List.mem_singleton.2 rfl)]
  | @ifElse s r u v _ hc h hk h' =>
      rw [List.length_append] at hle
      have hlength : "if".toList.length = 2 := rfl
      have hcondition := condition_of_form hg hF hc (by omega)
      have hr := (leaves_condition hg.consumes s).length_le hcondition
      have hbranch := branch_of_form hg hF h (by omega)
      have hu := (leaves_skipStatement hg.consumes r).length_le hbranch
      have hv := hk.length_le
      refine exists_readStatement_of_control hgap (by decide) hc.endsWord ?_
      show (do
        let r ← (g.condition s).bind g.skipStatement
        match keyword? "else" r with
        | some r => g.skipStatement r
        | none => some r) = some t
      simp only [hcondition, Option.bind_some, hbranch, Option.bind_eq_bind,
        hk.keyword?_eq (by decide), branch_of_form hg hF h' (by omega)]
  | @«while» s r _ hc h =>
      rw [List.length_append] at hle
      have hlength : "while".toList.length = 5 := rfl
      have hcondition := condition_of_form hg hF hc (by omega)
      have hr := (leaves_condition hg.consumes s).length_le hcondition
      refine exists_readStatement_of_control hgap (by decide) hc.endsWord ?_
      show (g.condition s).bind g.skipStatement = some t
      rw [hcondition, Option.bind_some, branch_of_form hg hF h (by omega)]
  | @doWhile s r u v _ hend h hk hc hs =>
      rw [List.length_append] at hle
      have hlength : "do".toList.length = 2 := rfl
      have hbranch := branch_of_form hg hF h (by omega)
      have hr := (leaves_skipStatement hg.consumes s).length_le hbranch
      have hu := hk.length_le
      have hcondition := condition_of_form hg hF hc (by omega)
      have hsemicolon : skipOptional (symbol? ';') v = t := by
        obtain hs | ⟨hno, rfl⟩ := hs
        · exact skipOptional_of_some (hs.symbol?_eq (by decide))
        · exact skipOptional_of_none (hno.symbol?_eq_none (by decide) (by decide))
      refine exists_readStatement_of_control hgap (by decide) hend ?_
      simp only [Grammar.control, hbranch, hk.keyword?_eq (show IsName "while".toList by decide),
        hcondition, Option.bind_eq_bind, Option.bind_some, hsemicolon]
  | @loop s r u v _ hend ha ho hh h =>
      rw [List.length_append] at hle
      have hlength : "for".toList.length = 3 := rfl
      have hawait : skipOptional (keyword? "await") s = r ∧ r.length ≤ s.length := by
        cases ha with
        | none =>
            exact ⟨skipOptional_of_none
              (keyword?_of_sign (ho.skip_eq (by decide)) (by decide) (by decide) _), Nat.le_refl _⟩
        | some ha => exact ⟨skipOptional_of_some (ha.keyword?_eq (by decide)), ha.length_le⟩
      have hu := ho.length_lt
      have hhead := loopHead_of_form hg hF hh (by omega)
      have hv := (leaves_loopHead hg.consumes u).length_le hhead
      refine exists_readStatement_of_control hgap (by decide) hend ?_
      simp only [Grammar.control, hawait.1, ho.symbol?_eq (show startsLexeme '(' = true by decide),
        Option.bind_eq_bind, Option.bind_some, hhead, branch_of_form hg hF h (by omega)]
  | @switch s r u _ hc ho h =>
      rw [List.length_append] at hle
      have hlength : "switch".toList.length = 6 := rfl
      have hcondition := condition_of_form hg hF hc (by omega)
      have hr := (leaves_condition hg.consumes s).length_le hcondition
      have hu := ho.length_lt
      refine exists_readStatement_of_control hgap (by decide) hc.endsWord ?_
      show (do
        let r ← (g.condition s).bind (symbol? '\x7b')
        g.switchTail g.depth r) = some t
      simp only [hcondition, Option.bind_eq_bind, Option.bind_some,
        ho.symbol?_eq (show startsLexeme '\x7b' = true by decide)]
      exact switchTail_of_sequence hg hF h (by omega) g.depth (by omega)
  | @«try» s r _ hb hh =>
      rw [List.length_append] at hle
      have hlength : "try".toList.length = 3 := rfl
      have hblock := block_of_form hg hF hb (by omega)
      have hr := (leaves_block hg.consumes s).length_le hblock
      refine exists_readStatement_of_control hgap (by decide) hb.endsWord ?_
      show (g.block s).bind g.handlers = some t
      rw [hblock, Option.bind_some, handlers_of_form hg hF hh (by omega)]
  | @labelled w s r _ hw hfree hc h =>
      rw [List.length_append] at hle
      have hr := hc.length_lt
      have hend := hc.endsWord (by decide) (by decide) (by decide)
      rw [readStatement_of_word hw (hgap.skip_name hw s) hend, wordStatement_of_free g hfree,
        hc.symbol?_eq (by decide), Option.bind_some, branch_of_form hg hF h (by omega)]
      exact ⟨_, rfl⟩
  | @function s _ hend h =>
      rw [List.length_append] at hle
      have hlength : "function".toList.length = 8 := rfl
      exact exists_readStatement_of_declaration hgap (by decide) hend
        (functionDeclaration_of_form hg hF h (by omega))
  | @asyncFunction gap' s _ hgap' hne hline hend h =>
      simp only [List.length_append] at hs
      have hname : IsName "function".toList := by decide
      have hlength : "function".toList.length = 8 := rfl
      obtain ⟨d, hd⟩ := functionDeclaration_of_form hg hF h (by omega)
      refine exists_readStatement_of_declaration hgap (by decide) (hgap'.endsWord hne _) ⟨d, ?_⟩
      simp only [Grammar.declaration, crossesLine_of_inline hgap' hline (hname.skip_append s),
        Bool.false_eq_true, if_false, keyword?_of_name hname (hgap'.skip_name hname s) hend,
        String.ofList_toList, if_true, Option.bind_some, hd]
  | classLike h => exact exists_readStatement_of_class hg hF h hgap hs.le
  | enumeration hend hn ho h =>
      exact exists_readStatement_of_declaration hgap (by decide) hend (enumTail_of_form hn ho h)
  | constEnumeration hend hk hn ho h =>
      obtain ⟨d, hd⟩ := enumTail_of_form hn ho h
      refine exists_readStatement_of_declaration hgap (by decide) hend ⟨d, ?_⟩
      rw [Grammar.declaration, hk.keyword?_eq (by decide)]
      exact hd
  | interface hend hn hp he ho h =>
      rw [List.length_append] at hle
      exact exists_readStatement_of_declaration hgap (by decide) hend
        (interfaceTail_of_form hg hF hn hp he ho h (by omega))

end DecoratorGraph.Script
