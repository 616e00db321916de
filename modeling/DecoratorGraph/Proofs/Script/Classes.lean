import DecoratorGraph.Proofs.Script.Covers
import DecoratorGraph.Proofs.Script.Statements

/-!
# Reading decorated classes

A script that consists of a class with decorators is read as one declaration with the name of the
class, and the decorators are read in the order in which they are written, those in front of an
export first. What stands behind the name of the class follows the grammar of classes
(`IsClassBody`), and is read over to its end.
-/

namespace DecoratorGraph.Script

/-! ### Constructs of any depth -/

section Depth

variable {g : Grammar} {k : Nat} {s t : List Char}

/-- A grammar reads the constructs over those that the one below it reads. -/
theorem Grammar.ReadsForms.deeper (hg : g.ReadsForms k) : g.deeper.ReadsForms (k + 1) where
  types := hg.types.deeper fun {F s t} hF h hs ht => by
    obtain ⟨F, hF', rfl⟩ := hF.exists_deeper Forms.type h (fun _ _ => id)
    exact readType_of_form (F := F) hg hF' h hs ht
  pattern hF h hs := by
    have hpattern := (h.skip hF.opens_pattern).1
    obtain ⟨F, hF', rfl⟩ := hF.exists_deeper Forms.pattern h (fun _ _ => id)
    exact readPattern_of_form (F := F) hg hF' hpattern (Nat.le_of_lt_succ hs)
  cover hF h hs ht := by
    obtain ⟨F, hF', rfl⟩ := hF.exists_deeper Forms.expression h (fun _ _ => id)
    exact covers_of_form (F := F) hg hF' h (Nat.le_of_lt_succ hs) ht
  expression hF h hs hplace ht :=
    exists_readExpression_of_level hg hF h (Nat.le_of_lt_succ hs) hplace ht
  target hF h hs ht place := by
    obtain ⟨F, hF', rfl⟩ := hF.exists_deeper Forms.target h (fun _ _ => id)
    exact exists_readOperand_of_target (F := F) hg hF' h (Nat.le_of_lt_succ hs) ht place
  operand hF h hs ht := by
    obtain ⟨F, hF', rfl⟩ := hF.exists_deeper Forms.operand h (fun _ _ => id)
    exact exists_readOperand_of_form (F := F) hg hF' h (Nat.le_of_lt_succ hs) ht
  statement hF h hs := by
    obtain ⟨F, hF', rfl⟩ := hF.exists_deeper Forms.statement h (fun _ _ => id)
    exact exists_readStatement_of_form (F := F) hg hF' h (Nat.lt_of_succ_lt_succ hs)
  clause hF h hs ht := by
    obtain ⟨F, hF', rfl⟩ := hF.exists_deeper Forms.clause h (fun _ _ => id)
    exact exists_readStatement_of_clause (F := F) hg hF' h (Nat.lt_of_succ_lt_succ hs)
      ht.endsStatement

/-- The grammar of depth `n` reads all constructs that are written in less than `n` characters,
however deep they are nested. -/
theorem readsForms_ofDepth (dialect : Dialect) (line : List Char → Nat) (n : Nat) :
    (Grammar.ofDepth dialect line n).ReadsForms n := by
  induction n with
  | zero =>
      exact {
        types := .empty dialect line
        pattern := fun _ _ hs => absurd hs (Nat.not_lt_zero _)
        cover := fun _ _ hs => absurd hs (Nat.not_lt_zero _)
        expression := fun _ _ hs => absurd hs (Nat.not_lt_zero _)
        target := fun _ _ hs => absurd hs (Nat.not_lt_zero _)
        operand := fun _ _ hs => absurd hs (Nat.not_lt_zero _)
        statement := fun _ _ hs => absurd hs (Nat.not_lt_zero _)
        clause := fun _ _ hs => absurd hs (Nat.not_lt_zero _) }
  | succ n ih => exact ih.deeper

/-- The body of a class is skipped to its end, if the grammar is as deep as the body is long. -/
theorem classBody_of_form (dialect : Dialect) (line : List Char → Nat) (h : IsClassBody s t)
    {n : Nat} (hn : s.length ≤ n) : (Grammar.ofDepth dialect line n).classBody s = some t := by
  obtain ⟨m, h⟩ := h
  exact classBody_of_tail (readsForms_ofDepth dialect line n) ⟨m, rfl⟩ h hn

end Depth

/-- Whether annotations are those of calls of names, in order. -/
def Transcribes (annotations : List Annotation) (decorators : List (String × List Expr)) : Prop :=
  annotations.map (fun a => (a.callee, a.arguments)) = decorators.map fun d => (some d.1, d.2)

theorem Transcribes.append {as as' : List Annotation} {ds ds' : List (String × List Expr)}
    (h : Transcribes as ds) (h' : Transcribes as' ds') : Transcribes (as ++ as') (ds ++ ds') := by
  rw [Transcribes, List.map_append, List.map_append, h, h']

/-! ### Decorators -/

section Decorators

variable {g : Grammar} {k : Nat} {s t gap rest : List Char}

theorem dottedTail_of_skip {c : Char} {r : List Char} (h : skip s = c :: r) (hc : c ≠ '.')
    (n : Nat) : dottedTail n s = s := by
  cases n with
  | zero => rfl
  | succ n =>
      rw [dottedTail, symbol?_of_skip h, if_neg hc]
      rfl

/-- A decorator is read as a call of its name. -/
theorem decorator_of_spells (hg : g.Reads k) (hdepth : k ≤ g.depth) {d : String × List Expr}
    (h : SpellsDecorator d s) (hs : s.length ≤ k) (hgap : Gap gap) (rest : List Char) :
    ∃ a, g.decorator (gap ++ (s ++ rest)) = some (a, rest) ∧ a.callee = some d.1 ∧
      a.arguments = d.2 := by
  obtain @⟨w, g₁, g₂, t, arguments, hg₁, hw, hg₂, ht⟩ := h
  simp only [List.length_cons, List.length_append] at hs
  have htext : '@' :: (g₁ ++ (w ++ (g₂ ++ '(' :: t))) ++ rest =
      '@' :: (g₁ ++ (w ++ (g₂ ++ '(' :: (t ++ rest)))) := by
    simp
  have hmark := hgap.skip_append (c := '@') (by decide) (g₁ ++ (w ++ (g₂ ++ '(' :: (t ++ rest))))
  have hname := hg₁.skip_name hw (g₂ ++ '(' :: (t ++ rest))
  have hopen : skip (g₂ ++ '(' :: (t ++ rest)) = '(' :: (t ++ rest) :=
    hg₂.skip_append (by decide) _
  have hparenthesis := symbol?_of_name hw hname (show isWordStart '(' = false by decide)
  have hword := hw.word?_append (endsWord_of_skip hopen (by decide) (by decide))
  have htype : g.typeArguments (g₂ ++ '(' :: (t ++ rest)) = none := by
    rw [Grammar.typeArguments, symbol?_of_skip hopen]
    rfl
  have hread := arguments_of_spells hg ht (by omega) (by omega) hopen
  let start := '@' :: (g₁ ++ (w ++ (g₂ ++ '(' :: (t ++ rest))))
  refine ⟨⟨some (String.ofList w), arguments, decoratorText (between start rest), g.line start⟩,
    ?_, rfl, rfl⟩
  rw [htext, Grammar.decorator, symbol?_of_skip hmark, if_pos rfl]
  simp [hmark, hparenthesis, hname, hword, dottedTail_of_skip hopen, skipOptional, htype, hread,
    symbol?_of_skip hopen, start]

/-- Decorators are read up to the next lexeme that begins none. -/
theorem decorators_of_spells (hg : g.Reads k) (hdepth : k ≤ g.depth)
    {ds : List (String × List Expr)} (h : SpellsDecorators ds t) (ht : t.length ≤ k) (n : Nat)
    (hn : t.length ≤ n) {c : Char} {r : List Char} (hrest : skip rest = c :: r) (hc : c ≠ '@') :
    ∃ as, g.decorators n (t ++ rest) = (as, rest) ∧ Transcribes as ds := by
  induction h generalizing n with
  | nil =>
      have hnone : g.decorator rest = none := by
        rw [Grammar.decorator, symbol?_of_skip hrest, if_neg hc]
        rfl
      refine ⟨[], ?_, rfl⟩
      cases n with
      | zero => rfl
      | succ n =>
          rw [List.nil_append, Grammar.decorators, hnone]
  | @cons d ds g' s t hgap hd hds ih =>
      simp only [List.length_append] at ht hn
      have hlength : 0 < s.length := by
        cases hd with
        | mk => simp
      -- Every decorator takes up text, so `n` is enough for those that follow.
      obtain ⟨n, rfl⟩ : ∃ m, n = m + 1 := ⟨n - 1, by omega⟩
      obtain ⟨a, ha, hcallee, harguments⟩ :=
        decorator_of_spells hg hdepth hd (by omega) hgap (t ++ rest)
      obtain ⟨as, has, htranscribes⟩ := ih (by omega) n (by omega)
      refine ⟨a :: as, ?_, ?_⟩
      · rw [List.append_assoc, List.append_assoc, Grammar.decorators, ha]
        simp [has]
      · simpa [Transcribes, hcallee, harguments] using htranscribes

end Decorators

/-! ### Classes -/

section Classes

variable {g : Grammar} {s t u gap rest : List Char} {w : List Char} {result : Statement × List Char}

theorem classDeclaration_of_name (hgap : Gap gap) (hw : IsName w)
    (hfree : String.ofList w ∉ ["extends", "implements"]) (hu : EndsWord u)
    (hbody : g.classBody u = some rest) :
    g.classDeclaration (gap ++ (w ++ u)) =
      some (⟨some (String.ofList w), .classLike, []⟩, rest) := by
  rw [Grammar.classDeclaration, classTail_of_name hgap hw hfree hu hbody]
  rfl

/-- The words in front of the name of a class are those of a declaration. -/
theorem ClassWords.exists_name (h : ClassWords t) (hs : EndsWord s) :
    ∃ w u, IsName w ∧ (String.ofList w = "class" ∨ String.ofList w = "abstract") ∧
      t ++ s = w ++ u ∧ EndsWord u ∧
      ∀ g : Grammar, g.declaration (String.ofList w) u = g.classDeclaration s := by
  have hname : IsName "class".toList := by decide
  cases h with
  | plain =>
      exact ⟨"class".toList, s, hname, Or.inl (by decide), rfl, hs, fun _ => rfl⟩
  | @abstract g' hg hne =>
      have hskip := hg.skip_name hname s
      have hkeyword : keyword? "class" (g' ++ ("class".toList ++ s)) = some s := by
        rw [keyword?_of_name hname hskip hs, if_pos (by decide)]
      refine ⟨"abstract".toList, g' ++ ("class".toList ++ s), by decide, Or.inr (by decide),
        by simp, hg.endsWord hne _, fun g => ?_⟩
      calc g.declaration (String.ofList "abstract".toList) (g' ++ ("class".toList ++ s))
          = (keyword? "class" (g' ++ ("class".toList ++ s))).bind g.classDeclaration := rfl
        _ = g.classDeclaration s := by rw [hkeyword, Option.bind_some]

/-- No further decorator stands in front of the words of a class. -/
theorem ClassWords.exists_first (h : ClassWords t) (hgap : Gap gap) (hs : EndsWord s) :
    ∃ d r, skip (gap ++ (t ++ s)) = d :: r ∧ d ≠ '@' := by
  obtain ⟨w, u, hw, -, hts, -, -⟩ := h.exists_name hs
  obtain ⟨d, r, hcons, -, hne⟩ :=
    hw.exists_head u (show ['@'].all (fun d => !isWordStart d) = true by decide)
  exact ⟨d, r, by rw [hts, hgap.skip_name hw, hcons], mt List.mem_singleton.2 hne⟩

end Classes

/-! ### Statements -/

section Statements

variable {g : Grammar} {k : Nat} {ds : List (String × List Expr)} {t gap c s rest : List Char}
variable {declared : Statement}

/-- Behind the gap in front of decorators stands a mark, and the decorators may as well be written
without the gap. -/
theorem SpellsDecorators.exists_mark {d : String × List Expr} (h : SpellsDecorators (d :: ds) t) :
    ∃ t', SpellsDecorators (d :: ds) t' ∧ t'.length ≤ t.length ∧
      ∀ u, ∃ r, skip (t ++ u) = '@' :: r ∧ t' ++ u = '@' :: r := by
  cases h with
  | @cons _ _ g' s t hg hd hds =>
      refine ⟨[] ++ (s ++ t), .cons .nil hd hds, by simp, fun u => ?_⟩
      obtain @⟨w, g₁, g₂, v, arguments, -, -, -, -⟩ := hd
      have hmark := hg.skip_append (c := '@') (by decide)
        (g₁ ++ (w ++ (g₂ ++ '(' :: v)) ++ (t ++ u))
      exact ⟨_, by simpa using hmark, by simp⟩

/-- In front of a decorated class the next lexeme is a mark or one of the words of the class. -/
theorem skip_decorated (hds : SpellsDecorators ds t) (hgap : Gap gap) (hc : ClassWords c)
    (hs : EndsWord s) :
    (∃ r, skip (t ++ (gap ++ (c ++ s))) = '@' :: r) ∨
      ∃ w u, IsName w ∧ (String.ofList w = "class" ∨ String.ofList w = "abstract") ∧
        skip (t ++ (gap ++ (c ++ s))) = w ++ u ∧ EndsWord u := by
  cases ds with
  | nil =>
      cases hds
      obtain ⟨w, u, hw, hword, hcs, hu, -⟩ := hc.exists_name hs
      refine Or.inr ⟨w, u, hw, hword, ?_, hu⟩
      rw [List.nil_append, hcs, hgap.skip_name hw]
  | cons d ds =>
      obtain ⟨_, -, -, hmark⟩ := hds.exists_mark
      obtain ⟨r, hskip, -⟩ := hmark (gap ++ (c ++ s))
      exact Or.inl ⟨r, hskip⟩

/-- No other keyword stands in front of a decorated class. -/
theorem keyword?_decorated (hds : SpellsDecorators ds t) (hgap : Gap gap) (hc : ClassWords c)
    (hs : EndsWord s) {word : String} (hword : word ∉ ["class", "abstract"]) :
    keyword? word (t ++ (gap ++ (c ++ s))) = none := by
  obtain ⟨r, hskip⟩ | ⟨w, u, hw, hwords, hskip, hu⟩ := skip_decorated hds hgap hc hs
  · exact keyword?_of_sign hskip (by decide) (by decide) word
  · rw [keyword?_of_name hw hskip hu, if_neg]
    rintro rfl
    simp only [List.mem_cons, List.not_mem_nil, or_false] at hword
    exact hword hwords

/-- A decorated class is no list of names to be exported. -/
theorem exportClause_decorated (hds : SpellsDecorators ds t) (hgap : Gap gap) (hc : ClassWords c)
    (hs : EndsWord s) : g.exportClause (t ++ (gap ++ (c ++ s))) = none := by
  have hsigns : ∃ d r, skip (t ++ (gap ++ (c ++ s))) = d :: r ∧ d ∉ ['*', '\x7b', '='] := by
    obtain ⟨r, hskip⟩ | ⟨w, u, hw, -, hskip, -⟩ := skip_decorated hds hgap hc hs
    · exact ⟨'@', r, hskip, by decide⟩
    · obtain ⟨d, r, hcons, -, hsigns⟩ :=
        hw.exists_head u (show ['*', '\x7b', '='].all (fun d => !isWordStart d) = true by decide)
      exact ⟨d, r, hskip.trans hcons, hsigns⟩
  obtain ⟨d, r, hskip, hd⟩ := hsigns
  simp only [List.mem_cons, List.not_mem_nil, or_false, not_or] at hd
  rw [Grammar.exportClause, hskip]
  split <;> simp_all

/-- A decorated class is a declaration with its decorators. -/
theorem decorated_of_spells (hg : g.Reads k) (hdepth : k ≤ g.depth) (hds : SpellsDecorators ds t)
    (ht : t.length ≤ k) (hgap : Gap gap) (hc : ClassWords c) (hs : EndsWord s)
    (hclass : g.classDeclaration s = some (declared, rest)) :
    ∃ as, g.decorated (t ++ (gap ++ (c ++ s))) =
      some (⟨declared.name, declared.kind, as⟩, rest) ∧ Transcribes as ds := by
  obtain ⟨w, u, hw, hwords, hcs, hu, hdeclaration⟩ := hc.exists_name hs
  have hskip : skip (gap ++ (c ++ s)) = w ++ u := by
    rw [hcs, hgap.skip_name hw]
  obtain ⟨_, _, hd, hne⟩ := hc.exists_first hgap hs
  obtain ⟨as, hread, htranscribes⟩ :=
    decorators_of_spells hg hdepth hds ht g.depth (ht.trans hdepth) hd hne
  refine ⟨as, ?_, htranscribes⟩
  have hnamespace : String.ofList w ≠ "namespace" := by
    rintro h
    rw [h] at hwords
    exact absurd hwords (by decide)
  rw [Grammar.decorated, hread]
  by_cases has : as = [] <;>
    simp [hskip, hw.word?_append hu, has, hnamespace, hwords, hdeclaration, hclass]

/-- Behind the words of an export stands a decorated class, and its decorators come behind those
in front of the export. -/
theorem ExportWords.exists_tail {x : List Char} (hx : ExportWords x) (hg : g.Reads k)
    (hdepth : k ≤ g.depth) (hds : SpellsDecorators ds t) (ht : t.length ≤ k) (hgap : Gap gap)
    (hend : t ++ gap ≠ []) (hc : ClassWords c) (hs : EndsWord s)
    (hclass : g.classDeclaration s = some (declared, rest)) :
    ∃ u, x ++ (t ++ (gap ++ (c ++ s))) = "export".toList ++ u ∧ EndsWord u ∧
      ∃ as, Transcribes as ds ∧ ∀ annotations, g.exportTail annotations u =
        some (⟨declared.name, declared.kind, annotations ++ as⟩, rest) := by
  obtain ⟨as, hdecorated, htranscribes⟩ :=
    decorated_of_spells hg hdepth hds ht hgap hc hs hclass
  -- The word `export` ends here: a gap, a mark or a decorator follows.
  have hdirect : EndsWord (t ++ (gap ++ (c ++ s))) := by
    cases ds with
    | nil =>
        cases hds
        exact hgap.endsWord hend _
    | cons d ds =>
        obtain ⟨_, -, -, hmark⟩ := hds.exists_mark
        obtain ⟨r, hskip, -⟩ := hmark (gap ++ (c ++ s))
        exact endsWord_of_skip hskip (by decide) (by decide)
  cases hx with
  | named =>
      refine ⟨_, rfl, hdirect, as, htranscribes, fun annotations => ?_⟩
      rw [Grammar.exportTail]
      simp [keyword?_decorated hds hgap hc hs, exportClause_decorated hds hgap hc hs, hdecorated]
  | @unnamed g' hg' hne =>
      have hname : IsName "default".toList := by decide
      have hskip := hg'.skip_name hname (t ++ (gap ++ (c ++ s)))
      refine ⟨g' ++ ("default".toList ++ (t ++ (gap ++ (c ++ s)))), by simp, hg'.endsWord hne _, as,
        htranscribes, fun annotations => ?_⟩
      rw [Grammar.exportTail, keyword?_of_name hname hskip hdirect, if_pos (by decide)]
      simp [hdecorated]

theorem readStatement_of_mark (r : List Char) :
    g.readStatement ('@' :: r) = g.decoratedStatement ('@' :: r) := by
  rw [Grammar.readStatement, skip_of_startsLexeme (by decide)]
  simp

/-- Behind what is skipped the text begins with a statement, and not with a hash mark. -/
def Grammar.BeginsWith (g : Grammar) (s : List Char) (result : Statement × List Char) : Prop :=
  ∃ d r, skip s = d :: r ∧ startsLexeme d = true ∧ d ≠ '#' ∧ g.readStatement (d :: r) = some result

theorem beginsWith_of_name (hgap : Gap gap) {w u : List Char} (hw : IsName w) (hu : EndsWord u)
    {result : Statement × List Char}
    (hread : g.wordStatement (w ++ u) (String.ofList w) u = some result) :
    g.BeginsWith (gap ++ (w ++ u)) result := by
  obtain ⟨d, r, hcons, hstarts, hne⟩ :=
    hw.exists_head u (show ['#'].all (fun d => !isWordStart d) = true by decide)
  refine ⟨d, r, by rw [hgap.skip_name hw, hcons], hstarts, mt List.mem_singleton.2 hne, ?_⟩
  rw [← hcons, readStatement_of_word hw (hw.skip_append u) hu, hread]

/-- Decorators in front of a text begin a statement, and the gap in front of them is left out. -/
theorem beginsWith_of_decorators {d : String × List Expr} (hds : SpellsDecorators (d :: ds) t)
    (s : List Char) :
    ∃ t', SpellsDecorators (d :: ds) t' ∧ t'.length ≤ t.length ∧
      ∀ result, g.decoratedStatement (t' ++ s) = some result → g.BeginsWith (t ++ s) result := by
  obtain ⟨t', hds', hlength, hmark⟩ := hds.exists_mark
  obtain ⟨r, hskip, hcons⟩ := hmark s
  refine ⟨t', hds', hlength, fun result hread => ⟨'@', r, hskip, by decide, by decide, ?_⟩⟩
  rw [readStatement_of_mark, ← hcons, hread]

/-- The statement of a class that is not exported declares the class with its decorators. -/
theorem beginsWith_of_class (hg : g.Reads k) (hdepth : k ≤ g.depth) (hds : SpellsDecorators ds t)
    (ht : t.length ≤ k) (hgap : Gap gap) (hc : ClassWords c) (hs : EndsWord s)
    (hclass : g.classDeclaration s = some (declared, rest)) (hplain : declared.annotations = []) :
    ∃ as, g.BeginsWith (t ++ (gap ++ (c ++ s))) (⟨declared.name, declared.kind, as⟩, rest) ∧
      Transcribes as ds := by
  cases ds with
  | nil =>
      cases hds
      obtain ⟨w, u, hw, hwords, hcs, hu, hdeclaration⟩ := hc.exists_name hs
      have hexport : String.ofList w ≠ "export" := by
        rintro h
        rw [h] at hwords
        exact absurd hwords (by decide)
      refine ⟨[], ?_, rfl⟩
      rw [List.nil_append, hcs, ← hplain]
      refine beginsWith_of_name hgap hw hu ?_
      rw [Grammar.wordStatement, hdeclaration, hclass]
      simp [hexport]
  | cons d ds =>
      obtain ⟨t', hds', hlength, hbegins⟩ := beginsWith_of_decorators hds (gap ++ (c ++ s))
      obtain ⟨as, hdecorated, htranscribes⟩ :=
        decorated_of_spells hg hdepth hds' (by omega) hgap hc hs hclass
      have hexport : keyword? "export" (gap ++ (c ++ s)) = none :=
        keyword?_decorated .nil hgap hc hs (by decide)
      obtain ⟨_, _, hnext, hne⟩ := hc.exists_first hgap hs
      obtain ⟨_, hread, -⟩ :=
        decorators_of_spells hg hdepth hds' (by omega) g.depth (by omega) hnext hne
      refine ⟨as, hbegins _ ?_, htranscribes⟩
      rw [Grammar.decoratedStatement, hread]
      simp only [hexport, hdecorated]

/-- Decorators in front of an export come before those behind its words. -/
theorem beginsWith_of_export (hg : g.Reads k) (hdepth : k ≤ g.depth)
    (hds : SpellsDecorators ds t) (ht : t.length ≤ k) (hgap : Gap gap) {u : List Char}
    (hu : EndsWord u) {as' : List Annotation}
    (htail : ∀ annotations, g.exportTail annotations u =
      some (⟨declared.name, declared.kind, annotations ++ as'⟩, rest)) :
    ∃ as, g.BeginsWith (t ++ (gap ++ ("export".toList ++ u)))
        (⟨declared.name, declared.kind, as ++ as'⟩, rest) ∧ Transcribes as ds := by
  have hname : IsName "export".toList := by decide
  have hskip := hgap.skip_name hname u
  cases ds with
  | nil =>
      cases hds
      refine ⟨[], beginsWith_of_name hgap hname hu ?_, rfl⟩
      rw [Grammar.wordStatement]
      simp [htail]
  | cons d ds =>
      obtain ⟨t', hds', hlength, hbegins⟩ :=
        beginsWith_of_decorators hds (gap ++ ("export".toList ++ u))
      obtain ⟨as, hread, htranscribes⟩ := decorators_of_spells hg hdepth hds' (by omega) g.depth
        (by omega) hskip (by decide)
      have hkeyword : keyword? "export" (gap ++ ("export".toList ++ u)) = some u := by
        rw [keyword?_of_name hname hskip hu, if_pos (by decide)]
      refine ⟨as, hbegins _ ?_, htranscribes⟩
      rw [Grammar.decoratedStatement, hread]
      simp only [hkeyword, htail]

/-- The statement of a decorated class declares the class with its decorators. -/
theorem beginsWith_of_head (hg : g.Reads k) (hdepth : k ≤ g.depth) {head : List Char}
    (h : SpellsHead ds head) (hhead : head.length ≤ k) (hs : EndsWord s)
    (hclass : g.classDeclaration s = some (declared, rest)) (hplain : declared.annotations = []) :
    ∃ as, g.BeginsWith (head ++ s) (⟨declared.name, declared.kind, as⟩, rest) ∧
      Transcribes as ds := by
  cases h with
  | plain hds hgap hc =>
      simp only [List.length_append] at hhead
      simp only [List.append_assoc]
      exact beginsWith_of_class hg hdepth hds (by omega) hgap hc hs hclass hplain
  | exported hds hgap hx hds' hgap' hc hend =>
      simp only [List.length_append] at hhead
      simp only [List.append_assoc]
      obtain ⟨u, hxu, hu, as', htranscribes', htail⟩ :=
        hx.exists_tail hg hdepth hds' (by omega) hgap' hend hc hs hclass
      obtain ⟨as, hbegins, htranscribes⟩ :=
        beginsWith_of_export hg hdepth hds (by omega) hgap hu htail
      exact ⟨as ++ as', hxu ▸ hbegins, htranscribes.append htranscribes'⟩

end Statements

/-! ### Scripts -/

theorem Trailing.skip_eq {t : List Char} (h : Trailing t) : skip t = [] := by
  cases h with
  | gap hg =>
      rw [← List.append_nil t, skip_append_of_gap hg]
      rfl
  | comment hg hbody =>
      rw [skip_append_of_gap hg]
      exact skipBlank_lineComment_end hbody

/-- The scripts that consist of a class with decorators. Behind the name of the class stand what it
builds on and its members. -/
inductive SpellsScript (name : String) (ds : List (String × List Expr)) : List Char → Prop
  | mk {head gap body trailing : List Char} (hhead : SpellsHead ds head) (hgap : Gap gap)
      (hne : gap ≠ []) (hname : IsName name.toList) (hfree : name ∉ ["extends", "implements"])
      (hend : EndsWord (body ++ trailing)) (hbody : IsClassBody (body ++ trailing) trailing)
      (htrailing : Trailing trailing) :
      SpellsScript name ds (head ++ (gap ++ (name.toList ++ (body ++ trailing))))

/-- A script that consists of a statement declares what the statement declares. -/
theorem script_of_beginsWith {g : Grammar} {source rest : List Char} {declared : Statement}
    (h : g.BeginsWith source (declared, rest)) (hrest : skip rest = []) :
    ∃ line, g.deeper.script source =
      [⟨declared.name, declared.kind, line, declared.annotations⟩] := by
  obtain ⟨d, r, hskip, hstarts, hd, hread⟩ := h
  have hnone (n : Nat) : g.deeper.declarations n rest = [] := by
    cases n with
    | zero => rfl
    | succ n => rw [Grammar.declarations, hrest]
  have hone : g.deeper.declarations (g.depth + 1) (d :: r) =
      [⟨declared.name, declared.kind, g.line (d :: r), declared.annotations⟩] := by
    have hstatement : g.deeper.statement (d :: r) = some (declared, rest) := hread
    rw [Grammar.declarations, skip_of_startsLexeme hstarts]
    simp only [hstatement, hnone]
    rfl
  refine ⟨g.line (d :: r), ?_⟩
  rw [Grammar.script, hskip]
  split
  · simp_all
  · exact hone

end DecoratorGraph.Script

namespace DecoratorGraph

open Script

/-- However a decorated class is written, its source text is read as one declaration of a class
with the name of the class, and its annotations are the decorators in the order in which they are
written, with exactly the expressions that are written as their arguments. -/
theorem ParsedFile.read_of_spellsScript (dialect : Dialect) (path : Path) {name : String}
    {ds : List (String × List Expr)} {source : String}
    (h : SpellsScript name ds source.toList) :
    ∃ line annotations, ParsedFile.read dialect path source =
        ⟨path, [⟨some name, .classLike, line, annotations⟩]⟩ ∧
      Transcribes annotations ds := by
  rw [ParsedFile.read]
  generalize source.toList = s at h
  obtain @⟨head, gap, body, trailing, hhead, hgap, hne, hname, hfree, hend, hbody, htrailing⟩ := h
  let s := head ++ (gap ++ (name.toList ++ (body ++ trailing)))
  have hlength : head.length ≤ 2 * s.length + 7 ∧ (body ++ trailing).length ≤ 2 * s.length + 7 := by
    simp only [s, List.length_append]
    omega
  have hread := classBody_of_form dialect (lineOf s) hbody hlength.2
  have hclass := classDeclaration_of_name hgap hname (by rwa [String.ofList_toList]) hend hread
  rw [String.ofList_toList] at hclass
  obtain ⟨as, hbegins, htranscribes⟩ :=
    beginsWith_of_head (reads_ofDepth dialect (lineOf s) (2 * s.length + 7))
      (depth_ofDepth _ _ _).ge hhead hlength.1 (hgap.endsWord hne _) hclass rfl
  obtain ⟨line, hscript⟩ := script_of_beginsWith hbegins htrailing.skip_eq
  exact ⟨line, as, congrArg (ParsedFile.mk path) hscript, htranscribes⟩

/-- A configuration with an escaped quote, a quoted key and a construction, in front of the export
of a class. -/
theorem ParsedFile.read_of_spellsScript_exported :
    let source := "@C(\x7ba: 'it\\'s', \"b\": [new c.D(e)],\x7d) // f
export class App extends Base \x7b n = f(1); \x7d"
    let ds := [("C", [Expr.object [.named "a" (.string "it's"),
      .named "b" (.array [.call (.member "c.D") [.identifier "e"]])]])]
    SpellsScript "App" ds source.toList ∧
      ∃ line annotations, ParsedFile.read .tsx ⟨"a.tsx"⟩ source =
          ⟨⟨"a.tsx"⟩, [⟨some "App", .classLike, line, annotations⟩]⟩ ∧
        Transcribes annotations ds := by
  intro source ds
  have hblank : Gap [' '] := .space (by decide) .nil
  have hcomment : Gap (' ' :: ("//".toList ++ " f".toList ++ ['\n'])) :=
    .space (by decide) (.lineComment (forall_sign (by decide)) (by decide) .nil)
  have hstring : SpellsString "it's" _ :=
    ⟨'\'', by decide, [['i'], ['t'], ['\\', '\''], ['s']],
      .cons (.plain (by decide)) (.cons (.plain (by decide)) (.cons (.escaped (by decide))
        (.cons (.plain (by decide)) .nil))), rfl⟩
  have hquoted : SpellsString "b" _ :=
    ⟨'"', by decide, [['b']], .cons (.plain (by decide)) .nil, rfl⟩
  have hcallee : SpellsReference (.member "c.D") _ :=
    .member (w := ['c']) (by decide) (by decide) (.cons .nil .nil (w := ['D']) (by decide) .nil)
      (by decide)
  have hname : Spells (.identifier "e") _ :=
    .reference (.identifier (w := ['e']) (by decide) (by decide))
  have hcall := Spells.construction hblank (by decide) hcallee .nil (.last .nil hname .nil)
  have ha : SpellsMember Spells (.named "a" (.string "it's")) _ :=
    .mk (.word (w := ['a']) (by decide)) .nil hblank (.string hstring)
  have hb := SpellsMember.mk (.string hquoted) .nil hblank
    (Spells.array (.last .nil hcall .nil))
  have hobject := Spells.object (.cons .nil ha .nil (.cons hblank hb .nil (.nil .nil)))
  have hdecorator : SpellsDecorator ("C", _) _ :=
    .mk .nil (w := ['C']) (by decide) .nil (.last .nil hobject .nil)
  have hhead := SpellsHead.exported (.cons .nil hdecorator .nil) hcomment .named .nil hblank .plain
    (by decide)
  have hnumber : IsNumber ['1', ')', ';', ' ', '\x7d'] [')', ';', ' ', '\x7d'] :=
    @IsNumber.whole ['1'] [] _ (.mk rfl (by simp)) .none
      (endsWord_cons (by decide) (by decide)) (by decide)
  have hone (F : Forms) :
      IsExpression F true ['1', ')', ';', ' ', '\x7d'] [')', ';', ' ', '\x7d'] :=
    .chain (.mk (.target (.mk (.number hnumber) .nil)) .nil .nil .nil)
  have hvalue : (Forms.ofDepth 2).expression ("f(1); \x7d".toList) ("; \x7d".toList) :=
    .chain (.mk (.target (.mk (.name (w := ['f']) (by decide) (by decide)
      (endsWord_cons (by decide) (by decide))) (.cons (.call (.mk (.mk .nil)
        (.last (.mk .nil (.plain (hone .empty))) (.mk .nil)))) .nil))) .nil .nil .nil)
  have hmember : IsMember (Forms.ofDepth 2) ("n = f(1); \x7d".toList) (" \x7d".toList) :=
    .closed (.field (.bare (w := ['n']) (by decide) (endsWord_cons (by decide) (by decide))
      (by decide)) (.inl .none) .none (.some (.mk hblank) (.mk hblank hvalue))) (.mk .nil)
  have hbase : (Forms.ofDepth 2).target ("Base \x7b n = f(1); \x7d".toList)
      (" \x7b n = f(1); \x7d".toList) :=
    .mk (.name (w := "Base".toList) (by decide) (by decide)
      (endsWord_cons (by decide) (by decide))) .nil
  have hbody : IsClassBody (" extends Base \x7b n = f(1); \x7d".toList ++ []) [] :=
    ⟨2, .mk .none (.some (.mk hblank (endsWord_cons (by decide) (by decide)))
      (.mk hblank hbase) .nil) .none (.mk hblank)
      (.item (.mk hblank hmember) (.close (.mk hblank)))⟩
  have hscript : SpellsScript "App" ds _ :=
    @SpellsScript.mk "App" ds _ [' '] " extends Base \x7b n = f(1); \x7d".toList [] hhead
      hblank (by decide) (by decide) (by decide) (endsWord_cons (by decide) (by decide)) hbody
      (.gap .nil)
  obtain ⟨s, hs, hsource⟩ : ∃ s, s = source.toList ∧ SpellsScript "App" ds s :=
    ⟨_, by decide +kernel, hscript⟩
  rw [hs] at hsource
  exact ⟨hsource, ParsedFile.read_of_spellsScript .tsx ⟨"a.tsx"⟩ hsource⟩

end DecoratorGraph
