import DecoratorGraph.Proofs.Script.Placement

/-!
# Arguments of decorators stand in the source

Every argument of a decorator that is found in a source text stands somewhere in it, and so does
every expression inside of an argument.
-/

namespace DecoratorGraph.Script

attribute [local grind →] List.IsSuffix.trans Leaves.suffix_of_bind

def Decorated (s : List Char) (annotations : List Annotation) : Prop :=
  ∀ a ∈ annotations, ∀ e ∈ a.arguments, StandsWithin s e

section

variable {s t : List Char} {annotations others : List Annotation}

@[grind .] theorem decorated_nil : Decorated s [] := by simp [Decorated]

@[grind =] theorem decorated_append :
    Decorated s (annotations ++ others) ↔ Decorated s annotations ∧ Decorated s others := by
  simp [Decorated, or_imp, forall_and]

theorem decorated_cons {a : Annotation} (ha : Decorated s [a]) (h : Decorated s annotations) :
    Decorated s (a :: annotations) :=
  decorated_append.2 ⟨ha, h⟩

theorem Decorated.mono (h : Decorated t annotations) (ht : t <:+ s) : Decorated s annotations :=
  fun a ha e he => (h a ha e he).mono ht

end

/-- All arguments of the decorators of a statement stand in a text. -/
def Bears (s : List Char) (p : Statement × List Char) : Prop := Decorated s p.1.annotations

def Undecorated (p : Statement × List Char) : Prop := p.1.annotations = []

@[grind =] theorem bears_iff {s : List Char} {p : Statement × List Char} :
    Bears s p ↔ Decorated s p.1.annotations := Iff.rfl

@[grind =] theorem undecorated_iff {p : Statement × List Char} :
    Undecorated p ↔ p.1.annotations = [] := Iff.rfl

theorem Bears.mono {s t : List Char} {result : Option (Statement × List Char)}
    (h : Yields (Bears t) result) (ht : t <:+ s) : Yields (Bears s) result :=
  fun p hp => (bears_iff.1 (h p hp)).mono ht

theorem bears_of_undecorated {s : List Char} {result : Option (Statement × List Char)}
    (h : Yields Undecorated result) : Yields (Bears s) result :=
  fun p hp => bears_iff.2 (undecorated_iff.1 (h p hp) ▸ decorated_nil)

@[grind =] theorem yields_bears_some {s : List Char} {p : Statement × List Char} :
    Yields (Bears s) (some p) ↔ Decorated s p.1.annotations := yields_some

@[grind =] theorem annotations_plain : Statement.plain.annotations = [] := rfl

grind_pattern Decorated.mono => Decorated t annotations, Decorated s annotations

section

variable (g : Grammar)

@[grind .]
theorem undecorated_variableTail (s : List Char) : Yields Undecorated (g.variableTail s) := by
  unfold Grammar.variableTail
  grind

@[grind .]
theorem undecorated_functionDeclaration (s : List Char) :
    Yields Undecorated (g.functionDeclaration s) := by
  unfold Grammar.functionDeclaration
  grind

@[grind .]
theorem undecorated_classDeclaration (s : List Char) :
    Yields Undecorated (g.classDeclaration s) := by
  unfold Grammar.classDeclaration
  grind

@[grind .]
theorem undecorated_interfaceTail (s : List Char) : Yields Undecorated (g.interfaceTail s) := by
  unfold Grammar.interfaceTail
  refine yields_bind fun p hp => ?_
  split
  next name r =>
    extract_lets parametrised body
    have hbody (r : List Char) : Yields Undecorated (body r) := by grind
    clear_value parametrised body
    grind

@[grind .]
theorem undecorated_typeAlias (s : List Char) : Yields Undecorated (g.typeAlias s) := by
  unfold Grammar.typeAlias
  grind

@[grind .]
theorem undecorated_enumTail (s : List Char) : Yields Undecorated (enumTail s) := by
  unfold enumTail
  grind

@[grind .]
theorem undecorated_moduleTail (s : List Char) : Yields Undecorated (g.moduleTail s) := by
  unfold Grammar.moduleTail
  grind

@[grind .]
theorem undecorated_expressionStatement (s : List Char) :
    Yields Undecorated (g.expressionStatement s) := by
  unfold Grammar.expressionStatement
  grind

@[grind .]
theorem undecorated_ambient (r : List Char) :
    Yields Undecorated (Grammar.declaration.ambient g r) := by
  unfold Grammar.declaration.ambient
  extract_lets plain annotated
  split
  · grind
  refine yields_bind fun p hp => ?_
  split
  next w r' =>
    iterate 2 refine yields_ite (fun _ => by grind) fun _ => ?_
    extract_lets property
    clear_value property
    grind

@[grind .]
theorem undecorated_declaration (w : String) (r : List Char) :
    Yields Undecorated (g.declaration w r) := by
  unfold Grammar.declaration
  split
  all_goals grind

end

section

variable {g : Grammar} (hc : g.Consumes) (hp : g.Places)

include hc hp

theorem decorated_decorator {s r : List Char} {a : Annotation}
    (h : g.decorator s = some (a, r)) : Decorated s [a] := by
  have hplain (a : Annotation) (ha : a.arguments = []) : Decorated s [a] := by simp [Decorated, ha]
  unfold Grammar.decorator at h
  extract_lets start unresolved at h
  obtain ⟨t, ht, h⟩ := Option.bind_eq_some_iff.1 h
  have hunresolved (rest : List Char) (h : unresolved rest = (a, r)) : Decorated s [a] :=
    hplain a ((Prod.mk.inj h).1 ▸ rfl)
  clear_value unresolved
  split at h
  · obtain ⟨rest, -, h⟩ := Option.bind_eq_some_iff.1 h
    exact hunresolved rest (Option.some.inj h)
  obtain ⟨⟨w, named⟩, hw, h⟩ := Option.bind_eq_some_iff.1 h
  dsimp only at h
  split at h
  · exact hunresolved _ (Option.some.inj h)
  next arguments rest harguments =>
    split at h
    · exact hunresolved _ (Option.some.inj h)
    obtain ⟨rfl, rfl⟩ := Prod.mk.inj (Option.some.inj h)
    obtain ⟨u, hu, hlist⟩ := stands_of_arguments hc hp harguments
    have hsuffix : u <:+ s := (suffix_of_skip hu).trans (by grind)
    simpa [Decorated] using fun e he => (hlist.within he).mono hsuffix

theorem decorated_decorators (n : Nat) (s : List Char) : Decorated s (g.decorators n s).1 := by
  fun_induction Grammar.decorators g n s with
  | case1 => exact decorated_nil
  | case2 => exact decorated_nil
  | case3 n s a r ha as r' heq ih =>
    have hr : r <:+ s := reads_decorator hc s _ ha
    rw [heq] at ih
    exact decorated_cons (decorated_decorator hc hp ha) (ih.mono hr)

theorem bears_exportedValue (s : List Char) : Yields (Bears s) (g.exportedValue s) := by
  have hdecorators := decorated_decorators hc hp g.depth s
  unfold Grammar.exportedValue
  grind

theorem bears_decorated (s : List Char) : Yields (Bears s) (g.decorated s) := by
  have hdecorators := decorated_decorators hc hp g.depth s
  unfold Grammar.decorated
  grind

theorem bears_exportTail {annotations : List Annotation} {s t : List Char}
    (h : Decorated t annotations) (hs : s <:+ t) :
    Yields (Bears t) (g.exportTail annotations s) := by
  have hdecorated (r : List Char) := bears_decorated hc hp r
  have hvalue (r : List Char) := bears_exportedValue hc hp r
  unfold Grammar.exportTail
  extract_lets exported plain global
  have hexported (r : List Char) (hr : r <:+ t) (inner : Option (Statement × List Char))
      (hinner : Yields (Bears r) inner) : Yields (Bears t) (exported inner) := by grind
  have hplain (rest : Option (List Char)) : Yields (Bears t) (plain rest) := by grind
  clear_value exported plain global
  split
  next r hr =>
    have hr : r <:+ t := by grind
    split
    next result hresult => exact hresult ▸ hexported r hr _ (hdecorated r)
    · exact hexported r hr _ (hvalue r)
  split
  next result hresult => exact hresult ▸ hplain _
  split
  next result hresult => exact hresult ▸ hplain _
  split
  next result hresult => exact hresult ▸ hplain _
  · exact hexported s hs _ (hdecorated s)

theorem bears_decoratedStatement (s : List Char) : Yields (Bears s) (g.decoratedStatement s) := by
  have hdecorators := decorated_decorators hc hp g.depth s
  have hdecorated := bears_decorated hc hp s
  unfold Grammar.decoratedStatement
  split
  next annotations r heq =>
    have hr : r <:+ s := by grind
    rw [heq] at hdecorators
    split
    next r' hr' => exact bears_exportTail hc hp hdecorators (by grind)
    split
    next result hresult => exact hresult ▸ hdecorated
    · exact bears_of_undecorated (undecorated_expressionStatement g s)

theorem bears_wordStatement (start : List Char) (w : String) {s r : List Char} (hr : r <:+ s) :
    Yields (Bears s) (g.wordStatement start w r) := by
  unfold Grammar.wordStatement
  extract_lets special
  have hspecial : Yields (Bears s) special := by
    refine yields_ite (fun _ => bears_exportTail hc hp decorated_nil hr) fun _ => ?_
    split
    next result hresult => exact hresult ▸ bears_of_undecorated (undecorated_declaration g w r)
    · grind
  clear_value special
  split
  · exact hspecial
  · exact bears_of_undecorated (undecorated_expressionStatement g start)

theorem bears_readStatement (s : List Char) : Yields (Bears s) (g.readStatement s) := by
  unfold Grammar.readStatement
  split
  · grind
  next c r hs =>
    have hstart : c :: r <:+ s := hs ▸ skip_suffix s
    have hdecorated := bears_decoratedStatement hc hp (c :: r)
    iterate 2 refine yields_ite (fun _ => by grind) fun _ => ?_
    refine yields_ite (fun _ => Bears.mono hdecorated hstart) fun _ => ?_
    split
    next w t hw => exact bears_wordStatement hc hp _ w (by grind)
    · exact bears_of_undecorated (undecorated_expressionStatement g _)

end

/-! ### The whole source -/

/-- Every statement that a grammar reads bears decorators whose arguments stand in the text. -/
theorem bears_statement_ofDepth (dialect : Dialect) (line : List Char → Nat) (n : Nat)
    (s : List Char) : Yields (Bears s) ((Grammar.ofDepth dialect line n).statement s) := by
  cases n with
  | zero => exact yields_none
  | succ n =>
    exact bears_readStatement (consumes_ofDepth dialect line n) (places_ofDepth dialect line n) s

theorem decorated_declarations {g : Grammar} (hc : g.Consumes)
    (hg : ∀ s, Yields (Bears s) (g.statement s)) (n : Nat) {s t : List Char} (hs : s <:+ t) :
    ∀ d ∈ g.declarations n s, Decorated t d.annotations := by
  fun_induction Grammar.declarations g n s with
  | case1 => simp
  | case2 => simp
  | case3 n s c r hskip d rest hd ih =>
    have hstart : c :: r <:+ t := (hskip ▸ skip_suffix s).trans hs
    have hrest : rest <:+ t := (leavesEnd_iff.1 (hc.statement _ _ hd)).trans hstart
    have hfirst : Decorated t d.annotations := (bears_iff.1 (hg _ _ hd)).mono hstart
    simpa using ⟨hfirst, ih hrest⟩
  | case4 n s c r hskip hd ih =>
    have hstart : c :: r <:+ t := (hskip ▸ skip_suffix s).trans hs
    have hrest : afterStretch (c :: r) <:+ t :=
      (List.drop_suffix _ _).trans ((List.dropWhile_suffix _).trans hstart)
    simpa using ⟨decorated_nil, ih hrest⟩

theorem decorated_script {g : Grammar} (hc : g.Consumes)
    (hg : ∀ s, Yields (Bears s) (g.statement s)) (source : List Char) :
    ∀ d ∈ g.script source, Decorated source d.annotations := by
  have hdeclarations {s : List Char} (hs : s <:+ skip source) :=
    decorated_declarations hc hg g.depth (hs.trans (skip_suffix source))
  unfold Grammar.script
  split
  next r hs =>
    have hr : r.dropWhile (fun c => c != '\n') <:+ skip source := by grind
    simpa using ⟨decorated_nil, hdeclarations hr⟩
  · exact hdeclarations List.suffix_rfl

/-- Every argument of a decorator in a source text stands in it, and so does what it is made of. -/
theorem standsWithin_of_inside {dialect : Dialect} {source : List Char} {d : Declaration}
    {a : Annotation} {argument e : Expr} (hd : d ∈ declarations dialect source)
    (ha : a ∈ d.annotations) (hargument : argument ∈ a.arguments) (he : Inside e argument) :
    StandsWithin source e :=
  StandsWithin.of_inside he
    (decorated_script (consumes_ofDepth dialect _ _) (bears_statement_ofDepth dialect _ _) source
      d hd a ha argument hargument)

end DecoratorGraph.Script
