import DecoratorGraph.Proofs.Script.LexemeTexts
import DecoratorGraph.Proofs.Script.Lexemes

/-!
# Expressions stand where they were read

What a grammar reads as an expression stands in the text ahead, from the next lexeme on, if that
holds of the constructs nested in it.
-/

namespace DecoratorGraph.Script

attribute [local grind →] List.IsSuffix.trans Leaves.suffix_of_bind
attribute [local grind .] List.suffix_append

/-! ### Results that stand in the text -/

/-- What was read stands from `start` on, outer parentheses aside. -/
def StandsFrom (start : List Char) (p : Expr × List Char) : Prop :=
  InParens Stands start p.2 p.1

abbrev Placed (start : List Char) (result : Option (Expr × List Char)) : Prop :=
  Yields (StandsFrom start) result

section

variable {start r : List Char}

@[grind =] theorem standsFrom_iff {p : Expr × List Char} :
    StandsFrom start p ↔ InParens Stands start p.2 p.1 := Iff.rfl

@[grind =] theorem placed_some {p : Expr × List Char} :
    Placed start (some p) ↔ InParens Stands start p.2 p.1 := yields_some

theorem inParens_other (kind : String) (h : r <:+ start) :
    InParens Stands start r (otherBetween kind start r) :=
  .bare (.other (textBetween_suffix h)) h

theorem inParens_member (h : r <:+ start) :
    InParens Stands start r (.member (textBetween start r)) :=
  .bare (.member (textBetween_suffix h)) h

theorem inParens_string {mark : Char} {s : List Char} (hmark : mark ∈ ['"', '\'', '\x60'])
    (h : closeQuote? mark s = some r) :
    InParens Stands (mark :: s) r (.string (Literal.value (between (mark :: s) r))) := by
  obtain ⟨inner, rfl⟩ := closeQuote?_eq h
  have hbetween : between (mark :: (inner ++ mark :: r)) r = mark :: inner ++ [mark] := by
    simpa using between_append (mark :: inner ++ [mark]) r
  rw [hbetween]
  exact .bare (.string hmark (by simp)) ⟨mark :: inner ++ [mark], by simp⟩

end

attribute [local grind .] inParens_other inParens_member
attribute [local grind →] skip_of_symbol? skip_of_symbols? skip_of_keyword? word?_eq InParens.suffix

theorem stands_of_readList {α : Type} {item : Reader α} {R : List Char → List Char → α → Prop}
    (hitem : ∀ s x r, item s = some (x, r) → R (skip s) r x) {close : Char} {n : Nat}
    {s rest : List Char} {xs : List α} (h : readList close item n s = some (xs, rest)) :
    StandsList R close s rest xs := by
  have hfirst {s x t} (hx : item (skip s) = some (x, t)) : R (skip s) t x :=
    skip_skip s ▸ hitem _ _ _ hx
  fun_induction readList close item n s generalizing xs rest with
  | case3 =>
    obtain ⟨rfl, rfl⟩ := Prod.mk.inj (Option.some.inj h)
    exact .close ‹_›
  | case4 _ _ _ hs _ ih => exact .gap hs (ih h)
  | case7 _ _ _ _ hs _ _ _ _ hx _ ht =>
    obtain ⟨rfl, rfl⟩ := Prod.mk.inj (Option.some.inj h)
    exact .last (hfirst (hs ▸ hx)) ht
  | case8 _ _ _ _ hs _ _ _ _ hx _ _ ht ih =>
    obtain ⟨⟨ys, r⟩, hys, heq⟩ := Option.map_eq_some_iff.1 h
    obtain ⟨rfl, rfl⟩ := Prod.mk.inj heq
    exact .next (hfirst (hs ▸ hx)) ‹_› (ih hys)
  | _ => simp at h

/-- Every expression that a grammar reads stands in the text ahead, and no expression begins with
two points. -/
structure Grammar.Places (g : Grammar) : Prop where
  expression (place : Place) (s : List Char) : Placed (skip s) (g.expression place s)
  element (s : List Char) : Placed (skip s) (g.element s)
  points (place : Place) (s : List Char) :
    ['.', '.'] <+: skip s → g.expression place s = none

section

variable {g : Grammar} (hc : g.Consumes) (hp : g.Places)

include hc hp

theorem placed_sequence (place : Place) (s : List Char) : Placed (skip s) (g.sequence place s) := by
  have he := hp.expression place s
  unfold Grammar.sequence
  refine yields_bind fun p hp => ?_
  grind

theorem placed_argument (s : List Char) : Placed (skip s) (g.argument s) := by
  have he := hp.expression .inBrackets s
  unfold Grammar.argument
  grind

theorem stands_of_arguments {s rest : List Char} {arguments : List Expr}
    (h : g.arguments s = some (arguments, rest)) :
    ∃ t, skip s = '(' :: t ∧ StandsList (InParens Stands) ')' t rest arguments := by
  obtain ⟨t, ht, hlist⟩ := Option.bind_eq_some_iff.1 h
  exact ⟨t, skip_of_symbol? ht,
    stands_of_readList (fun s x r hx => placed_argument hc hp s (x, r) hx) hlist⟩

omit hp in
theorem stands_of_templateParts {n : Nat} {s rest : List Char} {parts : List Expr}
    (h : g.templateParts n s = some (parts, rest)) : StandsParts s rest parts := by
  have hpart {kind n start r parts rest} (hr : r <:+ start)
      (ih : ∀ {rest parts}, g.templateParts n r = some (parts, rest) → StandsParts r rest parts)
      (h : (g.templateParts n r).map (fun p => (otherBetween kind start r :: p.1, p.2)) =
        some (parts, rest)) : StandsParts start rest parts := by
    obtain ⟨⟨others, r'⟩, hothers, heq⟩ := Option.map_eq_some_iff.1 h
    obtain ⟨rfl, rfl⟩ := Prod.mk.inj heq
    exact .part (textBetween_suffix hr) (ih hothers)
  fun_induction Grammar.templateParts g n s generalizing parts rest with
  | case4 _ _ _ hinner ih =>
    obtain ⟨_, hsequence, hbrace⟩ := Option.bind_eq_some_iff.1 hinner
    exact hpart (by grind) ih h
  | case5 =>
    obtain ⟨rfl, rfl⟩ := Prod.mk.inj (Option.some.inj h)
    exact .close
  | case6 =>
    rename_i ih
    exact hpart (List.drop_suffix _ _) ih h
  | case7 =>
    rename_i ih
    exact hpart ((afterFragment_suffix _).trans (List.suffix_cons _ _)) ih h
  | _ => simp at h

omit hp in
theorem placed_template {start r : List Char} (h : start = '\x60' :: r) :
    Placed start (g.template start r) := by
  subst h
  unfold Grammar.template
  exact yields_ite (fun _ => by grind) fun _ => yields_map fun _ h => inParens_string (by simp) h

omit hp in
theorem placed_functionTail {start r : List Char} (hr : r <:+ start) :
    Placed start (g.functionTail start r) := by
  unfold Grammar.functionTail
  grind

omit hp in
theorem placed_classExpression {start r : List Char} (hr : r <:+ start) :
    Placed start (g.classExpression start r) := by
  unfold Grammar.classExpression
  grind

omit hp in
theorem placed_namespaceTail {start r : List Char} (hr : r <:+ start) :
    Placed start (g.namespaceTail start r) := by
  unfold Grammar.namespaceTail
  grind

omit hp in
theorem leaves_arrowHead_skip (place : Place) (s : List Char) :
    Leaves (skip s) (g.arrowHead place s) := by
  have htypes : Leaves (skip s) (g.typeParameters s) := by
    unfold Grammar.typeParameters
    grind
  have hparameters (t : List Char) (ht : t = s ∨ t <:+ skip s) :
      Leaves (skip s) (g.parameters t) := by
    unfold Grammar.parameters
    grind
  have hoptional : skipOptional g.typeParameters s = s ∨
      skipOptional g.typeParameters s <:+ skip s := by
    unfold skipOptional
    cases h : g.typeParameters s <;> grind
  unfold Grammar.arrowHead Grammar.signature
  grind

omit hp in
theorem placed_arrow (place : Place) (s : List Char) : Placed (skip s) (g.arrow place s) := by
  have hhead := leaves_arrowHead_skip hc place s
  unfold Grammar.arrow
  extract_lets plain rest
  have hplain : Leaves (skip s) plain := by grind
  have hrest : Leaves (skip s) rest := by grind
  clear_value rest
  grind

omit hp in
theorem placed_selection {start s : List Char} (hs : s <:+ start) :
    Placed start (g.selection start s) := by
  unfold Grammar.selection
  grind

omit hc hp in
theorem opensArguments_of_skip {r s t : List Char}
    (hs : skip s = skip r ∨ (skip r).head? ∈ [some '?', some '<'] ∧ s <:+ skip r)
    (ht : skip s = '(' :: t) : OpensArguments r t := by
  obtain hs | ⟨hmark, hs⟩ := hs
  · exact .plain (hs ▸ ht)
  · exact .marked hmark (by grind)

theorem placed_arguments {start r s : List Char} {e : Expr} (he : InParens Stands start r e)
    (hs : skip s = skip r ∨ (skip r).head? ∈ [some '?', some '<'] ∧ s <:+ skip r) :
    Placed start ((g.arguments s).map fun (arguments, rest) => (.call e arguments, rest)) := by
  refine yields_map fun (arguments, rest) h => ?_
  obtain ⟨t, ht, hlist⟩ := stands_of_arguments hc hp h
  have hopen := opensArguments_of_skip hs ht
  exact .bare (.call he hopen hlist)
    ((hlist.suffix fun _ _ _ => InParens.suffix).trans (hopen.suffix.trans he.suffix))

theorem placed_optionalSelection {start r s : List Char} {e : Expr} (he : InParens Stands start r e)
    (hs : skip r = '?' :: '.' :: s) : Placed start (g.optionalSelection start e s) := by
  unfold Grammar.optionalSelection
  split
  · grind
  refine yields_ite (fun _ => by grind) fun _ => ?_
  refine yields_ite (fun _ => placed_selection hc (by grind)) fun _ => ?_
  refine yields_ite (fun _ => placed_arguments hc hp he (.inr ⟨by grind, by grind⟩)) fun _ => ?_
  grind

theorem placed_suffix {start s : List Char} {e : Expr} (he : InParens Stands start s e) :
    Placed start (g.suffix start e s) := by
  unfold Grammar.suffix
  split
  · grind
  next c r hs =>
    have hr : c :: r <:+ start := by grind
    have hcall (t : List Char) := placed_arguments hc hp he (s := t)
    refine yields_ite (fun _ => hcall _ (.inl (by grind [skip_skip]))) fun _ => ?_
    refine yields_ite (fun _ => placed_selection hc hr) fun _ => ?_
    refine yields_ite (fun hmark => yields_map fun (parts, rest) h => ?_) fun _ => ?_
    · obtain rfl := hmark
      exact .bare (.tagged he hs (stands_of_templateParts hc h)) (by grind)
    refine yields_ite (fun hmark => ?_) fun _ => ?_
    · obtain ⟨rfl, hpoint⟩ := hmark
      obtain ⟨t, rfl⟩ := List.head?_eq_some_iff.1 hpoint
      exact placed_optionalSelection hc hp he hs
    refine yields_ite (fun _ => by grind) fun _ => ?_
    refine yields_ite (fun hmark => ?_) fun _ => by grind
    split
    · grind
    next rest hrest =>
      have hown := leaves_ownTypeArguments hc (c :: r) rest hrest
      have harguments := hcall rest (.inr ⟨by grind, by grind⟩)
      split
      next arguments rest' h => grind
      · grind

theorem suffixes_stands {start s : List Char} {e : Expr} (he : InParens Stands start s e)
    (n : Nat) :
    InParens Stands start (g.suffixes start n e s).2 (g.suffixes start n e s).1 := by
  have hsuffix (s : List Char) (e : Expr) (he : InParens Stands start s e) :=
    placed_suffix hc hp he
  fun_induction Grammar.suffixes g start n e s <;> grind

omit hp in
theorem selections_stands {start s : List Char} {e : Expr} (he : InParens Stands start s e)
    (n : Nat) :
    InParens Stands start (g.selections start n e s).2 (g.selections start n e s).1 := by
  have hselection (s : List Char) (hs : s <:+ start) := placed_selection hc hs
  fun_induction Grammar.selections g start n e s <;> grind

omit hp in
theorem placed_wordExpression (w : String) (r : List Char) :
    Placed (w.toList ++ r) (g.wordExpression (w.toList ++ r) w r) := by
  have hr : r <:+ w.toList ++ r := List.suffix_append _ _
  have hfunction (t : List Char) (ht : t <:+ w.toList ++ r) := placed_functionTail hc ht
  unfold Grammar.wordExpression
  refine yields_ite (fun _ => placed_some.2 (.bare (.other rfl) hr)) fun _ => ?_
  refine yields_ite (fun _ => hfunction r hr) fun _ => ?_
  refine yields_ite (fun _ => placed_classExpression hc hr) fun _ => ?_
  extract_lets special
  have hspecial : Placed (w.toList ++ r) special := by
    refine yields_ite (fun _ => yields_bind fun t ht => hfunction t (by grind)) fun _ => ?_
    exact yields_ite (fun _ => placed_namespaceTail hc hr) fun _ => yields_none
  clear_value special
  split
  · exact hspecial
  · exact placed_some.2 (.bare (.identifier rfl) hr)

theorem stands_of_pair {s rest : List Char} {p : Property} (h : g.pair s = some (p, rest)) :
    StandsMember (InParens Stands) (skip s) rest p := by
  obtain ⟨r, hr, h⟩ := Option.bind_eq_some_iff.1 h
  obtain ⟨t, ht, h⟩ := Option.bind_eq_some_iff.1 h
  obtain ⟨⟨e, rest'⟩, he, h⟩ := Option.bind_eq_some_iff.1 h
  obtain ⟨rfl, rfl⟩ := Prod.mk.inj (Option.some.inj h)
  obtain ⟨key, hkey, hs⟩ := exists_key hc hr
  have hvalue := hp.expression .inBrackets t _ he
  have hlayout := MemberForm.Layout.pair hkey (skip_of_symbol? ht) hvalue
  rw [hs]
  exact .intro hlayout (keyName?_text hkey hs)

omit hc hp in
/-- Parameters, or type parameters in front of them, are the next lexeme behind the key of a method,
a question mark aside. -/
theorem head_of_signature {r rest : List Char}
    (h : g.signature (skipOptional (symbol? '?') r) = some rest) :
    (skip r).head? ∈ [some '(', some '<', some '?'] := by
  cases hmark : symbol? '?' r with
  | some t => simp [skip_of_symbol? hmark]
  | none =>
    rw [skipOptional, hmark, Option.getD_none] at h
    obtain ⟨t, ht, -⟩ := Option.bind_eq_some_iff.1 h
    cases htypes : g.typeParameters r with
    | some u =>
      obtain ⟨v, hv, -⟩ := Option.bind_eq_some_iff.1 htypes
      simp [skip_of_symbol? hv]
    | none =>
      rw [skipOptional, htypes, Option.getD_none] at ht
      obtain ⟨v, hv, -⟩ := Option.bind_eq_some_iff.1 ht
      simp [skip_of_symbol? hv]

omit hp in
theorem stands_of_method {s rest : List Char} {p : Property} (h : g.method s = some (p, rest)) :
    StandsMember (InParens Stands) (skip s) rest p := by
  unfold Grammar.method at h
  extract_lets keyed at h
  have hmodifiers : Modifiers (skip s) keyed := modifiers_skipMany g.depth s
  obtain ⟨r, hr, h⟩ := Option.bind_eq_some_iff.1 h
  obtain ⟨rest', hbody, h⟩ := Option.bind_eq_some_iff.1 h
  obtain ⟨rfl, rfl⟩ := Prod.mk.inj (Option.some.inj h)
  obtain ⟨key, hkey, hs⟩ := exists_key hc hr
  rw [show skip keyed = keyed from skip_skip _] at hs
  have hname : textBetween keyed r = String.ofList key.text := by
    rw [hs, textBetween, between_append]
  obtain ⟨t, ht, hblock⟩ := Option.bind_eq_some_iff.1 hbody
  have hrest : rest' <:+ skip s := by
    have hkeyed := hmodifiers.suffix
    grind
  have hlayout := MemberForm.Layout.method (R := InParens Stands) hkey
    (textBetween_suffix hrest) (hs ▸ hmodifiers) (head_of_signature ht)
  exact .intro hlayout (congrArg some hname)

omit hp in
theorem stands_of_shorthand {s rest : List Char} {p : Property}
    (h : g.shorthand s = some (p, rest)) : StandsMember (InParens Stands) (skip s) rest p := by
  obtain ⟨⟨w, r⟩, hw, h⟩ := Option.bind_eq_some_iff.1 h
  have hs := word?_eq hw
  dsimp only at h
  split at h
  · obtain ⟨rfl, rfl⟩ := Prod.mk.inj (Option.some.inj h)
    rw [hs]
    exact .intro (@MemberForm.Layout.shorthand _ w r) rfl
  next hassignment =>
    obtain ⟨⟨_, r'⟩, he, h⟩ := Option.bind_eq_some_iff.1 h
    obtain ⟨rfl, rfl⟩ := Prod.mk.inj (Option.some.inj h)
    have hrest : r' <:+ skip s := by grind
    exact .intro (.defaulted (textBetween_suffix hrest)) rfl

theorem stands_of_property {s rest : List Char} {p : Property} (h : g.property s = some (p, rest)) :
    StandsMember (InParens Stands) (skip s) rest p := by
  unfold Grammar.property at h
  split at h
  next r hdots =>
    obtain ⟨⟨e, r'⟩, he, heq⟩ := Option.map_eq_some_iff.1 h
    obtain ⟨rfl, rfl⟩ := Prod.mk.inj heq
    have hs := skip_of_symbols? hdots
    have hrest : r' <:+ skip s := by grind
    exact .intro (.spread (textBetween_suffix hrest) (hs ▸ List.prefix_append _ _)) rfl
  split at h
  next p' hpair => exact stands_of_pair hc hp (hpair.trans h)
  split at h
  next p' hmethod => exact stands_of_method hc (hmethod.trans h)
  · exact stands_of_shorthand hc h

/-! ### Two points -/

omit hc hp in
theorem word?_points {s : List Char} (hs : ['.', '.'] <+: skip s) : word? (skip s) = none := by
  obtain ⟨t, ht⟩ := hs
  rw [← ht]
  rfl

omit hc hp in
theorem key_points {s : List Char} (hs : ['.', '.'] <+: skip s) : g.key s = none := by
  have hword := word?_points hs
  obtain ⟨t, ht⟩ := hs
  rw [← ht] at hword
  unfold Grammar.key
  rw [← ht]
  simp only [List.cons_append, List.nil_append] at hword ⊢
  rw [if_neg (by decide), if_neg (by decide), if_neg (by decide), if_neg (by simp),
    skipWord?, hword, Option.map_none]

omit hc hp in
theorem symbols?_dots {s : List Char} (hdots : ¬ ['.', '.', '.'] <+: skip s) :
    symbols? "..." s = none := by
  cases h : symbols? "..." s with
  | none => rfl
  | some r => exact absurd (skip_of_symbols? h ▸ List.prefix_append _ r) hdots

omit hc in
theorem argument_points {s : List Char} (hs : ['.', '.'] <+: skip s)
    (hdots : ¬ ['.', '.', '.'] <+: skip s) : g.argument s = none := by
  rw [Grammar.argument, symbols?_dots hdots]
  exact hp.points .inBrackets s hs

omit hc hp in
theorem property_points {s : List Char} (hs : ['.', '.'] <+: skip s)
    (hdots : ¬ ['.', '.', '.'] <+: skip s) : g.property s = none := by
  have hword := word?_points hs
  have hpair : g.pair s = none := by
    rw [Grammar.pair, key_points hs]
    rfl
  have hmodifier : memberModifier s = none := by
    obtain ⟨t, ht⟩ := hs
    rw [memberModifier, hword, symbol?, ← ht]
    rfl
  have hmethod : g.method s = none := by
    have hmany : skipMany memberModifier g.depth s = s := by
      cases g.depth <;> simp [skipMany, hmodifier]
    rw [Grammar.method, hmany, key_points ((skip_skip s).symm ▸ hs)]
    rfl
  have hshorthand : g.shorthand s = none := by
    rw [Grammar.shorthand, hword]
    rfl
  rw [Grammar.property, symbols?_dots hdots, hpair, hmethod, hshorthand]

omit hc hp in
/-- A list has no item where none can be read. -/
theorem readList_points {α : Type} {item : Reader α} {close : Char} (hclose : close ∈ [']', '\x7d'])
    (hitem : ∀ s, ['.', '.'] <+: skip s → ¬ ['.', '.', '.'] <+: skip s → item s = none) (n : Nat)
    {s : List Char} (hs : ['.', '.', close] <+: s) : readList close item n s = none := by
  obtain ⟨t, rfl⟩ := hs
  have hskip : skip (['.', '.', close] ++ t) = ['.', '.', close] ++ t :=
    skip_of_startsLexeme rfl _
  have hnone : item (['.', '.', close] ++ t) = none := by
    have hne : close ≠ '.' := by
      rintro rfl
      simp at hclose
    refine hitem _ (hskip ▸ ⟨close :: t, rfl⟩) fun hdots => hne ?_
    rw [hskip] at hdots
    simpa [eq_comm] using hdots
  cases n with
  | zero => rfl
  | succ n =>
    rw [readList, hskip]
    simp only [List.cons_append, List.nil_append] at hnone ⊢
    rw [hnone, if_neg (by rintro rfl; simp at hclose), if_neg (by decide)]

/-! ### Operands -/

theorem placed_atom (s : List Char) : Placed (skip s) (g.atom s) := by
  unfold Grammar.atom
  split
  · grind
  next c r hs =>
    extract_lets start
    have hr : r <:+ start := List.suffix_cons c r
    rw [hs]
    refine yields_ite (fun hmark => yields_map fun rest h => inParens_string (by grind) h)
      fun _ => ?_
    refine yields_ite (fun hmark => yields_map fun (items, rest) h => ?_) fun _ => ?_
    · obtain rfl := hmark
      have hlist := stands_of_readList (fun t x u hx => placed_argument hc hp t (x, u) hx) h
      refine .bare (.array hlist fun hpoints => ?_) (by grind)
      simp [readList_points (by simp) (fun t => argument_points hp) g.depth hpoints] at h
    refine yields_ite (fun hmark => yields_map fun (members, rest) h => ?_) fun _ => ?_
    · obtain rfl := hmark
      have hlist := stands_of_readList (fun t x u hx => stands_of_property hc hp hx) h
      refine .bare (.object hlist fun hpoints => ?_)
        ((hlist.suffix fun _ _ _ => StandsMember.suffix fun _ _ _ => InParens.suffix).trans hr)
      simp [readList_points (by simp) (fun t => property_points) g.depth hpoints] at h
    refine yields_ite (fun hmark => yields_bind fun (e, r') h => yields_bind fun rest hclose => ?_)
      fun _ => ?_
    · obtain rfl := hmark
      have he := placed_sequence hc hp .inBrackets r _ h
      exact placed_some.2 (.parens he (skip_of_symbol? hclose))
    refine yields_ite (fun hmark => placed_template hc (hmark ▸ rfl)) fun _ => ?_
    iterate 3 refine yields_ite (fun _ => by grind) fun _ => ?_
    refine yields_ite (fun _ => yields_bind fun t ht => placed_classExpression hc (by grind))
      fun _ => ?_
    split
    · grind
    next w r' hw => 
      have hstart : start = w.toList ++ r' := word?_eq hw
      have hword := placed_wordExpression hc w r'
      rw [← hstart] at hword
      exact hword

omit hp in
theorem skipOptional_typeArguments (r : List Char) :
    skip (skipOptional g.typeArguments r) = skip r ∨
      (skip r).head? ∈ [some '?', some '<'] ∧ skipOptional g.typeArguments r <:+ skip r := by
  cases h : g.typeArguments r with
  | none => exact .inl (by rw [skipOptional, h, Option.getD_none])
  | some t =>
    obtain ⟨u, hu, htail⟩ := Option.bind_eq_some_iff.1 h
    have hs := skip_of_symbol? hu
    rw [skipOptional, h, Option.getD_some]
    exact .inr ⟨by simp [hs], by grind⟩

theorem placed_newTail {start s : List Char} (hstart : start = "new".toList ++ s) (n : Nat) :
    Placed start (g.newTail start n s) := by
  induction n generalizing start s with
  | zero => exact yields_none
  | succ n ih =>
    unfold Grammar.newTail
    split
    · grind
    extract_lets inner
    -- A callee may be a construction itself.
    have hinner : Placed (skip s) inner := by
      cases h : keyword? "new" s with
      | some r => simpa only [inner, h] using ih (skip_of_keyword? h)
      | none => simpa only [inner, h] using placed_atom hc hp s
    clear_value inner
    split
    · exact yields_none
    next e r =>
      have hcallee := selections_stands hc (hinner _ rfl) g.depth
      split
      next callee r heq =>
        rw [heq] at hcallee
        extract_lets r'
        subst hstart
        split
        next arguments rest h =>
          obtain ⟨t, ht, hlist⟩ := stands_of_arguments hc hp h
          have hopen := opensArguments_of_skip (skipOptional_typeArguments hc r) ht
          refine placed_some.2 (.bare (.construction hcallee hopen hlist) ?_)
          have hrest := hlist.suffix fun _ _ _ => InParens.suffix
          have ht := hopen.suffix
          grind
        · refine placed_some.2 (.bare (.bareConstruction hcallee ?_) ?_)
          all_goals grind

theorem placed_primary (s : List Char) : Placed (skip s) (g.primary s) := by
  unfold Grammar.primary
  split
  next r hr =>
    exact placed_newTail hc hp (skip_of_keyword? hr) g.depth
  · exact placed_atom hc hp s

omit hp in
theorem placed_prefixed {start r : List Char} (hr : r <:+ start) (place : Place) (kind : String) :
    Placed start (g.prefixed place kind start r) := by
  unfold Grammar.prefixed
  grind

omit hp in
theorem placed_typeAssertion (place : Place) (s : List Char) :
    Placed (skip s) (g.typeAssertion place s) := by
  have hprefixed (r : List Char) (hr : r <:+ skip s) := placed_prefixed hc hr place "type_assertion"
  unfold Grammar.typeAssertion
  grind

theorem placed_readOperand (place : Place) (s : List Char) :
    Placed (skip s) (g.readOperand place s) := by
  unfold Grammar.readOperand
  split
  · grind
  next c r hs =>
    extract_lets start element
    have hprefixed (t : List Char) (ht : t <:+ start) := placed_prefixed hc ht place
    have hstart : skip start = start := by grind [skip_skip]
    have helement : Placed start element := by
      refine yields_ite (fun _ => ?_) fun _ => yields_none
      have hassertion := placed_typeAssertion hc place start
      have hmarkup := hp.element start
      rw [hstart] at hassertion hmarkup
      split
      · exact hassertion
      · exact hmarkup
    have hprimary :
        Placed start ((g.primary start).map fun p => g.suffixes start g.depth p.1 p.2) := by
      have hprimary := placed_primary hc hp start
      rw [hstart] at hprimary
      exact yields_map fun p h => suffixes_stands hc hp (hprimary p h) g.depth
    clear_value element
    rw [hs]
    iterate 3 refine yields_ite (fun _ => by grind) fun _ => ?_
    split
    next e r =>
      have he := helement _ rfl
      exact yields_ite (fun _ => placed_some.2 (suffixes_stands hc hp he g.depth))
        fun _ => placed_some.2 he
    split
    · iterate 2 refine yields_ite (fun _ => by grind) fun _ => ?_
      exact hprimary
    · exact hprimary

/-! ### Operators -/

theorem chainTail_stands (place : Place) {start s : List Char} {e : Expr}
    (he : InParens Stands start s e) (n : Nat) (power : Bool) :
    InParens Stands start (g.chainTail place start n power e s).2
      (g.chainTail place start n power e s).1 := by
  have hsuffixes (e : Expr) (s : List Char) (he : InParens Stands start s e) :=
    suffixes_stands hc hp he g.depth
  have hselection (s : List Char) (hs : s <:+ start) := placed_selection hc hs
  fun_induction Grammar.chainTail g place start n power e s
  all_goals grind

theorem placed_chain (place : Place) (s : List Char) : Placed (skip s) (g.chain place s) := by
  have hoperand := placed_readOperand hc hp place s
  exact yields_map fun (e, r) h => chainTail_stands hc hp place (hoperand _ h) g.depth false

theorem placed_assignment (place : Place) (s : List Char) :
    Placed (skip s) (g.assignment place s) := by
  have hchain := placed_chain hc hp place s
  refine yields_bind fun p h => ?_
  grind

theorem placed_readExpression (place : Place) (s : List Char) :
    Placed (skip s) (g.readExpression place s) := by
  have harrow := placed_arrow hc place s
  have hassignment := placed_assignment hc hp place s
  unfold Grammar.readExpression
  grind

omit hc hp in
theorem readOperand_points (place : Place) {s : List Char} (hs : ['.', '.'] <+: skip s) :
    g.readOperand place s = none := by
  obtain ⟨t, ht⟩ := hs
  have hskip : skip ('.' :: '.' :: t) = '.' :: '.' :: t := skip_of_startsLexeme rfl _
  have hword : word? ('.' :: '.' :: t) = none := rfl
  have hprimary : g.primary ('.' :: '.' :: t) = none := by
    rw [Grammar.primary, keyword?, hskip, hword, Grammar.atom, hskip]
    rfl
  rw [Grammar.readOperand, ← ht]
  simp only [List.cons_append, List.nil_append]
  rw [if_neg (by decide), if_neg (by simp [isStep]), if_neg (by decide), if_neg (by decide), hword,
    hprimary]
  rfl

omit hc hp in
theorem readExpression_points (place : Place) {s : List Char} (hs : ['.', '.'] <+: skip s) :
    g.readExpression place s = none := by
  have hword := word?_points hs
  have harrow : startsArrow s = false := by
    obtain ⟨t, ht⟩ := hs
    rw [startsArrow, ← ht]
    rfl
  rw [Grammar.readExpression, harrow, keyword?, hword, Grammar.assignment, Grammar.chain,
    readOperand_points place hs]
  rfl

omit hp in
theorem placed_readElement (s : List Char) : Placed (skip s) (g.readElement s) := by
  unfold Grammar.readElement
  refine yields_bind fun opened hopened => ?_
  extract_lets head r
  have hhead (s : List Char) : Leaves s (head s) := by grind
  have hr : r <:+ skip s := by grind
  clear_value r
  split
  · grind
  refine yields_bind fun contents hcontents => ?_
  grind

end

/-! ### Levels -/

theorem places_deeper {g : Grammar} (hc : g.Consumes) (hp : g.Places) : g.deeper.Places where
  expression := placed_readExpression hc hp
  element := placed_readElement hc
  points place _ hs := readExpression_points place hs

theorem places_ofDepth (dialect : Dialect) (line : List Char → Nat) (n : Nat) :
    (Grammar.ofDepth dialect line n).Places := by
  induction n with
  | zero => constructor <;> simp [Grammar.ofDepth, Grammar.empty, yields_none]
  | succ n ih => exact places_deeper (consumes_ofDepth dialect line n) ih

end DecoratorGraph.Script
