import DecoratorGraph.Proofs.Script.Signatures

/-!
# Reading types

A type is skipped up to where nothing that follows goes on with it (`readType_of_form`): the
operands of a union with the words in front and the brackets behind them, and what makes more of a
union, such as a condition on it. What a type begins with (`BeginsType`) tells which words do not
stand there.
-/

namespace DecoratorGraph.Script

variable {F : Forms} {g : Grammar} {k : Nat} {s t r u : List Char} {c d : Char}

/-! ### Tuples -/

theorem TupleElement.opens (h : TupleElement F s t) : Opens s := by
  cases h with
  | sign hc _ =>
      have hsigns : ∀ c ∈ "\"'\x60[\x7b(-0123456789".toList, c ∈ openers := forall_sign (by decide)
      exact ⟨_, _, rfl, Or.inl (hsigns _ hc)⟩
  | word hw _ _ _ _ => exact hw.opens _
  | named hw _ _ _ _ => exact hw.opens _

/-- The label in front of a type in a tuple is read over. -/
theorem type_of_tupleElement (hg : g.ReadsForms k) (hF : F.IsLevel) {gap : List Char}
    (hgap : Gap gap) (h : TupleElement F s t) (hs : (gap ++ s).length < k) (ht : EndsType t) :
    g.type (((skipWord? (skip (gap ++ s))).bind fun r =>
      symbol? ':' (skipOptional (symbol? '?') r)).getD (gap ++ s)) = some t := by
  cases h with
  | @sign c s _ hc h =>
      have hsigns : ∀ c ∈ "\"'\x60[\x7b(-0123456789".toList, startsLexeme c = true ∧
          isWordStart c = false ∧ c ≠ '\\' := forall_sign (by decide)
      obtain ⟨hstarts, hstart, hb⟩ := hsigns c hc
      rw [hgap.skip_append hstarts, skipWord?, word?_of_sign hstart hb, Option.map_none,
        Option.bind_none, Option.getD_none]
      exact hg.type hF (.mk hgap h) hs ht
  | @word w s r _ hw hend hq hnext h =>
      have hr := skipOptional_of_opt hq (by decide) (hnext.symbol?_eq_none (by decide) (by decide))
      have hcolon : symbol? ':' r = none := hnext.symbol?_eq_none (by decide) (by decide)
      rw [hgap.skip_name hw, hw.skipWord?_append hend, Option.bind_some, hr.1, hcolon,
        Option.getD_none]
      exact hg.type hF (.mk hgap h) hs ht
  | @named w s r u _ hw hend hq hc h =>
      have hr := skipOptional_of_opt hq (by decide) (hc.symbol?_eq_none (by decide) (by decide))
      have hlength := hc.length_lt
      simp only [List.length_append] at hs
      rw [hgap.skip_name hw, hw.skipWord?_append hend, Option.bind_some, hr.1,
        hc.symbol?_eq (by decide), Option.getD_some]
      exact hg.type hF h (by omega) ht

theorem tupleItem_of_form (hg : g.ReadsForms k) (hF : F.IsLevel) (h : TupleItem F s t)
    (hs : s.length < k) (hend : EndsItem ']' t) : g.tupleItem s = some t := by
  have htype : EndsType t := hend.endsType (by decide)
  have hquestion : symbol? '?' t = none := hend.symbol?_eq_none (by decide) (by decide)
  rw [Grammar.tupleItem]
  cases h with
  | @plain _ r _ h hq =>
      have hr : EndsType r := by
        cases hq with
        | none => exact htype
        | some hq => exact endsType_of_sign (hq.skip_eq (by decide)) (by decide) (by decide)
      have hnil : Gap [] := .nil
      have hread := type_of_tupleElement hg hF hnil h hs hr
      rw [List.nil_append] at hread
      simp only [skipOptional_of_none h.opens.symbols?_eq_none, Option.bind_eq_bind, hread,
        Option.bind_some, (skipOptional_of_opt hq (by decide) hquestion).1]
  | rest h =>
      obtain @⟨gap, s, _, hgap, h⟩ := h
      have hlength : (gap ++ s).length < k := by
        simp only [List.length_append] at hs ⊢
        omega
      simp only [skipOptional_of_some (symbols?_dots_append (gap ++ s)), Option.bind_eq_bind,
        type_of_tupleElement hg hF hgap h hlength htype, Option.bind_some,
        skipOptional_of_none hquestion]

theorem readsItems_tupleItem (hg : g.ReadsForms k) (hF : F.IsLevel) :
    ReadsItems (TupleItem F) ']' g.tupleItem.reader k where
  opens h := by
    cases h with
    | plain h _ => exact h.opens.item (by decide)
    | rest _ => exact item_of_dots _ (by decide)
  leaves := Skipper.reads (leaves_tupleItem hg.consumes)
  read h hs hend := by
    have hread := tupleItem_of_form hg hF h hs hend
    exact ⟨(), by rw [Skipper.reader, hread, Option.map_some]⟩

/-! ### What types begin with -/

/-- A text that begins as a type does, but with none of the words. -/
def BeginsType (words : List String) (s : List Char) : Prop :=
  (∃ w r, s = w ++ r ∧ IsName w ∧ EndsWord r ∧ String.ofList w ∉ words) ∨
    ∃ c r, s = c :: r ∧ startsLexeme c = true ∧ isWordStart c = false ∧
      c ∉ ['\\', '?', '|', '&'] ∧ (c.isDigit = true ∨ startsType (c :: r) = true)

/-- The words that say something of a type or a value. -/
def typeParticles : List String := ["asserts", "extends", "is"]

theorem BeginsType.mono {words words' : List String} (h : BeginsType words s)
    (hwords : words'.all (fun w => decide (w ∈ words)) = true) : BeginsType words' s := by
  obtain ⟨w, r, hs, hw, hend, hfree⟩ | hsign := h
  · have hmem (hw : String.ofList w ∈ words') : String.ofList w ∈ words :=
      of_decide_eq_true (List.all_eq_true.1 hwords _ hw)
    exact Or.inl ⟨w, r, hs, hw, hend, mt hmem hfree⟩
  · exact Or.inr hsign

theorem BeginsType.keyword?_eq_none {words : List String} (h : BeginsType words s)
    {gap : List Char} (hgap : Gap gap) {w : String} (hw : w ∈ words) :
    keyword? w (gap ++ s) = none := by
  obtain ⟨v, r, rfl, hv, hend, hfree⟩ | ⟨c, r, rfl, hstarts, hstart, hnot, -⟩ := h
  · rw [keyword?_of_name hv (hgap.skip_name hv r) hend, if_neg]
    rintro rfl
    exact hfree hw
  · refine keyword?_of_sign (hgap.skip_append hstarts r) hstart ?_ _
    rintro rfl
    exact hnot (by decide)

theorem BeginsType.typeOperator_eq_none {words : List String} (h : BeginsType words s)
    (hwords : typeOperators.all (fun w => decide (w ∈ words)) = true) {gap : List Char}
    (hgap : Gap gap) : typeOperator (gap ++ s) = none := by
  obtain ⟨w, r, rfl, hw, hend, hfree⟩ | ⟨c, r, rfl, hstarts, hstart, hnot, -⟩ := h.mono hwords
  · rw [typeOperator, hgap.skip_name hw r, hw.word?_append hend]
    simp [hfree]
  · simp only [List.mem_cons, List.not_mem_nil, or_false, not_or] at hnot
    have hskip := hgap.skip_append hstarts r
    rw [typeOperator, hskip, word?_of_sign hstart hnot.1]
    show symbol? '?' (gap ++ c :: r) = none
    rw [symbol?_of_skip hskip, if_neg hnot.2.1]

theorem BeginsType.skip_append {words : List String} (h : BeginsType words s) {gap : List Char}
    (hgap : Gap gap) : skip (gap ++ s) = s := by
  obtain ⟨w, r, rfl, hw, -, -⟩ | ⟨c, r, rfl, hstarts, -, -, -⟩ := h
  · exact hgap.skip_name hw r
  · exact hgap.skip_append hstarts r

theorem BeginsType.unionSign_eq_none {words : List String} (h : BeginsType words s)
    {gap : List Char} (hgap : Gap gap) : unionSign (gap ++ s) = none := by
  obtain ⟨w, r, rfl, hw, -, -⟩ | ⟨c, r, rfl, hstarts, -, hnot, -⟩ := h
  · obtain ⟨d, v, hcons, -, hsigns⟩ :=
      hw.exists_head r (show ['|', '&'].all (fun d => !isWordStart d) = true by decide)
    exact unionSign_of_skip ((hgap.skip_name hw r).trans hcons) hsigns
  · exact unionSign_of_skip (hgap.skip_append hstarts r) fun hmem =>
      hnot (List.mem_cons_of_mem _ (List.mem_cons_of_mem _ hmem))

/-- What an operator of types could stand in front of. -/
theorem BeginsType.startsType {words : List String} (h : BeginsType words s) {gap : List Char}
    (hgap : Gap gap) (hwords : "extends" ∈ words)
    (hdigit : ∀ c, s.head? = some c → c.isDigit = false) :
    startsType (gap ++ s) = true ∧ nextWord? (gap ++ s) ≠ some "extends" := by
  rw [Script.startsType, nextWord?, h.skip_append hgap]
  obtain ⟨w, r, rfl, hw, hend, hfree⟩ | ⟨c, r, rfl, hc, hstart, hnot, hdigit' | htype⟩ := h
  · rw [hw.word?_append hend]
    obtain ⟨c, v, rfl, hc, -⟩ := hw.exists_cons
    refine ⟨by simp [hc], fun heq => hfree ?_⟩
    rwa [show String.ofList (c :: v) = "extends" from Option.some.inj heq]
  · rw [hdigit c rfl] at hdigit'
    exact absurd hdigit' Bool.false_ne_true
  · have hb : c ≠ '\\' := by
      rintro rfl
      exact hnot (by decide)
    rw [Script.startsType, skip_of_startsLexeme hc] at htype
    rw [word?_of_sign hstart hb]
    exact ⟨htype, (Option.some_ne_none _).symm⟩

theorem beginsType_of_sign (hc : c ∈ "\"'\x60[\x7b(<-".toList) (words : List String)
    (r : List Char) : BeginsType words (c :: r) := by
  have hsigns : ∀ c ∈ "\"'\x60[\x7b(<-".toList, startsLexeme c = true ∧ isWordStart c = false ∧
      c ∉ ['\\', '?', '|', '&'] ∧ "([\x7b<\"'-\x60".toList.contains c = true :=
    forall_sign (by decide)
  obtain ⟨hstarts, hstart, hnot, htype⟩ := hsigns c hc
  refine Or.inr ⟨c, r, rfl, hstarts, hstart, hnot, Or.inr ?_⟩
  rw [startsType, skip_of_startsLexeme hstarts]
  exact Bool.or_eq_true_iff.2 (Or.inr htype)

theorem beginsType_of_word {words : List String} {w : String} (hw : IsName w.toList)
    (hend : EndsWord r) (hfree : w ∉ words) : BeginsType words (w.toList ++ r) :=
  Or.inl ⟨w.toList, r, rfl, hw, hend, by rwa [String.ofList_toList]⟩

theorem IsPrimaryType.begins (h : IsPrimaryType F s t) :
    BeginsType ("infer" :: (typeOperators ++ typeParticles)) s := by
  cases h with
  | reference hw hfree hend _ _ =>
      have hall : BeginsType typeWords _ := Or.inl ⟨_, _, rfl, hw, hend, hfree⟩
      exact hall.mono (by decide)
  | query hgap hne _ _ _ _ _ _ =>
      exact beginsType_of_word (by decide) (hgap.endsWord hne _) (by decide)
  | imported ho _ _ _ =>
      exact beginsType_of_word (by decide) (ho.endsWord (by decide) (by decide) (by decide))
        (by decide)
  | string hs =>
      obtain ⟨quote, hquote, body, rfl, -⟩ := hs.exists_quote
      have hquotes : ∀ c ∈ ['"', '\''], c ∈ "\"'\x60[\x7b(<-".toList := forall_sign (by decide)
      exact beginsType_of_sign (hquotes quote hquote) _ _
  | number hn =>
      obtain ⟨c, r, rfl, hc⟩ := hn.exists_digit
      have hsigns : ∀ d ∈ ['\\', '?', '|', '&'], d.isDigit = false := forall_sign (by decide)
      have hnot : c ∉ ['\\', '?', '|', '&'] := fun hmem =>
        Bool.false_ne_true ((hsigns c hmem).symm.trans hc)
      exact Or.inr ⟨c, r, rfl, (starts_of_isDigit hc).1, by simp [isWordStart, hc], hnot,
        Or.inl hc⟩
  | template _ | negative _ _ | tuple _ | object _ | parens _ _ _ =>
      exact beginsType_of_sign (by decide) _ _

theorem IsBareType.begins (h : IsBareType F s t) :
    BeginsType (typeOperators ++ typeParticles) s := by
  cases h with
  | plain h _ => exact h.begins.mono (by decide)
  | inferred hgap hne _ _ _ _ =>
      exact beginsType_of_word (by decide) (hgap.endsWord hne _) (by decide)

theorem IsOperandType.begins (h : IsOperandType F s t) : BeginsType typeParticles s := by
  cases h with
  | plain h => exact h.begins.mono (by decide)
  | operator hw hgap hne _ _ _ =>
      have hfree : ∀ w ∈ ["keyof", "readonly", "unique"], w ∉ typeParticles := by decide
      exact beginsType_of_word (isName_of_mem (by decide) hw) (hgap.endsWord hne _) (hfree _ hw)

theorem IsUnion.begins (h : IsUnion F s t) : BeginsType typeParticles s := by
  cases h with
  | one h => exact h.begins
  | cons h _ _ _ _ => exact h.begins

/-! ### Types without brackets -/

/-- Names behind points are skipped by whatever skips one of them. -/
theorem skipMany_of_dotted {p : Skipper} (h : Dotted s t)
    (hp : ∀ {s r u : List Char}, Sign '.' s r → Name r u → p s = some u) (ht : p t = none) (n : Nat)
    (hn : s.length ≤ n) : skipMany p n s = t := by
  induction h generalizing n with
  | nil => exact skipMany_of_none ht n
  | cons hpoint hname _ ih =>
      have hr := hpoint.length_lt
      have hu := hname.length_lt
      obtain ⟨n, rfl⟩ : ∃ m, n = m + 1 := ⟨n - 1, by omega⟩
      rw [skipMany, hp hpoint hname]
      exact ih ht n (by omega)

theorem typeReference_of_form (hg : g.ReadsForms k) (hF : F.IsLevel) {w : List Char}
    (hw : IsName w) (hend : EndsWord s) (hd : Dotted s r)
    (ha : Opt (Enclosed '<' F.type '>') r t) (hs : (w ++ s).length ≤ k)
    (hpoint : symbol? '.' t = none) (hless : symbol? '<' t = none) :
    g.typeReference (w ++ s) = some t := by
  have hdepth := hg.depth
  have hle := hd.length_le
  rw [List.length_append] at hs
  have hdots := dottedTail_of_dotted hd (symbol?_of_opt ha (by decide) hpoint) g.depth (by omega)
  have htype := skipOptional_typeArguments_of_form hg hF ha (by omega) hless
  rw [Grammar.typeReference, hw.skip_append, hw.skipWord?_append hend]
  simp only [Option.bind_eq_bind, Option.bind_some, hdots, htype]

/-- The type of a value is asked for by a name, and names that are selected from it. -/
theorem typeQuery_of_form (hg : g.ReadsForms k) (hF : F.IsLevel) {gap w : List Char}
    (hgap : Gap gap) (hw : IsName w) (hfree : String.ofList w ≠ "import") (hend : EndsWord s)
    (hd : Dotted s r) (ha : Opt (Enclosed '<' F.type '>') r t) (hs : (w ++ s).length ≤ k)
    (hpoint : symbol? '.' t = none) (hoption : symbols? "?." t = none)
    (hless : symbol? '<' t = none) : g.typeQuery (gap ++ (w ++ s)) = some t := by
  have hdepth := hg.depth
  have hle := hd.length_le
  rw [List.length_append] at hs
  have htype := skipOptional_typeArguments_of_form hg hF ha (by omega) hless
  have hlast : symbol? '.' r = none ∧ symbols? "?." r = none := by
    cases ha with
    | none => exact ⟨hpoint, hoption⟩
    | some h =>
        obtain ⟨v, ho, -, -⟩ := h.length_lt
        exact ⟨ho.symbol?_eq_none (by decide) (by decide),
          symbols?_of_ne (c := '?') (u := ['.']) rfl (ho.skip_eq (by decide)) (by decide)⟩
  have hnext : nextWord? (gap ++ (w ++ s)) ≠ some "import" := by
    rw [nextWord?_of_name (hgap.skip_name hw s) hw hend]
    exact fun heq => hfree (Option.some.inj heq)
  unfold Grammar.typeQuery
  extract_lets step
  have hmany : skipMany step g.depth s = r := by
    refine skipMany_of_dotted hd (fun hp hn => ?_) ?_ _ (by omega)
    · obtain ⟨v, hv, hskip, -⟩ := hn.exists_name
      simp only [step, hp.symbol?_eq (show startsLexeme '.' = true by decide),
        symbol?_of_name hv hskip (show isWordStart '#' = false by decide), hn.skipWord?_eq]
    · simp only [step, hlast]
  simp only [hgap.skip_name hw, hw.skipWord?_append hend, Option.bind_eq_bind, Option.bind_some,
    if_neg hnext, hmany, htype]

theorem primaryType_of_name (g : Grammar) {w : List Char} (hskip : skip s = w ++ r) (hw : IsName w)
    (hend : EndsWord r) :
    g.primaryType s =
      if String.ofList w = "new" then g.functionType r
      else if String.ofList w = "abstract" then
        (keyword? "new" r).elim (g.typeReference (w ++ r)) g.functionType
      else if String.ofList w = "typeof" then g.typeQuery r
      else if String.ofList w = "import" then
        (group? r).map fun rest => skipOptional g.typeArguments (dottedTail g.depth rest)
      else g.typeReference (w ++ r) := by
  have hword := hw.word?_append hend
  obtain ⟨c, v, rfl, hc, -⟩ := hw.exists_cons
  have hsigns : c ∉ ['(', '<', '[', '\x7b', '"', '\'', '\x60', '*', '-'] :=
    not_mem_of_isWordStart hc (by decide)
  have hdigit : c.isDigit = false := by
    simpa using (Bool.and_eq_true_iff.1 hc).2
  simp only [List.mem_cons, List.not_mem_nil, or_false, not_or] at hsigns
  rw [List.cons_append] at hskip hword
  rw [Grammar.primaryType, hskip]
  cases hnew : keyword? "new" r <;>
    simp only [hsigns, hdigit, or_self, if_false, Bool.false_eq_true, hword, hnew,
      List.cons_append, Option.elim_none, Option.elim_some]

/-- A type without brackets is skipped to its end. -/
theorem primaryType_of_form (hg : g.ReadsForms k) (hF : F.IsLevel)
    (h : Spaced (IsPrimaryType F) s t) (hs : s.length ≤ k) (hpoint : symbol? '.' t = none)
    (hless : symbol? '<' t = none) : g.primaryType s = some t := by
  have hdepth := hg.depth
  obtain @⟨gap, s, _, hgap, h⟩ := h
  rw [List.length_append] at hs
  cases h with
  | @reference w u r _ hw hfree hend hd ha =>
      have hread := typeReference_of_form hg hF hw hend hd ha (by omega) hpoint hless
      simp only [typeWords, List.mem_cons, List.not_mem_nil, or_false, not_or] at hfree
      rw [primaryType_of_name g (hgap.skip_name hw u) hw hend]
      simp only [hfree, if_false, hread]
  | @query gap' w u r _ hgap' hne hw hfree hend hd ha hnext =>
      have hname : IsName "typeof".toList := by decide
      simp only [List.mem_cons, List.not_mem_nil, or_false, not_or] at hfree
      have hoption : symbols? "?." t = none := by
        rw [symbols?, ahead?, if_neg]
        intro hprefix
        obtain ⟨u, hu⟩ := List.isPrefixOf_iff_prefix.1 hprefix
        obtain ⟨gap, hgap, rfl⟩ := exists_gap_of_skip hu.symm
        exact hnext u (.mk hgap)
      rw [primaryType_of_name g (hgap.skip_name hname _) hname (hgap'.endsWord hne _),
        String.ofList_toList]
      simp only [String.reduceEq, if_false, if_true]
      exact typeQuery_of_form hg hF hgap' hw hfree.2 hend hd ha
        (by simp only [List.length_append] at hs ⊢; omega) hpoint hoption hless
  | @imported s r u v _ ho hb hd ha =>
      have hname : IsName "import".toList := by decide
      rw [List.length_append] at hs
      have hgroup := group?_of_balanced (by decide) ho hb
      have hu := (leaves_group? s).length_le hgroup
      have hv := hd.length_le
      have hdots := dottedTail_of_dotted hd (symbol?_of_opt ha (by decide) hpoint) g.depth
        (by omega)
      rw [primaryType_of_name g (hgap.skip_name hname s) hname
        (ho.endsWord (by decide) (by decide) (by decide)), String.ofList_toList]
      simp only [String.reduceEq, if_false, if_true, hgroup, Option.map_some, hdots,
        skipOptional_typeArguments_of_form hg hF ha (by omega) hless]
  | string hs' =>
      obtain ⟨quote, hquote, body, rfl, hclose⟩ := hs'.exists_quote
      have hstarts : ∀ c ∈ ['"', '\''], startsLexeme c = true ∧ c ≠ '(' ∧ c ≠ '<' ∧ c ≠ '[' ∧
          c ≠ '\x7b' := forall_sign (by decide)
      obtain ⟨hstart, hparen, hangle, hbracket, hbrace⟩ := hstarts quote hquote
      simp only [List.mem_cons, List.not_mem_nil, or_false] at hquote
      rw [Grammar.primaryType, hgap.skip_append hstart]
      simp only [hparen, hangle, hbracket, hbrace, if_false, hquote, if_true, hclose]
  | @template s _ h =>
      rw [List.length_cons] at hs
      rw [Grammar.primaryType, hgap.skip_append (by decide)]
      simp only [Char.reduceEq, or_self, if_false, if_true]
      refine skipTemplate_of_form h (fun ht hc hlength => hg.type hF ht hlength ?_)
        hg.consumes.type (show s.length < k by omega) _ (by omega)
      exact endsType_of_sign (hc.skip_eq (by decide)) (by decide) (by decide)
  | number hn =>
      have hafter := afterNumber_of_number hn
      obtain ⟨c, r, rfl, hc⟩ := hn.exists_digit
      have hsigns : ∀ d ∈ ['(', '<', '[', '\x7b', '"', '\'', '\x60', '*', '-'],
          d.isDigit = false := forall_sign (by decide)
      have hne : c ∉ ['(', '<', '[', '\x7b', '"', '\'', '\x60', '*', '-'] := fun hmem =>
        Bool.false_ne_true ((hsigns c hmem).symm.trans hc)
      simp only [List.mem_cons, List.not_mem_nil, or_false, not_or] at hne
      have hskip : skip (gap ++ c :: r) = c :: r := by
        rw [skip_append_of_gap hgap, hn.opens.skip_eq]
      rw [Grammar.primaryType, hskip]
      simp only [hne, or_self, if_false, hc, if_true, hafter]
  | @negative gap' s _ hgap' hn =>
      have hskip : skip (gap' ++ s) = s := by
        rw [skip_append_of_gap hgap', hn.opens.skip_eq]
      rw [Grammar.primaryType, hgap.skip_append (by decide)]
      simp only [Char.reduceEq, or_self, if_false, if_true, hskip, afterNumber_of_number hn]
  | @tuple s _ h =>
      rw [List.length_cons] at hs
      rw [Grammar.primaryType, hgap.skip_append (by decide)]
      simp only [Char.reduceEq, if_false, if_true]
      exact skipList_of_items (readsItems_tupleItem hg hF) (by decide) (by decide) h (by omega)
        g.depth (by omega)
  | @object s _ h =>
      rw [Grammar.primaryType, hgap.skip_append (by decide)]
      simp only [Char.reduceEq, if_false, if_true]
      rw [closeGroup?_of_balanced h (by decide), closeGroup?]
  | @parens s r _ hno h hc =>
      rw [List.length_cons] at hs
      have hskip := skip_of_startsLexeme (c := '(') (by decide) s
      have hopen : symbol? '(' ('(' :: s) = some s := by
        rw [symbol?_of_skip hskip, if_pos rfl]
      have hless' : symbol? '<' ('(' :: s) = none := by
        rw [symbol?_of_skip hskip, if_neg (by decide)]
      have hfunction : g.functionType ('(' :: s) = none := by
        rw [Grammar.functionType, skipOptional_of_none (typeParameters_eq_none g hless'),
          parameters_eq_none hg.level hno hopen]
        rfl
      have hend : EndsType r := endsType_of_sign (hc.skip_eq (by decide)) (by decide) (by decide)
      rw [Grammar.primaryType, hgap.skip_append (by decide)]
      simp only [if_true, hfunction, hg.type hF h (by omega) hend, Option.bind_some,
        hc.symbol?_eq (by decide)]

/-! ### Brackets and words around a type -/

theorem typeSuffix_eq_none (g : Grammar) (h : crossesLine s = true ∨ symbol? '[' s = none) :
    g.typeSuffix s = none := by
  rw [Grammar.typeSuffix]
  obtain hline | hnone := h
  · rw [if_pos hline]
  · rw [hnone]
    split <;> rfl

/-- The brackets behind a type are skipped. -/
theorem skipMany_typeSuffix (hg : g.ReadsForms k) (hF : F.IsLevel) (h : Brackets F s t)
    (hs : s.length ≤ k) (ht : crossesLine t = true ∨ symbol? '[' t = none) (n : Nat)
    (hn : s.length ≤ n) : skipMany g.typeSuffix n s = t := by
  have hopen {gap : List Char} (hgap : Gap gap) (hline : ∀ c ∈ gap, c ∉ lineTerminators)
      (s : List Char) : crossesLine (gap ++ '[' :: s) = false ∧
        symbol? '[' (gap ++ '[' :: s) = some s := by
    refine ⟨crossesLine_of_inline hgap hline (skip_of_startsLexeme (by decide) s), ?_⟩
    rw [symbol?_of_skip (hgap.skip_append (by decide) s), if_pos rfl]
  induction h generalizing n with
  | nil => exact skipMany_of_none (typeSuffix_eq_none g ht) n
  | @array gap s r t hgap hline hc _ ih =>
      obtain ⟨hcross, hsymbol⟩ := hopen hgap hline s
      have hsome : g.typeSuffix (gap ++ '[' :: s) = some r := by
        rw [Grammar.typeSuffix, hcross, hsymbol]
        simp [hc.symbol?_eq (show startsLexeme ']' = true by decide)]
      have hsuffix := leaves_typeSuffix hg.consumes _ _ hsome
      have hle := List.IsSuffix.length_le hsuffix
      exact skipMany_of_some hsome hsuffix (ih (by omega) ht) n hn
  | @index gap s r u t hgap hline h hc _ ih =>
      obtain ⟨hcross, hsymbol⟩ := hopen hgap hline s
      have hclose : symbol? ']' s = none := hF.symbol?_type h (by decide) (by decide)
      have hend : EndsType r := endsType_of_sign (hc.skip_eq (by decide)) (by decide) (by decide)
      have htype := hg.type hF h (by simp at hs; omega) hend
      have hsome : g.typeSuffix (gap ++ '[' :: s) = some u := by
        rw [Grammar.typeSuffix, hcross, hsymbol]
        simp [hclose, htype, hc.symbol?_eq (show startsLexeme ']' = true by decide)]
      have hsuffix := leaves_typeSuffix hg.consumes _ _ hsome
      have hle := List.IsSuffix.length_le hsuffix
      exact skipMany_of_some hsome hsuffix (ih (by omega) ht) n hn

theorem symbol?_of_brackets (h : Brackets F s t) (hc : c ≠ '[') (ht : symbol? c t = none) :
    symbol? c s = none := by
  cases h with
  | nil => exact ht
  | array hgap _ _ _ => rw [symbol?_of_skip (hgap.skip_append (by decide) _), if_neg hc.symm]
  | index hgap _ _ _ _ => rw [symbol?_of_skip (hgap.skip_append (by decide) _), if_neg hc.symm]

/-- The words in front of a type are skipped. -/
theorem exists_skipMany_typeOperator (h : Spaced (IsOperandType F) s t) :
    ∃ u, Spaced (IsBareType F) u t ∧ u.length ≤ s.length ∧
      ∀ n, s.length ≤ n → skipMany typeOperator n s = u := by
  obtain @⟨gap, s, _, hgap, h⟩ := h
  induction h generalizing gap with
  | @plain s t h =>
      exact ⟨gap ++ s, .mk hgap h, Nat.le_refl _,
        fun n _ => skipMany_of_none (h.begins.typeOperator_eq_none (by decide) hgap) n⟩
  | @operator w gap' s t hw hg hne hline hdigit h ih =>
      obtain ⟨u, hu, hlength, hmany⟩ := ih hg
      have hname : IsName w.toList := isName_of_mem (by decide) hw
      have hmem : ∀ w ∈ ["keyof", "readonly", "unique"], w ∈ typeOperators := by decide
      have hcross := crossesLine_of_inline hg hline h.opens.skip_eq
      have hless : symbol? '<' (gap' ++ s) = none :=
        (Spaced.mk hg h).symbol?_eq_none IsOperandType.opens (by decide)
      have hstarts := h.begins.startsType hg (by decide) hdigit
      have hoperator : typeOperator (gap ++ (w.toList ++ (gap' ++ s))) = some (gap' ++ s) := by
        rw [typeOperator, hgap.skip_name hname, hname.word?_append (hg.endsWord hne s)]
        simp [hmem w hw, hstarts, hless, hcross]
      refine ⟨u, hu, ?_, skipMany_of_some hoperator ⟨gap ++ w.toList, by simp⟩ hmany⟩
      simp only [List.length_append] at hlength ⊢
      omega

/-- A type with brackets behind it is skipped to its end, if nothing is inferred from it. -/
theorem suffixedType_of_form (hg : g.ReadsForms k) (hF : F.IsLevel)
    (h : Spaced (IsPrimaryType F) s r) (hb : Brackets F r t) (hs : s.length ≤ k)
    (hpoint : symbol? '.' t = none) (hless : symbol? '<' t = none)
    (hbracket : crossesLine t = true ∨ symbol? '[' t = none) :
    (g.primaryType s).map (skipMany g.typeSuffix g.depth) = some t := by
  have hdepth := hg.depth
  have hread := primaryType_of_form hg hF h hs (symbol?_of_brackets hb (by decide) hpoint)
    (symbol?_of_brackets hb (by decide) hless)
  have hr := (leaves_primaryType hg.consumes s).length_le hread
  rw [hread, Option.map_some,
    skipMany_typeSuffix hg hF hb (by omega) hbracket g.depth (by omega)]

/-- An operand of a union is skipped to its end. -/
theorem typeOperand_of_form (hg : g.ReadsForms k) (hF : F.IsLevel)
    (h : Spaced (IsOperandType F) s t) (hs : s.length ≤ k) (hpoint : symbol? '.' t = none)
    (hless : symbol? '<' t = none) (hbracket : crossesLine t = true ∨ symbol? '[' t = none) :
    g.typeOperand s = some t := by
  have hdepth := hg.depth
  obtain ⟨u, hu, hle, hmany⟩ := exists_skipMany_typeOperator h
  rw [Grammar.typeOperand]
  simp only [hmany g.depth (by omega)]
  obtain @⟨gap, u, _, hgap, hu⟩ := hu
  cases hu with
  | plain hu hb =>
      have hinferred (constraint : Skipper) : g.inferredType constraint (gap ++ u) = none := by
        rw [Grammar.inferredType, hu.begins.keyword?_eq_none hgap (List.mem_cons_self ..)]
        rfl
      simp only [hinferred,
        suffixedType_of_form hg hF (.mk hgap hu) hb (by omega) hpoint hless hbracket]
  | @inferred gap' w _ hgap' hne hw _ hend hno =>
      have hname : IsName "infer".toList := by decide
      have hkeyword : keyword? "infer" (gap ++ ("infer".toList ++ (gap' ++ (w ++ t)))) =
          some (gap' ++ (w ++ t)) := by
        rw [keyword?_of_name hname (hgap.skip_name hname _) (hgap'.endsWord hne _),
          if_pos String.ofList_toList]
      have hpos : g.depth ≠ 0 := by
        have hlength := hw.length_pos
        simp only [List.length_append] at hle
        omega
      have hextends := hno.keyword?_eq_none (w := "extends") (by decide)
      have hinferred (constraint : Skipper) : g.inferredType constraint
          (gap ++ ("infer".toList ++ (gap' ++ (w ++ t)))) = some t := by
        rw [Grammar.inferredType, hkeyword]
        simp only [Option.bind_eq_bind, Option.bind_some, hgap'.skip_name hw,
          hw.skipWord?_append hend, hpos, if_false, hextends]
      simp only [hinferred]

/-! ### Unions -/

/-- The head of a text behind a gap is no sign with which the text itself does not begin. -/
theorem Gap.head?_append_ne {gap : List Char} (hgap : Gap gap) (hs : s.head? ≠ some c)
    (hc : startsLexeme c = true) : (gap ++ s).head? ≠ some c := by
  intro hhead
  obtain - | ⟨d, gap⟩ := gap
  · exact hs hhead
  · have hblank := hgap.head_eq (c := d) rfl
    obtain rfl : d = c := by simpa using hhead
    exact Bool.false_ne_true (hblank.symm.trans hc)

theorem Opens.head?_ne (h : Opens s) (hc : c ∈ nonOpeners) : s.head? ≠ some c := by
  obtain ⟨d, r, rfl, -, hnot⟩ := h.exists_cons
  intro hhead
  obtain rfl : d = c := by simpa using hhead
  exact hnot hc

/-- The operands of a union are skipped one after the other. -/
theorem exists_typeOperand_of_union (hg : g.ReadsForms k) (hF : F.IsLevel) (h : IsUnion F s t)
    {gap : List Char} (hgap : Gap gap) (hs : (gap ++ s).length ≤ k) (ht : EndsUnion t) :
    ∃ r, g.typeOperand (gap ++ s) = some r ∧ ∀ n, r.length ≤ n →
      skipMany (fun s => (unionSign s).bind g.typeOperand) n r = t := by
  induction h generalizing gap with
  | @one s t h =>
      refine ⟨t, typeOperand_of_form hg hF (.mk hgap h) hs ht.point ht.arguments ht.bracket,
        fun n _ => skipMany_of_none ?_ n⟩
      rw [ht.union, Option.bind_none]
  | @cons s r gap' u c t h hc ho hgap' hu ih =>
      have hsigns : ∀ c ∈ ['|', '&'], startsLexeme c = true ∧ c ≠ '.' ∧ c ≠ '<' ∧ c ≠ '[' ∧
          c ∈ nonOpeners := forall_sign (by decide)
      obtain ⟨hstarts, hpoint, hless, hbracket, hopener⟩ := hsigns c hc
      have hskip := ho.skip_eq hstarts
      have hread := typeOperand_of_form hg hF (.mk hgap h) hs
        (ho.symbol?_eq_none hstarts hpoint) (ho.symbol?_eq_none hstarts hless)
        (Or.inr (ho.symbol?_eq_none hstarts hbracket))
      have hr := (leaves_typeOperand hg.consumes _).length_le hread
      have hlength := ho.length_lt
      obtain ⟨v, hv, hmany⟩ := ih hgap' (by omega) ht
      have hsame : (gap' ++ u).head? ≠ some c := hgap'.head?_append_ne (hu.opens.head?_ne hopener)
        hstarts
      have hequals : (gap' ++ u).head? ≠ some '=' :=
        hgap'.head?_append_ne (hu.opens.head?_ne (by decide)) (by decide)
      have hsign : unionSign r = some (gap' ++ u) := by
        simp only [List.mem_cons, List.not_mem_nil, or_false] at hc
        rw [unionSign, hskip]
        simp only [hc, hsame, hequals, ne_eq, not_false_eq_true, and_self, if_true]
      have hstep : (unionSign r).bind g.typeOperand = some v := by
        rw [hsign, Option.bind_some, hv]
      have hsuffix : v <:+ r := (leaves_typeOperand hg.consumes _ v hv).trans ho.suffix
      exact ⟨r, hread, skipMany_of_some hstep hsuffix hmany⟩

theorem unionSign_of_opens (h : Spaced (fun s _ => Opens s) s t) : unionSign s = none := by
  obtain @⟨gap, s, _, hgap, h⟩ := h
  obtain ⟨c, r, rfl, hself, hnot⟩ := h.exists_cons
  refine unionSign_of_skip (hgap.skip_of_skip hself) ?_
  rintro hmem
  have hsigns : ∀ c ∈ ['|', '&'], c ∈ nonOpeners := forall_sign (by decide)
  exact hnot (hsigns c hmem)

/-- A union is skipped to its end. -/
theorem unionType_of_form (hg : g.ReadsForms k) (hF : F.IsLevel) (h : Spaced (IsUnion F) s t)
    (hs : s.length ≤ k) (ht : EndsUnion t) : g.unionType s = some t := by
  have hdepth := hg.depth
  obtain @⟨gap, s, _, hgap, h⟩ := h
  have hsign : unionSign (gap ++ s) = none := unionSign_of_opens (t := t) (.mk hgap h.opens)
  obtain ⟨r, hread, hmany⟩ := exists_typeOperand_of_union hg hF h hgap hs ht
  have hr := (leaves_typeOperand hg.consumes _).length_le hread
  rw [Grammar.unionType, skipOptional_of_none hsign, hread]
  simp only [Option.bind_eq_bind, Option.bind_some, hmany g.depth (by omega)]

/-! ### Predicates -/

/-- What a predicate says of a value stands behind the word that names the value. -/
theorem subject_of_name {w : List Char} (hw : IsName w) (hend : EndsWord r)
    (hr : crossesLine r = true ∨ keyword? "is" r = none) :
    (skipWord? (w ++ r)).bind (fun r => if crossesLine r then none else keyword? "is" r) =
      none := by
  rw [hw.skipWord?_append hend, Option.bind_some]
  obtain hline | hnone := hr
  · rw [if_pos hline]
  · rw [hnone]
    split <;> rfl

theorem subject_of_sign (hstart : isWordStart c = false) (hb : c ≠ '\\') (r : List Char) :
    (skipWord? (c :: r)).bind (fun r => if crossesLine r then none else keyword? "is" r) =
      none := by
  rw [skipWord?, word?_of_sign hstart hb]
  rfl

theorem Sign.keyword?_eq_none (h : Sign c s t)
    (hc : startsLexeme c = true ∧ isWordStart c = false ∧ c ≠ '\\') (w : String) :
    keyword? w s = none :=
  keyword?_of_sign (h.skip_eq hc.1) hc.2.1 hc.2.2 w

theorem Brackets.is_eq_none (h : Brackets F s t)
    (ht : crossesLine t = true ∨ keyword? "is" t = none) :
    crossesLine s = true ∨ keyword? "is" s = none := by
  cases h with
  | nil => exact ht
  | array hgap _ _ _ => exact Or.inr (Sign.keyword?_eq_none (.mk hgap) (by decide) _)
  | index hgap _ _ _ _ => exact Or.inr (Sign.keyword?_eq_none (.mk hgap) (by decide) _)

theorem IsPrimaryType.subject_eq_none (h : IsPrimaryType F s t)
    (ht : crossesLine t = true ∨ keyword? "is" t = none) :
    (skipWord? s).bind (fun r => if crossesLine r then none else keyword? "is" r) = none := by
  cases h with
  | @reference w u v _ hw _ hend hd ha =>
      refine subject_of_name hw hend ?_
      cases hd with
      | cons hp _ _ => exact Or.inr (hp.keyword?_eq_none (by decide) _)
      | nil =>
          cases ha with
          | none => exact ht
          | some h =>
              obtain ⟨_, ho, -, -⟩ := h.length_lt
              exact Or.inr (ho.keyword?_eq_none (by decide) _)
  | @query gap w u _ _ hgap hne hw hfree hend _ _ _ =>
      refine subject_of_name (w := "typeof".toList) (by decide) (hgap.endsWord hne _) (Or.inr ?_)
      simp only [List.mem_cons, List.not_mem_nil, or_false, not_or] at hfree
      rw [keyword?_of_name hw (hgap.skip_name hw u) hend, if_neg hfree.1]
  | imported ho _ _ _ =>
      exact subject_of_name (w := "import".toList) (by decide)
        (ho.endsWord (by decide) (by decide) (by decide))
        (Or.inr (ho.keyword?_eq_none (by decide) _))
  | string hs =>
      obtain ⟨quote, hquote, body, rfl, -⟩ := hs.exists_quote
      have hquotes : ∀ c ∈ ['"', '\''], isWordStart c = false ∧ c ≠ '\\' :=
        forall_sign (by decide)
      exact subject_of_sign (hquotes quote hquote).1 (hquotes quote hquote).2 body
  | number hn =>
      obtain ⟨c, v, rfl, hc⟩ := hn.exists_digit
      have hb : c ≠ '\\' := by
        rintro rfl
        exact absurd hc (by decide)
      exact subject_of_sign (by simp [isWordStart, hc]) hb v
  | template _ | negative _ _ | tuple _ | object _ | parens _ _ _ =>
      exact subject_of_sign (by decide) (by decide) _

/-- No word of a predicate follows what an operand of a union begins with. -/
theorem IsOperandType.subject_eq_none (h : IsOperandType F s t)
    (ht : crossesLine t = true ∨ keyword? "is" t = none) :
    (skipWord? s).bind (fun r => if crossesLine r then none else keyword? "is" r) = none := by
  cases h with
  | operator hw hgap hne _ _ h =>
      exact subject_of_name (isName_of_mem (by decide) hw) (hgap.endsWord hne _)
        (Or.inr (h.begins.keyword?_eq_none hgap (by decide)))
  | plain h =>
      cases h with
      | plain h hb => exact h.subject_eq_none (hb.is_eq_none ht)
      | @inferred gap w t hgap hne hw hfree hend _ =>
          refine subject_of_name (w := "infer".toList) (by decide) (hgap.endsWord hne _)
            (Or.inr ?_)
          rw [keyword?_of_name hw (hgap.skip_name hw t) hend, if_neg hfree]

theorem IsUnion.subject_eq_none (h : IsUnion F s t)
    (ht : crossesLine t = true ∨ keyword? "is" t = none) :
    (skipWord? s).bind (fun r => if crossesLine r then none else keyword? "is" r) = none := by
  cases h with
  | one h => exact h.subject_eq_none ht
  | cons h hc ho _ _ =>
      have hsigns : ∀ c ∈ ['|', '&'], startsLexeme c = true ∧ isWordStart c = false ∧ c ≠ '\\' :=
        forall_sign (by decide)
      exact h.subject_eq_none (Or.inr (ho.keyword?_eq_none (hsigns _ hc) _))

/-! ### Types that are no functions -/

/-- A type that says nothing of a value is its union, if no condition on it follows. -/
theorem readType_of_unionType (hasserts : keyword? "asserts" s = none)
    (hsubject : (skipWord? (skip s)).bind
      (fun r => if crossesLine r then none else keyword? "is" r) = none)
    (hunion : g.unionType s = some t) (ht : EndsType t) : g.readType s = some t := by
  have hcondition : (if crossesLine t ∧ nextWord? t ≠ some "extends" then none
      else keyword? "extends" t) = none := by
    rw [ht.condition]
    split <;> rfl
  rw [Grammar.readType]
  simp only [hasserts, Option.filter_none, Option.getD_none, hsubject, hunion,
    Option.bind_eq_bind, Option.bind_some, hcondition]

theorem readType_of_union (hg : g.ReadsForms k) (hF : F.IsLevel) {gap : List Char} (hgap : Gap gap)
    (h : IsUnion F s t) (hs : (gap ++ s).length ≤ k) (ht : EndsType t) :
    g.readType (gap ++ s) = some t := by
  refine readType_of_unionType (h.begins.keyword?_eq_none hgap (by decide)) ?_
    (unionType_of_form hg hF (.mk hgap h) hs ht.toEndsUnion) ht
  rw [skip_append_of_gap hgap, h.opens.skip_eq]
  exact h.subject_eq_none ht.predicate

/-- A condition on a type is skipped with what the type is in either case. -/
theorem readType_of_conditional (hg : g.ReadsForms k) (hF : F.IsLevel) {gap v w x y : List Char}
    (hgap : Gap gap) (h : IsUnion F s r) (hk : Keyword "extends" r u)
    (hb : Spaced (IsUnion F) u v) (hq : Sign '?' v w) (ha : Spaced F.type w x)
    (hc : Sign ':' x y) (helse : Spaced F.type y t) (hs : (gap ++ s).length ≤ k)
    (ht : EndsType t) : g.readType (gap ++ s) = some t := by
  have hname : IsName "extends".toList := by decide
  obtain ⟨hskip, hend⟩ := hk.skip_eq hname
  have hquestion := endsType_of_sign (hq.skip_eq (by decide)) (by decide) (by decide)
  have hcolon := endsType_of_sign (hc.skip_eq (by decide)) (by decide) (by decide)
  have hunion := unionType_of_form hg hF (.mk hgap h) hs (endsUnion_of_name hskip hname)
  have hr := (leaves_unionType hg.consumes _).length_le hunion
  have hu := hk.length_lt hname
  have hbound := unionType_of_form hg hF hb (by omega) hquestion.toEndsUnion
  have hv := (leaves_unionType hg.consumes _).length_le hbound
  have hw := hq.length_lt
  have hthen := hg.type hF ha (by omega) hcolon
  have hx := (hg.consumes.type _).length_le hthen
  have hy := hc.length_lt
  have hnext : nextWord? r = some "extends" := nextWord?_of_name hskip hname hend
  have hsubject : (skipWord? (skip (gap ++ s))).bind
      (fun r => if crossesLine r then none else keyword? "is" r) = none := by
    rw [skip_append_of_gap hgap, h.opens.skip_eq]
    exact h.subject_eq_none (Or.inr (hk.keyword?_ne hname (by decide)))
  rw [Grammar.readType]
  simp only [h.begins.keyword?_eq_none hgap (show "asserts" ∈ typeParticles by decide),
    Option.filter_none, Option.getD_none, hsubject, hunion, Option.bind_eq_bind,
    Option.bind_some, hnext, ne_eq, not_true_eq_false, and_false, if_false, hk.keyword?_eq hname,
    hbound, hq.symbol?_eq (show startsLexeme '?' = true by decide), hthen,
    hc.symbol?_eq (show startsLexeme ':' = true by decide), hg.type hF helse (by omega) ht,
    Option.getD_some]

theorem readType_of_predicate (hg : g.ReadsForms k) (hF : F.IsLevel) {gap : List Char}
    (hgap : Gap gap) (h : IsPredicate F s t) (hs : (gap ++ s).length ≤ k) (ht : EndsType t) :
    g.readType (gap ++ s) = some t := by
  obtain @⟨w, gap', s, _, hw, hfree, hgap', hne, hline, hend, h⟩ := h
  have his : IsName "is".toList := by decide
  have hlength : "is".toList.length = 2 := rfl
  simp only [List.length_append] at hs
  simp only [typeWords, List.mem_cons, List.not_mem_nil, or_false, not_or] at hfree
  have hskip := hgap.skip_name hw (gap' ++ ("is".toList ++ s))
  have hend' := hgap'.endsWord hne ("is".toList ++ s)
  have hcross := crossesLine_of_inline hgap' hline (his.skip_append s)
  have hasserts : keyword? "asserts" (gap ++ (w ++ (gap' ++ ("is".toList ++ s)))) = none := by
    rw [keyword?_of_name hw hskip hend', if_neg (by simp [hfree])]
  have hkeyword : keyword? "is" (gap' ++ ("is".toList ++ s)) = some s := by
    rw [keyword?_of_name his (hgap'.skip_name his s) hend, if_pos (by decide)]
  rw [Grammar.readType]
  simp only [hasserts, Option.filter_none, Option.getD_none, hskip, hw.skipWord?_append hend',
    Option.bind_some, hcross, Bool.false_eq_true, if_false, hkeyword]
  exact hg.type hF h (by omega) ht

/-- The word that makes a type an assertion is read over. -/
theorem readType_asserts (g : Grammar) {gap gap' w : List Char} (hgap : Gap gap)
    (hgap' : Gap gap') (hne : gap' ≠ []) (hline : ∀ c ∈ gap', c ∉ lineTerminators) (hw : IsName w)
    (hfree : String.ofList w ∉ typeParticles) (hend : EndsWord s) :
    g.readType (gap ++ ("asserts".toList ++ (gap' ++ (w ++ s)))) =
      g.readType (gap' ++ (w ++ s)) := by
  have hname : IsName "asserts".toList := by decide
  simp only [typeParticles, List.mem_cons, List.not_mem_nil, or_false, not_or] at hfree
  have hskip := hgap'.skip_name hw s
  have hcross := crossesLine_of_inline hgap' hline (hw.skip_append s)
  have hnext := nextWord?_of_name hskip hw hend
  have hkeyword : keyword? "asserts" (gap ++ ("asserts".toList ++ (gap' ++ (w ++ s)))) =
      some (gap' ++ (w ++ s)) := by
    rw [keyword?_of_name hname (hgap.skip_name hname _) (hgap'.endsWord hne _),
      if_pos String.ofList_toList]
  have hnone : keyword? "asserts" (gap' ++ (w ++ s)) = none := by
    rw [keyword?_of_name hw hskip hend, if_neg hfree.1]
  have hasserted : ((keyword? "asserts" (gap ++ ("asserts".toList ++ (gap' ++ (w ++ s))))).filter
      fun r => (nextWord? r).any (fun w => w != "is" && w != "extends") && !(crossesLine r)) =
        some (gap' ++ (w ++ s)) := by
    rw [hkeyword, Option.filter_some, if_pos]
    simp [hnext, hcross, hfree]
  rw [Grammar.readType, Grammar.readType]
  simp only [hasserted, hnone, Option.filter_none, Option.getD_some, Option.getD_none]

/-! ### Types of functions -/

/-- What begins the type of a function is a sign that begins a list. -/
theorem IsFunctionType.exists_sign (h : IsFunctionType F s t) :
    ∃ c r, Sign c s r ∧ startsLexeme c = true ∧ isWordStart c = false ∧ isWordPart c = false ∧
      c ≠ '\\' := by
  obtain ⟨htypes, hp, -, -⟩ := h
  cases htypes with
  | none =>
      obtain ⟨r, ho, -, -⟩ := hp.length_lt
      exact ⟨'(', r, ho, by decide⟩
  | some h =>
      obtain ⟨r, ho, -, -⟩ := h.length_lt
      exact ⟨'<', r, ho, by decide⟩

theorem functionType_of_form (hg : g.ReadsForms k) (hF : F.IsLevel) (h : IsFunctionType F s t)
    (hs : s.length ≤ k) (ht : EndsType t) : g.functionType s = some t := by
  obtain @⟨_, r, u, v, _, htypes, hp, ha, h⟩ := h
  obtain ⟨_, ho, -, -⟩ := hp.length_lt
  have hless : symbol? '<' r = none := ho.symbol?_eq_none (by decide) (by decide)
  obtain ⟨htypes, hr⟩ := skipOptional_typeParameters_of_form hg hF htypes hs hless
  have hparameters := parameters_of_form hg hF hp (by omega)
  have hu := (leaves_parameters hg.consumes r).length_le hparameters
  have hv := ha.length_lt
  rw [Grammar.functionType, htypes, hparameters]
  simp only [Option.bind_eq_bind, Option.bind_some, ha.symbols?_eq, hg.type hF h (by omega) ht]

/-- A type that nothing follows and no word stands in front of is what it is without brackets. -/
theorem readType_of_primaryType (g : Grammar) {gap : List Char} (hgap : Gap gap)
    (hbegins : BeginsType ("infer" :: (typeOperators ++ typeParticles)) s)
    (hsubject : (skipWord? s).bind
      (fun r => if crossesLine r then none else keyword? "is" r) = none)
    (hprimary : g.primaryType (gap ++ s) = some t) (ht : EndsType t) :
    g.readType (gap ++ s) = some t := by
  have hself := hbegins.skip_append hgap
  have hinferred (constraint : Skipper) : g.inferredType constraint (gap ++ s) = none := by
    rw [Grammar.inferredType, hbegins.keyword?_eq_none hgap (by decide)]
    rfl
  have hsuffix : skipMany g.typeSuffix g.depth t = t :=
    skipMany_of_none (typeSuffix_eq_none g ht.bracket) _
  have hoperand : g.typeOperand (gap ++ s) = some t := by
    rw [Grammar.typeOperand]
    simp only [skipMany_of_none (hbegins.typeOperator_eq_none (by decide) hgap), hinferred,
      hprimary, Option.map_some, hsuffix]
  have hmany : skipMany (fun s => (unionSign s).bind g.typeOperand) g.depth t = t :=
    skipMany_of_none (by rw [ht.union, Option.bind_none]) _
  refine readType_of_unionType (hbegins.keyword?_eq_none hgap (by decide)) ?_ ?_ ht
  · rw [hself]
    exact hsubject
  · rw [Grammar.unionType, skipOptional_of_none (hbegins.unionSign_eq_none hgap), hoperand]
    simp only [Option.bind_eq_bind, Option.bind_some, hmany]

/-! ### Types -/

/-- A type is skipped to its end. -/
theorem readType_of_form (hg : g.ReadsForms k) (hF : F.IsLevel) (h : Spaced (IsType F) s t)
    (hs : s.length ≤ k) (ht : EndsType t) : g.readType s = some t := by
  obtain @⟨gap, s, _, hgap, h⟩ := h
  cases h with
  | union h => exact readType_of_union hg hF hgap h hs ht
  | conditional h hk hb hq ha hc helse =>
      exact readType_of_conditional hg hF hgap h hk hb hq ha hc helse hs ht
  | predicate h => exact readType_of_predicate hg hF hgap h hs ht
  | @assertion gap' w s _ hgap' hne hline hw hfree hend h =>
      have hle : (gap' ++ (w ++ s)).length ≤ k := by
        simp only [List.length_append] at hs ⊢
        omega
      rw [readType_asserts g hgap hgap' hne hline hw hfree hend]
      obtain h | h := h
      · exact readType_of_predicate hg hF hgap' h hle ht
      · exact readType_of_union hg hF hgap' h hle ht
  | @function c s _ hc h =>
      have hsigns : ∀ c ∈ ['(', '<'], startsLexeme c = true ∧ isWordStart c = false ∧ c ≠ '\\' ∧
          c ∈ "\"'\x60[\x7b(<-".toList := forall_sign (by decide)
      obtain ⟨hstarts, hstart, hb, hmem⟩ := hsigns c hc
      have hfunction := functionType_of_form hg hF h
        (by simp only [List.length_append] at hs; omega) ht
      refine readType_of_primaryType g hgap (beginsType_of_sign hmem _ s)
        (subject_of_sign hstart hb s) ?_ ht
      rw [Grammar.primaryType, hgap.skip_append hstarts]
      simp only [List.mem_cons, List.not_mem_nil, or_false] at hc
      obtain rfl | rfl := hc
      · simp only [if_true, hfunction]
      · simp only [Char.reduceEq, if_false, if_true, hfunction]
  | @constructor s _ h =>
      have hname : IsName "new".toList := by decide
      obtain ⟨c, r, ho, hstarts, hstart, hpart, hb⟩ := h.exists_sign
      have hend := ho.endsWord hstarts hpart hb
      refine readType_of_primaryType g hgap (beginsType_of_word hname hend (by decide))
        (subject_of_name hname hend (Or.inr (ho.keyword?_eq_none ⟨hstarts, hstart, hb⟩ _))) ?_ ht
      rw [primaryType_of_name g (hgap.skip_name hname s) hname hend, String.ofList_toList]
      exact functionType_of_form hg hF h (by simp only [List.length_append] at hs; omega) ht
  | @abstractConstructor gap' s _ hgap' hne h =>
      have hname : IsName "abstract".toList := by decide
      have hnew : IsName "new".toList := by decide
      obtain ⟨c, r, ho, hstarts, hstart, hpart, hb⟩ := h.exists_sign
      have hkeyword : Keyword "new" (gap' ++ ("new".toList ++ s)) s :=
        .mk hgap' (ho.endsWord hstarts hpart hb)
      have hend := hgap'.endsWord hne ("new".toList ++ s)
      refine readType_of_primaryType g hgap (beginsType_of_word hname hend (by decide))
        (subject_of_name hname hend (Or.inr (hkeyword.keyword?_ne hnew (by decide)))) ?_ ht
      rw [primaryType_of_name g (hgap.skip_name hname _) hname hend, String.ofList_toList]
      simp only [String.reduceEq, if_false, if_true, hkeyword.keyword?_eq hnew, Option.elim_some]
      exact functionType_of_form hg hF h (by simp only [List.length_append] at hs; omega) ht

end DecoratorGraph.Script
