import DecoratorGraph.Proofs.Script.Members

/-!
# Reading operands

What an operand is made of is read up to where it ends: members of objects, templates, names and
what is constructed, and then the suffixes one after the other (`exists_suffixes_of_form`).
-/

namespace DecoratorGraph.Script

variable {F : Forms} {g : Grammar} {k : Nat} {s t r u : List Char} {c d : Char} {place : Place}
variable {tagged within : Bool}

/-! ### Members of objects -/

theorem pair_eq_none (h : (g.key s).bind (symbol? ':') = none) : g.pair s = none := by
  rw [Grammar.pair]
  cases hkey : g.key s with
  | none => rfl
  | some r =>
      rw [hkey, Option.bind_some] at h
      simp only [Option.bind_eq_bind, Option.bind_some, h, Option.bind_none]

theorem EndsItem.endsChain (h : EndsItem '\x7d' t) :
    assignment? t = none ∧ symbol? '?' t = none ∧ symbol? '(' t = none ∧ symbol? '<' t = none ∧
      startsKey t = false := by
  refine ⟨?_, h.symbol?_eq_none (by decide) (by decide), h.symbol?_eq_none (by decide) (by decide),
    h.symbol?_eq_none (by decide) (by decide), ?_⟩
  · have hends : EndsExpression .free t := h.endsExpression (by decide)
    exact hends.assignment
  · have hsigns : ∀ c ∈ [',', '\x7d'],
        (isWordStart c || c.isDigit || "\"'[#*\\".toList.contains c) = false :=
      forall_sign (by decide)
    obtain ⟨d, r, hskip, hd⟩ := h
    rw [startsKey, hskip]
    exact hsigns d (by simpa using hd)

/-- A member of an object is read up to the end of its place in the list. -/
theorem exists_property_of_form (hg : g.ReadsForms k) (hF : F.IsLevel) (h : IsProperty F s t)
    (hs : s.length < k) (hend : EndsItem '\x7d' t) : ∃ p, g.property s = some (p, t) := by
  have hdepth := hg.depth
  have hends : EndsExpression .inBrackets t := hend.endsExpression (by decide)
  cases h with
  | spread h =>
      simp only [List.length_append] at hs
      obtain ⟨e, he⟩ := hg.expression hF h (by omega) (Place.admits_inBrackets true) hends
      rw [Grammar.property, symbols?_dots_append]
      simp [he]
  | @pair s r u _ hk hc he =>
      have hkey := key_of_form hg hF hk hs.le
      have hr := (leaves_key hg.consumes s).length_le hkey
      have hu := hc.length_lt
      obtain ⟨e, he⟩ := hg.expression hF he (by omega) (Place.admits_inBrackets true) hends
      have hpair : g.pair s = some (⟨keyName? s r, e⟩, t) := by
        rw [Grammar.pair, hkey]
        simp only [Option.bind_eq_bind, Option.bind_some, hc.symbol?_eq (by decide), he]
      exact ⟨_, by rw [Grammar.property, hk.symbols?_eq_none, hpair]⟩
  | @shorthand w _ hw hend' =>
      obtain ⟨hassign, hquestion, hopen, hless, hkey⟩ := hend.endsChain
      have hpair : g.pair (w ++ t) = none := by
        refine pair_eq_none ?_
        rw [key_of_name g hw hend', Option.bind_some]
        exact hend.symbol?_eq_none (by decide) (by decide)
      have hmodifier : memberModifier (w ++ t) = none := by
        have hname : IsKey F (w ++ t) t := .name hw hend'
        simpa using memberModifier_of_key .nil hname fun _ _ _ => Or.inr hkey
      have hsignature : g.signature t = none := by
        rw [Grammar.signature, skipOptional_of_none (typeParameters_eq_none g hless),
          Grammar.parameters, hopen]
        rfl
      have hmethod : g.method (w ++ t) = none := by
        rw [Grammar.method]
        simp only [skipMany_of_none hmodifier, hw.skip_append, key_of_name g hw hend',
          Option.bind_eq_bind, Option.bind_some, skipOptional_of_none hquestion, hsignature,
          Option.bind_none]
      have hshort : g.shorthand (w ++ t) =
          some (.named (String.ofList w) (.identifier (String.ofList w)), t) := by
        rw [Grammar.shorthand, hw.skip_append, hw.word?_append hend']
        simp only [Option.bind_eq_bind, Option.bind_some, hassign]
      exact ⟨_, by rw [Grammar.property, (hw.opens t).symbols?_eq_none, hpair, hmethod, hshort]⟩
  | @method s r u _ hk hsig hb =>
      obtain ⟨v, hv, hle, hmany⟩ := exists_skipMany_memberModifier (spaced_of_item hk)
      have hkey := (key_of_spaced hg hF hv (by omega)).2
      have hr := (leaves_key hg.consumes _).length_le hkey
      have hskip := (skip_suffix v).length_le
      have hpair : g.pair s = none := pair_eq_none
        (hk.key_bind_eq_none hg hF hs.le (hsig.symbol?_eq_none (by decide)))
      have hquestion : symbol? '?' r = none := hsig.symbol?_eq_none (by decide)
      have hbody := signature_bind_block hg hF hsig hb (by omega)
      obtain ⟨c, w, rfl, hstarts, hsign, -⟩ := hk.exists_cons
      have hpoint : c ≠ '.' := by
        rintro rfl
        exact hsign (by decide)
      have hdots : symbols? "..." (c :: w) = none := symbols?_of_ne (c := '.') (u := ['.', '.']) rfl
        (skip_of_startsLexeme hstarts w) hpoint
      rw [Grammar.property, hdots, hpair, Grammar.method]
      simp only [hmany g.depth (by omega), hkey, Option.bind_eq_bind, Option.bind_some,
        skipOptional_of_none hquestion, hbody]
      exact ⟨_, rfl⟩

theorem readsItems_property (hg : g.ReadsForms k) (hF : F.IsLevel) :
    ReadsItems (IsProperty F) '\x7d' g.property k where
  opens h := by
    cases h with
    | spread _ => exact item_of_dots _ (by decide)
    | pair hk _ _ => exact hk.item (by decide)
    | shorthand hw _ => exact (hw.opens _).item (by decide)
    | method hk _ _ =>
        obtain ⟨c, r, rfl, hstarts, hsign, -⟩ := hk.exists_cons
        refine ⟨c, r, rfl, skip_of_startsLexeme hstarts r, ?_, ?_⟩
        · rintro rfl
          exact hsign (by decide)
        · rintro rfl
          exact hsign (by decide)
  leaves := reads_property hg.consumes
  read h hs hend := exists_property_of_form hg hF h hs hend

/-! ### Templates -/

/-- A template without substitutions is closed where it ends. -/
theorem IsTemplate.closeQuote?_eq {Item : Form} (h : IsTemplate Item tagged s t)
    (hplain : hasSubstitution s = false) : closeQuote? '\x60' s = some t := by
  induction h with
  | close => exact closeQuote?_quote (by decide) _
  | @plain c s t hc _ ih =>
      simp only [List.mem_cons, List.not_mem_nil, or_false, not_or] at hc
      rw [closeQuote?_of_ne hc.2.1 hc.1]
      refine ih ?_
      rw [hasSubstitution.eq_def] at hplain
      split at hplain <;> simp_all
  | @dollar s t hs _ ih =>
      rw [closeQuote?_of_ne (by decide) (by decide)]
      refine ih ?_
      cases s with
      | nil => rfl
      | cons c s =>
          have hc : c ≠ '\x7b' := by simpa using hs
          rw [hasSubstitution.eq_def] at hplain
          simpa [hc] using hplain
  | escaped _ _ ih =>
      rw [closeQuote?]
      exact ih hplain
  | hole _ _ _ _ => exact absurd hplain (by simp [hasSubstitution])

theorem exists_template_of_form (hg : g.ReadsForms k) (hF : F.IsLevel)
    (h : IsTemplate (Sequenced F.expression) tagged s t) (hs : s.length < k) (start : List Char) :
    ∃ e, g.template start s = some (e, t) := by
  rw [Grammar.template]
  cases hplain : hasSubstitution s with
  | true =>
      rw [if_pos rfl, skipTemplate_of_form h
        (fun he hc hlength => (skipSequence_of_form hg hF he hc (by decide) hlength).2)
        (leaves_skipSequence hg.consumes) hs (s.length + 1) (by omega)]
      exact ⟨_, rfl⟩
  | false =>
      rw [if_neg Bool.false_ne_true, h.closeQuote?_eq hplain]
      exact ⟨_, rfl⟩

theorem escapeLength_of_plain (hc : c ∉ "xu\r01234567".toList) (s : List Char) :
    escapeLength ('\\' :: c :: s) = 2 := by
  have hoctal : ¬('0' ≤ c ∧ c ≤ '7') := by
    rintro ⟨hlow, hhigh⟩
    have hcode : c.toNat ∈ List.range' 48 8 := by
      have hl : 48 ≤ c.toNat := hlow
      have hh : c.toNat ≤ 55 := hhigh
      simp only [List.mem_range'_1]
      omega
    have hall : ∀ n ∈ List.range' 48 8, Char.ofNat n ∈ "xu\r01234567".toList := by decide
    exact hc (by simpa using hall _ hcode)
  have hne : c ∉ ['x', 'u', '\r'] := fun h => hc (by
    have hsub : ∀ d ∈ ['x', 'u', '\r'], d ∈ "xu\r01234567".toList :=
      forall_sign (by decide)
    exact hsub c h)
  simp only [List.mem_cons, List.not_mem_nil, or_false, not_or] at hne
  rw [escapeLength.eq_def]
  split
  case h_5 heq =>
    obtain ⟨rfl, rfl⟩ := List.cons.inj (List.cons.inj heq).2
    exact if_neg hoctal
  all_goals simp_all

/-- A run of plain characters is one part. -/
theorem templateParts_fragment (g : Grammar) (n : Nat)
    (hc : c ∉ ['\x60', '\\']) (hnot : c = '$' → s.head? ≠ some '\x7b') :
    g.templateParts (n + 1) (c :: s) = (g.templateParts n (afterFragment s)).map fun p =>
      (otherBetween "string_fragment" (c :: s) (afterFragment s) :: p.1, p.2) := by
  simp only [List.mem_cons, List.not_mem_nil, or_false, not_or] at hc
  rw [Grammar.templateParts.eq_def]
  dsimp only
  split
  · contradiction
  · simp_all
  · next heq =>
      obtain ⟨rfl, rfl⟩ := List.cons.inj heq
      simp [hc]

theorem IsTemplate.afterFragment {Item : Form} (h : IsTemplate Item tagged s t) :
    IsTemplate Item tagged (afterFragment s) t := by
  induction h with
  | close => exact .close
  | @plain c s t hc _ ih =>
      simp only [List.mem_cons, List.not_mem_nil, or_false, not_or] at hc
      rw [Script.afterFragment.eq_def]
      split <;> simp_all
  | @dollar s t hnot _ ih =>
      cases s with
      | nil => exact ih
      | cons c s =>
          have hc : c ≠ '\x7b' := by simpa using hnot
          rw [Script.afterFragment.eq_def]
          simpa [hc] using ih
  | escaped hc h _ => exact .escaped hc h
  | hole he hc h _ => exact .hole he hc h

/-- The parts of a tagged template are read up to its closing mark. -/
theorem exists_templateParts_of_form (hg : g.ReadsForms k) (hF : F.IsLevel)
    (h : IsTemplate (Sequenced F.expression) true s t) (hs : s.length < k) (n : Nat)
    (hn : s.length ≤ n) : ∃ parts, g.templateParts n s = some (parts, t) := by
  -- A run of plain characters is read at once, so that the induction is on the fuel.
  induction n generalizing s with
  | zero =>
      obtain rfl := List.length_eq_zero_iff.1 (Nat.le_zero.1 hn)
      cases h
  | succ n ih =>
      have hread {s : List Char} (h : IsTemplate (Sequenced F.expression) true s t)
          (hs : s.length < k) (hn : s.length ≤ n) (part : Expr) :
          ∃ parts, ((g.templateParts n s).map fun p => (part :: p.1, p.2)) = some (parts, t) := by
        obtain ⟨parts, hparts⟩ := ih h hs hn
        exact ⟨part :: parts, by rw [hparts]; rfl⟩
      cases h with
      | close => exact ⟨[], by simp [Grammar.templateParts]⟩
      | @plain c s _ hc h =>
          have hle := (afterFragment_suffix s).length_le
          rw [List.length_cons] at hs hn
          simp only [List.mem_cons, List.not_mem_nil, or_false, not_or] at hc
          rw [templateParts_fragment g n (by simp [hc]) fun heq => absurd heq hc.2.2]
          exact hread h.afterFragment (by omega) (by omega) _
      | @dollar s _ hnot h =>
          have hle := (afterFragment_suffix s).length_le
          rw [List.length_cons] at hs hn
          rw [templateParts_fragment g n (by decide) fun _ => hnot]
          exact hread h.afterFragment (by omega) (by omega) _
      | @escaped c s _ hc h =>
          simp only [List.length_cons] at hs hn
          obtain ⟨parts, hparts⟩ := hread h (by omega) (by omega)
            (otherBetween "escape_sequence" ('\\' :: c :: s) s)
          refine ⟨parts, ?_⟩
          rw [← hparts, Grammar.templateParts.eq_def]
          simp [escapeLength_of_plain (hc rfl)]
      | @hole s r u _ he hc h =>
          simp only [List.length_cons] at hs hn
          obtain ⟨⟨e, he'⟩, hskip⟩ := skipSequence_of_form hg hF he hc (by decide) (by omega)
          have hr := (leaves_skipSequence hg.consumes s).length_le hskip
          have hu := hc.length_lt
          rw [Grammar.templateParts, he']
          simp only [Option.bind_some, hc.symbol?_eq (show startsLexeme '\x7d' = true by decide)]
          exact hread h (by omega) (by omega) _

/-! ### Constructions and functions -/

theorem Dotted.exists_selections (h : Dotted s t) : ∃ u, Selections u ∧ s = u ++ t := by
  induction h with
  | nil => exact ⟨[], .nil, rfl⟩
  | cons hp hn _ ih =>
      obtain ⟨u, hu, rfl⟩ := ih
      obtain @⟨g₁, _, hg₁⟩ := hp
      obtain @⟨g₂, w, _, hg₂, hw, -⟩ := hn
      exact ⟨g₁ ++ '.' :: (g₂ ++ (w ++ u)), .cons hg₁ hg₂ hw hu, by simp⟩

theorem selections_of_sign (g : Grammar) {start : List Char} {e : Expr} (hskip : skip s = d :: r)
    (hd : d ∉ ['.', '[', '!']) (n : Nat) : g.selections start n e s = (e, s) := by
  simp only [List.mem_cons, List.not_mem_nil, or_false, not_or] at hd
  have hselection : g.selection start s = none := by
    rw [Grammar.selection.eq_def, hskip]
    split <;> simp_all
  cases n with
  | zero => rfl
  | succ n => rw [Grammar.selections, hselection]

/-- Behind the name of what is constructed stands a sign that selects nothing from it. -/
theorem exists_sign_of_construction (ha : Opt (Enclosed '<' F.type '>') r u)
    (h : Enclosed '(' (IsArgument F) ')' u t ∨
      NextIn [',', ')', ']', '\x7d', ';', ':'] u ∧ u = t) :
    symbol? '<' u = none ∧
      ∃ d x, skip r = d :: x ∧ d ∉ ['.', '[', '!'] ∧ isWordPart d = false ∧ d ≠ '\\' := by
  have hsigns : ∀ c ∈ ['<', '(', ',', ')', ']', '\x7d', ';', ':'], startsLexeme c = true ∧
      c ∉ ['.', '[', '!'] ∧ isWordPart c = false ∧ c ≠ '\\' := forall_sign (by decide)
  have hangle : ∀ c ∈ ['(', ',', ')', ']', '\x7d', ';', ':'], c ≠ '<' := forall_sign (by decide)
  obtain ⟨c, v, ho, hc⟩ : ∃ c v, Sign c u v ∧ c ∈ ['(', ',', ')', ']', '\x7d', ';', ':'] := by
    obtain h | ⟨⟨c, hc, v, ho⟩, -⟩ := h
    · obtain ⟨v, ho, -, -⟩ := h.length_lt
      exact ⟨'(', v, ho, List.mem_cons_self ..⟩
    · exact ⟨c, v, ho, List.mem_cons_of_mem _ hc⟩
  obtain ⟨hstarts, hsign⟩ := hsigns c (List.mem_cons_of_mem _ hc)
  refine ⟨ho.symbol?_eq_none hstarts (hangle c hc), ?_⟩
  cases ha with
  | none => exact ⟨c, v, ho.skip_eq hstarts, hsign⟩
  | some h =>
      obtain ⟨v, ho, -, -⟩ := h.length_lt
      exact ⟨'<', v, ho.skip_eq (by decide), (hsigns '<' (List.mem_cons_self ..)).2⟩

/-- What follows `new` is read as a name, names that are selected from it, and arguments. -/
theorem exists_newTail_of_form (hg : g.ReadsForms k) (hF : F.IsLevel) {gap w : List Char}
    (hgap : Gap gap) (hw : IsName w)
    (hfree : String.ofList w = "this" ∨ String.ofList w ∉ reservedWords) (hend : EndsWord s)
    (hd : Dotted s r) (ha : Opt (Enclosed '<' F.type '>') r u)
    (h : Enclosed '(' (IsArgument F) ')' u t ∨
      NextIn [',', ')', ']', '\x7d', ';', ':'] u ∧ u = t)
    (hs : (w ++ s).length ≤ k) (start : List Char) :
    ∃ e, g.newTail start g.depth (gap ++ (w ++ s)) = some (e, t) := by
  have hdepth := hg.depth
  rw [List.length_append] at hs
  have hle := hd.length_le
  obtain ⟨hless, d, x, hskip, hsign, hpart, hb⟩ := exists_sign_of_construction ha h
  have htypes := skipOptional_typeArguments_of_form hg hF ha (by omega) hless
  have hu := (skipOptional_suffix (leaves_typeArguments hg.consumes) r).length_le
  rw [htypes] at hu
  obtain ⟨y, hy, rfl⟩ := hd.exists_selections
  have hname := hgap.skip_name hw (y ++ r)
  have hnew : String.ofList w ≠ "new" := by
    intro h
    rw [h] at hfree
    exact absurd hfree (by decide)
  obtain ⟨callee, hatom⟩ : ∃ callee, g.atom (gap ++ (w ++ (y ++ r))) = some (callee, y ++ r) := by
    obtain hthis | hfree := hfree
    · rw [atom_of_word g hw hname hend, hthis, Grammar.wordExpression, if_pos (by decide)]
      exact ⟨_, rfl⟩
    · exact ⟨_, atom_of_name g hw hname hend hfree⟩
  have hpoint : symbol? '.' (gap ++ (w ++ (y ++ r))) = none :=
    symbol?_of_name hw hname (by decide)
  obtain ⟨c, v, rfl, -⟩ := hw.exists_cons
  rw [List.length_cons] at hs
  obtain ⟨n, hn⟩ : ∃ n, g.depth = n + 1 := ⟨g.depth - 1, by omega⟩
  obtain ⟨m, -, hselections⟩ := selections_selections g (c :: v ++ (y ++ r)) hy
    (endsWord_of_skip hskip hpart hb) g.depth (by simp at hs; omega)
    callee
  rw [hn, Grammar.newTail, hpoint, keyword?_of_name hw hname hend, if_neg hnew]
  simp only [Option.bind_none, hatom, hname, hselections, selections_of_sign g hskip hsign, htypes]
  obtain h | ⟨⟨e, he, z, hz⟩, rfl⟩ := h
  · obtain ⟨es, hes⟩ := exists_arguments_of_form hg hF h (by omega)
    rw [hes]
    exact ⟨_, rfl⟩
  · have hopen : ∀ c ∈ [',', ')', ']', '\x7d', ';', ':'], startsLexeme c = true ∧ c ≠ '(' :=
      forall_sign (by decide)
    rw [Grammar.arguments, hz.symbol?_eq_none (hopen e he).1 (hopen e he).2]
    exact ⟨_, rfl⟩

/-- Behind the word `function` stands a star, a word or what opens the parameters. -/
theorem FunctionTail.exists_sign (h : FunctionTail F (Opt Name) s t) :
    ∃ d r, skip s = d :: r ∧ d ∉ '?' :: itemSigns := by
  obtain ⟨hstar, hn, hsig, -⟩ := h
  cases hstar with
  | some hstar => exact ⟨'*', _, hstar.skip_eq (by decide), by decide⟩
  | none =>
      cases hn with
      | some hn =>
          obtain ⟨w, hw, hskip, -⟩ := hn.exists_name
          obtain ⟨d, v, hcons, -, hsign⟩ := hw.exists_head _
            (show ('?' :: itemSigns).all (fun d => !isWordStart d) = true by decide)
          exact ⟨d, v, hskip.trans hcons, hsign⟩
      | none =>
          obtain ⟨d, v, hskip, hd⟩ := hsig.exists_sign
          have hsigns : ∀ c ∈ ['<', '('], c ∉ '?' :: itemSigns := forall_sign (by decide)
          exact ⟨d, v, hskip, hsigns d hd⟩

theorem FunctionTail.arrow_eq_none (h : FunctionTail F (Opt Name) s t) :
    symbols? "=>" s = none := by
  obtain ⟨d, r, hskip, hd⟩ := h.exists_sign
  exact not_arrow_of_skip hskip (by rintro rfl; exact hd (by decide))

theorem exists_functionTail_of_form (hg : g.ReadsForms k) (hF : F.IsLevel)
    (h : FunctionTail F (Opt Name) s t) (hs : s.length < k) (start : List Char) :
    ∃ e, g.functionTail start s = some (e, t) := by
  obtain @⟨s, r, u, v, t, hstar, hn, hsig, hb⟩ := h
  have hname : symbol? '*' r = none ∧ (skipWord? (skip r)).getD r = u ∧ u.length ≤ r.length := by
    cases hn with
    | some hn =>
        obtain ⟨w, hw, hskip, -⟩ := hn.exists_name
        refine ⟨symbol?_of_name hw hskip (by decide), ?_, hn.length_lt.le⟩
        rw [hn.skipWord?_eq, Option.getD_some]
    | none =>
        refine ⟨hsig.symbol?_eq_none (by decide), ?_, Nat.le_refl _⟩
        have hsign {c : Char} {s t : List Char} (ho : Sign c s t) (hc : c ∈ ['<', '(']) :
            (skipWord? (skip s)).getD s = s := by
          have hsigns : ∀ c ∈ ['<', '('], startsLexeme c = true ∧ isWordStart c = false ∧
              c ≠ '\\' := forall_sign (by decide)
          obtain ⟨hstarts, hstart, hb⟩ := hsigns c hc
          rw [ho.skip_eq hstarts, skipWord?, word?_of_sign hstart hb]
          rfl
        obtain ⟨htypes, hp, -⟩ := hsig
        obtain ⟨_, ho, -, -⟩ := hp.length_lt
        cases htypes with
        | none => exact hsign ho (by decide)
        | some h =>
            obtain ⟨_, ho, -, -⟩ := h.length_lt
            exact hsign ho (by decide)
  have hr : r.length ≤ s.length := by
    cases hstar with
    | none => exact Nat.le_refl _
    | some hstar => exact hstar.length_lt.le
  have hbody := signature_bind_block hg hF hsig hb (by omega)
  rw [Grammar.functionTail]
  cases hstar with
  | none =>
      simp only [hname.1, hname.2.1, hbody, Option.bind_eq_bind, Option.bind_some]
      exact ⟨_, rfl⟩
  | some hstar =>
      simp only [hstar.symbol?_eq (show startsLexeme '*' = true by decide), hname.2.1, hbody,
        Option.bind_eq_bind, Option.bind_some]
      exact ⟨_, rfl⟩

/-! ### Atoms -/

/-- Without what is said of their beginnings, expressions with commas between them are a comma
expression. -/
theorem sequenced_of_unmarked (h : Sequenced (Unmarked F) s t) : Sequenced F.expression s t := by
  have hitem {s t : List Char} (h : Spaced (Unmarked F) s t) : Spaced F.expression s t :=
    h.imp fun h => by
      cases h with
      | sign _ h => exact h
      | word _ _ _ h => exact h
  obtain ⟨h, hf⟩ := h
  refine ⟨hitem h, ?_⟩
  clear h
  induction hf with
  | nil => exact .nil
  | cons hc h _ ih => exact .cons hc (hitem h) ih

theorem primary_of_sign (g : Grammar) (hskip : skip s = c :: r) (hc : isWordStart c = false)
    (hb : c ≠ '\\') : g.primary s = g.atom s := by
  rw [Grammar.primary, keyword?_of_sign hskip hc hb]

theorem exists_primary_of_parens (hg : g.ReadsForms k) (hF : F.IsLevel)
    (he : Sequenced F.expression s r) (hc : Sign ')' r t) (hs : ('(' :: s).length ≤ k) :
    ∃ e, g.primary ('(' :: s) = some (e, t) := by
  have hskip : skip ('(' :: s) = '(' :: s := skip_of_startsLexeme (by decide) s
  rw [List.length_cons] at hs
  obtain ⟨e, he⟩ := (skipSequence_of_form hg hF he hc (by decide) (by omega)).1
  rw [primary_of_sign g hskip (by decide) (by decide), Grammar.atom, hskip]
  simp only [Char.reduceEq, or_self, if_false, if_true, he, Option.bind_eq_bind,
    Option.bind_some, hc.symbol?_eq (show startsLexeme ')' = true by decide)]
  exact ⟨_, rfl⟩

/-- What an operand begins with is read to its end. -/
theorem exists_primary_of_form (hg : g.ReadsForms k) (hF : F.IsLevel) (h : IsAtom F s t)
    (hs : s.length ≤ k) : ∃ e, g.primary s = some (e, t) := by
  have hdepth := hg.depth
  have hskip := h.opens.skip_eq
  cases h with
  | string hs' =>
      obtain ⟨quote, hquote, body, rfl, hclose⟩ := hs'.exists_quote
      have hquotes : ∀ c ∈ ['"', '\''], isWordStart c = false ∧ c ≠ '\\' := forall_sign (by decide)
      rw [primary_of_sign g hskip (hquotes quote hquote).1 (hquotes quote hquote).2, Grammar.atom,
        hskip]
      simp only [List.mem_cons, List.not_mem_nil, or_false] at hquote
      simp only [hquote, if_true, hclose, Option.map_some]
      exact ⟨_, rfl⟩
  | @template s _ h =>
      rw [List.length_cons] at hs
      obtain ⟨e, he⟩ := exists_template_of_form hg hF h (by omega) ('\x60' :: s)
      rw [primary_of_sign g hskip (by decide) (by decide), Grammar.atom, hskip]
      simp only [Char.reduceEq, or_self, if_false, if_true, he]
      exact ⟨_, rfl⟩
  | @name w _ hw hfree hend =>
      have hnew : String.ofList w ≠ "new" := by
        intro h
        rw [h] at hfree
        exact hfree (by decide)
      rw [Grammar.primary, keyword?_of_name hw hskip hend, if_neg hnew]
      exact ⟨_, atom_of_name g hw hskip hend hfree⟩
  | @constant w _ hw hend =>
      have hname : IsName w.toList := isName_of_mem (by decide) hw
      have hwords : ∀ w ∈ constants,
          w ≠ "new" ∧ w ∈ constantWords := by
        decide
      obtain ⟨hnew, hconstant⟩ := hwords w hw
      rw [Grammar.primary, keyword?_of_name hname hskip hend, String.ofList_toList, if_neg hnew]
      show ∃ e, g.atom (w.toList ++ t) = some (e, t)
      rw [atom_of_word g hname hskip hend, String.ofList_toList, Grammar.wordExpression,
        if_pos hconstant]
      exact ⟨_, rfl⟩
  | number hn =>
      have hafter := afterNumber_of_number hn
      obtain ⟨c, r, rfl, hc⟩ := hn.exists_digit
      have hsigns : ∀ d ∈ ['"', '\'', '[', '\x7b', '(', '\x60', '.', '\\'], d.isDigit = false :=
        forall_sign (by decide)
      have hne : c ∉ ['"', '\'', '[', '\x7b', '(', '\x60', '.', '\\'] := fun hmem =>
        Bool.false_ne_true ((hsigns c hmem).symm.trans hc)
      simp only [List.mem_cons, List.not_mem_nil, or_false, not_or] at hne
      rw [primary_of_sign g hskip (by simp [isWordStart, hc]) hne.2.2.2.2.2.2.2, Grammar.atom,
        hskip]
      simp only [hne, or_self, if_false, hc, or_false, if_true, false_and, hafter]
      exact ⟨_, rfl⟩
  | @regex s _ h =>
      rw [primary_of_sign g hskip (by decide) (by decide), Grammar.atom, hskip]
      simp [afterPattern?_of_regex h]
  | @array s _ h =>
      rw [List.length_cons] at hs
      obtain ⟨es, hes⟩ := exists_readList (readsItems_argument hg hF (by decide)) (by decide)
        (by decide) h (by omega) g.depth (by omega)
      rw [primary_of_sign g hskip (by decide) (by decide), Grammar.atom, hskip]
      simp only [Char.reduceEq, or_self, if_false, if_true, hes]
      exact ⟨_, rfl⟩
  | @object s _ h =>
      rw [List.length_cons] at hs
      obtain ⟨ps, hps⟩ := exists_readList (readsItems_property hg hF)
        (by decide) (by decide) h.elements (by omega) g.depth (by omega)
      rw [primary_of_sign g hskip (by decide) (by decide), Grammar.atom, hskip]
      simp only [Char.reduceEq, or_self, if_false, if_true, hps]
      exact ⟨_, rfl⟩
  | parens _ he hc => exact exists_primary_of_parens hg hF he hc hs
  | group he hc _ => exact exists_primary_of_parens hg hF (sequenced_of_unmarked he) hc hs
  | @construction gap w s r u _ hgap hne hw hfree hend hd ha h =>
      have hnew : IsName "new".toList := by decide
      simp only [List.length_append] at hs
      obtain ⟨e, he⟩ := exists_newTail_of_form hg hF hgap hw hfree hend hd ha h
        (by rw [List.length_append]; omega) ("new".toList ++ (gap ++ (w ++ s)))
      rw [Grammar.primary, keyword?_of_name hnew hskip (hgap.endsWord hne _), if_pos (by decide),
        hskip]
      exact ⟨e, he⟩
  | @function s _ hend h =>
      have hfunction : IsName "function".toList := by decide
      have hlength : "function".toList.length = 8 := rfl
      simp only [List.length_append] at hs
      obtain ⟨e, he⟩ := exists_functionTail_of_form hg hF h (by omega) ("function".toList ++ s)
      rw [Grammar.primary, keyword?_of_name hfunction hskip hend, if_neg (by decide)]
      show ∃ e, g.atom ("function".toList ++ s) = some (e, t)
      rw [atom_of_word g hfunction hskip hend, Grammar.wordExpression, if_neg (by decide),
        if_pos (by decide)]
      exact ⟨e, he⟩
  | @asyncFunction gap s _ hgap hne hline hend h =>
      have hasync : IsName "async".toList := by decide
      have hfunction : IsName "function".toList := by decide
      have hlength : "function".toList.length = 8 := rfl
      have hend' := hgap.endsWord hne ("function".toList ++ s)
      simp only [List.length_append] at hs
      obtain ⟨e, he⟩ := exists_functionTail_of_form hg hF h (by omega)
        ("async".toList ++ (gap ++ ("function".toList ++ s)))
      have hcross := crossesLine_of_inline hgap hline (hfunction.skip_append s)
      have hkeyword : keyword? "function" (gap ++ ("function".toList ++ s)) = some s := by
        rw [keyword?_of_name hfunction (hgap.skip_name hfunction s) hend, if_pos (by decide)]
      rw [Grammar.primary, keyword?_of_name hasync hskip hend', if_neg (by decide)]
      show ∃ e, g.atom ("async".toList ++ (gap ++ ("function".toList ++ s))) = some (e, t)
      rw [atom_of_word g hasync hskip hend', String.ofList_toList, Grammar.wordExpression,
        if_neg (by decide), if_neg (by decide), if_neg (by decide)]
      simp only [hcross, and_self, if_true, hkeyword, Option.bind_some, he]
      exact ⟨e, rfl⟩
  | @classLike s _ hend h =>
      have hname : IsName "class".toList := by decide
      rw [List.length_append] at hs
      obtain ⟨name, hread⟩ := exists_classTail_of_form hg hF h (by omega)
      rw [Grammar.primary, keyword?_of_name hname hskip hend, if_neg (by decide)]
      show ∃ e, g.atom ("class".toList ++ s) = some (e, t)
      rw [atom_of_word g hname hskip hend, String.ofList_toList, Grammar.wordExpression,
        if_neg (by decide), if_neg (by decide), if_pos rfl, Grammar.classExpression, hread]
      exact ⟨_, rfl⟩

/-! ### Suffixes -/

theorem ownTypeArguments_of_form (hg : g.ReadsForms k) (hF : F.IsLevel)
    (h : Enclosed '<' F.type '>' s t) (hs : s.length ≤ k)
    (hnext : NextIn ['(', ',', ')', ']', '\x7b', '\x7d', ';', ':'] t) :
    g.ownTypeArguments s = some t := by
  have hends : (next? t == some '(' || endsTypeArguments t) = true := by
    obtain ⟨c, hc, r, ho⟩ := hnext
    simp only [List.mem_cons, List.not_mem_nil, or_false] at hc
    rcases hc with rfl | rfl | rfl | rfl | rfl | rfl | rfl | rfl <;>
      (rw [next?, endsTypeArguments, ho.skip_eq (by decide)]; rfl)
  rw [Grammar.ownTypeArguments, typeArguments_of_enclosed hg hF h hs, Option.filter_some,
    if_pos hends]

theorem exists_selection_of_index (hg : g.ReadsForms k) (hF : F.IsLevel)
    (he : Sequenced F.expression s r) (hc : Sign ']' r t) (hs : s.length < k) (start : List Char) :
    ∃ e, g.selection start ('[' :: s) = some (e, t) := by
  obtain ⟨e, he'⟩ := (skipSequence_of_form hg hF he hc (by decide) hs).1
  rw [Grammar.selection.eq_def, skip_of_startsLexeme (by decide)]
  simp only [he', Option.bind_eq_bind, Option.bind_some,
    hc.symbol?_eq (show startsLexeme ']' = true by decide)]
  exact ⟨_, rfl⟩

/-- A suffix is read to its end. -/
theorem exists_suffix_of_form (hg : g.ReadsForms k) (hF : F.IsLevel) (h : IsSuffix F s t)
    (hs : s.length ≤ k) (start : List Char) (e : Expr) :
    ∃ e', g.suffix start e s = some (e', t) := by
  have harguments {s r : List Char} (ho : Sign '(' s r) (hitems : Items (IsArgument F) ')' r t)
      (hs : s.length ≤ k) : ∃ es, g.arguments ('(' :: r) = some (es, t) := by
    have hlength := ho.length_lt
    exact exists_arguments_of_form hg hF (.mk (.mk (g := []) .nil) hitems)
      (by rw [List.length_cons]; omega)
  cases h with
  | @member _ r _ hp hn =>
      obtain @⟨gap, w, _, hgap, hw, hend⟩ := hn
      have hskip := hp.skip_eq (by decide)
      have hselection := selection_of_point g start hgap hw hend
        (skip_of_startsLexeme (c := '.') (by decide) (gap ++ (w ++ t)))
      rw [Grammar.suffix, hskip]
      simp only [Char.reduceEq, if_false, true_or, if_true, hselection]
      exact ⟨_, rfl⟩
  | @hidden _ gap w _ hp hgap hw hend =>
      have hskip := hp.skip_eq (by decide)
      rw [Grammar.suffix, hskip]
      simp only [Char.reduceEq, if_false, true_or, if_true]
      rw [Grammar.selection.eq_def, skip_of_startsLexeme (by decide)]
      simp only [hgap.skip_append (show startsLexeme '#' = true by decide),
        hw.skipWord?_append hend, Option.map_some]
      exact ⟨_, rfl⟩
  | @optional gap s _ hgap hn =>
      obtain ⟨w, hw, hskip, hend⟩ := hn.exists_name
      have hread := hw.skipWord?_append hend
      obtain ⟨c, v, rfl, hc, -⟩ := hw.exists_cons
      have hsigns : c ∉ ['[', '(', '<', '#'] := not_mem_of_isWordStart hc (by decide)
      have hdigit : c.isDigit = false := by
        simpa using (Bool.and_eq_true_iff.1 hc).2
      simp only [List.mem_cons, List.not_mem_nil, or_false, not_or] at hsigns
      rw [List.cons_append] at hskip hread
      rw [Grammar.suffix, hgap.skip_append (by decide)]
      simp only [Char.reduceEq, or_self, if_false, List.head?_cons, and_self, if_true,
        List.drop_succ_cons, List.drop_zero]
      rw [Grammar.optionalSelection, hskip]
      simp only [hdigit, Bool.false_eq_true, false_and, hsigns, or_self, if_false, hread,
        Option.map_some]
      exact ⟨_, rfl⟩
  | index ho he hc =>
      have hlength := ho.length_lt
      rw [Grammar.suffix, ho.skip_eq (by decide)]
      exact exists_selection_of_index hg hF he hc (by omega) start
  | @optionalIndex gap s r u _ hgap ho he hc =>
      have hlength := ho.length_lt
      simp only [List.length_append, List.length_cons] at hs
      rw [Grammar.suffix, hgap.skip_append (by decide)]
      simp only [Char.reduceEq, or_self, if_false, List.head?_cons, and_self, if_true,
        List.drop_succ_cons, List.drop_zero]
      rw [Grammar.optionalSelection, ho.skip_eq (by decide)]
      exact exists_selection_of_index hg hF he hc (by omega) start
  | @optionalCall gap s _ hgap h =>
      obtain ⟨r, ho, hitems, -⟩ := h.length_lt
      simp only [List.length_append, List.length_cons] at hs
      obtain ⟨es, hes⟩ := harguments ho hitems (by omega)
      have hless : symbol? '<' ('(' :: r) = none := rfl
      rw [Grammar.suffix, hgap.skip_append (by decide)]
      simp only [Char.reduceEq, or_self, if_false, List.head?_cons, and_self, if_true,
        List.drop_succ_cons, List.drop_zero]
      rw [Grammar.optionalSelection, ho.skip_eq (by decide)]
      simp only [skipOptional_of_none (typeArguments_eq_none g hless), hes, Option.map_some]
      exact ⟨_, rfl⟩
  | @tagged gap s _ hgap h =>
      simp only [List.length_append, List.length_cons] at hs
      have hdepth := hg.depth
      obtain ⟨parts, hparts⟩ := exists_templateParts_of_form hg hF h (by omega) g.depth (by omega)
      rw [Grammar.suffix, hgap.skip_append (by decide)]
      simp only [Char.reduceEq, or_self, if_false, if_true, hparts, Option.map_some]
      exact ⟨_, rfl⟩
  | call h =>
      obtain ⟨r, ho, hitems, -⟩ := h.length_lt
      obtain ⟨es, hes⟩ := harguments ho hitems hs
      rw [Grammar.suffix, ho.skip_eq (by decide)]
      simp only [if_true, hes, Option.map_some]
      exact ⟨_, rfl⟩
  | @genericCall _ r _ htypes h =>
      obtain ⟨v, ho, hitems, hlength⟩ := htypes.length_lt
      have hskip := ho.skip_eq (by decide)
      have hform : Enclosed '<' F.type '>' ('<' :: v) r := .mk (.mk (g := []) .nil) hitems
      obtain ⟨x, ho', -, -⟩ := h.length_lt
      have hown := ownTypeArguments_of_form hg hF hform (by rw [List.length_cons]; omega)
        ⟨'(', by decide, x, ho'⟩
      have hr := (leaves_ownTypeArguments hg.consumes _).length_le hown
      rw [List.length_cons] at hr
      obtain ⟨es, hes⟩ := exists_arguments_of_form hg hF h (by omega)
      rw [Grammar.suffix, hskip]
      simp only [Char.reduceEq, or_self, if_false, false_and, isStep, if_true, hown, hes]
      exact ⟨_, rfl⟩
  | «instance» htypes hnext =>
      obtain ⟨v, ho, hitems, hlength⟩ := htypes.length_lt
      have hskip := ho.skip_eq (by decide)
      have hform : Enclosed '<' F.type '>' ('<' :: v) t := .mk (.mk (g := []) .nil) hitems
      have hnext' : NextIn ['(', ',', ')', ']', '\x7b', '\x7d', ';', ':'] t := by
        obtain ⟨c, hc, r, ho⟩ := hnext
        exact ⟨c, List.mem_cons_of_mem _ hc, r, ho⟩
      have hown := ownTypeArguments_of_form hg hF hform (by rw [List.length_cons]; omega) hnext'
      have hopen : g.arguments t = none := by
        obtain ⟨c, hc, r, ho⟩ := hnext
        have hsigns : ∀ c ∈ [',', ')', ']', '\x7b', '\x7d', ';', ':'], startsLexeme c = true ∧
            c ≠ '(' := forall_sign (by decide)
        rw [Grammar.arguments, ho.symbol?_eq_none (hsigns c hc).1 (hsigns c hc).2,
          Option.bind_none]
      rw [Grammar.suffix, hskip]
      simp only [Char.reduceEq, or_self, if_false, false_and, isStep, if_true, hown, hopen]
      exact ⟨_, rfl⟩
  | @step gap c _ hgap hline hc =>
      have hsigns : ∀ c ∈ ['+', '-'], startsLexeme c = true ∧ c ∉ ['(', '.', '[', '\x60', '?'] :=
        forall_sign (by decide)
      obtain ⟨hstarts, hnot⟩ := hsigns c hc
      have hcross := crossesLine_of_inline hgap hline (skip_of_startsLexeme hstarts (c :: t))
      have hstep : isStep (c :: c :: t) = true := by
        simp only [List.mem_cons, List.not_mem_nil, or_false] at hc
        obtain rfl | rfl := hc <;> rfl
      simp only [List.mem_cons, List.not_mem_nil, or_false, not_or] at hnot
      rw [Grammar.suffix, hgap.skip_append hstarts]
      simp only [hnot, or_self, if_false, false_and, hstep, hcross, and_self, if_true]
      exact ⟨_, rfl⟩

/-- The suffixes of an operand are read one after the other. -/
theorem exists_suffixes_of_form (hg : g.ReadsForms k) (hF : F.IsLevel) (h : Suffixes F s t)
    (hs : s.length ≤ k) (ht : EndsTarget t) (start : List Char) (n : Nat) (hn : s.length ≤ n)
    (e : Expr) : ∃ e', g.suffixes start n e s = (e', t) := by
  induction h generalizing n e with
  | nil =>
      cases n with
      | zero => exact ⟨e, rfl⟩
      | succ n => exact ⟨e, by rw [Grammar.suffixes, ht.suffix hg.types hs]⟩
  | @cons s r t h _ ih =>
      obtain ⟨e', he'⟩ := exists_suffix_of_form hg hF h hs start e
      have hsuffix : r <:+ s := reads_suffix hg.consumes start e s _ he'
      obtain heq | hlt := Nat.eq_or_lt_of_le hsuffix.length_le
      · obtain rfl := hsuffix.eq_of_length heq
        exact ih hs ht n hn e
      · obtain ⟨n, rfl⟩ : ∃ m, n = m + 1 := ⟨n - 1, by omega⟩
        rw [Grammar.suffixes, he']
        exact ih (by omega) ht n (by omega) e'

end DecoratorGraph.Script
