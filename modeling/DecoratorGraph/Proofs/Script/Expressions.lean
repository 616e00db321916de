import DecoratorGraph.Proofs.Script.Endings

/-!
# Reading expressions

However an expression is written, it is read as what it is: if the grammars one level below read all
shorter texts, the grammar reads the text (`reads_ofDepth`). The induction is on the depth of the
grammar, which bounds the length of the texts; what bounds a text on its right is a sign that closes
an item of a list (`Closes`).
-/

namespace DecoratorGraph.Script

/-! ### Strings -/

section Strings

variable {quote : Char} {c : Char} {u : List Char}

theorem closeQuote?_of_ne (hb : c ≠ '\\') (hquote : c ≠ quote) (r : List Char) :
    closeQuote? quote (c :: r) = closeQuote? quote r := by
  rw [closeQuote?.eq_def]
  split <;> simp_all

theorem closeQuote?_quote (hb : quote ≠ '\\') (r : List Char) :
    closeQuote? quote (quote :: r) = some r := by
  rw [closeQuote?.eq_def]
  split <;> simp_all

/-- The characters behind a backslash do not end a string. -/
theorem closeQuote?_escape (hquote : quote ∈ ['"', '\'']) (hu : (c, u) ∈ escapes)
    (r : List Char) : closeQuote? quote ('\\' :: (u ++ r)) = closeQuote? quote r := by
  simp only [escapes, List.mem_cons, Prod.mk.injEq, List.not_mem_nil, or_false] at hu
  simp only [List.mem_cons, List.not_mem_nil, or_false] at hquote
  rcases hu with ⟨-, rfl⟩ | ⟨-, rfl⟩ | ⟨-, rfl⟩ | ⟨-, rfl⟩ | ⟨-, rfl⟩ | ⟨-, rfl⟩ | ⟨-, rfl⟩ <;>
    rcases hquote with rfl | rfl <;> rfl

/-- The characters behind a backslash are read as the character that they stand for. -/
theorem escaped_escape (hu : (c, u) ∈ escapes) (r : List Char) :
    Literal.escaped (u ++ r) = ([c], u.length) := by
  simp only [escapes, List.mem_cons, Prod.mk.injEq, List.not_mem_nil, or_false] at hu
  rcases hu with ⟨rfl, rfl⟩ | ⟨rfl, rfl⟩ | ⟨rfl, rfl⟩ | ⟨rfl, rfl⟩ | ⟨rfl, rfl⟩ | ⟨rfl, rfl⟩ |
    ⟨rfl, rfl⟩ <;> rfl

theorem SpellsCharacter.closeQuote?_append (hquote : quote ∈ ['"', '\''])
    (h : SpellsCharacter quote c u) (r : List Char) :
    closeQuote? quote (u ++ r) = closeQuote? quote r := by
  cases h with
  | plain hc =>
      simp only [List.mem_cons, not_or] at hc
      exact closeQuote?_of_ne hc.2.1 hc.1 r
  | escaped hc => exact closeQuote?_escape hquote hc r

theorem SpellsCharacter.unescape_append (h : SpellsCharacter quote c u) (r : List Char) :
    Literal.unescape (u ++ r) = c :: Literal.unescape r := by
  cases h with
  | plain hc =>
      simp only [List.mem_cons, not_or] at hc
      exact Literal.unescape_cons r hc.2.1
  | escaped hc =>
      rw [List.cons_append, Literal.unescape_backslash, escaped_escape hc, List.drop_left]
      rfl

variable {cs : List Char} {pieces : List (List Char)}

theorem closeQuote?_flatten (hquote : quote ∈ ['"', '\''])
    (h : List.Forall₂ (SpellsCharacter quote) cs pieces) (r : List Char) :
    closeQuote? quote (pieces.flatten ++ quote :: r) = some r := by
  induction h with
  | nil =>
      refine closeQuote?_quote ?_ r
      rintro rfl
      exact absurd hquote (by decide)
  | cons hpiece _ ih =>
      rw [List.flatten_cons, List.append_assoc, hpiece.closeQuote?_append hquote, ih]

theorem unescape_flatten (h : List.Forall₂ (SpellsCharacter quote) cs pieces) :
    Literal.unescape pieces.flatten = cs := by
  induction h with
  | nil => exact Literal.unescape_nil
  | cons hpiece _ ih => rw [List.flatten_cons, hpiece.unescape_append, ih]

variable {value : String} {s : List Char}

/-- A string ends at the quote behind its characters. -/
theorem SpellsString.exists_quote (h : SpellsString value s) :
    ∃ quote ∈ ['"', '\''], ∃ body, s = quote :: body ∧
      ∀ rest, closeQuote? quote (body ++ rest) = some rest := by
  obtain ⟨quote, hquote, pieces, hpieces, rfl⟩ := h
  refine ⟨quote, hquote, pieces.flatten ++ [quote], rfl, fun rest => ?_⟩
  rw [List.append_assoc]
  exact closeQuote?_flatten hquote hpieces rest

/-- A string is read as its value. -/
theorem SpellsString.value_eq (h : SpellsString value s) : Literal.value s = value := by
  obtain ⟨quote, -, pieces, hpieces, rfl⟩ := h
  rw [← List.cons_append, Literal.value_of_body, unescape_flatten hpieces, String.ofList_toList]

end Strings

/-! ### Lists -/

section Lists

variable {α : Type} {Item : α → List Char → Prop} {close : Char} {as : List α} {t : List Char}

theorem SpellsString.opens {value : String} {s : List Char} (h : SpellsString value s)
    (t : List Char) : Opens (s ++ t) := by
  obtain ⟨quote, hquote, body, rfl, -⟩ := h.exists_quote
  have hopen : ∀ d ∈ ['"', '\''], d ∈ openers := forall_sign (by decide)
  exact ⟨quote, body ++ t, rfl, Or.inl (hopen quote hquote)⟩

/-- An item is read wherever a list goes on: it is the last one in front of the closing sign, and
in front of a comma the list goes on behind it. -/
theorem readList_item (hclose : close ∈ closers) {item : Reader α} {a : α} {g s u : List Char}
    (hg : Gap g) (hs : Opens s) (hread : item (s ++ u) = some (a, u)) {d : Char} {r : List Char}
    (hd : skip u = d :: r) (n : Nat) :
    readList close item (n + 1) (g ++ (s ++ u)) =
      if d = close then some ([a], r)
      else if d = ',' then (readList close item n r).map fun (as, r) => (a :: as, r)
      else none := by
  obtain ⟨c, v, hcons, hself, hsign⟩ := (hs.append u).exists_cons
  have hclosers : ∀ c ∈ closers, c ∈ nonOpeners := forall_sign (by decide)
  have hcomma : c ≠ ',' := by
    rintro rfl
    exact hsign (by decide)
  have hne : c ≠ close := by
    rintro rfl
    exact hsign (hclosers c hclose)
  have hskip : skip (g ++ (s ++ u)) = c :: v := hg.skip_of_skip (hcons ▸ hself)
  rw [hcons] at hread
  rw [readList, hskip]
  simp only [hne, hcomma, if_false, hread, hd]

/-- A list is read item by item. -/
theorem readList_spellsList {k : Nat} {item : Reader α} (hclose : close ∈ closers)
    (hcomma : close ≠ ',') (hopens : ∀ a s, Item a s → Opens s)
    (hread : ∀ a s, Item a s → s.length < k → ∀ u, Closes u → item (s ++ u) = some (a, u))
    (h : SpellsList Item close as t) (hk : t.length ≤ k) (n : Nat) (hn : t.length ≤ n)
    (rest : List Char) : readList close item n (t ++ rest) = some (as, rest) := by
  induction h generalizing n with
  | @nil g hg =>
      obtain ⟨n, rfl⟩ : ∃ m, n = m + 1 := ⟨n - 1, by simp at hn; omega⟩
      rw [List.append_assoc]
      exact readList_close close item n (hg.skip_closer hclose rest)
  | @last a g s g' hg ha hg' =>
      obtain ⟨n, rfl⟩ : ∃ m, n = m + 1 := ⟨n - 1, by simp at hn; omega⟩
      have hitem := hread a s ha (by simp at hk; omega) (g' ++ close :: rest)
        (hg'.closes hclose rest)
      have h := readList_item hclose hg (hopens a s ha) hitem (hg'.skip_closer hclose rest) n
      simpa using h
  | @cons a as g s g' t hg ha hg' has ih =>
      obtain ⟨n, rfl⟩ : ∃ m, n = m + 1 := ⟨n - 1, by simp at hn; omega⟩
      have hmember : ',' ∈ closers := by decide
      have hitem := hread a s ha (by simp at hk; omega) (g' ++ ',' :: (t ++ rest))
        (hg'.closes hmember _)
      have h := readList_item hclose hg (hopens a s ha) hitem (hg'.skip_closer hmember _) n
      have hrest := ih (by simp at hk; omega) n (by simp at hn; omega)
      simpa [hcomma.symm, hrest] using h

end Lists

/-! ### Where an expression ends -/

section Ends

variable (g : Grammar) {s r : List Char} {d : Char}

theorem Closes.symbol?_eq_none (h : Closes s) {c : Char} (hc : c ∉ closers) :
    symbol? c s = none := by
  obtain ⟨d, r, hskip, hd⟩ := h
  have hne : d ≠ c := by
    rintro rfl
    exact hc hd
  rw [symbol?_of_skip hskip, if_neg hne]

theorem Closes.endsExpression (h : Closes s) (place : Place) : EndsExpression place s := by
  obtain ⟨d, r, hskip, hd⟩ := h
  have hends : ∀ d ∈ closers, d ∈ valueEnds := forall_sign (by decide)
  exact endsExpression_of_sign hskip (hends d hd)

theorem Closes.suffix_eq_none (h : Closes s) (start : List Char) (e : Expr) :
    g.suffix start e s = none := by
  obtain ⟨d, r, hskip, hd⟩ := h
  have hsigns : ∀ d ∈ closers, d ∉ suffixStarts ∧ d ∉ operatorStarts := forall_sign (by decide)
  obtain ⟨hsuffix, hoperator⟩ := hsigns d hd
  refine suffix_eq_none_of_skip g hskip hsuffix (isStep_of_not_mem hoperator r) ?_
  rintro rfl
  exact absurd hoperator (by decide)

theorem Closes.suffixes_eq (h : Closes s) (start : List Char) (n : Nat) (e : Expr) :
    g.suffixes start n e s = (e, s) := by
  cases n with
  | zero => rfl
  | succ n => rw [Grammar.suffixes, h.suffix_eq_none]

theorem EndsOperand.selection_eq_none {place : Place} (h : EndsOperand place s)
    (hnext : next? s = some '!') (start : List Char) : g.selection start s = none := by
  obtain ⟨r, hskip⟩ : ∃ r, skip s = '!' :: r := ⟨_, (List.cons_head?_tail hnext).symm⟩
  rw [Grammar.selection.eq_def, hskip]
  simp [h.mark r hskip]

theorem EndsOperand.chainTail_eq {place : Place} (h : EndsOperand place s)
    (hbinary : binaryOperator? place s = none) (start : List Char) (n : Nat) (power : Bool)
    (e : Expr) : g.chainTail place start n power e s = (e, s) := by
  cases n with
  | zero => rfl
  | succ n =>
      rw [Grammar.chainTail, h.typeOperator, hbinary]
      simp only [Option.isNone_none, and_true]
      split
      · next hnext => rw [h.selection_eq_none g hnext]
      · rfl

/-- An expression is its first chain of operators if nothing behind the chain goes on with it. -/
theorem readExpression_of_readOperand {place : Place} {rest : List Char} {e : Expr}
    (harrow : startsArrow s = true → g.arrow place s = none) (hyield : keyword? "yield" s = none)
    (hoperand : g.readOperand place s = some (e, rest)) (h : EndsExpression place rest) :
    g.readExpression place s = some (e, rest) := by
  have hnone : (if startsArrow s then g.arrow place s else none) = none :=
    ite_eq_right_iff.2 harrow
  rw [Grammar.readExpression, hnone, hyield, Grammar.assignment, Grammar.chain, hoperand]
  simp [h.chainTail_eq g h.binary, h.assignment, h.question]

end Ends

/-! ### Operands -/

section Operands

variable (g : Grammar) {s r t u : List Char} {c : Char} {e e' : Expr} {place : Place}

/-- An operand without a prefix operator is a primary expression with its suffixes. -/
theorem readOperand_of_primary (hskip : skip s = c :: r) (hc : c ∉ ['!', '~', '+', '-', '<'])
    (hword : ∀ w t, word? (c :: r) = some (w, t) → w ∉ prefixWords ∧ w ≠ "await")
    (hprimary : g.primary (c :: r) = some (e, t)) :
    g.readOperand place s = some (g.suffixes (c :: r) g.depth e t) := by
  simp only [List.mem_cons, List.not_mem_nil, or_false, not_or] at hc
  obtain ⟨hnot, htilde, hplus, hminus, hless⟩ := hc
  have hstep : isStep (c :: r) = false := by
    rw [isStep.eq_def]
    split <;> simp_all
  rw [Grammar.readOperand, hskip]
  simp only [hnot, htilde, hplus, hminus, hless, hstep, or_self, if_false, Bool.false_eq_true]
  cases hw : word? (c :: r) with
  | none => simp [hprimary]
  | some result =>
      obtain ⟨w, t'⟩ := result
      obtain ⟨hbegin, hawait⟩ := hword w t' hw
      simp [hbegin, hawait, hprimary]

/-- An expression that begins with a sign is what the sign begins. -/
theorem readExpression_of_atom {gap rest : List Char} (hgap : Gap gap)
    (hc : c ∈ ['"', '\'', '[', '\x7b'])
    (hatom : g.atom (c :: (t ++ rest)) = some (e, rest)) (hrest : Closes rest) :
    g.readExpression .inBrackets (gap ++ (c :: t ++ rest)) = some (e, rest) := by
  have hsigns : ∀ d ∈ ['"', '\'', '[', '\x7b'], isWordStart d = false ∧ d ≠ '\\' ∧
      d ∉ ['(', '<'] ∧ d ∉ ['!', '~', '+', '-', '<'] ∧ startsLexeme d = true :=
    forall_sign (by decide)
  obtain ⟨hsign, hb, harrow, hoperators, hstarts⟩ := hsigns c hc
  have hskip : skip (gap ++ (c :: t ++ rest)) = c :: (t ++ rest) := hgap.skip_append hstarts _
  have hword : word? (c :: (t ++ rest)) = none := word?_of_sign hsign hb _
  have hprimary : g.primary (c :: (t ++ rest)) = some (e, rest) := by
    rw [Grammar.primary, keyword?_of_sign (skip_of_startsLexeme hstarts _) hsign hb, hatom]
  have hoperand : g.readOperand .inBrackets (gap ++ (c :: t ++ rest)) = some (e, rest) := by
    rw [readOperand_of_primary g hskip hoperators (by simp [hword]) hprimary, hrest.suffixes_eq]
  refine readExpression_of_readOperand g (fun h => ?_) (keyword?_of_sign hskip hsign hb _)
    hoperand (hrest.endsExpression _)
  rw [startsArrow, hskip] at h
  simp only [List.mem_cons, List.not_mem_nil, or_false, not_or] at harrow
  simp [hsign, hb, harrow] at h

theorem arrowHead_of_name {w : List Char} (hw : IsName w) (hskip : skip s = w ++ t)
    (ht : EndsWord t) : g.arrowHead place s = some t := by
  have hread := hw.skipWord?_append ht
  obtain ⟨c, v, rfl, hc, -⟩ := hw.exists_cons
  have hsigns : c ∉ ['(', '<'] := not_mem_of_isWordStart hc (by decide)
  simp only [List.mem_cons, List.not_mem_nil, or_false] at hsigns
  rw [Grammar.arrowHead, hskip, List.cons_append]
  simp only [hsigns, if_false]
  exact hread

theorem arrowTail_eq_none (h : symbols? "=>" s = none) : g.arrowTail place s = none := by
  rw [Grammar.arrowTail, h]
  rfl

/-- No arrow function begins with a name that no arrow follows. -/
theorem arrow_of_name {w : List Char} (hw : IsName w) (hskip : skip s = w ++ t) (ht : EndsWord t)
    (hasync : String.ofList w ≠ "async") (hnext : symbols? "=>" t = none) :
    g.arrow place s = none := by
  have hkeyword : keyword? "async" s = none := by
    rw [keyword?_of_name hw hskip ht, if_neg hasync]
  simp [Grammar.arrow, arrowHead_of_name g hw hskip ht, arrowTail_eq_none g hnext, hkeyword]

/-- A name begins an operand, unless it is an operator itself. -/
theorem readExpression_of_name {w : List Char} (hw : IsName w) (hskip : skip s = w ++ t)
    (ht : EndsWord t) (hfree : String.ofList w ∉ ["yield", "async", "typeof", "void", "delete",
      "await"]) (hnext : symbols? "=>" t = none) (hprimary : g.primary (w ++ t) = some (e, r))
    {rest : List Char} (hsuffixes : g.suffixes (w ++ t) g.depth e r = (e', rest))
    (hrest : EndsExpression place rest) : g.readExpression place s = some (e', rest) := by
  simp only [List.mem_cons, List.not_mem_nil, or_false, not_or] at hfree
  obtain ⟨hyield, hasync, htypeof, hvoid, hdelete, hawait⟩ := hfree
  have hkeyword : keyword? "yield" s = none := by
    rw [keyword?_of_name hw hskip ht, if_neg hyield]
  refine readExpression_of_readOperand g (fun _ => arrow_of_name g hw hskip ht hasync hnext)
    hkeyword ?_ hrest
  have hword := hw.word?_append ht
  obtain ⟨c, v, rfl, hc, -⟩ := hw.exists_cons
  have hbegin : c ∉ ['!', '~', '+', '-', '<'] := not_mem_of_isWordStart hc (by decide)
  rw [List.cons_append] at hskip hprimary hsuffixes hword
  rw [readOperand_of_primary g hskip hbegin ?_ hprimary, hsuffixes]
  intro w' t' hw'
  obtain ⟨rfl, -⟩ := Prod.mk.inj (Option.some.inj (hword.symm.trans hw'))
  refine ⟨?_, hawait⟩
  simp only [prefixWords, List.mem_cons, List.not_mem_nil, or_false, not_or]
  exact ⟨htypeof, hvoid, hdelete⟩

end Operands

/-! ### References -/

section References

variable (g : Grammar) (start : List Char) {s t u w : List Char}

theorem wordExpression_of_free {w : String} (hw : w ∉ reservedWords) (r : List Char) :
    g.wordExpression start w r = some (.identifier w, r) := by
  simp only [reservedWords, List.mem_cons, List.not_mem_nil, or_false, not_or] at hw
  simp [Grammar.wordExpression, constantWords, hw]

theorem atom_of_word (hw : IsName w) (hskip : skip s = w ++ t) (ht : EndsWord t) :
    g.atom s = g.wordExpression (w ++ t) (String.ofList w) t := by
  have hword := hw.word?_append ht
  obtain ⟨c, v, rfl, hc, -⟩ := hw.exists_cons
  have hsigns : c ∉ ['"', '\'', '[', '\x7b', '(', '\x60', '.', '/', '#', '@'] :=
    not_mem_of_isWordStart hc (by decide)
  have hdigit : c.isDigit = false := by
    simpa using (Bool.and_eq_true_iff.1 hc).2
  simp only [List.mem_cons, List.not_mem_nil, or_false, not_or] at hsigns
  rw [Grammar.atom, hskip]
  rw [List.cons_append] at hword ⊢
  simp only [hsigns, hdigit, or_self, if_false, Bool.false_eq_true, hword]

/-- A name that is free stands for itself. -/
theorem atom_of_name (hw : IsName w) (hskip : skip s = w ++ t) (ht : EndsWord t)
    (hfree : String.ofList w ∉ reservedWords) :
    g.atom s = some (.identifier (String.ofList w), t) := by
  rw [atom_of_word g hw hskip ht, wordExpression_of_free g _ hfree]

/-- Selecting a name behind a point. -/
theorem selection_of_point {g' : List Char} (hg' : Gap g') (hw : IsName w) (ht : EndsWord t)
    (hskip : skip s = '.' :: (g' ++ (w ++ t))) :
    g.selection start s = some (.member (textBetween start t), t) := by
  have hname := hg'.skip_name hw t
  have hread := hw.skipWord?_append ht
  obtain ⟨c, v, hcons, -, hsharp⟩ :=
    hw.exists_head t (show ['#'].all (fun d => !isWordStart d) = true by decide)
  rw [Grammar.selection.eq_def, hskip]
  simp only [hname]
  rw [hcons] at hread ⊢
  split
  · next heq => exact absurd (List.mem_singleton.2 (List.cons.inj heq).1) hsharp
  · rw [hread]
    rfl

theorem Selections.endsWord (ht : Selections t) (hu : EndsWord u) : EndsWord (t ++ u) := by
  cases ht with
  | nil => exact hu
  | cons hg _ _ _ =>
      rw [List.append_assoc]
      exact endsWord_of_skip (hg.skip_append (by decide) _) (by decide) (by decide)

/-- What follows a name that is selected from is a point or follows the whole reference. -/
theorem Selections.exists_skip (ht : Selections t) {d : Char} {r : List Char}
    (hd : skip u = d :: r) (hne : d ≠ '=') : ∃ d r, skip (t ++ u) = d :: r ∧ d ≠ '=' := by
  cases ht with
  | nil => exact ⟨d, r, hd, hne⟩
  | cons hg _ _ _ =>
      rw [List.append_assoc]
      exact ⟨'.', _, hg.skip_append (by decide) _, by decide⟩

/-- A reader that goes on behind each selection makes a reference of the names that it reads. -/
theorem iterate_selections {f : Nat → Expr → List Char → Expr × List Char}
    (hf : ∀ n e s r e' u, skip s = '.' :: r → g.selection start s = some (e', u) →
      f (n + 1) e s = f n e' u)
    (ht : Selections t) (hu : EndsWord u) (n : Nat) (hn : t.length ≤ n) (e : Expr) :
    ∃ m, n ≤ m + t.length ∧
      f n e (t ++ u) = f m (if t = [] then e else .member (textBetween start u)) u := by
  induction ht generalizing n e with
  | nil => exact ⟨n, Nat.le_refl n, rfl⟩
  | @cons g₁ g₂ w t hg hg' hw ht ih =>
      simp only [List.length_append, List.length_cons] at hn ⊢
      obtain ⟨n, rfl⟩ : ∃ k, n = k + 1 := ⟨n - 1, by omega⟩
      have hskip : skip (g₁ ++ '.' :: (g₂ ++ (w ++ t)) ++ u) = '.' :: (g₂ ++ (w ++ (t ++ u))) := by
        have h := hg.skip_append (c := '.') (by decide) (g₂ ++ (w ++ (t ++ u)))
        simpa using h
      have hselection := selection_of_point g start hg' hw (ht.endsWord hu) hskip
      obtain ⟨m, hm, heq⟩ := ih n (by omega) (.member (textBetween start (t ++ u)))
      refine ⟨m, by omega, ?_⟩
      have hcons : g₁ ++ '.' :: (g₂ ++ (w ++ t)) ≠ [] := by simp
      rw [hf n e _ _ _ _ hskip hselection, heq, if_neg hcons]
      obtain rfl | hne := eq_or_ne t []
      · rfl
      · rw [if_neg hne]

theorem suffixes_selections (ht : Selections t) (hu : EndsWord u) (n : Nat) (hn : t.length ≤ n)
    (e : Expr) :
    ∃ m, n ≤ m + t.length ∧ g.suffixes start n e (t ++ u) =
      g.suffixes start m (if t = [] then e else .member (textBetween start u)) u := by
  refine iterate_selections g start (fun n e s r e' u hskip hselection => ?_) ht hu n hn e
  have hpoint : skip ('.' :: r) = '.' :: r := skip_of_startsLexeme (by decide) r
  have hsuffix : g.suffix start e s = some (e', u) := by
    rw [Grammar.selection.eq_def, hskip] at hselection
    rw [Grammar.suffix, hskip]
    simp only [Char.reduceEq, if_false, true_or, if_true]
    rw [Grammar.selection.eq_def, hpoint]
    exact hselection
  rw [Grammar.suffixes, hsuffix]

theorem selections_selections (ht : Selections t) (hu : EndsWord u) (n : Nat) (hn : t.length ≤ n)
    (e : Expr) :
    ∃ m, n ≤ m + t.length ∧ g.selections start n e (t ++ u) =
      g.selections start m (if t = [] then e else .member (textBetween start u)) u := by
  refine iterate_selections g start (fun n e s r e' u _ hselection => ?_) ht hu n hn e
  rw [Grammar.selections, hselection]

/-- A reference is a free name and the names that are selected behind it. -/
theorem SpellsReference.exists_name {e : Expr} (h : SpellsReference e s) :
    ∃ w t, s = w ++ t ∧ IsName w ∧ String.ofList w ∉ reservedWords ∧ Selections t ∧
      ∀ u, (if t = [] then .identifier (String.ofList w) else .member (textBetween (s ++ u) u)) =
        e := by
  cases h with
  | identifier hw hfree => exact ⟨s, [], by simp, hw, hfree, .nil, fun _ => rfl⟩
  | @member w t hw hfree ht hne =>
      refine ⟨w, t, rfl, hw, hfree, ht, fun u => ?_⟩
      rw [if_neg hne, textBetween, between_append]

end References

/-! ### Arguments and members -/

section Items

variable {g : Grammar} {k : Nat}

theorem depth_ofDepth (dialect : Dialect) (line : List Char → Nat) (n : Nat) :
    (Grammar.ofDepth dialect line n).depth = n := by
  induction n with
  | zero => rfl
  | succ n ih => exact congrArg (· + 1) ih

/-- A grammar that reads all expressions that are written in less than `k` characters. -/
def Grammar.Reads (g : Grammar) (k : Nat) : Prop :=
  ∀ e s, Spells e s → s.length < k → ∀ gap rest, Gap gap → Closes rest →
    g.expression .inBrackets (gap ++ (s ++ rest)) = some (e, rest)

theorem SpellsReference.opens {e : Expr} {s : List Char} (h : SpellsReference e s)
    (t : List Char) : Opens (s ++ t) := by
  cases h with
  | identifier hw _ => exact hw.opens t
  | member hw _ _ _ =>
      rw [List.append_assoc]
      exact hw.opens _

theorem SpellsKey.opens {name : String} {s : List Char} (h : SpellsKey name s) (t : List Char) :
    Opens (s ++ t) := by
  cases h with
  | word hw => exact hw.opens t
  | string hs => exact hs.opens t

theorem Spells.opens {e : Expr} {s : List Char} (h : Spells e s) (t : List Char) :
    Opens (s ++ t) := by
  cases h with
  | string hs => exact hs.opens t
  | reference he => exact he.opens t
  | array _ => exact ⟨'[', _, rfl, Or.inl (by decide)⟩
  | object _ => exact ⟨'\x7b', _, rfl, Or.inl (by decide)⟩
  | call hcallee _ _ =>
      rw [List.append_assoc]
      exact hcallee.opens _
  | construction _ _ _ _ _ => exact IsName.opens (w := "new".toList) (by decide) _

theorem SpellsMember.opens {Value : Expr → List Char → Prop} {p : Property} {s : List Char}
    (h : SpellsMember Value p s) (t : List Char) : Opens (s ++ t) := by
  cases h with
  | mk hk _ _ _ =>
      rw [List.append_assoc]
      exact hk.opens _

/-- An item of a list is not spread. -/
theorem Opens.symbols?_eq_none {s : List Char} (h : Opens s) : symbols? "..." s = none := by
  obtain ⟨c, r, rfl, hself, hsign⟩ := h.exists_cons
  have hpoint : c ≠ '.' := by
    rintro rfl
    exact hsign (by decide)
  exact symbols?_of_ne (c := '.') (u := ['.', '.']) (by decide) hself hpoint

theorem argument_of_spells (hg : g.Reads k) {e : Expr} {s : List Char} (h : Spells e s)
    (hs : s.length < k) {u : List Char} (hu : Closes u) :
    g.argument (s ++ u) = some (e, u) := by
  rw [Grammar.argument, (h.opens u).symbols?_eq_none]
  exact hg e s h hs [] u .nil hu

/-- The items of an array and the arguments of a call are read one by one. -/
theorem items_of_spells (hg : g.Reads k) {close : Char} (hclose : close ∈ closers)
    (hcomma : close ≠ ',') {items : List Expr} {t : List Char}
    (h : SpellsList Spells close items t) (ht : t.length ≤ k) (hdepth : t.length ≤ g.depth)
    (rest : List Char) : readList close g.argument g.depth (t ++ rest) = some (items, rest) :=
  readList_spellsList hclose hcomma (fun _ s hs => by simpa using hs.opens [])
    (fun _ _ hs hlt _ hu => argument_of_spells hg hs hlt hu) h ht g.depth hdepth rest

theorem arguments_of_spells (hg : g.Reads k) {arguments : List Expr} {s t : List Char}
    (h : SpellsList Spells ')' arguments t) (ht : t.length ≤ k) (hdepth : t.length ≤ g.depth)
    {rest : List Char} (hskip : skip s = '(' :: (t ++ rest)) :
    g.arguments s = some (arguments, rest) := by
  rw [Grammar.arguments, symbol?_of_skip hskip, if_pos rfl]
  exact items_of_spells hg (by decide) (by decide) h ht hdepth rest

/-- The name of a member is skipped up to its end, and gives the name. -/
theorem key_of_spells (g : Grammar) {name : String} {s : List Char} (h : SpellsKey name s)
    {u : List Char} (hu : EndsWord u) :
    g.key (s ++ u) = some u ∧ keyName? (s ++ u) u = some name := by
  cases h with
  | word hw =>
      have hread := hw.skipWord?_append hu
      have hskip := hw.skip_append u
      have hbetween := between_append s u
      obtain ⟨c, v, rfl, hc, -⟩ := hw.exists_cons
      have hsigns : c ∉ ['"', '\'', '[', '#', '.'] := not_mem_of_isWordStart hc (by decide)
      have hdigit : c.isDigit = false := by
        simpa using (Bool.and_eq_true_iff.1 hc).2
      simp only [List.mem_cons, List.not_mem_nil, or_false, not_or] at hsigns
      rw [List.cons_append] at hskip hread hbetween ⊢
      constructor
      · rw [Grammar.key, hskip]
        simp only [hsigns, hdigit, or_self, false_and, if_false, Bool.false_eq_true, hread]
      · rw [keyName?, hskip]
        simp only [hsigns, or_self, if_false, textBetween, hbetween]
  | string hs =>
      have hvalue := hs.value_eq
      obtain ⟨quote, hquote, body, rfl, hclose⟩ := hs.exists_quote
      have hstarts : ∀ c ∈ ['"', '\''], startsLexeme c = true := forall_sign (by decide)
      have hskip := skip_of_startsLexeme (hstarts quote hquote) (body ++ u)
      simp only [List.mem_cons, List.not_mem_nil, or_false] at hquote
      constructor
      · rw [List.cons_append, Grammar.key, hskip]
        simp only [hquote, if_true, hclose]
      · rw [List.cons_append, keyName?, hskip]
        simp only [hquote, if_true]
        rw [← List.cons_append, between_append, hvalue]

/-- A member of an object is read by its name and its value. -/
theorem property_of_spells (hg : g.Reads k) {p : Property} {s : List Char}
    (h : SpellsMember Spells p s) (hs : s.length < k) {u : List Char} (hu : Closes u) :
    g.property (s ++ u) = some (p, u) := by
  cases h with
  | @mk name e key g₁ g₂ v hkey hg₁ hg₂ he =>
      have hopens := hkey.opens (g₁ ++ ':' :: (g₂ ++ (v ++ u)))
      have hcolon : skip (g₁ ++ ':' :: (g₂ ++ (v ++ u))) = ':' :: (g₂ ++ (v ++ u)) :=
        hg₁.skip_append (by decide) _
      have hend : EndsWord (g₁ ++ ':' :: (g₂ ++ (v ++ u))) :=
        endsWord_of_skip hcolon (by decide) (by decide)
      obtain ⟨hskipped, hname⟩ := key_of_spells g hkey hend
      have hvalue := hg e v he (by simp at hs; omega) g₂ u hg₂ hu
      have hpair : g.pair (key ++ (g₁ ++ ':' :: (g₂ ++ (v ++ u)))) = some (.named name e, u) := by
        rw [Grammar.pair, hskipped]
        simp [symbol?_of_skip hcolon, hvalue, hname, Property.named]
      have hproperty : g.property (key ++ (g₁ ++ ':' :: (g₂ ++ (v ++ u)))) =
          some (.named name e, u) := by
        rw [Grammar.property, hopens.symbols?_eq_none, hpair]
      simpa using hproperty

/-- The members of an object are read one by one. -/
theorem members_of_spells (hg : g.Reads k) {members : List Property} {t : List Char}
    (h : SpellsList (SpellsMember Spells) '\x7d' members t) (ht : t.length ≤ k)
    (hdepth : t.length ≤ g.depth) (rest : List Char) :
    readList '\x7d' g.property g.depth (t ++ rest) = some (members, rest) :=
  readList_spellsList (by decide) (by decide) (fun _ s hs => by simpa using hs.opens [])
    (fun _ _ hs hlt _ hu => property_of_spells hg hs hlt hu) h ht g.depth hdepth rest

end Items

/-! ### Expressions -/

section Expressions

variable {g : Grammar} {k : Nat} {e : Expr} {s gap rest : List Char}

/-- A reference is read up to its end, and its suffixes are read behind it. -/
theorem readExpression_of_reference (hdepth : s.length ≤ g.depth) (hgap : Gap gap)
    (h : SpellsReference e s) {u : List Char} {d : Char} {r : List Char} (hd : skip u = d :: r)
    (hne : d ≠ '=') (hu : EndsWord u) {e' : Expr} (hrest : Closes rest)
    (hsuffixes : ∀ m, g.depth ≤ m + s.length → g.suffixes (s ++ u) m e u = (e', rest)) :
    g.readExpression .inBrackets (gap ++ (s ++ u)) = some (e', rest) := by
  obtain ⟨w, t, rfl, hw, hfree, ht, he⟩ := h.exists_name
  have hreserved : ∀ v ∈ ["yield", "async", "typeof", "void", "delete", "await", "new"],
      v ∈ reservedWords := by
    decide
  -- None of the words that begin an operator or a construction is the name.
  have hword (v : String)
      (hv : v ∈ ["yield", "async", "typeof", "void", "delete", "await", "new"]) :
      String.ofList w ≠ v := by
    rintro rfl
    exact hfree (hreserved _ hv)
  have htu := ht.endsWord hu
  have hskip : skip (gap ++ (w ++ t ++ u)) = w ++ (t ++ u) := by
    rw [List.append_assoc, hgap.skip_name hw]
  have hprimary : g.primary (w ++ (t ++ u)) = some (.identifier (String.ofList w), t ++ u) := by
    rw [Grammar.primary, keyword?_of_name hw (hw.skip_append _) htu,
      if_neg (hword "new" (by decide)), atom_of_name g hw (hw.skip_append _) htu hfree]
  have hlength : t.length ≤ g.depth := by
    rw [List.length_append] at hdepth
    omega
  obtain ⟨m, hm, hread⟩ := suffixes_selections g (w ++ (t ++ u)) ht hu g.depth hlength
    (.identifier (String.ofList w))
  have hm' : g.depth ≤ m + (w ++ t).length := by
    rw [List.length_append]
    omega
  have hfinal := hsuffixes m hm'
  rw [List.append_assoc] at hfinal
  obtain ⟨d', r', hd', hne'⟩ := ht.exists_skip hd hne
  have hnext := not_arrow_of_skip hd' hne'
  refine readExpression_of_name g hw hskip htu ?_ hnext hprimary ?_ (hrest.endsExpression _)
  · exact fun h => hword _ (List.mem_append_left ["new"] h) rfl
  · have he' := he u
    rw [List.append_assoc] at he'
    rw [hread, he', hfinal]

theorem suffix_of_arguments (g : Grammar) {start r : List Char} {arguments : List Expr}
    (hskip : skip s = '(' :: r) (h : g.arguments ('(' :: r) = some (arguments, rest)) :
    g.suffix start e s = some (.call e arguments, rest) := by
  rw [Grammar.suffix, hskip]
  simp [h]

theorem selections_of_arguments (g : Grammar) {start r : List Char} (hskip : skip s = '(' :: r)
    (n : Nat) : g.selections start n e s = (e, s) := by
  have hselection : g.selection start s = none := by
    rw [Grammar.selection.eq_def, hskip]
    rfl
  cases n with
  | zero => rfl
  | succ n => rw [Grammar.selections, hselection]

/-- What follows `new` is a reference and its arguments. -/
theorem newTail_of_reference (hdepth : s.length < g.depth) (hgap : Gap gap)
    (h : SpellsReference e s) {u r start : List Char} (hskip : skip u = '(' :: r)
    {arguments : List Expr} (hread : g.arguments u = some (arguments, rest)) :
    g.newTail start g.depth (gap ++ (s ++ u)) = some (.call e arguments, rest) := by
  obtain ⟨w, t, rfl, hw, hfree, ht, he⟩ := h.exists_name
  have htu := ht.endsWord (endsWord_of_skip hskip (by decide) (by decide))
  have hname : skip (gap ++ (w ++ t ++ u)) = w ++ (t ++ u) := by
    rw [List.append_assoc, hgap.skip_name hw]
  have hnew : String.ofList w ≠ "new" := by
    intro h
    rw [h] at hfree
    exact hfree (by decide)
  have hatom : g.atom (gap ++ (w ++ t ++ u)) =
      some (.identifier (String.ofList w), t ++ u) :=
    atom_of_name g hw hname htu hfree
  have hpoint : symbol? '.' (gap ++ (w ++ t ++ u)) = none := symbol?_of_name hw hname (by decide)
  have htype : g.typeArguments u = none := by
    rw [Grammar.typeArguments, symbol?_of_skip hskip]
    rfl
  rw [List.length_append] at hdepth
  obtain ⟨n, hn⟩ : ∃ n, g.depth = n + 1 := ⟨g.depth - 1, by omega⟩
  obtain ⟨m, -, hselections⟩ := selections_selections g (w ++ (t ++ u)) ht
    (endsWord_of_skip hskip (by decide) (by decide)) g.depth (by omega)
    (.identifier (String.ofList w))
  have he' := he u
  rw [List.append_assoc] at he'
  rw [hn, Grammar.newTail, hpoint, keyword?_of_name hw hname htu, if_neg hnew]
  simp only [Option.bind_none, hatom, hname, hselections, he', selections_of_arguments g hskip,
    skipOptional, htype, Option.getD_none, hread]

theorem readExpression_of_string {value : String} (h : SpellsString value s) (hgap : Gap gap)
    (hrest : Closes rest) :
    g.readExpression .inBrackets (gap ++ (s ++ rest)) = some (.string value, rest) := by
  have hvalue := h.value_eq
  obtain ⟨quote, hquote, body, rfl, hclose⟩ := h.exists_quote
  have hopen : ∀ d ∈ ['"', '\''], d ∈ ['"', '\'', '[', '\x7b'] ∧ startsLexeme d = true :=
    forall_sign (by decide)
  refine readExpression_of_atom g hgap (hopen quote hquote).1 ?_ hrest
  rw [Grammar.atom, skip_of_startsLexeme (hopen quote hquote).2]
  simp only [List.mem_cons, List.not_mem_nil, or_false] at hquote
  simp only [hquote, if_true, hclose, Option.map_some]
  rw [← List.cons_append, between_append, hvalue]

theorem readExpression_of_array (hg : g.Reads k) (hdepth : k ≤ g.depth) {items : List Expr}
    {t : List Char} (h : SpellsList Spells ']' items t) (ht : t.length ≤ k) (hgap : Gap gap)
    (hrest : Closes rest) :
    g.readExpression .inBrackets (gap ++ ('[' :: t ++ rest)) = some (.array items, rest) := by
  have hread := items_of_spells hg (by decide) (by decide) h ht (ht.trans hdepth) rest
  refine readExpression_of_atom g hgap (by decide) ?_ hrest
  rw [Grammar.atom, skip_of_startsLexeme (by decide)]
  simp [hread]

theorem readExpression_of_object (hg : g.Reads k) (hdepth : k ≤ g.depth)
    {members : List Property} {t : List Char}
    (h : SpellsList (SpellsMember Spells) '\x7d' members t)
    (ht : t.length ≤ k) (hgap : Gap gap) (hrest : Closes rest) :
    g.readExpression .inBrackets (gap ++ ('\x7b' :: t ++ rest)) =
      some (.object members, rest) := by
  have hread := members_of_spells hg h ht (ht.trans hdepth) rest
  refine readExpression_of_atom g hgap (by decide) ?_ hrest
  rw [Grammar.atom, skip_of_startsLexeme (by decide)]
  simp [hread]

/-- Arguments behind a reference make a call of it. -/
theorem readExpression_of_call (hdepth : s.length < g.depth) (hgap : Gap gap)
    (h : SpellsReference e s) {u r : List Char} (hopen : skip u = '(' :: r) {arguments : List Expr}
    (hread : g.arguments ('(' :: r) = some (arguments, rest)) (hrest : Closes rest) :
    g.readExpression .inBrackets (gap ++ (s ++ u)) = some (.call e arguments, rest) := by
  refine readExpression_of_reference hdepth.le hgap h hopen (by decide)
    (endsWord_of_skip hopen (by decide) (by decide)) hrest fun m hm => ?_
  obtain ⟨m, rfl⟩ : ∃ n, m = n + 1 := ⟨m - 1, by omega⟩
  rw [Grammar.suffixes, suffix_of_arguments g hopen hread]
  exact hrest.suffixes_eq g _ m _

/-- Arguments behind the word `new` and a reference make a construction, which is a call too. -/
theorem readExpression_of_construction (hdepth : s.length < g.depth) (hgap : Gap gap)
    (h : SpellsReference e s) {g' u r : List Char} (hg' : Gap g') (hne : g' ≠ [])
    (hopen : skip u = '(' :: r) {arguments : List Expr}
    (hread : g.arguments u = some (arguments, rest)) (hrest : Closes rest) :
    g.readExpression .inBrackets (gap ++ ("new".toList ++ (g' ++ (s ++ u)))) =
      some (.call e arguments, rest) := by
  have hnew : IsName "new".toList := by decide
  have hend : EndsWord (g' ++ (s ++ u)) := hg'.endsWord hne _
  have hskip := hgap.skip_name hnew (g' ++ (s ++ u))
  have hprimary : g.primary ("new".toList ++ (g' ++ (s ++ u))) =
      some (.call e arguments, rest) := by
    rw [Grammar.primary, keyword?_of_name hnew (hnew.skip_append _) hend, if_pos (by decide)]
    exact newTail_of_reference hdepth hg' h hopen hread
  obtain ⟨c, v, hcons, hself, hsign⟩ := (h.opens u).exists_cons
  have hskip' : skip (g' ++ (s ++ u)) = c :: v := by
    rw [hcons]
    exact hg'.skip_of_skip hself
  have hne' : c ≠ '=' := by
    rintro rfl
    exact hsign (by decide)
  have hnext := not_arrow_of_skip hskip' hne'
  exact readExpression_of_name g hnew hskip hend (by decide) hnext hprimary
    (hrest.suffixes_eq g _ g.depth _) (hrest.endsExpression _)

/-- However an expression is written, it is read as what it is. -/
theorem readExpression_of_spells (hg : g.Reads k) (hdepth : k ≤ g.depth) (h : Spells e s)
    (hs : s.length ≤ k) (hgap : Gap gap) (hrest : Closes rest) :
    g.readExpression .inBrackets (gap ++ (s ++ rest)) = some (e, rest) := by
  cases h with
  | string hstring => exact readExpression_of_string hstring hgap hrest
  | reference he =>
      obtain ⟨d, r, hd, hmem⟩ := id hrest
      have hne : d ≠ '=' := by
        rintro rfl
        exact absurd hmem (by decide)
      exact readExpression_of_reference (hs.trans hdepth) hgap he hd hne hrest.endsWord hrest
        fun m _ => hrest.suffixes_eq g _ m e
  | array ht =>
      exact readExpression_of_array hg hdepth ht (Nat.le_of_succ_le hs) hgap hrest
  | object ht =>
      exact readExpression_of_object hg hdepth ht (Nat.le_of_succ_le hs) hgap hrest
  | @call callee arguments s g' t hcallee hg' ht =>
      simp only [List.length_append, List.length_cons] at hs
      have hopen : skip (g' ++ '(' :: (t ++ rest)) = '(' :: (t ++ rest) :=
        hg'.skip_append (by decide) _
      have hread := arguments_of_spells hg ht (by omega) (by omega)
        (skip_of_startsLexeme (c := '(') (by decide) (t ++ rest))
      have hcall := readExpression_of_call (by omega) hgap hcallee hopen hread hrest
      simpa using hcall
  | @construction callee arguments g₁ s g₂ t hg₁ hne hcallee hg₂ ht =>
      simp only [List.length_append, List.length_cons] at hs
      have hopen : skip (g₂ ++ '(' :: (t ++ rest)) = '(' :: (t ++ rest) :=
        hg₂.skip_append (by decide) _
      have hread := arguments_of_spells hg ht (by omega) (by omega) hopen
      have hcall :=
        readExpression_of_construction (by omega) hgap hcallee hg₁ hne hopen hread hrest
      simpa using hcall

/-- The grammar of depth `n` reads all expressions that are written in less than `n` characters. -/
theorem reads_ofDepth (dialect : Dialect) (line : List Char → Nat) (n : Nat) :
    (Grammar.ofDepth dialect line n).Reads n := by
  induction n with
  | zero => exact fun _ s _ hs => absurd hs (Nat.not_lt_zero _)
  | succ n ih =>
      intro e s h hs gap rest hgap hrest
      exact readExpression_of_spells ih (depth_ofDepth dialect line n).ge h (Nat.le_of_lt_succ hs)
        hgap hrest

end Expressions

end DecoratorGraph.Script
