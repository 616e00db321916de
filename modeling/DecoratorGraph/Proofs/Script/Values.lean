import DecoratorGraph.Proofs.Script.Operands

/-!
# Reading values

Marks, types and operators are read behind an operand as long as one follows, and then what makes an
assignment, a condition or a function of it: an expression is read up to where it ends
(`readExpression_of_form`).
-/

namespace DecoratorGraph.Script

variable {F : Forms} {g : Grammar} {k : Nat} {s t r u v : List Char} {c d : Char} {place : Place}
variable {within : Bool}

/-! ### Marks and types behind an operand -/

theorem selection_of_mark (g : Grammar) {start : List Char} (hskip : skip s = '!' :: r)
    (hcross : crossesLine s = false) (hnot : r.head? ≠ some '=') :
    g.selection start s = some (otherBetween "non_null_expression" start r, r) := by
  rw [Grammar.selection.eq_def, hskip]
  simp [hcross, hnot]

/-- A sign with which texts begin only if another one follows it. -/
theorem firstAhead?_of_next {texts : List String}
    (htexts : ∀ text ∈ texts, text.toList ≠ [] ∧
      (text.toList.head? = some d → text.toList.tail.head? = some c))
    (hnot : r.head? ≠ some c) : firstAhead? texts (d :: r) = none := by
  refine firstAhead?_eq_none fun text htext hprefix => hnot ?_
  obtain ⟨hne, hsign⟩ := htexts text htext
  cases hcons : text.toList with
  | nil => exact absurd hcons hne
  | cons e u =>
      rw [hcons] at hsign hprefix
      obtain ⟨rfl, v, rfl⟩ := List.cons_prefix_cons.1 hprefix
      have hhead : u.head? = some c := hsign rfl
      rw [List.head?_append, hhead]
      rfl

/-- A mark and the sign of a condition are no operators. -/
theorem binaryOperator?_of_next (hd : (d, c) ∈ [('!', '='), ('?', '?')]) (hskip : skip s = d :: r)
    (hnot : r.head? ≠ some c) (place : Place) :
    assignment? s = none ∧ binaryOperator? place s = none := by
  have htexts : ∀ p ∈ [('!', '='), ('?', '?')], ∀ text ∈ compoundAssignments ++ operatorSigns,
      text.toList ≠ [] ∧
        (text.toList.head? = some p.1 → text.toList.tail.head? = some p.2) := by
    decide
  have hsigns : ∀ p ∈ [('!', '='), ('?', '?')],
      p.1 ≠ '=' ∧ isWordStart p.1 = false ∧ p.1 ≠ '\\' ∧ p.1 ≠ '+' ∧ p.1 ≠ '-' := by
    decide
  obtain ⟨hequals, hstart, hb, hplus, hminus⟩ := hsigns _ hd
  have hcompound : firstAhead? compoundAssignments (d :: r) = none :=
    firstAhead?_of_next (fun text htext => htexts _ hd text (List.mem_append_left _ htext)) hnot
  have hoperator : firstAhead? operatorSigns (d :: r) = none :=
    firstAhead?_of_next (fun text htext => htexts _ hd text (List.mem_append_right _ htext)) hnot
  have hassignment : assignment? s = none := by
    rw [assignment?, hskip, hcompound]
    simp [hequals]
  have hstep : isStep (d :: r) = false := by
    rw [isStep.eq_def]
    split <;> simp_all
  refine ⟨hassignment, ?_⟩
  rw [binaryOperator?, hassignment, hskip, hoperator, hstep, word?_of_sign hstart hb]
  rfl

theorem skip_operatorWord {gap : List Char} (hgap : Gap gap) {w : String}
    (hw : w ∈ ["as", "satisfies"]) (s : List Char) :
    skip (gap ++ (w.toList ++ s)) = w.toList ++ s ∧ IsName w.toList := by
  have hname : IsName w.toList := isName_of_mem (by decide) hw
  exact ⟨hgap.skip_name hname s, hname⟩

theorem typeOperator?_of_word (place : Place) {gap : List Char} (hgap : Gap gap)
    (hline : ∀ c ∈ gap, c ∉ lineTerminators) {w : String} (hw : w ∈ ["as", "satisfies"])
    (hend : EndsWord s) :
    ∃ kind, typeOperator? place (gap ++ (w.toList ++ s)) = some (kind, s) := by
  obtain ⟨hskip, hname⟩ := skip_operatorWord hgap hw _
  have hcross := crossesLine_of_inline hgap hline (hname.skip_append s)
  rw [typeOperator?, hcross, hskip, hname.word?_append hend, String.ofList_toList]
  simp only [List.mem_cons, List.not_mem_nil, or_false] at hw
  obtain rfl | rfl := hw
  · exact ⟨_, rfl⟩
  · exact ⟨_, rfl⟩

theorem Assertions.endsType (h : Assertions F s t) (ht : EndsType t) : EndsType s := by
  cases h with
  | nil => exact ht
  | cons hgap hline hw hend _ _ =>
      obtain ⟨hskip, hname⟩ := skip_operatorWord hgap hw _
      have hwords : ∀ w ∈ ["as", "satisfies"], w ≠ "extends" ∧ w ≠ "is" := by decide
      refine endsType_of_name hskip hname hend ?_ (Or.inr ?_) <;> rw [String.ofList_toList]
      · exact (hwords _ hw).1
      · exact (hwords _ hw).2

theorem Behind.endsTarget (h : Behind place s t) : EndsTarget s := by
  obtain ⟨hend, F, r, -, hm, hrest⟩ := h
  cases hm with
  | cons hgap _ hnot _ _ =>
      refine endsTarget_of_skip (hgap.skip_append (by decide) _) (by decide) rfl ?_ ?_
      · exact fun hd => absurd hd (by decide)
      · exact fun hd => absurd hd (by decide)
  | nil =>
      obtain rfl | ⟨ha, -⟩ := hrest
      · exact hend.toEndsTarget
      · cases ha with
        | nil => exact hend.toEndsTarget
        | cons hgap hline hw hend _ _ =>
            obtain ⟨hskip, hname⟩ := skip_operatorWord hgap hw _
            exact endsTarget_of_name hskip hname

section Iterate

variable {σ α : Type} {f : Nat → σ → List Char → α} {start : List Char}
variable (hg : g.ReadsForms k) (hF : F.IsLevel)

include hg hF

/-- A loop that takes up one type of a value in a step takes up all of them. -/
theorem iterate_assertions
    (htype : ∀ n a s kind r u, next? s ≠ some '!' → typeOperator? place s = some (kind, r) →
      g.type r = some u → ∃ a', f (n + 1) a s = f n a' u)
    (h : Assertions F s t) (hs : s.length ≤ k) (ht : EndsType t) (n : Nat) (hn : s.length ≤ n)
    (a : σ) : t.length ≤ s.length ∧ ∃ m a', t.length ≤ m ∧ f n a s = f m a' t := by
  induction h generalizing n a with
  | nil => exact ⟨Nat.le_refl _, n, a, hn, rfl⟩
  | @cons gap w s r t hgap hline hw hend h ha ih =>
      obtain ⟨hskip, hname⟩ := skip_operatorWord hgap hw _
      obtain ⟨kind, hkind⟩ := typeOperator?_of_word place hgap hline hw hend
      have hpos := hname.length_pos
      simp only [List.length_append] at hs hn
      have hread := hg.type hF h (by omega) (ha.endsType ht)
      have hle := (hg.consumes.type s).length_le hread
      have hnext : next? (gap ++ (w.toList ++ s)) ≠ some '!' := by
        obtain ⟨c, v, hcons, -, hsign⟩ := hname.exists_head s
          (show ['!'].all (fun d => !isWordStart d) = true by decide)
        rw [next?, hskip, hcons]
        exact fun hc => hsign (List.mem_singleton.2 (Option.some.inj hc))
      obtain ⟨n, rfl⟩ : ∃ m, n = m + 1 := ⟨n - 1, by omega⟩
      obtain ⟨a', ha'⟩ := htype n a _ kind s r hnext hkind hread
      obtain ⟨hlength, hrest⟩ := ih (by omega) ht n (by omega) a'
      rw [ha']
      simp only [List.length_append]
      exact ⟨by omega, hrest⟩

end Iterate

/-- A loop that takes up one mark or one type of a value in a step takes up all that stands behind
an operand. -/
theorem Behind.iterate {σ α : Type} {f : Nat → σ → List Char → α}
    (hg : g.ReadsForms k) (start : List Char)
    (hmark : ∀ n a s r e, next? s = some '!' → typeOperator? place s = none →
      binaryOperator? place s = none → g.selection start s = some (e, r) →
      ∃ a', f (n + 1) a s = f n a' (g.suffixes start g.depth e r).2)
    (htype : ∀ n a s kind r u, next? s ≠ some '!' → typeOperator? place s = some (kind, r) →
      g.type r = some u → ∃ a', f (n + 1) a s = f n a' u)
    (h : Behind place s t) (hs : s.length ≤ k) (n : Nat) (hn : s.length ≤ n) (a : σ) :
    t.length ≤ s.length ∧ ∃ m a', t.length ≤ m ∧ f n a s = f m a' t := by
  have hdepth := hg.depth
  obtain ⟨hend, F, r, hF, hm, hrest⟩ := h
  induction hm generalizing n a with
  | nil =>
      obtain rfl | ⟨ha, ht⟩ := hrest
      · exact ⟨Nat.le_refl _, n, a, hn, rfl⟩
      · exact iterate_assertions hg hF htype ha hs ht n hn a
  | @cons gap s u r hgap hline hnot hsuffixes hm ih =>
      have hskip : skip (gap ++ '!' :: s) = '!' :: s := hgap.skip_append (by decide) s
      have hcross :=
        crossesLine_of_inline hgap hline (skip_of_startsLexeme (c := '!') (by decide) s)
      simp only [List.length_append, List.length_cons] at hs hn
      have hends : EndsTarget u := Behind.endsTarget ⟨hend, F, r, hF, hm, hrest⟩
      obtain ⟨n, rfl⟩ : ∃ m, n = m + 1 := ⟨n - 1, by omega⟩
      obtain ⟨a', ha'⟩ := hmark n a _ s _ (by rw [next?, hskip]; rfl)
        (typeOperator?_of_sign hskip (by decide) (by decide))
        (binaryOperator?_of_next (by decide) hskip hnot place).2
        (selection_of_mark g hskip hcross hnot)
      obtain ⟨e, he⟩ := exists_suffixes_of_form hg hF hsuffixes (by omega) hends start g.depth
        (by omega) (otherBetween "non_null_expression" start s)
      have hsuffix := suffixes_suffix hg.consumes start g.depth
        (otherBetween "non_null_expression" start s) s
      rw [he] at hsuffix
      have hle : u.length ≤ s.length := hsuffix.length_le
      obtain ⟨hlength, hnext⟩ := ih (by omega) n (by omega) a' hrest
      rw [ha', he]
      simp only [List.length_append, List.length_cons]
      exact ⟨by omega, hnext⟩

/-- Behind the operand of `await` everything up to the end of the operand is skipped. -/
theorem awaitTail_of_behind (hg : g.ReadsForms k) (h : Behind place s t) (hs : s.length ≤ k)
    (start : List Char) : g.awaitTail place start g.depth s = t := by
  have hdepth := hg.depth
  obtain ⟨-, m, -, -, heq⟩ := Behind.iterate
    (f := fun n (_ : Unit) s => g.awaitTail place start n s) hg start
    (fun n _ s r e hnext htype _ hread =>
      ⟨(), by simp only [Grammar.awaitTail, htype, hnext, if_true, hread]⟩)
    (fun n _ s kind r u _ htype hread => ⟨(), by simp only [Grammar.awaitTail, htype, hread]⟩)
    h hs g.depth (by omega) ()
  rw [heq]
  cases m with
  | zero => rfl
  | succ m =>
      rw [Grammar.awaitTail, h.1.typeOperator]
      by_cases hnext : next? t = some '!'
      · simp only [hnext, if_true, h.1.selection_eq_none g hnext]
      · simp only [hnext, if_false]

/-- Behind an operand a chain of operators goes on where the marks and types end. -/
theorem exists_chainTail_of_behind (hg : g.ReadsForms k) (h : Behind place s t) (hs : s.length ≤ k)
    (start : List Char) (n : Nat) (hn : s.length ≤ n) (power : Bool) (e : Expr) :
    t.length ≤ s.length ∧ ∃ m power' e', t.length ≤ m ∧
      g.chainTail place start n power e s = g.chainTail place start m power' e' t := by
  obtain ⟨hle, m, ⟨power', e'⟩, hm, heq⟩ := Behind.iterate
    (f := fun n (a : Bool × Expr) s => g.chainTail place start n a.1 a.2 s) hg start
    (fun n a s r e hnext _ hbinary hread => by
      rw [Prod.exists]
      simp only [Grammar.chainTail, hnext, hbinary, Option.isNone_none, and_self, if_true, hread]
      exact ⟨_, _, rfl⟩)
    (fun n a s kind r u hnext htype hread => by
      rw [Prod.exists]
      simp only [Grammar.chainTail, hnext, false_and, if_false, htype, hread]
      exact ⟨_, _, rfl⟩)
    h hs n hn (power, e)
  exact ⟨hle, m, power', e', hm, heq⟩

/-! ### Where operands begin -/

/-- A suffix begins with a sign that no item of a list goes on with, or with a mark and a point. -/
theorem IsSuffix.exists_sign (h : IsSuffix F s t) :
    ∃ d r, skip s = d :: r ∧ (d ∉ '?' :: itemSigns ∨ d = '?' ∧ r.head? = some '.') := by
  cases h with
  | member hp _ => exact ⟨'.', _, hp.skip_eq (by decide), Or.inl (by decide)⟩
  | hidden hp _ _ _ => exact ⟨'.', _, hp.skip_eq (by decide), Or.inl (by decide)⟩
  | optional hgap _ | optionalIndex hgap _ _ _ | optionalCall hgap _ =>
      exact ⟨'?', _, hgap.skip_append (by decide) _, Or.inr ⟨rfl, rfl⟩⟩
  | tagged hgap _ => exact ⟨'\x60', _, hgap.skip_append (by decide) _, Or.inl (by decide)⟩
  | index ho _ _ => exact ⟨'[', _, ho.skip_eq (by decide), Or.inl (by decide)⟩
  | call h =>
      obtain ⟨_, ho, -, -⟩ := h.length_lt
      exact ⟨'(', _, ho.skip_eq (by decide), Or.inl (by decide)⟩
  | genericCall htypes _ =>
      obtain ⟨_, ho, -, -⟩ := htypes.length_lt
      exact ⟨'<', _, ho.skip_eq (by decide), Or.inl (by decide)⟩
  | «instance» htypes _ =>
      obtain ⟨_, ho, -, -⟩ := htypes.length_lt
      exact ⟨'<', _, ho.skip_eq (by decide), Or.inl (by decide)⟩
  | @step gap c t hgap _ hc =>
      have hsigns : ∀ c ∈ ['+', '-'], startsLexeme c = true ∧ c ∉ '?' :: itemSigns :=
        forall_sign (by decide)
      exact ⟨c, c :: t, hgap.skip_append (hsigns c hc).1 _, Or.inl (hsigns c hc).2⟩

theorem Suffixes.arrow_eq_none (h : Suffixes F s t) (ht : symbols? "=>" t = none) :
    symbols? "=>" s = none := by
  cases h with
  | nil => exact ht
  | cons h _ =>
      obtain ⟨d, r, hskip, hd | ⟨rfl, -⟩⟩ := h.exists_sign
      · exact not_arrow_of_skip hskip (by rintro rfl; exact hd (by decide))
      · exact not_arrow_of_skip hskip (by decide)

/-- The word `function` is the next lexeme, and no arrow follows it. -/
def BeginsFunction (s : List Char) : Prop :=
  ∃ gap r, s = gap ++ ("function".toList ++ r) ∧ Gap gap ∧ EndsWord r ∧ symbols? "=>" r = none

/-- A name that no arrow follows and that is no operator begins a value. -/
def BeginsName (s t : List Char) : Prop :=
  ∃ w r, s = w ++ r ∧ IsName w ∧ EndsWord r ∧
    String.ofList w ∉ ["yield", "typeof", "void", "delete", "await"] ∧
    (String.ofList w = "async" → BeginsFunction r) ∧
    (symbols? "=>" t = none → symbols? "=>" r = none)

/-- What stands behind a parenthesis and up to `t` is no list of parameters, or all of it is one and
no type follows. -/
def OpensValue (F : Forms) (s t : List Char) : Prop :=
  NoParameter s ∨ ∃ r, Sequenced (Unmarked F) s r ∧ Sign ')' r t ∧ ∀ u, ¬Sign ':' t u

/-- An atom begins with a sign, with a parenthesis that opens a value, or with a word. -/
theorem IsAtom.first (h : IsAtom F s t) :
    (∃ c r, s = c :: r ∧ skip (c :: r) = c :: r ∧ isWordStart c = false ∧
        c ∉ ['\\', '(', '<', '!', '~', '+', '-']) ∨
      (∃ r, s = '(' :: r ∧ OpensValue F r t) ∨ BeginsName s t := by
  have hsigns : ∀ c ∈ ['"', '\'', '\x60', '[', '\x7b'], startsLexeme c = true ∧
      isWordStart c = false ∧ c ∉ ['\\', '(', '<', '!', '~', '+', '-'] := forall_sign (by decide)
  have hsign {c : Char} (hc : c ∈ ['"', '\'', '\x60', '[', '\x7b']) (v : List Char) :
      ∃ d r, c :: v = d :: r ∧ skip (d :: r) = d :: r ∧ isWordStart d = false ∧
        d ∉ ['\\', '(', '<', '!', '~', '+', '-'] :=
    ⟨c, v, rfl, skip_of_startsLexeme (hsigns c hc).1 v, (hsigns c hc).2⟩
  cases h with
  | string h =>
      obtain ⟨quote, hquote, body, rfl, -⟩ := h.exists_quote
      have hquotes : ∀ c ∈ ['"', '\''], c ∈ ['"', '\'', '\x60', '[', '\x7b'] :=
        forall_sign (by decide)
      exact Or.inl (hsign (hquotes quote hquote) body)
  | template _ => exact Or.inl (hsign (by decide) _)
  | array _ => exact Or.inl (hsign (by decide) _)
  | object _ => exact Or.inl (hsign (by decide) _)
  | regex h => exact Or.inl ⟨'/', _, rfl, h.opens.skip_eq, by decide, by decide⟩
  | number h =>
      obtain ⟨c, r, rfl, hc⟩ := h.exists_digit
      have hstarts := (starts_of_isDigit hc).1
      have hdigits : ∀ c ∈ ['\\', '(', '<', '!', '~', '+', '-'], c.isDigit = false :=
        forall_sign (by decide)
      exact Or.inl ⟨c, r, rfl, skip_of_startsLexeme hstarts r, by simp [isWordStart, hc],
        fun hmem => Bool.false_ne_true ((hdigits c hmem).symm.trans hc)⟩
  | parens hno _ _ => exact Or.inr (Or.inl ⟨_, rfl, Or.inl hno⟩)
  | group he hc hnext => exact Or.inr (Or.inl ⟨_, rfl, Or.inr ⟨_, he, hc, hnext⟩⟩)
  | @name w _ hw hfree hend =>
      have hwords : ∀ w ∈ ["yield", "typeof", "void", "delete", "await"], w ∈ reservedWords := by
        decide
      have hasync : "async" ∈ reservedWords := by decide
      exact Or.inr (Or.inr ⟨w, t, rfl, hw, hend, mt (hwords _) hfree,
        fun heq => absurd (heq ▸ hasync) hfree, id⟩)
  | @constant w _ hw hend =>
      have hwords : ∀ w ∈ constants,
          w ∉ ["yield", "typeof", "void", "delete", "await"] ∧ w ≠ "async" := by
        decide
      refine Or.inr (Or.inr ⟨w.toList, t, rfl, isName_of_mem (by decide) hw, hend, ?_, ?_, id⟩) <;>
        rw [String.ofList_toList]
      · exact (hwords w hw).1
      · exact fun heq => absurd heq (hwords w hw).2
  | @construction gap w s r u _ hgap hne hw _ hend _ _ _ =>
      refine Or.inr (Or.inr ⟨"new".toList, gap ++ (w ++ s), rfl, by decide,
        hgap.endsWord hne (w ++ s), by decide, fun heq => absurd heq (by decide), fun _ => ?_⟩)
      obtain ⟨d, v, hcons, -, hsign⟩ := hw.exists_head s
        (show ['='].all (fun d => !isWordStart d) = true by decide)
      exact not_arrow_of_skip ((hgap.skip_name hw s).trans hcons) (by simpa using hsign)
  | function hend h =>
      exact Or.inr (Or.inr ⟨"function".toList, _, rfl, by decide, hend, by decide,
        fun heq => absurd heq (by decide), fun _ => h.arrow_eq_none⟩)
  | @asyncFunction gap s _ hgap hne _ hend h =>
      have hskip := hgap.skip_name (w := "function".toList) (by decide) s
      have hcons : "function".toList ++ s = 'f' :: ("unction".toList ++ s) := rfl
      exact Or.inr (Or.inr ⟨"async".toList, _, rfl, by decide, hgap.endsWord hne _, by decide,
        fun _ => ⟨gap, s, rfl, hgap, hend, h.arrow_eq_none⟩,
        fun _ => not_arrow_of_skip (hskip.trans hcons) (by decide)⟩)
  | @classLike s _ hend h =>
      obtain ⟨d, v, hskip, hd⟩ := exists_sign_of_class h
      have hequals : d ≠ '=' := by
        rintro rfl
        exact hd (by decide)
      exact Or.inr (Or.inr ⟨"class".toList, s, rfl, by decide, hend, by decide,
        fun heq => absurd heq (by decide), fun _ => not_arrow_of_skip hskip hequals⟩)

/-! ### Operands -/

/-- An operand without operators in front of it is read to its end. -/
theorem exists_readOperand_of_target (hg : g.ReadsForms k) (hF : F.IsLevel)
    (h : Spaced (IsTarget F) s t) (hs : s.length ≤ k) (ht : EndsTarget t) (place : Place) :
    ∃ e, g.readOperand place s = some (e, t) := by
  have hdepth := hg.depth
  obtain @⟨gap, s, _, hgap, h⟩ := h
  obtain ⟨h, hsuffixes⟩ := h
  rw [List.length_append] at hs
  obtain ⟨e, hprimary⟩ := exists_primary_of_form hg hF h (by omega)
  have hle := (reads_primary hg.consumes s).length_le hprimary
  obtain ⟨e', he'⟩ := exists_suffixes_of_form hg hF hsuffixes (by omega) ht s g.depth (by omega) e
  have hread {c : Char} {v : List Char} (hcons : s = c :: v) (hc : c ∉ ['!', '~', '+', '-', '<'])
      (hword : ∀ w u, word? (c :: v) = some (w, u) → w ∉ prefixWords ∧ w ≠ "await") :
      g.readOperand place (gap ++ s) = some (e', t) := by
    have hskip := hgap.skip_of_skip h.opens.skip_eq
    subst hcons
    rw [readOperand_of_primary g hskip hc hword hprimary, he']
  refine ⟨e', ?_⟩
  obtain ⟨c, v, hcons, -, hstart, hc⟩ | ⟨v, hcons, -⟩ | ⟨w, v, rfl, hw, hend, hfree, -⟩ :=
    h.first
  · simp only [List.mem_cons, List.not_mem_nil, or_false, not_or] at hc
    refine hread hcons (by simp [hc]) fun w u hw => ?_
    rw [word?_of_sign hstart hc.1] at hw
    contradiction
  · refine hread hcons (by decide) fun w u hw => ?_
    rw [word?_of_sign (by decide) (by decide)] at hw
    contradiction
  · obtain ⟨c, x, hcons, -, hc⟩ := hw.exists_head v
      (show ['!', '~', '+', '-', '<'].all (fun d => !isWordStart d) = true by decide)
    refine hread hcons hc fun w' u hw' => ?_
    rw [← hcons, hw.word?_append hend] at hw'
    obtain ⟨rfl, -⟩ := Prod.mk.inj (Option.some.inj hw')
    simp only [List.mem_cons, List.not_mem_nil, or_false, not_or] at hfree
    simp only [prefixWords, List.mem_cons, List.not_mem_nil, or_false, not_or]
    exact ⟨⟨hfree.2.1, hfree.2.2.1, hfree.2.2.2.1⟩, hfree.2.2.2.2⟩

/-- An operand is read to its end, or further up to the end of what stands behind it. -/
theorem exists_readOperand_of_form (hg : g.ReadsForms k) (hF : F.IsLevel)
    (h : Spaced (IsOperand F) s r) (hs : s.length ≤ k) (ht : Behind place r t) :
    ∃ e u, g.readOperand place s = some (e, u) ∧ Behind place u t := by
  obtain @⟨gap, s, _, hgap, h⟩ := h
  rw [List.length_append] at hs
  have hprefixed {s r : List Char} (h : Spaced F.operand s r) (ht : Behind place r t)
      (hs : s.length < k) (kind : String) (start : List Char) :
      ∃ e u, g.prefixed place kind start s = some (e, u) ∧ Behind place u t := by
    obtain ⟨e, u, he, hu⟩ := hg.operand hF h hs ht
    exact ⟨_, u, by rw [Grammar.prefixed, he]; rfl, hu⟩
  cases h with
  | target h =>
      obtain ⟨e, he⟩ := exists_readOperand_of_target hg hF (.mk hgap h)
        (by rw [List.length_append]; omega) ht.endsTarget place
      exact ⟨e, r, he, ht⟩
  | @sign c s _ hc hstep h =>
      rw [List.length_cons] at hs
      have hsigns : ∀ c ∈ ['!', '~', '+', '-'], startsLexeme c = true := forall_sign (by decide)
      rw [Grammar.readOperand, hgap.skip_append (hsigns c hc)]
      simp only [List.mem_cons, List.not_mem_nil, or_false] at hc
      obtain rfl | rfl | rfl | rfl := hc
      · exact hprefixed h ht (by omega) _ _
      · exact hprefixed h ht (by omega) _ _
      · have hnot : isStep ('+' :: s) = false := by
          have hhead := hstep (by decide)
          rw [isStep.eq_def]
          split <;> simp_all
        simp only [Char.reduceEq, or_self, if_false, hnot, Bool.false_eq_true, true_or, if_true]
        exact hprefixed h ht (by omega) _ _
      · have hnot : isStep ('-' :: s) = false := by
          have hhead := hstep (by decide)
          rw [isStep.eq_def]
          split <;> simp_all
        simp only [Char.reduceEq, or_self, if_false, hnot, Bool.false_eq_true, or_true, if_true]
        exact hprefixed h ht (by omega) _ _
  | @step c s _ hc h =>
      simp only [List.length_cons] at hs
      have hsigns : ∀ c ∈ ['+', '-'], startsLexeme c = true := forall_sign (by decide)
      rw [Grammar.readOperand, hgap.skip_append (hsigns c hc)]
      simp only [List.mem_cons, List.not_mem_nil, or_false] at hc
      obtain rfl | rfl := hc
      · exact hprefixed h ht (by omega) _ _
      · exact hprefixed h ht (by omega) _ _
  | @word w s _ hw hend h =>
      have hname : IsName w.toList := isName_of_mem (by decide) hw
      have hpos := hname.length_pos
      rw [List.length_append] at hs
      obtain ⟨c, v, hcons, hstarts, hc⟩ := hname.exists_head s
        (show ['!', '~', '+', '-', '<'].all (fun d => !isWordStart d) = true by decide)
      have hskip := hgap.skip_name hname s
      have hword := hname.word?_append hend
      have hstep : isStep (c :: v) = false := by
        rw [isStep.eq_def]
        split <;> simp_all
      simp only [List.mem_cons, List.not_mem_nil, or_false, not_or] at hc
      rw [String.ofList_toList] at hword
      rw [Grammar.readOperand, hskip]
      rw [hcons] at hword ⊢
      simp only [hc, or_self, if_false, hstep, Bool.false_eq_true, hword]
      by_cases hlisted : w ∈ prefixWords
      · simp only [hlisted, if_true]
        exact hprefixed h ht (by omega) _ _
      · have hawait : w = "await" := by
          simp only [prefixWords, List.mem_cons, List.not_mem_nil, or_false, not_or] at hlisted
          simpa [hlisted] using hw
        obtain ⟨e, u, he, hu⟩ := hg.operand hF h (by omega) ht
        have hle := (hg.consumes.operand place s).length_le he
        rw [if_neg hlisted, if_pos hawait]
        simp only [he, Option.bind_eq_bind, Option.bind_some,
          awaitTail_of_behind hg hu (show u.length ≤ k by omega)]
        exact ⟨_, t, rfl, ht.1, F, t, hF, .nil, Or.inl rfl⟩

/-! ### Where no arrow function begins -/

/-- No arrow function begins here, and nothing that `yield` gives. -/
structure Grammar.NoArrow (g : Grammar) (place : Place) (s : List Char) : Prop where
  arrow : startsArrow s = true → g.arrow place s = none
  yield : keyword? "yield" s = none

theorem readExpression_of_noArrow (h : g.NoArrow place s) :
    g.readExpression place s = g.assignment place s := by
  have hnone : (if startsArrow s then g.arrow place s else none) = none :=
    ite_eq_right_iff.2 h.arrow
  rw [Grammar.readExpression, hnone, h.yield]

theorem noArrow_of_sign (g : Grammar) (hskip : skip s = c :: r) (hc : isWordStart c = false)
    (hnot : c ∉ ['\\', '(', '<']) : g.NoArrow place s := by
  simp only [List.mem_cons, List.not_mem_nil, or_false, not_or] at hnot
  refine ⟨fun h => ?_, keyword?_of_sign hskip hc hnot.1 _⟩
  rw [startsArrow, hskip] at h
  simp [hc, hnot] at h

theorem arrow_of_async (g : Grammar) {w : List Char} (hw : IsName w) (hskip : skip s = w ++ r)
    (hend : EndsWord r) (hfunction : BeginsFunction r) (hnext : symbols? "=>" r = none) :
    g.arrow place s = none := by
  obtain ⟨gap, u, rfl, hgap, hu, harrow⟩ := hfunction
  have hname : IsName "function".toList := by decide
  have hinner : (g.arrowHead place (gap ++ ("function".toList ++ u))).bind (g.arrowTail place) =
      none := by
    rw [arrowHead_of_name g hname (hgap.skip_name hname u) hu, Option.bind_some,
      arrowTail_eq_none g harrow]
  rw [Grammar.arrow, arrowHead_of_name g hw hskip hend, Option.bind_some,
    arrowTail_eq_none g hnext, keyword?_of_name hw hskip hend]
  by_cases hasync : String.ofList w = "async" <;>
    simp only [hasync, if_true, if_false, hinner, ite_self, Option.map_none]

theorem noArrow_of_name (g : Grammar) {w : List Char} (hw : IsName w) (hskip : skip s = w ++ r)
    (hend : EndsWord r) (hyield : String.ofList w ≠ "yield")
    (hasync : String.ofList w = "async" → BeginsFunction r) (hnext : symbols? "=>" r = none) :
    g.NoArrow place s := by
  refine ⟨fun _ => ?_, by rw [keyword?_of_name hw hskip hend, if_neg hyield]⟩
  by_cases heq : String.ofList w = "async"
  · exact arrow_of_async g hw hskip hend (hasync heq) hnext
  · exact arrow_of_name g hw hskip hend heq hnext

theorem noArrow_of_parens (hg : g.ReadsForms k) (hF : F.IsLevel) (hskip : skip s = '(' :: r)
    (h : OpensValue F r t) (hr : r.length < k) (ht : symbols? "=>" t = none) :
    g.NoArrow place s := by
  have hopen : symbol? '(' s = some r := by
    rw [symbol?_of_skip hskip, if_pos rfl]
  have hless : symbol? '<' s = none := by
    rw [symbol?_of_skip hskip, if_neg (by decide)]
  have hparameters : ∀ v, g.parameters s = some v → v = t ∧ symbol? ':' t = none := by
    intro v hv
    obtain hno | ⟨u, he, hc, hnext⟩ := h
    · rw [parameters_eq_none hg.level hno hopen] at hv
      cases hv
    · refine ⟨parameters_of_group hg hF he hc hr hopen v hv, Option.eq_none_iff_forall_ne_some.2 ?_⟩
      exact fun u hu => hnext u (sign_of_symbol? hu)
  have hhead : (g.arrowHead place s).bind (g.arrowTail place) = none := by
    rw [Grammar.arrowHead, hskip]
    simp only [true_or, if_true, Grammar.signature,
      skipOptional_of_none (typeParameters_eq_none g hless), Option.bind_eq_bind]
    cases hread : g.parameters s with
    | none => simp
    | some v =>
        obtain ⟨rfl, hcolon⟩ := hparameters v hread
        have htail : g.arrowTail place v = none := arrowTail_eq_none g ht
        simp [Grammar.annotation, hcolon, htail]
  have hasync : keyword? "async" s = none := keyword?_of_sign hskip (by decide) (by decide) _
  refine ⟨fun _ => ?_, keyword?_of_sign hskip (by decide) (by decide) _⟩
  simp [Grammar.arrow, hhead, hasync]

/-- No expression begins with a sign that ends a part of a loop, or with one that an assignment or
an arrow has in the middle. -/
theorem expression_eq_none (hg : g.IsLevel) (hskip : skip s = c :: r)
    (hc : c ∈ [';', ')', '=', '>']) (place : Place) : g.expression place s = none := by
  have hsigns : ∀ c ∈ [';', ')', '=', '>'], startsLexeme c = true ∧ isWordStart c = false ∧
      c.isDigit = false ∧ c ∉ ['\\', '(', '<', '!', '~', '+', '-', '"', '\'', '[', '\x7b', '\x60',
        '.', '/', '#', '@'] := forall_sign (by decide)
  obtain ⟨hstarts, hstart, hdigit, hnot⟩ := hsigns c hc
  simp only [List.mem_cons, List.not_mem_nil, or_false, not_or] at hnot
  have hword : word? (c :: r) = none := word?_of_sign hstart hnot.1 r
  have hstep : isStep (c :: r) = false := by
    rw [isStep.eq_def]
    split <;> simp_all
  obtain ⟨dialect, line, n, rfl⟩ := hg
  cases n with
  | zero => rfl
  | succ n =>
      have hatom : (Grammar.ofDepth dialect line n).atom (c :: r) = none := by
        rw [Grammar.atom, skip_of_startsLexeme hstarts]
        simp only [hnot, hdigit, hword, or_self, if_false, Bool.false_eq_true]
      have hprimary : (Grammar.ofDepth dialect line n).primary (c :: r) = none := by
        rw [Grammar.primary, keyword?, skip_of_startsLexeme hstarts, hword]
        exact hatom
      show (Grammar.ofDepth dialect line n).readExpression place s = none
      rw [readExpression_of_noArrow (noArrow_of_sign _ hskip hstart (by simp [hnot])),
        Grammar.assignment, Grammar.chain, Grammar.readOperand, hskip]
      simp only [hnot, or_self, if_false, hstep, Bool.false_eq_true, hword, hprimary,
        Option.map_none]
      rfl

theorem IsTarget.noArrow (hg : g.ReadsForms k) (hF : F.IsLevel) {gap : List Char} (hgap : Gap gap)
    (h : IsTarget F s t) (hs : s.length ≤ k) (ht : symbols? "=>" t = none) :
    g.NoArrow place (gap ++ s) := by
  obtain ⟨h, hsuffixes⟩ := h
  obtain ⟨c, r, rfl, hself, hstart, hc⟩ | ⟨r, rfl, hopens⟩ | ⟨w, r, rfl, hw, hend, hfree,
    hasync, hnext⟩ := h.first
  · have hsigns : ∀ c ∈ ['\\', '(', '<'], c ∈ ['\\', '(', '<', '!', '~', '+', '-'] :=
      forall_sign (by decide)
    exact noArrow_of_sign g (hgap.skip_of_skip hself) hstart (mt (hsigns c) hc)
  · exact noArrow_of_parens hg hF (hgap.skip_append (by decide) r) hopens
      (by rw [List.length_cons] at hs; omega) (hsuffixes.arrow_eq_none ht)
  · have hyield : String.ofList w ≠ "yield" := fun heq => hfree (heq ▸ .head _)
    exact noArrow_of_name g hw (hgap.skip_name hw r) hend hyield hasync
      (hnext (hsuffixes.arrow_eq_none ht))

theorem IsOperand.noArrow (hg : g.ReadsForms k) (hF : F.IsLevel) {gap : List Char} (hgap : Gap gap)
    (h : IsOperand F s t) (hs : s.length ≤ k) (ht : symbols? "=>" t = none) :
    g.NoArrow place (gap ++ s) := by
  have hsigns : ∀ c ∈ ['!', '~', '+', '-'], startsLexeme c = true ∧ isWordStart c = false ∧
      c ∉ ['\\', '(', '<'] := forall_sign (by decide)
  cases h with
  | target h => exact h.noArrow hg hF hgap hs ht
  | @sign c s _ hc _ _ =>
      obtain ⟨hstarts, hstart, hnot⟩ := hsigns c hc
      exact noArrow_of_sign g (hgap.skip_append hstarts s) hstart hnot
  | @step c s _ hc _ =>
      have hmem : ∀ c ∈ ['+', '-'], c ∈ ['!', '~', '+', '-'] := forall_sign (by decide)
      obtain ⟨hstarts, hstart, hnot⟩ := hsigns c (hmem c hc)
      exact noArrow_of_sign g (hgap.skip_append hstarts (c :: s)) hstart hnot
  | @word w s _ hw hend h =>
      have hwords : ∀ w ∈ ["typeof", "void", "delete", "await"], w ≠ "yield" ∧ w ≠ "async" := by
        decide
      have hname : IsName w.toList := isName_of_mem (by decide) hw
      obtain ⟨d, r, hskip, hne⟩ : ∃ d r, skip s = d :: r ∧ d ≠ '=' := by
        obtain ⟨hitem, -⟩ := h.skip hF.opens_operand
        obtain ⟨d, r, hcons, -, hnot⟩ := (hF.opens_operand hitem).exists_cons
        exact ⟨d, r, hcons, fun heq => hnot (by rw [heq]; decide)⟩
      obtain ⟨hyield, hasync⟩ := hwords w hw
      refine noArrow_of_name g hname (hgap.skip_name hname s) hend ?_ ?_
        (not_arrow_of_skip hskip hne) <;> rw [String.ofList_toList]
      · exact hyield
      · exact fun heq => absurd heq hasync

/-! ### Chains of operators -/

theorem Operator.length_lt (h : Operator F within s t) : t.length < s.length := by
  have hlength {op : String} (hop : op ∈ binarySigns ++ angleSigns) (g : List Char) :
      t.length < (g ++ (op.toList ++ t)).length := by
    obtain ⟨d, r, hcons, -⟩ := exists_of_mem_operators hop
    rw [hcons]
    simp only [List.length_append, List.length_cons]
    omega
  cases h with
  | sign _ hop _ => exact hlength (List.mem_append_left _ hop) _
  | angle _ hop _ _ => exact hlength (List.mem_append_right _ hop) _
  | word h => exact h.length_lt (by decide)
  | within _ h => exact h.length_lt (by decide)

/-- No operator follows what stands behind an operand. -/
theorem exists_chainTail_of_ends (hg : g.ReadsForms k) (h : Behind place s t) (hs : s.length ≤ k)
    (hbinary : binaryOperator? place t = none) (start : List Char) (n : Nat) (hn : s.length ≤ n)
    (power : Bool) (e : Expr) : ∃ e', g.chainTail place start n power e s = (e', t) := by
  obtain ⟨-, m, power', e', -, heq⟩ := exists_chainTail_of_behind hg h hs start n hn power e
  rw [heq]
  exact ⟨e', h.1.chainTail_eq g hbinary _ _ _ _⟩

/-- Operators are read with the operands behind them up to where the chain ends. What is left behind
the first operand may end at the first operator or be taken up with the operand itself. -/
theorem exists_chainTail_of_form (hg : g.ReadsForms k) (hF : F.IsLevel) (hm : Marks F r u)
    (h : ChainTail F within u v) (ha : Assertions F v t)
    (hplace : within = true → place.loopHead = false) (ht : EndsOperand place t)
    (htype : EndsType t) (hbinary : binaryOperator? place t = none) :
    ∃ x, Behind place r x ∧ ∀ y, Behind place y x → y.length ≤ k → ∀ start n power e,
      y.length ≤ n → ∃ e', g.chainTail place start n power e y = (e', t) := by
  induction h generalizing r with
  | nil =>
      exact ⟨t, ⟨ht, F, _, hF, hm, Or.inr ⟨ha, htype⟩⟩, fun y hy hk start n power e hn =>
        exists_chainTail_of_ends hg hy hk hbinary start n hn power e⟩
  | @cons s r' u' v' t' ho hoperand hm' _ ih =>
      obtain ⟨x, hx, hrest⟩ := ih hm' ha
      obtain ⟨hends, power₁, hread⟩ := ho.endsOperand hF hplace
      refine ⟨s, ⟨hends, F, s, hF, hm, Or.inl rfl⟩, fun y hy hk start n power e hn => ?_⟩
      obtain ⟨hle, m, power', e', hm, heq⟩ :=
        exists_chainTail_of_behind hg hy hk start n hn power e
      have hlt := ho.length_lt
      obtain ⟨e₁, z, he₁, hz⟩ := hg.operand hF hoperand (by omega) hx
      have hz' := (hg.consumes.operand place r').length_le he₁
      obtain ⟨m, rfl⟩ : ∃ n, m = n + 1 := ⟨m - 1, by omega⟩
      obtain ⟨e₂, he₂⟩ := hrest z hz (by omega) start m power₁
        (otherBetween "binary_expression" start z) (by omega)
      refine ⟨e₂, ?_⟩
      rw [heq, Grammar.chainTail, if_neg (by simp [hread]), hends.typeOperator]
      simp only [hread, he₁, he₂]

/-- A chain is read to its end if its tail is, whatever of the tail is read with the operand. -/
theorem exists_chain_of_operand (hg : g.ReadsForms k) (hF : F.IsLevel)
    (h : Spaced (IsOperand F) s r) (hs : s.length ≤ k) (hr : Behind place r u)
    (htail : ∀ y, Behind place y u → y.length ≤ k → ∀ start n power e,
      y.length ≤ n → ∃ e', g.chainTail place start n power e y = (e', t)) :
    g.NoArrow place s ∧ ∃ e, g.chain place s = some (e, t) := by
  have hdepth := hg.depth
  obtain ⟨e, y, he, hy⟩ := exists_readOperand_of_form hg hF h hs hr
  have hle := (reads_readOperand hg.consumes place s).length_le he
  obtain ⟨e', he'⟩ := htail y hy (by omega) (skip s) g.depth false e (by omega)
  obtain @⟨gap, s, _, hgap, h⟩ := h
  refine ⟨h.noArrow hg hF hgap (by rw [List.length_append] at hs; omega) hr.endsTarget.arrow,
    e', ?_⟩
  rw [Grammar.chain, he]
  exact congrArg some he'

/-- A chain of operators is read to its end. -/
theorem exists_chain_of_form (hg : g.ReadsForms k) (hF : F.IsLevel)
    (h : Spaced (IsChain F within) s t) (hs : s.length ≤ k)
    (hplace : within = true → place.loopHead = false) (ht : EndsOperand place t)
    (htype : EndsType t) (hbinary : binaryOperator? place t = none) :
    g.NoArrow place s ∧ ∃ e, g.chain place s = some (e, t) := by
  obtain ⟨hgap, ⟨hoperand, hm, htail, ha⟩⟩ := h
  obtain ⟨x, hx, hrest⟩ := exists_chainTail_of_form hg hF hm htail ha hplace ht htype hbinary
  exact exists_chain_of_operand hg hF (.mk hgap hoperand) hs hx hrest

/-- What something is assigned to is read to its end. -/
theorem exists_chain_of_target (hg : g.ReadsForms k) (hF : F.IsLevel)
    (h : Spaced (IsTarget F) s r) (hm : Marks F r u) (hs : s.length ≤ k)
    (hu : EndsOperand place u) (hbinary : binaryOperator? place u = none) :
    g.NoArrow place s ∧ ∃ e, g.chain place s = some (e, u) := by
  obtain ⟨hgap, h⟩ := h
  exact exists_chain_of_operand hg hF (.mk hgap (.target h)) hs ⟨hu, F, u, hF, hm, Or.inl rfl⟩
    fun y hy hk start n power e hn => exists_chainTail_of_ends hg hy hk hbinary start n hn power e

/-! ### Expressions -/

theorem Spaced.head?_ne {Item : Form} (h : Spaced Item s t) (hopens : ∀ {s t}, Item s t → Opens s)
    (hc : c ∈ nonOpeners) (hstarts : startsLexeme c = true) : s.head? ≠ some c := by
  obtain @⟨gap, s, _, hgap, h⟩ := h
  exact hgap.head?_append_ne ((hopens h).head?_ne hc) hstarts

theorem Assigns.length_lt (h : Assigns s t) : t.length < s.length := by
  cases h with
  | plain h => exact h.length_lt
  | compound _ hop =>
      obtain ⟨-, d, e, r, hcons, -⟩ := exists_of_mem_compoundSigns hop
      rw [hcons]
      simp only [List.length_append, List.length_cons]
      omega

theorem Assigns.endsValue (hF : F.IsLevel) (ho : Assigns s r)
    (he : Spaced (F.expressionAt within) r t) (place : Place) :
    EndsOperand place s ∧ binaryOperator? place s = none ∧
      ∃ kind, assignment? s = some (kind, r) := by
  have hequals : r.head? ≠ some '=' := he.head?_ne hF.opens_expression (by decide) (by decide)
  have hgreater : r.head? ≠ some '>' := he.head?_ne hF.opens_expression (by decide) (by decide)
  exact ho.endsOperand (by simp [hequals, hgreater]) place

theorem length_lt_of_assignment (hg : g.ReadsForms k) (hF : F.IsLevel)
    {v : List Char} (h : Spaced (IsTarget F) s r) (hm : Marks F r u) (ho : Assigns u v)
    (he : Spaced (F.expressionAt within) v t) (hs : s.length ≤ k) : v.length < s.length := by
  obtain ⟨hends, hbinary, -⟩ := ho.endsValue hF he .free
  obtain ⟨-, e, hread⟩ := exists_chain_of_target hg hF h hm hs hends hbinary
  have hu := (reads_chain hg.consumes .free s).length_le hread
  exact ho.length_lt.trans_le hu

/-- A chain of operators ends in front of the sign of a condition. -/
theorem Sign.endsChain (h : Sign '?' s t) (hpoint : t.head? ≠ some '.')
    (hquestion : t.head? ≠ some '?') (place : Place) :
    EndsOperand place s ∧ EndsType s ∧ binaryOperator? place s = none ∧ assignment? s = none := by
  have hskip := h.skip_eq (by decide)
  obtain ⟨hassignment, hbinary⟩ := binaryOperator?_of_next (by decide) hskip hquestion place
  refine ⟨⟨endsTarget_of_skip hskip (by decide) rfl (fun _ => hpoint) ?_, fun r hr => ?_,
    typeOperator?_of_sign hskip (by decide) (by decide)⟩,
    endsType_of_sign hskip (by decide) (by decide), hbinary, hassignment⟩
  · exact fun hd => absurd hd (by decide)
  · exact absurd (List.cons.inj (hskip.symm.trans hr)).1 (by decide)

/-- The two values of a condition are skipped. -/
theorem branches_of_form (hg : g.ReadsForms k) (hF : F.IsLevel) (h : Spaced F.expression s r)
    (hc : Sign ':' r u) (h' : Spaced (F.expressionAt within) u t) (hs : s.length < k)
    (hplace : place.Admits within) (ht : EndsExpression place t) :
    g.branches place s = some t := by
  obtain ⟨e, he⟩ : ∃ e, g.expression ⟨false, false, true⟩ s = some (e, r) :=
    hg.expression hF h hs ⟨rfl, fun _ => rfl⟩ (hc.endsExpression (by decide))
  have hr := (hg.consumes.expression _ s).length_le he
  have hu := hc.length_lt
  obtain ⟨e', he'⟩ := hg.expression hF h' (by omega) hplace ht
  rw [Grammar.branches]
  simp only [he, Option.bind_eq_bind, Option.bind_some, hc.symbol?_eq (show startsLexeme ':' = true
    by decide), he', Option.map_some]

theorem ArrowTail.exists_arrow (h : ArrowTail F within s t) : ∃ r, Arrow s r := by
  cases h with
  | block ha _ => exact ⟨_, ha⟩
  | value ha _ _ => exact ⟨_, ha⟩

/-- What an arrow function gives is skipped. -/
theorem arrowTail_of_form (hg : g.ReadsForms k) (hF : F.IsLevel) (h : ArrowTail F within s t)
    (hs : s.length ≤ k) (hplace : place.Admits within) (ht : EndsExpression place t) :
    g.arrowTail place s = some t := by
  cases h with
  | block ha hb =>
      have hlength := ha.length_lt
      obtain ⟨r, hskip⟩ := hb.skip_eq
      rw [Grammar.arrowTail, ha.symbols?_eq]
      simp only [Option.bind_eq_bind, Option.bind_some, next?, hskip, List.head?_cons, if_true]
      exact block_of_form hg hF hb (by omega)
  | @value _ r _ ha hno he =>
      have hlength := ha.length_lt
      obtain ⟨e, he⟩ := hg.expression hF he (by omega) hplace ht
      have hnext : next? r ≠ some '\x7b' := by
        obtain ⟨d, v, hskip, hne⟩ := hno.exists_skip (by decide)
        rw [next?, hskip]
        exact fun hd => hne (List.mem_singleton.2 (Option.some.inj hd))
      rw [Grammar.arrowTail, ha.symbols?_eq]
      simp only [Option.bind_eq_bind, Option.bind_some, hnext, if_false, he, Option.map_some]

/-- The parameters of an arrow function are skipped. -/
theorem arrowHead_of_form (hg : g.ReadsForms k) (hF : F.IsLevel) {gap : List Char} (hgap : Gap gap)
    (h : ArrowHead F s r) (hs : (gap ++ s).length ≤ k) (ha : Arrow r u)
    (hplace : place.beforeColon = false) :
    startsArrow (gap ++ s) = true ∧ g.arrowHead place (gap ++ s) = some r := by
  cases h with
  | @name w _ hw _ hend =>
      have hread := hw.skipWord?_append hend
      have hskip := hgap.skip_name hw r
      obtain ⟨c, v, rfl, hc, -⟩ := hw.exists_cons
      have hsigns : c ∉ ['(', '<'] := not_mem_of_isWordStart hc (by decide)
      simp only [List.mem_cons, List.not_mem_nil, or_false] at hsigns
      refine ⟨by rw [startsArrow, hskip]; simp [hc], ?_⟩
      rw [Grammar.arrowHead, hskip, List.cons_append]
      simp only [hsigns, if_false]
      exact hread
  | @parameters s _ _ h ht =>
      have hskip : skip (gap ++ '(' :: s) = '(' :: s := hgap.skip_append (by decide) s
      refine ⟨by rw [startsArrow, hskip]; simp, ?_⟩
      have hsignature : IsSignature F (gap ++ '(' :: s) r := .mk .none (.mk (.mk hgap) h) ht
      have hcolon : symbol? ':' r = none := by
        rw [symbol?_of_skip ha.skip_eq, if_neg (by decide)]
      rw [Grammar.arrowHead, hskip]
      simp only [true_or, if_true, hplace, Bool.false_eq_true, if_false]
      exact signature_of_form hg hF hsignature hs
        (endsType_of_sign ha.skip_eq (by decide) (by decide)) hcolon

theorem readExpression_of_yield (g : Grammar) {gap : List Char} (hgap : Gap gap) (hend : EndsWord s)
    (hnext : symbols? "=>" s = none) : g.readExpression place (gap ++ ("yield".toList ++ s)) =
      (g.yieldTail place s).map fun rest =>
        (otherBetween "yield_expression" (skip (gap ++ ("yield".toList ++ s))) rest, rest) := by
  have hname : IsName "yield".toList := by decide
  have hskip := hgap.skip_name hname s
  have harrow : g.arrow place (gap ++ ("yield".toList ++ s)) = none :=
    arrow_of_name g hname hskip hend (by decide) hnext
  rw [Grammar.readExpression, harrow, ite_self, keyword?_of_name hname hskip hend,
    if_pos (by decide)]

/-- An expression is read to where it ends. -/
theorem readExpression_of_form (hg : g.ReadsForms k) (hF : F.IsLevel)
    (h : Spaced (IsExpression F within) s t) (hs : s.length ≤ k) (hplace : place.Admits within)
    (ht : EndsExpression place t) : ∃ e, g.readExpression place s = some (e, t) := by
  obtain @⟨gap, s, _, hgap, h⟩ := h
  cases h with
  | chain h =>
      obtain ⟨hno, e, he⟩ := exists_chain_of_form hg hF (.mk hgap h) hs hplace.head ht.toEndsOperand
        ht.type ht.binary
      refine ⟨e, ?_⟩
      rw [readExpression_of_noArrow hno, Grammar.assignment, he]
      simp [ht.assignment, ht.question]
  | @assignment _ r u v _ h hm ho he =>
      obtain ⟨hends, hbinary, kind, hassignment⟩ := ho.endsValue hF he place
      obtain ⟨hno, e, hread⟩ := exists_chain_of_target hg hF (.mk hgap h) hm hs hends hbinary
      have hv := length_lt_of_assignment hg hF (.mk hgap h) hm ho he hs
      obtain ⟨e', he'⟩ := hg.expression hF he (by omega) hplace ht
      rw [readExpression_of_noArrow hno, Grammar.assignment, hread]
      simp only [Option.bind_eq_bind, Option.bind_some, hassignment, he']
      exact ⟨_, rfl⟩
  | @conditional _ r u v w _ h hq ha hc hb =>
      have hpoint : u.head? ≠ some '.' := ha.head?_ne hF.opens_expression (by decide) (by decide)
      have hquestion : u.head? ≠ some '?' := ha.head?_ne hF.opens_expression (by decide) (by decide)
      obtain ⟨hends, htype, hbinary, hassignment⟩ := hq.endsChain hpoint hquestion place
      obtain ⟨hno, e, he⟩ :=
        exists_chain_of_form hg hF (.mk hgap h) hs hplace.head hends htype hbinary
      have hr := (reads_chain hg.consumes place _).length_le he
      have hu := hq.length_lt
      rw [readExpression_of_noArrow hno, Grammar.assignment, he]
      simp only [Option.bind_eq_bind, Option.bind_some, hassignment,
        hq.symbol?_eq (show startsLexeme '?' = true by decide),
        branches_of_form hg hF ha hc hb (show u.length < k by omega) hplace ht]
      exact ⟨_, rfl⟩
  | @arrow s r _ hh htail =>
      obtain ⟨u, ha⟩ := htail.exists_arrow
      obtain ⟨hstarts, hhead⟩ := arrowHead_of_form hg hF hgap hh hs ha hplace.colon
      have hr := (leaves_arrowHead hg.consumes place _).length_le hhead
      have hbody := arrowTail_of_form hg hF htail (by omega) hplace ht
      rw [Grammar.readExpression, if_pos hstarts, Grammar.arrow]
      simp only [hhead, Option.bind_some, hbody, Option.map_some]
      exact ⟨_, rfl⟩
  | @asyncArrow gap' s r _ hgap' hline hend hh htail =>
      have hasync : IsName "async".toList := by decide
      have hs' : (gap' ++ s).length ≤ k := by
        rw [List.length_append, List.length_append] at hs
        omega
      obtain ⟨u, ha⟩ := htail.exists_arrow
      obtain ⟨-, hhead⟩ := arrowHead_of_form hg hF hgap' hh hs' ha hplace.colon
      have hr := (leaves_arrowHead hg.consumes place _).length_le hhead
      have hbody := arrowTail_of_form hg hF htail (by omega) hplace ht
      have hskip := hgap.skip_name hasync (gap' ++ s)
      obtain ⟨d, v, hcons, hself, hnot⟩ := hh.opens.exists_cons
      have hnone : symbols? "=>" (gap' ++ s) = none := by
        rw [hcons]
        refine not_arrow_of_skip (hgap'.skip_of_skip hself) ?_
        rintro rfl
        exact hnot (by decide)
      have hends : endsAtWord place (gap' ++ s) = false := by
        rw [endsAtWord, crossesLine_of_inline hgap' hline hh.opens.skip_eq]
        rfl
      have hplain : (g.arrowHead place (gap ++ ("async".toList ++ (gap' ++ s)))).bind
          (g.arrowTail place) = none := by
        have hread := hasync.skipWord?_append hend
        have hcons : "async".toList ++ (gap' ++ s) = 'a' :: ("sync".toList ++ (gap' ++ s)) := rfl
        rw [Grammar.arrowHead, hskip, hcons]
        simp only [Char.reduceEq, or_self, if_false]
        rw [← hcons, hread, Option.bind_some, Grammar.arrowTail, hnone]
        rfl
      have hkeyword : keyword? "async" (gap ++ ("async".toList ++ (gap' ++ s))) =
          some (gap' ++ s) := by
        rw [keyword?_of_name hasync hskip hend, if_pos (by decide)]
      have hstart : startsArrow (gap ++ ("async".toList ++ (gap' ++ s))) = true := by
        rw [startsArrow, hskip]
        rfl
      rw [Grammar.readExpression, if_pos hstart, Grammar.arrow]
      simp only [hplain, hkeyword, hends, Bool.false_eq_true, if_false, hhead, Option.bind_some,
        hbody, Option.map_some]
      exact ⟨_, rfl⟩
  | @yieldNothing _ hend hnext =>
      obtain ⟨c, hc, r, hsign⟩ := hnext
      have hsigns : ∀ c ∈ [')', ']', '\x7d', ',', ';', ':'], startsLexeme c = true ∧ c ≠ '=' ∧
          ")]\x7d,;:".toList.contains c = true := forall_sign (by decide)
      obtain ⟨hstarts, hne, hnothing⟩ := hsigns c hc
      have hskip := hsign.skip_eq hstarts
      rw [readExpression_of_yield g hgap hend (not_arrow_of_skip hskip hne), Grammar.yieldTail,
        yieldsNothing, hskip]
      simp only [hnothing, Bool.or_true, if_true, Option.map_some]
      exact ⟨_, rfl⟩
  | @yield gap' s _ hgap' hline hend he =>
      obtain ⟨c, r, hcons, hself, hnot⟩ := (hF.opens_expression he).exists_cons
      have hsigns : ∀ c ∈ '=' :: '*' :: ")]\x7d,;:".toList, c ∈ nonOpeners :=
        forall_sign (by decide)
      have hfree := mt (hsigns c) hnot
      have hskip : skip (gap' ++ s) = c :: r := by
        rw [hcons]
        exact hgap'.skip_of_skip hself
      have hcross : crossesLine (gap' ++ s) = false :=
        crossesLine_of_inline hgap' hline (hF.opens_expression he).skip_eq
      obtain ⟨e, he'⟩ := hg.expression hF (.mk hgap' he) (by
        simp only [List.length_append] at hs ⊢
        have hlength : "yield".toList.length = 5 := rfl
        omega) hplace ht
      simp only [List.mem_cons, not_or] at hfree
      have hstar : symbol? '*' (gap' ++ s) = none := by
        rw [symbol?_of_skip hskip, if_neg hfree.2.1]
      rw [readExpression_of_yield g hgap hend (not_arrow_of_skip hskip hfree.1), Grammar.yieldTail,
        yieldsNothing, hskip]
      simp only [hcross, Bool.false_or, List.contains_eq_mem, hfree.2.2, decide_false,
        Bool.false_eq_true, if_false, skipOptional_of_none hstar, he', Option.map_some]
      exact ⟨_, rfl⟩
  | @yieldAll gap' s _ hgap' hline he =>
      have hskip : skip (gap' ++ '*' :: s) = '*' :: s := hgap'.skip_append (by decide) s
      have hend : EndsWord (gap' ++ '*' :: s) := endsWord_of_skip hskip (by decide) (by decide)
      have hcross : crossesLine (gap' ++ '*' :: s) = false :=
        crossesLine_of_inline hgap' hline (skip_of_startsLexeme (by decide) s)
      obtain ⟨e, he'⟩ := hg.expression hF he (by
        simp only [List.length_append, List.length_cons] at hs
        omega) hplace ht
      have hstar : symbol? '*' (gap' ++ '*' :: s) = some s := by
        rw [symbol?_of_skip hskip, if_pos rfl]
      rw [readExpression_of_yield g hgap hend (not_arrow_of_skip hskip (by decide)),
        Grammar.yieldTail, yieldsNothing, hskip]
      simp only [hcross, Bool.false_or, show ")]\x7d,;:".toList.contains '*' = false by decide,
        Bool.false_eq_true, if_false, skipOptional_of_some hstar, he', Option.map_some]
      exact ⟨_, rfl⟩

end DecoratorGraph.Script
