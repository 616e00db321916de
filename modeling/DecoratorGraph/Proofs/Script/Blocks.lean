import DecoratorGraph.Proofs.Script.Operators

/-!
# Reading blocks and keys

The items between braces are read one after the other, and the words in front of a key are skipped
up to it.
-/

namespace DecoratorGraph.Script

variable {F : Forms} {g : Grammar} {k : Nat} {s t r u : List Char} {c d : Char}

/-! ### Items in braces -/

section Sequences

variable {Item Clause : Form}

/-- What is between braces is read item by item. `tail` reads on as long as no brace closes. An item
that is read without taking anything up leaves the items behind it to be read. -/
theorem tail_of_sequence {tail : Nat → Skipper} {item : Skipper}
    (htail : ∀ n s, tail (n + 1) s =
      match symbol? '\x7d' s with
      | some r => some r
      | none => (item s).bind (tail n))
    (hleaves : ∀ s, Leaves s (item s))
    (hitem : ∀ {s t}, Spaced Item s t → s.length ≤ k → symbol? '\x7d' s = none ∧ item s = some t)
    (hclause : ∀ {s t}, Spaced Clause s t → s.length ≤ k → EndsClause t →
      symbol? '\x7d' s = none ∧ item s = some t)
    (h : Sequence Item Clause s t) (hs : s.length ≤ k) (n : Nat) (hn : s.length ≤ n) :
    tail n s = some t := by
  have hstep {s r u : List Char} (hread : symbol? '\x7d' s = none ∧ item s = some r)
      (hr : ∀ n, r.length ≤ n → tail n r = some u) (hpos : 0 < s.length) (n : Nat)
      (hn : s.length ≤ n) : tail n s = some u := by
    have hsuffix : r <:+ s := hleaves s r hread.2
    obtain heq | hlt := Nat.eq_or_lt_of_le hsuffix.length_le
    · obtain rfl := hsuffix.eq_of_length heq
      exact hr n hn
    · obtain ⟨n, rfl⟩ : ∃ m, n = m + 1 := ⟨n - 1, by omega⟩
      rw [htail, hread.1, hread.2]
      exact hr n (by omega)
  have hpos {s t : List Char} (h : Sequence Item Clause s t) (hs : s.length ≤ k) :
      0 < s.length := by
    induction h with
    | close hc =>
        have hlength := hc.length_lt
        omega
    | item h _ ih =>
        have hle : _ ≤ _ := List.IsSuffix.length_le (hleaves _ _ (hitem h hs).2)
        have := ih (by omega)
        omega
    | clause h hend _ ih =>
        have hle : _ ≤ _ := List.IsSuffix.length_le (hleaves _ _ (hclause h hs hend).2)
        have := ih (by omega)
        omega
  induction h generalizing n with
  | close hc =>
      have hlength := hc.length_lt
      obtain ⟨n, rfl⟩ : ∃ m, n = m + 1 := ⟨n - 1, by omega⟩
      rw [htail, hc.symbol?_eq (by decide)]
  | @item s r t h ht ih =>
      have hread := hitem h hs
      have hle : r.length ≤ s.length := List.IsSuffix.length_le (hleaves s r hread.2)
      exact hstep hread (ih (by omega)) (hpos (.item h ht) hs) n hn
  | @clause s r t h hend ht ih =>
      have hread := hclause h hs hend
      have hle : r.length ≤ s.length := List.IsSuffix.length_le (hleaves s r hread.2)
      exact hstep hread (ih (by omega)) (hpos (.clause h hend ht) hs) n hn

end Sequences

/-! ### Blocks -/

/-- A text begins with a sign that does not close what is around it, or with a word that no
statement between braces is a label with. -/
def BeginsStatement (s : List Char) : Prop :=
  (∃ c r, s = c :: r ∧ skip (c :: r) = c :: r ∧ isWordStart c = false ∧ c ∉ ['\\', '\x7d']) ∨
    ∃ w r, s = w ++ r ∧ IsName w ∧ EndsWord r ∧ String.ofList w ∉ ["case", "default"]

theorem BeginsStatement.spaced_eq_none (h : Spaced (fun s _ => BeginsStatement s) s t) :
    symbol? '\x7d' s = none ∧ keyword? "case" s = none ∧ keyword? "default" s = none := by
  obtain @⟨gap, s, _, hgap, h⟩ := h
  obtain ⟨c, r, rfl, hself, hstart, hc⟩ | ⟨w, r, rfl, hw, hend, hfree⟩ := h
  · have hskip := hgap.skip_of_skip hself
    simp only [List.mem_cons, List.not_mem_nil, or_false, not_or] at hc
    exact ⟨by rw [symbol?_of_skip hskip, if_neg hc.2], keyword?_of_sign hskip hstart hc.1 _,
      keyword?_of_sign hskip hstart hc.1 _⟩
  · have hskip := hgap.skip_name hw r
    simp only [List.mem_cons, List.not_mem_nil, or_false, not_or] at hfree
    exact ⟨symbol?_of_name hw hskip (by decide),
      by rw [keyword?_of_name hw hskip hend, if_neg hfree.1],
      by rw [keyword?_of_name hw hskip hend, if_neg hfree.2]⟩

theorem beginsStatement_of_word {words : List String} {w : String}
    (hwords : words.all (fun w => decide (IsName w.toList ∧ w ∉ ["case", "default"])) = true)
    (hw : w ∈ words) (hend : EndsWord s) : BeginsStatement (w.toList ++ s) := by
  obtain ⟨hname, hfree⟩ := of_decide_eq_true (List.all_eq_true.1 hwords w hw)
  refine Or.inr ⟨w.toList, s, rfl, hname, hend, ?_⟩
  rwa [String.ofList_toList]

theorem IsClause.begins (hF : F.IsLevel) (h : IsClause F s t) : BeginsStatement s := by
  cases h with
  | value hfirst h _ =>
      cases hfirst with
      | @sign c s hc =>
          have hsigns : ∀ c ∈ "\"'[\x60(!~+-0123456789/".toList,
              isWordStart c = false ∧ c ∉ ['\\', '\x7d'] := forall_sign (by decide)
          exact Or.inl ⟨c, s, rfl, (hF.opens_expression h).skip_eq, hsigns c hc⟩
      | word hw hfree hend _ =>
          have hwords : ∀ w ∈ ["case", "default"], w ∈ statementWords := by decide
          exact Or.inr ⟨_, _, rfl, hw, hend, mt (hwords _) hfree⟩
  | declaration hw hend _ _ => exact beginsStatement_of_word (by decide) hw hend
  | typeAlias hg hne _ _ _ _ _ _ =>
      exact beginsStatement_of_word (by decide) (List.mem_singleton.2 rfl) (hg.endsWord hne _)
  | jump hw hend => exact beginsStatement_of_word (by decide) hw hend
  | jumpTo hw hg hne _ _ _ => exact beginsStatement_of_word (by decide) hw (hg.endsWord hne _)
  | result _ _ hend _ _ =>
      exact beginsStatement_of_word (by decide) (List.mem_singleton.2 rfl) hend
  | throw hend _ => exact beginsStatement_of_word (by decide) (List.mem_singleton.2 rfl) hend

theorem IsCondition.endsWord (h : IsCondition F s t) : EndsWord s := by
  obtain ⟨ho, -, -⟩ := h
  exact ho.endsWord (by decide) (by decide) (by decide)

theorem IsBlock.endsWord (h : IsBlock F s t) : EndsWord s := by
  obtain ⟨ho, -⟩ := h
  exact ho.endsWord (by decide) (by decide) (by decide)

theorem IsClass.begins (h : IsClass F s t) : BeginsStatement s := by
  cases h with
  | plain hend _ =>
      exact beginsStatement_of_word (by decide) (List.mem_singleton.2 rfl) hend
  | abstract hg hne _ _ =>
      exact beginsStatement_of_word (by decide) (List.mem_singleton.2 rfl) (hg.endsWord hne _)
  | decorated hd _ _ =>
      obtain ⟨r, rfl⟩ := hd.exists_mark
      exact Or.inl ⟨'@', r, rfl, skip_of_startsLexeme rfl r, by decide, by decide⟩

theorem IsStatement.begins (hF : F.IsLevel) (h : IsStatement F s t) : BeginsStatement s := by
  have hword {w : String}
      (hw : w ∈ ["if", "while", "do", "for", "switch", "try", "function", "async", "enum",
        "const", "interface"])
      {s : List Char} (hend : EndsWord s) : BeginsStatement (w.toList ++ s) :=
    beginsStatement_of_word (by decide) hw hend
  cases h with
  | empty => exact Or.inl ⟨';', _, rfl, skip_of_startsLexeme rfl _, by decide, by decide⟩
  | closed h _ => exact h.begins hF
  | block _ => exact Or.inl ⟨'\x7b', _, rfl, skip_of_startsLexeme rfl _, by decide, by decide⟩
  | ifThen hc _ _ => exact hword (by decide) hc.endsWord
  | ifElse hc _ _ _ => exact hword (by decide) hc.endsWord
  | «while» hc _ => exact hword (by decide) hc.endsWord
  | doWhile hend _ _ _ _ => exact hword (by decide) hend
  | loop hend _ _ _ _ => exact hword (by decide) hend
  | switch hc _ _ => exact hword (by decide) hc.endsWord
  | «try» hb _ => exact hword (by decide) hb.endsWord
  | labelled hw hfree hc _ =>
      have hwords : ∀ w ∈ ["case", "default"], w ∈ statementWords := by decide
      exact Or.inr ⟨_, _, rfl, hw, hc.endsWord (by decide) (by decide) (by decide),
        mt (hwords _) hfree⟩
  | function hend _ => exact hword (by decide) hend
  | asyncFunction hg hne _ _ _ => exact hword (by decide) (hg.endsWord hne _)
  | classLike h => exact h.begins
  | enumeration hend _ _ _ | constEnumeration hend _ _ _ _ | interface hend _ _ _ _ _ =>
      exact hword (by decide) hend

theorem Forms.IsLevel.begins_statement (hF : F.IsLevel) (h : F.statement s t) :
    BeginsStatement s := by
  obtain rfl | ⟨F, hF', rfl⟩ := hF.eq_or
  · exact h.elim
  · exact IsStatement.begins hF' h

theorem Forms.IsLevel.begins_clause (hF : F.IsLevel) (h : F.clause s t) : BeginsStatement s := by
  obtain rfl | ⟨F, hF', rfl⟩ := hF.eq_or
  · exact h.elim
  · exact IsClause.begins hF' h

theorem Spaced.imp {Item Item' : Form} (h : Spaced Item s t)
    (himp : ∀ {s t}, Item s t → Item' s t) : Spaced Item' s t := by
  obtain ⟨hgap, h⟩ := h
  exact .mk hgap (himp h)

/-- Statements are skipped up to the brace that closes their block. -/
theorem blockTail_of_sequence (hg : g.ReadsForms k) (hF : F.IsLevel)
    (h : Sequence F.statement F.clause s t) (hs : s.length + 1 < k) (n : Nat) (hn : s.length ≤ n) :
    g.blockTail n s = some t := by
  refine tail_of_sequence (fun n s => ?_) (leaves_skipStatement hg.consumes) (fun h hle => ?_)
    (fun h hle hend => ?_) h (Nat.le_refl _) n hn
  · rw [Grammar.blockTail, Grammar.skipStatement]
    cases symbol? '\x7d' s <;> cases g.statement s <;> rfl
  · obtain ⟨d, hd⟩ := hg.statement hF h (by omega)
    exact ⟨(BeginsStatement.spaced_eq_none (h.imp hF.begins_statement)).1,
      by rw [Grammar.skipStatement, hd]; rfl⟩
  · obtain ⟨d, hd⟩ := hg.clause hF h (by omega) hend
    exact ⟨(BeginsStatement.spaced_eq_none (h.imp hF.begins_clause)).1,
      by rw [Grammar.skipStatement, hd]; rfl⟩

/-- A block is skipped to its end. -/
theorem block_of_form (hg : g.ReadsForms k) (hF : F.IsLevel) (h : IsBlock F s t)
    (hs : s.length < k) : g.block s = some t := by
  have hdepth := hg.depth
  obtain ⟨ho, h⟩ := h
  have hlength := ho.length_lt
  rw [Grammar.block, ho.symbol?_eq (by decide), Option.bind_some]
  exact blockTail_of_sequence hg hF h (by omega) g.depth (by omega)

theorem IsBlock.skip_eq (h : IsBlock F s t) : ∃ r, skip s = '\x7b' :: r := by
  obtain ⟨ho, -⟩ := h
  exact ⟨_, ho.skip_eq (by decide)⟩

/-! ### Signatures -/

theorem IsSignature.exists_sign (h : IsSignature F s t) :
    ∃ d r, skip s = d :: r ∧ d ∈ ['<', '('] := by
  obtain ⟨htypes, hp, -⟩ := h
  cases htypes with
  | none =>
      obtain ⟨r, ho, -, -⟩ := hp.length_lt
      exact ⟨'(', r, ho.skip_eq (by decide), by decide⟩
  | some h =>
      obtain ⟨r, ho, -, -⟩ := h.length_lt
      exact ⟨'<', r, ho.skip_eq (by decide), by decide⟩

theorem IsSignature.symbol?_eq_none (h : IsSignature F s t) (hc : c ∉ ['<', '(']) :
    symbol? c s = none := by
  obtain ⟨d, r, hskip, hd⟩ := h.exists_sign
  rw [symbol?_of_skip hskip, if_neg (by rintro rfl; exact hc hd)]

/-- A signature and the block behind it are skipped. -/
theorem signature_bind_block (hg : g.ReadsForms k) (hF : F.IsLevel) (h : IsSignature F s r)
    (hb : IsBlock F r t) (hs : s.length < k) : (g.signature s).bind g.block = some t := by
  obtain ⟨v, hskip⟩ := hb.skip_eq
  have hcolon : symbol? ':' r = none := by
    rw [symbol?_of_skip hskip, if_neg (by decide)]
  have hread := signature_of_form hg hF h hs.le
    (endsType_of_sign hskip (by decide) (by decide)) hcolon
  have hr := (leaves_signature hg.consumes s).length_le hread
  rw [hread, Option.bind_some, block_of_form hg hF hb (by omega)]

end DecoratorGraph.Script
