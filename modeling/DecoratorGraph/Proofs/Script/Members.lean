import DecoratorGraph.Proofs.Script.Blocks

/-!
# Reading the members of classes

A member begins with its key, and in front of that stand words that say more of it. Members are
skipped one after the other, and in front of them what their class builds on (`classBody_of_tail`).
-/

namespace DecoratorGraph.Script

variable {F : Forms} {g : Grammar} {k : Nat} {s t r u : List Char} {c d : Char} {place : Place}
variable {within : Bool}

/-! ### Where statements end -/

/-- A statement ends in front of `s`, and `t` is left behind its end. -/
structure EndsStatement (s t : List Char) : Prop where
  expression : EndsExpression .free s
  sign : ∀ c ∈ [',', '=', ':', '!', '?', '(', '<', '\x7b'], symbol? c s = none
  label : crossesLine s = true ∨ skipWord? (skip s) = none
  ends : endStatement s = some t

theorem Sign.endsStatement (h : Sign ';' s t) : EndsStatement s t where
  expression := h.endsExpression (by decide)
  sign c hc := by
    have hsigns : ∀ c ∈ [',', '=', ':', '!', '?', '(', '<', '\x7b'], ';' ≠ c :=
      forall_sign (by decide)
    exact h.symbol?_eq_none (by decide) (hsigns c hc)
  label := Or.inr (by rw [h.skip_eq (by decide)]; rfl)
  ends := by
    rw [endStatement, h.skip_eq (by decide)]
    rfl

theorem EndsClause.endsStatement (h : EndsClause s) : EndsStatement s s := by
  obtain ⟨hexpression, hends⟩ : EndsExpression .free s ∧ endStatement s = some s :=
    h.endsExpression rfl
  refine ⟨hexpression, fun c hc => ?_, ?_, hends⟩
  · have hsigns : ∀ c ∈ [',', '=', ':', '!', '?', '(', '<', '\x7b'], '\x7d' ≠ c ∧
        isWordStart c = false ∧ c ∉ ['@', '#', '"', '\''] := forall_sign (by decide)
    obtain ⟨hbrace, hstart, hnot⟩ := hsigns c hc
    cases h with
    | brace h => exact h.symbol?_eq_none (by decide) hbrace
    | word hgap _ hw _ _ => exact symbol?_of_name hw (hgap.skip_name hw _) hstart
    | @sign gap d t hgap _ hd =>
        have hstarts : ∀ d ∈ ['@', '#', '"', '\''], startsLexeme d = true := forall_sign (by decide)
        rw [symbol?_of_skip (hgap.skip_append (hstarts d hd) t), if_neg]
        rintro rfl
        exact hnot hd
  · cases h with
    | brace h => exact Or.inr (by rw [h.skip_eq (by decide)]; rfl)
    | word hgap hline hw _ _ =>
        exact Or.inl (crossesLine_of_lineFeed hgap hline (hw.skip_append _))
    | @sign gap d t hgap hline hd =>
        have hstarts : ∀ d ∈ ['@', '#', '"', '\''], startsLexeme d = true := forall_sign (by decide)
        exact Or.inl
          (crossesLine_of_lineFeed hgap hline (skip_of_startsLexeme (hstarts d hd) t))

/-! ### Words in front of a key -/

theorem IsKey.startsKey (h : IsKey F s t) : startsKey s = true := by
  obtain ⟨w, rfl, hw, -⟩ | ⟨c, hc, r, rfl⟩ := h.first
  · have hskip := hw.skip_append t
    obtain ⟨c, v, rfl, hc, -⟩ := hw.exists_cons
    rw [Script.startsKey, hskip, List.cons_append]
    simp [hc]
  · have hsigns : ∀ c ∈ keySigns, startsLexeme c = true ∧
        (isWordStart c || c.isDigit || "\"'[#*\\".toList.contains c) = true :=
      forall_sign (by decide)
    rw [Script.startsKey, skip_of_startsLexeme (hsigns c hc).1]
    exact (hsigns c hc).2

/-- A key and what stands in front of it begin with a lexeme, which is none of the signs around a
key. -/
theorem Modified.exists_cons (h : Modified F s t) :
    ∃ c r, s = c :: r ∧ startsLexeme c = true ∧ c ∉ nonKeys.erase '*' ∧
      Script.startsKey s = true := by
  have hkey {s t : List Char} (h : IsKey F s t) : ∃ c r, s = c :: r ∧ startsLexeme c = true ∧
      c ∉ nonKeys.erase '*' ∧ Script.startsKey s = true := by
    obtain ⟨c, r, hcons, hstarts, hnot⟩ := h.exists_cons
    exact ⟨c, r, hcons, hstarts, mt List.mem_of_mem_erase hnot, h.startsKey⟩
  cases h with
  | key h _ => exact hkey h
  | bare hw hend _ => exact hkey (.name hw hend)
  | word _ hname _ hend _ => exact hkey (.name hname hend)
  | star _ _ =>
      refine ⟨'*', _, rfl, by decide, by decide, ?_⟩
      rw [Script.startsKey, skip_of_startsLexeme (by decide)]
      rfl

theorem Modified.symbol?_eq_none (h : Modified F s t) {gap : List Char} (hgap : Gap gap)
    (hc : c ∈ nonKeys.erase '*') : symbol? c (gap ++ s) = none := by
  obtain ⟨d, r, rfl, hstarts, hnot, -⟩ := h.exists_cons
  have hne : d ≠ c := by
    rintro rfl
    exact hnot hc
  rw [symbol?_of_skip (hgap.skip_append hstarts r), if_neg hne]

theorem Spaced.startsKey (h : Spaced (Modified F) s t) : Script.startsKey s = true := by
  obtain @⟨gap, s, _, hgap, h⟩ := h
  obtain ⟨c, r, rfl, hstarts, -, hkey⟩ := h.exists_cons
  rw [Script.startsKey, skip_of_startsLexeme hstarts] at hkey
  rw [Script.startsKey, hgap.skip_append hstarts]
  exact hkey

theorem NextIn.startsKey (h : NextIn ['(', '<', '?', '!', ':', '=', ';', '\x7d'] s) :
    Script.startsKey s = false := by
  obtain ⟨c, hc, t, ho⟩ := h
  have hsigns : ∀ c ∈ ['(', '<', '?', '!', ':', '=', ';', '\x7d'], startsLexeme c = true ∧
      (isWordStart c || c.isDigit || "\"'[#*\\".toList.contains c) = false :=
    forall_sign (by decide)
  rw [Script.startsKey, ho.skip_eq (hsigns c hc).1]
  exact (hsigns c hc).2

/-- A word is a key if no key follows it or if it is no word that stands in front of keys. -/
theorem memberModifier_of_key {gap : List Char} (hgap : Gap gap) (h : IsKey F s t)
    (hkey : ∀ w, s = w ++ t → IsName w →
      String.ofList w ∉ memberModifiers ∨ Script.startsKey t = false) :
    memberModifier (gap ++ s) = none := by
  obtain ⟨w, rfl, hw, hend⟩ | ⟨c, hc, r, rfl⟩ := h.first
  · rw [memberModifier, hgap.skip_name hw, hw.word?_append hend]
    obtain hfree | hstart := hkey w rfl hw
    · simp [hfree]
    · simp [hstart]
  · have hsigns : ∀ c ∈ keySigns, startsLexeme c = true ∧ isWordStart c = false ∧ c ≠ '\\' ∧
        c ≠ '*' := forall_sign (by decide)
    obtain ⟨hstarts, hstart, hb, hstar⟩ := hsigns c hc
    have hskip := hgap.skip_append hstarts r
    rw [memberModifier, hskip, word?_of_sign hstart hb]
    show symbol? '*' (gap ++ c :: r) = none
    rw [symbol?_of_skip hskip, if_neg hstar]

/-- The words in front of a key are skipped. -/
theorem exists_skipMany_memberModifier (h : Spaced (Modified F) s t) :
    ∃ u, Spaced (IsKey F) u t ∧ u.length ≤ s.length ∧
      ∀ n, s.length ≤ n → skipMany memberModifier n s = u := by
  have hsame : modifierWords = memberModifiers := rfl
  obtain @⟨gap, s, _, hgap, h⟩ := h
  induction h generalizing gap with
  | @key s t h hnext =>
      exact ⟨gap ++ s, .mk hgap h, Nat.le_refl _, fun n _ => skipMany_of_none
        (memberModifier_of_key hgap h fun _ _ _ => Or.inr hnext.startsKey) n⟩
  | @bare w t hw hend hfree =>
      have hkey : IsKey F (w ++ t) t := .name hw hend
      refine ⟨gap ++ (w ++ t), .mk hgap hkey, Nat.le_refl _, fun n _ => skipMany_of_none
        (memberModifier_of_key hgap hkey fun w' heq _ => Or.inl ?_) n⟩
      rw [← List.append_cancel_right heq]
      exact hfree
  | @word w gap' s t hw hname hg hend h ih =>
      obtain ⟨u, hu, hlength, hmany⟩ := ih hg
      have hmodifier : memberModifier (gap ++ (w ++ (gap' ++ s))) = some (gap' ++ s) := by
        rw [memberModifier, hgap.skip_name hname, hname.word?_append hend]
        simp [← hsame, hw, (Spaced.mk hg h).startsKey]
      refine ⟨u, hu, ?_, skipMany_of_some hmodifier ⟨gap ++ w, by simp⟩ hmany⟩
      simp only [List.length_append] at hlength ⊢
      omega
  | @star gap' s t hg h ih =>
      obtain ⟨u, hu, hlength, hmany⟩ := ih hg
      have hmodifier : memberModifier (gap ++ '*' :: (gap' ++ s)) = some (gap' ++ s) := by
        have hskip := hgap.skip_append (c := '*') (by decide) (gap' ++ s)
        rw [memberModifier, hskip, word?_of_sign (by decide) (by decide)]
        show symbol? '*' (gap ++ '*' :: (gap' ++ s)) = some (gap' ++ s)
        rw [symbol?_of_skip hskip, if_pos rfl]
      refine ⟨u, hu, ?_, skipMany_of_some hmodifier ⟨gap ++ ['*'], by simp⟩ hmany⟩
      simp only [List.length_append, List.length_cons] at hlength ⊢
      omega

/-- A member with a key is no block behind `static`. -/
theorem Modified.static_eq_none (g : Grammar) (h : Modified F s t) {gap : List Char}
    (hgap : Gap gap) : (keyword? "static" (gap ++ s)).bind g.block = none := by
  have hblock {r : List Char} (hr : symbol? '\x7b' r = none) : g.block r = none := by
    rw [Grammar.block, hr, Option.bind_none]
  have hname {w r : List Char} (hw : IsName w) (hend : EndsWord r) (hr : symbol? '\x7b' r = none) :
      (keyword? "static" (gap ++ (w ++ r))).bind g.block = none := by
    rw [keyword?_of_name hw (hgap.skip_name hw r) hend]
    split
    · rw [Option.bind_some, hblock hr]
    · rfl
  cases h with
  | @key s t h hnext =>
      obtain ⟨w, rfl, hw, hend⟩ | ⟨c, hc, r, rfl⟩ := h.first
      · have hsigns : ∀ c ∈ ['(', '<', '?', '!', ':', '=', ';', '\x7d'], startsLexeme c = true ∧
            c ≠ '\x7b' := forall_sign (by decide)
        obtain ⟨c, hc, v, ho⟩ := hnext
        refine hname hw hend ?_
        exact ho.symbol?_eq_none (hsigns c hc).1 (hsigns c hc).2
      · have hsigns : ∀ c ∈ keySigns, startsLexeme c = true ∧ isWordStart c = false ∧ c ≠ '\\' :=
          forall_sign (by decide)
        obtain ⟨hstarts, hstart, hb⟩ := hsigns c hc
        rw [keyword?_of_sign (hgap.skip_append hstarts r) hstart hb, Option.bind_none]
  | @bare w t hw hend hfree =>
      have hne : String.ofList w ≠ "static" := by
        intro heq
        rw [heq] at hfree
        exact hfree (by decide)
      rw [keyword?_of_name hw (hgap.skip_name hw t) hend, if_neg hne, Option.bind_none]
  | word _ hw hg hend h => exact hname hw hend (h.symbol?_eq_none hg (by decide))
  | star _ _ =>
      rw [keyword?_of_sign (hgap.skip_append (by decide) _) (by decide) (by decide),
        Option.bind_none]

/-- No colon follows what a key with words in front of it begins with. -/
theorem Modified.key_bind_eq_none (hg : g.ReadsForms k) (hF : F.IsLevel) (h : Modified F s t)
    (hs : s.length ≤ k) (ht : symbol? ':' t = none) : (g.key s).bind (symbol? ':') = none := by
  cases h with
  | key h _ => rw [key_of_form hg hF h hs, Option.bind_some, ht]
  | bare hw hend _ => rw [key_of_name g hw hend, Option.bind_some, ht]
  | word _ hname hgap hend h =>
      rw [key_of_name g hname hend, Option.bind_some, h.symbol?_eq_none hgap (by decide)]
  | star _ _ =>
      rw [Grammar.key, skip_of_startsLexeme (by decide)]
      rfl

theorem key_of_spaced (hg : g.ReadsForms k) (hF : F.IsLevel) (h : Spaced (IsKey F) s t)
    (hs : s.length ≤ k) : g.key s = some t ∧ g.key (skip s) = some t := by
  obtain @⟨gap, s, _, hgap, h⟩ := h
  have hskip : skip (gap ++ s) = s := by
    rw [skip_append_of_gap hgap, h.skip_eq]
  have hread := key_of_form hg hF h (by rw [List.length_append] at hs; omega)
  refine ⟨?_, by rw [hskip, hread]⟩
  rw [Grammar.key, skip_append_of_gap hgap, ← Grammar.key, hread]

/-! ### Where members end -/

theorem EndsStatement.endMember (h : EndsStatement s t) : endMember s = some t := by
  rw [Script.endMember, h.sign ',' (by decide)]
  exact h.ends

theorem next?_ne_of_symbol? (h : symbol? c s = none) : next? s ≠ some c := by
  intro hnext
  obtain ⟨r, hskip⟩ : ∃ r, skip s = c :: r := ⟨_, (List.cons_head?_tail hnext).symm⟩
  rw [symbol?_of_skip hskip, if_pos rfl] at h
  contradiction

theorem IsSignature.next?_eq (h : IsSignature F s t) : next? s = some '(' ∨ next? s = some '<' := by
  obtain ⟨htypes, hp, -⟩ := h
  obtain ⟨_, ho, -, -⟩ := hp.length_lt
  cases htypes with
  | none => exact Or.inl (by rw [next?, ho.skip_eq (by decide), List.head?_cons])
  | some h =>
      obtain ⟨_, ho, -, -⟩ := h.length_lt
      exact Or.inr (by rw [next?, ho.skip_eq (by decide), List.head?_cons])

/-- Skips what follows the key of a member. -/
def Grammar.memberRest (g : Grammar) : Skipper := fun r =>
  let r := skipOptional (symbol? '!') (skipOptional (symbol? '?') r)
  if next? r = some '(' ∨ next? r = some '<' then do
    let r ← g.signature r
    if next? r = some '\x7b' then g.block r else endMember r
  else do
    let r ← g.annotation r
    let r ← g.initializer .free r
    endMember r

/-- The signature of a member, and its body if it has one. -/
theorem memberRest_of_signature (hg : g.ReadsForms k) (hF : F.IsLevel) (hq : Opt (Sign '?') s r)
    (h : IsSignature F r u) (hs : s.length ≤ k) (hu : EndsType u) (hcolon : symbol? ':' u = none) :
    u.length ≤ s.length ∧
      g.memberRest s = if next? u = some '\x7b' then g.block u else endMember u := by
  have hr := skipOptional_of_opt hq (by decide) (h.symbol?_eq_none (by decide))
  have hmark : symbol? '!' r = none := h.symbol?_eq_none (by decide)
  have hsignature := signature_of_form hg hF h (by omega) hu hcolon
  have hle := (leaves_signature hg.consumes r).length_le hsignature
  refine ⟨by omega, ?_⟩
  rw [Grammar.memberRest]
  simp only [hr.1, skipOptional_of_none hmark, h.next?_eq, if_true, hsignature,
    Option.bind_eq_bind, Option.bind_some]

/-- The type and the first value of a field. -/
theorem memberRest_of_field (hg : g.ReadsForms k) (hF : F.IsLevel)
    (hm : Opt (Sign '?') s r ∨ Sign '!' s r) (ht : Led ':' F.type r u)
    {v : List Char} (he : Led '=' F.expression u v) (hs : s.length ≤ k) (hv : EndsStatement v t) :
    g.memberRest s = some t := by
  have hsign {c : Char} (hc : c ∈ [',', '=', ':', '!', '?', '(', '<', '\x7b'])
      (hne : ':' ≠ c ∧ '=' ≠ c) : symbol? c r = none :=
    symbol?_of_led ht (by decide) hne.1 (symbol?_of_led he (by decide) hne.2 (hv.sign c hc))
  have hmark : skipOptional (symbol? '!') r = r :=
    skipOptional_of_none (hsign (by decide) (by decide))
  have hquestion : symbol? '?' r = none := hsign (by decide) (by decide)
  have hr : skipOptional (symbol? '!') (skipOptional (symbol? '?') s) = r ∧
      r.length ≤ s.length := by
    obtain hq | hm := hm
    · obtain ⟨hread, hlength⟩ := skipOptional_of_opt hq (by decide) hquestion
      exact ⟨by rw [hread, hmark], hlength⟩
    · have hnone : symbol? '?' s = none := hm.symbol?_eq_none (by decide) (by decide)
      exact ⟨by rw [skipOptional_of_none hnone, skipOptional_of_some (hm.symbol?_eq (by decide))],
        hm.length_lt.le⟩
  have hopen : next? r ≠ some '(' := next?_ne_of_symbol? (hsign (by decide) (by decide))
  have hless : next? r ≠ some '<' := next?_ne_of_symbol? (hsign (by decide) (by decide))
  have hannotation := annotation_of_led hg hF ht (by omega)
    (endsType_of_led he (by decide) (by decide) hv.expression.type)
    (symbol?_of_led he (by decide) (by decide) (hv.sign ':' (by decide)))
  have hu := (leaves_typeAfterColon hg.consumes r).length_le hannotation
  have hinitializer : g.initializer .free u = some v :=
    initializer_of_led hg hF (Place.admits_free true) he (by omega) hv.expression
      (hv.sign '=' (by decide))
  rw [Grammar.memberRest]
  simp only [hr.1, hopen, hless, or_self, if_false, hannotation, Option.bind_eq_bind,
    Option.bind_some, hinitializer, hv.endMember]

/-! ### Members -/

/-- A key is no parameter in brackets, since no type follows what an expression begins with. -/
theorem indexParameter_eq_none (hg : g.ReadsForms k) (hF : F.IsLevel) (h : Spaced (IsKey F) s t)
    (hs : s.length ≤ k) : g.indexParameter s = none := by
  have hdepth := hg.depth
  obtain @⟨gap, s, _, hgap, h⟩ := h
  rw [List.length_append] at hs
  have hsign {c : Char} (hstarts : startsLexeme c = true) (hne : c ≠ '[') (r : List Char) :
      g.indexParameter (gap ++ c :: r) = none := by
    rw [Grammar.indexParameter, symbol?_of_skip (hgap.skip_append hstarts r), if_neg hne]
    rfl
  cases h with
  | name hw _ =>
      rw [Grammar.indexParameter, symbol?_of_name hw (hgap.skip_name hw t) (by decide)]
      rfl
  | string h =>
      obtain ⟨quote, hquote, body, rfl, -⟩ := h.exists_quote
      have hquotes : ∀ c ∈ ['"', '\''], startsLexeme c = true ∧ c ≠ '[' := forall_sign (by decide)
      exact hsign (hquotes quote hquote).1 (hquotes quote hquote).2 body
  | number h =>
      obtain ⟨c, r, rfl, hdigit⟩ := h.exists_digit
      refine hsign (starts_of_isDigit hdigit).1 ?_ r
      rintro rfl
      exact absurd hdigit (by decide)
  | hidden _ _ => exact hsign (by decide) (by decide) _
  | @computed s r _ he hc =>
      obtain @⟨_, u, _, he, hf⟩ := he
      have hcloses : Closes u := by
        cases hf with
        | nil => exact ⟨_, _, hc.skip_eq (by decide), by decide⟩
        | cons hc' _ _ => exact ⟨_, _, hc'.skip_eq (by decide), by decide⟩
      rw [List.length_cons] at hs
      rw [Grammar.indexParameter, symbol?_of_skip (hgap.skip_append (by decide) s), if_pos rfl]
      cases hword : skipWord? (skip s) with
      | none => simp [hword]
      | some v =>
          have hpattern := pattern_of_word hg.level (by omega) hword
          have hcolon := (hg.cover hF he (by omega) hcloses v hpattern).colon
            (hcloses.symbol?_eq_none (by decide))
          simp [hword, hcolon]

/-- A member with a key is skipped as what follows the key. -/
theorem member_of_key (hg : g.ReadsForms k) (hF : F.IsLevel) {gap : List Char} (hgap : Gap gap)
    (h : Modified F s r)
    (hs : (gap ++ s).length ≤ k) :
    symbol? '\x7d' (gap ++ s) = none ∧ r.length ≤ (gap ++ s).length ∧
      g.member (gap ++ s) = g.memberRest r := by
  have hdepth := hg.depth
  obtain ⟨u, hu, hle, hmany⟩ := exists_skipMany_memberModifier (.mk hgap h)
  have hkey := (key_of_spaced hg hF hu (by omega)).1
  have hr := (leaves_key hg.consumes u).length_le hkey
  have hindex := indexParameter_eq_none hg hF hu (by omega)
  refine ⟨h.symbol?_eq_none hgap (by decide), by omega, ?_⟩
  rw [Grammar.member, h.symbol?_eq_none hgap (by decide),
    skipDecorator_eq_none g (h.symbol?_eq_none hgap (by decide)), h.static_eq_none g hgap]
  simp only [hmany g.depth (by omega), hindex, hkey, Option.bind_eq_bind, Option.bind_some]
  rfl

/-- A member without the semicolon at its end is skipped up to there, and then its end. -/
theorem member_of_field (hg : g.ReadsForms k) (hF : F.IsLevel) (h : Spaced (IsField F) s r)
    (hs : s.length ≤ k) (hr : EndsStatement r t) :
    symbol? '\x7d' s = none ∧ g.member s = some t := by
  have hdepth := hg.depth
  obtain @⟨gap, s, _, hgap, h⟩ := h
  cases h with
  | field hk hm ht he =>
      obtain ⟨hbrace, hlength, hmember⟩ := member_of_key hg hF hgap hk hs
      exact ⟨hbrace, by rw [hmember, memberRest_of_field hg hF hm ht he (by omega) hr]⟩
  | signature hk hq hsig =>
      obtain ⟨hbrace, hlength, hmember⟩ := member_of_key hg hF hgap hk hs
      refine ⟨hbrace, ?_⟩
      rw [hmember, (memberRest_of_signature hg hF hq hsig (by omega) hr.expression.type
        (hr.sign ':' (by decide))).2, if_neg (next?_ne_of_symbol? (hr.sign '\x7b' (by decide))),
        hr.endMember]
  | @index s x u v y z _ hn hc hk hb hc' ht =>
      have hskip : skip (gap ++ '[' :: s) = '[' :: s := hgap.skip_append (by decide) s
      have hnone {c : Char} (hc : '[' ≠ c) : symbol? c (gap ++ '[' :: s) = none := by
        rw [symbol?_of_skip hskip, if_neg hc]
      have hmodifier : memberModifier (gap ++ '[' :: s) = none := by
        rw [memberModifier, hskip, word?_of_sign (by decide) (by decide)]
        exact hnone (by decide)
      simp only [List.length_append, List.length_cons] at hs
      have hx := hn.length_lt
      have hu := hc.length_lt
      have hkey := hg.type hF hk (by omega)
        (endsType_of_sign (hb.skip_eq (by decide)) (by decide) (by decide))
      have hv := (hg.consumes.type u).length_le hkey
      have hy := hb.length_lt
      have hz := hc'.length_lt
      have hindex : g.indexParameter (gap ++ '[' :: s) = some y := by
        rw [Grammar.indexParameter, symbol?_of_skip hskip, if_pos rfl]
        simp only [Option.bind_eq_bind, Option.bind_some, hn.skipWord?_eq,
          hc.symbol?_eq (show startsLexeme ':' = true by decide), hkey,
          hb.symbol?_eq (show startsLexeme ']' = true by decide)]
      have hannotation : g.annotation y = some r := by
        rw [Grammar.annotation, hc'.symbol?_eq (by decide)]
        exact hg.type hF ht (by omega) hr.expression.type
      refine ⟨hnone (by decide), ?_⟩
      rw [Grammar.member, hnone (by decide), skipDecorator_eq_none g (hnone (by decide)),
        keyword?_of_sign hskip (by decide) (by decide), Option.bind_none]
      simp only [skipMany_of_none hmodifier, hindex, hannotation, Option.bind_some, hr.endMember]

/-- A member is skipped to its end. -/
theorem member_of_form (hg : g.ReadsForms k) (hF : F.IsLevel) (h : Spaced (IsMember F) s t)
    (hs : s.length < k) : symbol? '\x7d' s = none ∧ g.member s = some t := by
  obtain @⟨gap, s, _, hgap, h⟩ := h
  cases h with
  | empty =>
      have hskip : skip (gap ++ ';' :: t) = ';' :: t := hgap.skip_append (by decide) t
      refine ⟨by rw [symbol?_of_skip hskip, if_neg (by decide)], ?_⟩
      rw [Grammar.member, symbol?_of_skip hskip, if_pos rfl]
  | closed h hc => exact member_of_field hg hF (.mk hgap h) hs.le hc.endsStatement
  | decorator h =>
      have hread := skipDecorator_of_form hg hF (.mk hgap h) hs.le
      obtain ⟨r, rfl⟩ := h.exists_mark
      have hskip : skip (gap ++ '@' :: r) = '@' :: r := hgap.skip_append (by decide) r
      refine ⟨by rw [symbol?_of_skip hskip, if_neg (by decide)], ?_⟩
      rw [Grammar.member, symbol?_of_skip hskip, if_neg (by decide), hread]
  | @initializer s _ hb =>
      have hname : IsName "static".toList := by decide
      have hskip := hgap.skip_name hname s
      have hmark : symbol? '@' (gap ++ ("static".toList ++ s)) = none :=
        symbol?_of_name hname hskip (by decide)
      simp only [List.length_append] at hs
      refine ⟨symbol?_of_name hname hskip (by decide), ?_⟩
      rw [Grammar.member, symbol?_of_name hname hskip (by decide), skipDecorator_eq_none g hmark,
        keyword?_of_name hname hskip hb.endsWord, if_pos (by decide), Option.bind_some,
        block_of_form hg hF hb (by omega)]
  | @method s r u v _ hk hq hsig hb =>
      obtain ⟨hbrace, hlength, hmember⟩ := member_of_key hg hF hgap hk hs.le
      obtain ⟨x, hopen⟩ := hb.skip_eq
      have hcolon : symbol? ':' v = none := by
        rw [symbol?_of_skip hopen, if_neg (by decide)]
      have hnext : next? v = some '\x7b' := by rw [next?, hopen, List.head?_cons]
      obtain ⟨hle, hrest⟩ := memberRest_of_signature hg hF hq hsig (by omega)
        (endsType_of_sign hopen (by decide) (by decide)) hcolon
      exact ⟨hbrace, by rw [hmember, hrest, if_pos hnext, block_of_form hg hF hb (by omega)]⟩

theorem membersTail_of_sequence (hg : g.ReadsForms k) (hF : F.IsLevel)
    (h : Sequence (IsMember F) (IsField F) s t) (hs : s.length < k) (n : Nat) (hn : s.length ≤ n) :
    g.membersTail n s = some t := by
  refine tail_of_sequence (fun n s => ?_) (leaves_member hg.consumes)
    (fun h hle => member_of_form hg hF h (by omega))
    (fun h hle hend => member_of_field hg hF h (by omega) hend.endsStatement) h (Nat.le_refl _) n hn
  rw [Grammar.membersTail]
  cases symbol? '\x7d' s <;> cases g.member s <;> rfl

/-! ### What a class builds on -/

/-- Nothing that follows belongs to the last class or interface that is built on. -/
structure EndsHeritage (t : List Char) : Prop where
  target : EndsTarget t
  type : EndsType t
  arguments : symbol? '<' t = none

theorem Sign.endsHeritage (h : Sign c s t) (hc : c ∈ [',', '\x7b']) : EndsHeritage s := by
  have hsigns : ∀ c ∈ [',', '\x7b'], startsLexeme c = true ∧ c ∈ valueEnds ∧ c ≠ '<' :=
    forall_sign (by decide)
  obtain ⟨hstarts, hends, hless⟩ := hsigns c hc
  have hexpression : EndsExpression .free s := h.endsExpression hends
  exact ⟨hexpression.toEndsTarget, hexpression.type, h.symbol?_eq_none hstarts hless⟩

theorem Keyword.endsHeritage (h : Keyword "implements" s t) : EndsHeritage s := by
  have hname : IsName "implements".toList := by decide
  obtain ⟨hskip, hend⟩ := h.skip_eq hname
  exact ⟨endsTarget_of_name hskip hname,
    endsType_of_name hskip hname hend (by decide) (Or.inr (by decide)),
    symbol?_of_name hname hskip (by decide)⟩

/-- Items behind commas are skipped as long as one follows. -/
theorem skipFurther_of_form {Item : Form} {item : Skipper} {Ends : List Char → Prop}
    (hleaves : ∀ s, Leaves s (item s))
    (hitem : ∀ {s t}, Spaced Item s t → s.length < k → Ends t → item s = some t)
    (hcomma : ∀ {s t}, Sign ',' s t → Ends s) (h : Further Item s t) (hs : s.length ≤ k)
    (ht : Ends t) (hlast : symbol? ',' t = none) (n : Nat) (hn : s.length ≤ n) :
    skipFurther item n s = t := by
  induction h generalizing n with
  | nil => exact skipMany_of_none (by rw [hlast, Option.bind_none]) n
  | @cons s r u t hc h hf ih =>
      have hends : Ends u := by
        cases hf with
        | nil => exact ht
        | cons hc' _ _ => exact hcomma hc'
      have hr := hc.length_lt
      have hread := hitem h (by omega) hends
      have hsuffix : u <:+ r := hleaves r u hread
      have hle := hsuffix.length_le
      have hstep : (symbol? ',' s).bind item = some u := by
        rw [hc.symbol?_eq (by decide), Option.bind_some, hread]
      exact skipMany_of_some hstep (hsuffix.trans hc.suffix) (ih (by omega) ht hlast) n hn

/-- One item, and others behind commas, up to where nothing goes on with the last of them. -/
theorem items_of_further {Item : Form} {item : Skipper} (hleaves : ∀ s, Leaves s (item s))
    (hitem : ∀ {s t}, Spaced Item s t → s.length < k → EndsHeritage t → item s = some t)
    (h : Spaced Item s r) (hf : Further Item r t) (hs : s.length < k) (ht : EndsHeritage t)
    (hlast : symbol? ',' t = none) {n : Nat} (hn : k ≤ n) :
    (item s).map (skipFurther item n) = some t := by
  have hcomma {s t : List Char} (h : Sign ',' s t) : EndsHeritage s := h.endsHeritage (by decide)
  have hends : EndsHeritage r := by
    cases hf with
    | nil => exact ht
    | cons hc _ _ => exact hcomma hc
  have hread := hitem h hs hends
  have hle := (hleaves s).length_le hread
  rw [hread, Option.map_some,
    skipFurther_of_form hleaves hitem hcomma hf (by omega) ht hlast n (by omega)]

/-- Skips a class that is built on. -/
def Grammar.base (g : Grammar) : Skipper := fun s => do
  let (_, r) ← g.operand .free s
  some (skipOptional g.typeArguments r)

theorem leaves_base (hg : g.Consumes) (s : List Char) : Leaves s (g.base s) := by
  have hoperand := hg.operand
  have htypeArguments := leaves_typeArguments hg
  unfold Grammar.base
  grind

theorem base_of_form (hg : g.ReadsForms k) (hF : F.IsLevel) (h : Spaced F.target s t)
    (hs : s.length < k) (ht : EndsHeritage t) : g.base s = some t := by
  obtain ⟨e, hread⟩ := hg.target hF h hs ht.target .free
  simp only [Grammar.base, hread, Option.bind_eq_bind, Option.bind_some,
    skipOptional_of_none (typeArguments_eq_none g ht.arguments)]

/-- Skips the interfaces of a class. -/
def Grammar.interfaces (g : Grammar) : Skipper := fun s =>
  (keyword? "implements" s).elim (some s) fun r => (g.type r).map (skipFurther g.type g.depth)

theorem heritage_eq (g : Grammar) (s : List Char) :
    g.heritage s = ((keyword? "extends" s).elim (some s) fun r =>
      (g.base r).map (skipFurther g.base g.depth)).bind g.interfaces := by
  rw [Grammar.heritage]
  cases keyword? "extends" s with
  | none =>
      simp only [Option.bind_eq_bind, Option.elim_none, Option.bind_some, Grammar.interfaces]
      cases keyword? "implements" s <;> rfl
  | some r =>
      rw [Option.elim_some]
      show ((g.base r).map (skipFurther g.base g.depth)).bind _ = _
      cases (g.base r).map (skipFurther g.base g.depth) with
      | none => rfl
      | some r =>
          simp only [Option.bind_some, Grammar.interfaces]
          cases keyword? "implements" r <;> rfl

/-- What a class builds on is skipped up to the brace in front of its members. -/
theorem heritage_of_form (hg : g.ReadsForms k) (hF : F.IsLevel)
    (he : Heritage "extends" F.target s r) (hi : Heritage "implements" F.type r u)
    (ho : Sign '\x7b' u t) (hs : s.length ≤ k) : g.heritage s = some u := by
  have hdepth := hg.depth
  have hextends : IsName "extends".toList := by decide
  have himplements : IsName "implements".toList := by decide
  have hskip := ho.skip_eq (by decide)
  have hbrace : EndsHeritage u := ho.endsHeritage (by decide)
  have hlast : symbol? ',' u = none := ho.symbol?_eq_none (by decide) (by decide)
  obtain ⟨hends, hcomma, hnone⟩ :
      EndsHeritage r ∧ symbol? ',' r = none ∧ keyword? "extends" r = none := by
    cases hi with
    | none => exact ⟨hbrace, hlast, keyword?_of_sign hskip (by decide) (by decide) _⟩
    | some hk _ _ =>
        exact ⟨hk.endsHeritage, symbol?_of_name himplements (hk.skip_eq himplements).1 (by decide),
          hk.keyword?_ne himplements (by decide)⟩
  have hsecond (hr : r.length ≤ k) : g.interfaces r = some u := by
    rw [Grammar.interfaces]
    cases hi with
    | none =>
        rw [keyword?_of_sign hskip (by decide) (by decide)]
        rfl
    | @some _ x y _ hk h hf =>
        have hx := hk.length_lt himplements
        rw [hk.keyword?_eq himplements]
        exact items_of_further hg.consumes.type (fun h hs ht => hg.type hF h hs ht.type) h hf
          (by omega) hbrace hlast hdepth
  rw [heritage_eq]
  cases he with
  | none =>
      rw [hnone]
      exact hsecond hs
  | @some _ x y _ hk h hf =>
      have hx := hk.length_lt hextends
      have hread := items_of_further (leaves_base hg.consumes) (base_of_form hg hF) h hf (by omega)
        hends hcomma hdepth
      have hr : r.length ≤ x.length := by
        obtain ⟨z, hz, hfurther⟩ := Option.map_eq_some_iff.1 hread
        rw [← hfurther]
        exact ((skipFurther_suffix (leaves_base hg.consumes) g.depth z).trans
          (leaves_base hg.consumes x z hz)).length_le
      rw [hk.keyword?_eq hextends, Option.elim_some, hread]
      exact hsecond (by omega)

def Grammar.classBody (g : Grammar) : Skipper := fun s => do
  let r ← g.heritage (skipOptional g.typeParameters s)
  let r ← symbol? '\x7b' r
  g.membersTail g.depth r

/-- What follows the name of a class is skipped to its end. -/
theorem classBody_of_tail (hg : g.ReadsForms k) (hF : F.IsLevel) (h : IsClassTail F s t)
    (hs : s.length ≤ k) : g.classBody s = some t := by
  have hdepth := hg.depth
  obtain @⟨_, r, u, v, w, _, htypes, he, hi, ho, hm⟩ := h
  have hless : symbol? '<' r = none := by
    have hbrace : symbol? '<' v = none := ho.symbol?_eq_none (by decide) (by decide)
    have hu : symbol? '<' u = none := by
      cases hi with
      | none => exact hbrace
      | some hk _ _ => exact hk.endsHeritage.arguments
    cases he with
    | none => exact hu
    | some hk _ _ =>
        have hextends : IsName "extends".toList := by decide
        exact symbol?_of_name hextends (hk.skip_eq hextends).1 (by decide)
  obtain ⟨hparameters, hr⟩ := skipOptional_typeParameters_of_form hg hF htypes hs hless
  have hheritage := heritage_of_form hg hF he hi ho (by omega)
  have hv := (leaves_heritage hg.consumes r).length_le hheritage
  have hw := ho.length_lt
  rw [Grammar.classBody, hparameters]
  simp only [hheritage, ho.symbol?_eq (show startsLexeme '\x7b' = true by decide),
    Option.bind_eq_bind, Option.bind_some]
  exact membersTail_of_sequence hg hF hm (by omega) g.depth (by omega)

/-! ### Names of classes -/

theorem IsClassTail.first (h : IsClassTail F s t) :
    (∃ c ∈ ['<', '\x7b'], ∃ r, skip s = c :: r) ∨
      ∃ w ∈ ["extends", "implements"], ∃ r, skip s = w.toList ++ r ∧ EndsWord r := by
  obtain ⟨htypes, he, hi, ho, -⟩ := h
  cases htypes with
  | some h =>
      obtain ⟨_, hopen, -, -⟩ := h.length_lt
      exact Or.inl ⟨'<', by decide, _, hopen.skip_eq (by decide)⟩
  | none =>
      cases he with
      | some hk _ _ => exact Or.inr ⟨"extends", by decide, _, hk.skip_eq (by decide)⟩
      | none =>
          cases hi with
          | some hk _ _ => exact Or.inr ⟨"implements", by decide, _, hk.skip_eq (by decide)⟩
          | none => exact Or.inl ⟨'\x7b', by decide, _, ho.skip_eq (by decide)⟩

/-- A class is known by its name, whatever follows it. -/
theorem classTail_of_name {gap w : List Char} (hgap : Gap gap) (hw : IsName w)
    (hfree : String.ofList w ∉ ["extends", "implements"]) (hend : EndsWord s)
    (hbody : g.classBody s = some t) :
    g.classTail (gap ++ (w ++ s)) = some (some (String.ofList w), t) := by
  simp only [List.mem_cons, List.not_mem_nil, or_false] at hfree
  rw [Grammar.classTail, hgap.skip_name hw, hw.word?_append hend]
  simp only [hfree, if_false]
  simpa [Grammar.classBody, Option.bind_eq_some_iff] using hbody

theorem classTail_of_named (hg : g.ReadsForms k) (hF : F.IsLevel) (h : NamedClass F s t)
    (hs : s.length ≤ k) : ∃ name, g.classTail s = some (some name, t) := by
  obtain ⟨hgap, hw, hfree, hend, h⟩ := h
  simp only [List.length_append] at hs
  exact ⟨_, classTail_of_name hgap hw hfree hend (classBody_of_tail hg hF h (by omega))⟩

/-- What stands behind the word `class` is read to its end. -/
theorem exists_classTail_of_form (hg : g.ReadsForms k) (hF : F.IsLevel)
    (h : NamedClass F s t ∨ IsClassTail F s t) (hs : s.length ≤ k) :
    ∃ name, g.classTail s = some (name, t) := by
  obtain h | h := h
  · obtain ⟨name, hname⟩ := classTail_of_named hg hF h hs
    exact ⟨_, hname⟩
  · have hbody := classBody_of_tail hg hF h hs
    refine ⟨none, ?_⟩
    obtain ⟨c, hc, r, hskip⟩ | ⟨w, hw, r, hskip, hend⟩ := h.first
    · have hsigns : ∀ c ∈ ['<', '\x7b'], isWordStart c = false ∧ c ≠ '\\' := forall_sign (by decide)
      rw [Grammar.classTail, hskip, word?_of_sign (hsigns c hc).1 (hsigns c hc).2]
      simpa [Grammar.classBody, Option.bind_eq_some_iff] using hbody
    · have hname : IsName w.toList := isName_of_mem (by decide) hw
      rw [Grammar.classTail, hskip, hname.word?_append hend, String.ofList_toList]
      simp only [List.mem_cons, List.not_mem_nil, or_false] at hw
      simp only [hw, if_true]
      simpa [Grammar.classBody, Option.bind_eq_some_iff] using hbody

/-- Behind the word `class` stands a word or a sign that goes on with nothing. -/
theorem exists_sign_of_class (h : NamedClass F s t ∨ IsClassTail F s t) :
    ∃ d r, skip s = d :: r ∧ d ∉ '?' :: itemSigns := by
  have hword {w r : List Char} (hw : IsName w) (hskip : skip s = w ++ r) :
      ∃ d r, skip s = d :: r ∧ d ∉ '?' :: itemSigns := by
    obtain ⟨d, v, hcons, -, hsign⟩ := hw.exists_head r
      (show ('?' :: itemSigns).all (fun d => !isWordStart d) = true by decide)
    exact ⟨d, v, hskip.trans hcons, hsign⟩
  obtain ⟨hgap, hw, -, -, -⟩ | h := h
  · exact hword hw (hgap.skip_name hw _)
  · obtain ⟨c, hc, r, hskip⟩ | ⟨w, hw, r, hskip, -⟩ := h.first
    · have hsigns : ∀ c ∈ ['<', '\x7b'], c ∉ '?' :: itemSigns := forall_sign (by decide)
      exact ⟨c, r, hskip, hsigns c hc⟩
    · exact hword (isName_of_mem (by decide) hw) hskip

end DecoratorGraph.Script
