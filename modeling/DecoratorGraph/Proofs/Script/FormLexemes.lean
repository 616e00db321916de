import DecoratorGraph.Proofs.Script.Expressions

/-!
# Reading groups, strings, numbers and keys

Lexemes that take more than a sign or a word: a bracketed text is closed where it ends, a number
and a key are skipped to their ends.
-/

namespace DecoratorGraph.Script

/-! ### Groups -/

section Groups

variable {s t r : List Char} {close : Char} {outer : List Enclosure}

/-- A character that means nothing inside brackets is passed over. -/
theorem closeGroup?_plain {d : Char} (hd : d ∉ "()[]\x7b\x7d'\"\x60/".toList) (hclose : d ≠ close)
    (s : List Char) : closeGroup? (.bracket close :: outer) (d :: s) =
      closeGroup? (.bracket close :: outer) s := by
  have hne : ∀ c ∈ "([\x7b'\"\x60/".toList, d ≠ c := by
    have hmem : ∀ c ∈ "([\x7b'\"\x60/".toList, c ∈ "()[]\x7b\x7d'\"\x60/".toList :=
      forall_sign (by decide)
    rintro c hc rfl
    exact hd (hmem d hc)
  rw [closeGroup?, Enclosure.step]
  simp [hclose, hne '(' (by decide), hne '[' (by decide), hne '\x7b' (by decide),
    hne '\'' (by decide), hne '"' (by decide), hne '\x60' (by decide), hne '/' (by decide)]

theorem closeGroup?_lineComment {body : List Char} (hbody : ∀ c ∈ body, c ∉ lineTerminators)
    {c : Char} (hc : c ∈ lineTerminators) (s : List Char) :
    closeGroup? (.lineComment :: outer) (body ++ c :: s) = closeGroup? outer s := by
  induction body with
  | nil => rw [List.nil_append, closeGroup?, Enclosure.step, if_pos (endsComment_iff.2 hc)]
  | cons d body ih =>
      obtain ⟨hd, hbody⟩ := List.forall_mem_cons.1 hbody
      rw [List.cons_append, closeGroup?, Enclosure.step, if_neg (mt endsComment_iff.1 hd)]
      exact ih hbody

theorem closeGroup?_blockComment {body : List Char} (hbody : ¬['*', '/'] <:+: body)
    (s : List Char) : closeGroup? (.blockComment :: outer) (body ++ '*' :: '/' :: s) =
      closeGroup? outer s := by
  induction body with
  | nil => simp [closeGroup?, Enclosure.step]
  | cons c body ih =>
      rw [List.infix_cons_iff, not_or] at hbody
      have hearly : ¬(c = '*' ∧ (body ++ '*' :: '/' :: s).head? = some '/') := by
        rintro ⟨rfl, hhead⟩
        obtain - | ⟨d, body⟩ := body
        · simp at hhead
        · obtain rfl : d = '/' := by simpa using hhead
          exact hbody.1 (by simp)
      rw [List.cons_append, closeGroup?, Enclosure.step, if_neg hearly]
      exact ih hbody.2

/-- A gap inside brackets is passed over. -/
theorem closeGroup?_gap {g : List Char} (hg : Gap g) (hclose : startsLexeme close = true)
    (s : List Char) : closeGroup? (.bracket close :: outer) (g ++ s) =
      closeGroup? (.bracket close :: outer) s := by
  induction hg with
  | nil => rfl
  | @space c g hc _ ih =>
      have hsigns : ∀ d ∈ "()[]\x7b\x7d'\"\x60/".toList, isSpace d = false :=
        forall_sign (by decide)
      have hd : c ∉ "()[]\x7b\x7d'\"\x60/".toList := fun h => by
        rw [hsigns c h] at hc
        exact Bool.false_ne_true hc
      have hne : c ≠ close := by
        rintro rfl
        simp [startsLexeme, hc] at hclose
      rw [List.cons_append, closeGroup?_plain hd hne, ih]
  | @lineComment body g c hbody hc _ ih =>
      have h : closeGroup? (.bracket close :: outer) ('/' :: '/' :: (body ++ c :: (g ++ s))) =
          closeGroup? (.bracket close :: outer) s := by
        rw [closeGroup?, Enclosure.step, if_pos (by simp), closeGroup?, Enclosure.step,
          if_neg (by decide), closeGroup?_lineComment hbody hc, ih]
      simpa using h
  | @blockComment body g hbody _ ih =>
      have h : closeGroup? (.bracket close :: outer)
          ('/' :: '*' :: (body ++ '*' :: '/' :: (g ++ s))) =
          closeGroup? (.bracket close :: outer) s := by
        rw [closeGroup?, Enclosure.step, if_neg (by simp), if_pos (by simp), closeGroup?,
          Enclosure.step, closeGroup?_blockComment hbody, ih]
      simpa using h

theorem closeGroup?_quoted {quote : Char} (hquote : quote ∈ ['"', '\'']) (h : Quoted quote s t) :
    closeGroup? (.quote quote :: outer) s = closeGroup? outer t := by
  have hmark : quote ≠ '\x60' ∧ quote ≠ '\\' := by
    simp only [List.mem_cons, List.not_mem_nil, or_false] at hquote
    rcases hquote with rfl | rfl <;> decide
  induction h with
  | close => rw [closeGroup?, Enclosure.step, if_neg hmark.2, if_pos rfl]
  | plain hc _ ih =>
      simp only [List.mem_cons, List.not_mem_nil, or_false, not_or] at hc
      rw [closeGroup?, Enclosure.step, if_neg hc.2, if_neg hc.1, if_neg (by simp [hmark.1]), ih]
  | escaped _ ih =>
      rw [closeGroup?, Enclosure.step, if_pos rfl, closeGroup?, Enclosure.step, ih]

/-- A string inside brackets is passed over. -/
theorem closeGroup?_string (h : IsString s t) (hclose : close ∉ ['"', '\'']) :
    closeGroup? (.bracket close :: outer) s = closeGroup? (.bracket close :: outer) t := by
  obtain @⟨quote, s, _, hquote, h⟩ := h
  have hne : quote ≠ close := by
    rintro rfl
    exact hclose hquote
  have hopen : closeGroup? (.bracket close :: outer) (quote :: s) =
      closeGroup? (.quote quote :: .bracket close :: outer) s := by
    simp only [List.mem_cons, List.not_mem_nil, or_false] at hquote
    rw [closeGroup?, Enclosure.step]
    rcases hquote with rfl | rfl <;> simp [hne]
  rw [hopen, closeGroup?_quoted hquote h]

/-- A bracketed text is closed where it ends. -/
theorem closeGroup?_of_balanced (h : Balanced close s t) (hclose : close ∈ [')', ']', '\x7d']) :
    closeGroup? (.bracket close :: outer) s = closeGroup? outer t := by
  have hsigns : ∀ c ∈ [')', ']', '\x7d'], c ∈ "()[]\x7b\x7d'\"\x60/".toList ∧
      startsLexeme c = true ∧ c ∉ ['"', '\''] := forall_sign (by decide)
  induction h generalizing outer with
  | close =>
      simp only [List.mem_cons, List.not_mem_nil, or_false] at hclose
      rw [closeGroup?, Enclosure.step]
      rcases hclose with rfl | rfl | rfl <;> rfl
  | plain hd _ ih =>
      rw [closeGroup?_plain hd, ih hclose]
      rintro rfl
      exact hd (hsigns _ hclose).1
  | gap hg _ ih => rw [closeGroup?_gap hg (hsigns _ hclose).2.1, ih hclose]
  | string hs _ ih => rw [closeGroup?_string hs (hsigns _ hclose).2.2, ih hclose]
  | @nested c opening closing s r t hb _ _ ihs ih =>
      simp only [List.mem_cons, Prod.mk.injEq, List.not_mem_nil, or_false] at hb hclose
      have hopen : closeGroup? (.bracket c :: outer) (opening :: s) =
          closeGroup? (.bracket closing :: .bracket c :: outer) s := by
        rw [closeGroup?, Enclosure.step]
        rcases hb with ⟨rfl, rfl⟩ | ⟨rfl, rfl⟩ | ⟨rfl, rfl⟩ <;>
          rcases hclose with rfl | rfl | rfl <;> rfl
      rw [hopen, ihs, ih]
      · simpa using hclose
      · rcases hb with ⟨-, rfl⟩ | ⟨-, rfl⟩ | ⟨-, rfl⟩ <;> decide

theorem group?_of_balanced {opening closing : Char}
    (hb : (opening, closing) ∈ [('(', ')'), ('[', ']'), ('\x7b', '\x7d')]) (ho : Sign opening s r)
    (h : Balanced closing r t) : group? s = some t := by
  have hclosed : closeGroup? [] t = some t := by rw [closeGroup?]
  simp only [List.mem_cons, Prod.mk.injEq, List.not_mem_nil, or_false] at hb
  obtain ⟨rfl, rfl⟩ | ⟨rfl, rfl⟩ | ⟨rfl, rfl⟩ := hb <;>
  · rw [group?, ho.skip_eq (by decide)]
    exact (closeGroup?_of_balanced h (by decide)).trans hclosed

/-- The body of a template is skipped to its closing mark. -/
theorem skipTemplate_of_form {Item : Form} {tagged : Bool} {inner : Skipper} {k : Nat}
    (h : IsTemplate Item tagged s t)
    (hinner : ∀ {s r u : List Char}, Item s r → Sign '\x7d' r u → s.length < k → inner s = some r)
    (hleaves : ∀ s, Leaves s (inner s)) (hs : s.length < k) (n : Nat) (hn : s.length ≤ n) :
    skipTemplate inner n s = some t := by
  induction h generalizing n with
  | close =>
      rw [List.length_cons] at hn
      obtain ⟨n, rfl⟩ : ∃ m, n = m + 1 := ⟨n - 1, by omega⟩
      rw [skipTemplate.eq_def]
      simp
  | @plain c s t hc _ ih =>
      rw [List.length_cons] at hs hn
      obtain ⟨n, rfl⟩ : ∃ m, n = m + 1 := ⟨n - 1, by omega⟩
      have hread := ih (by omega) n (by omega)
      simp only [List.mem_cons, List.not_mem_nil, or_false, not_or] at hc
      rw [skipTemplate.eq_def]
      split <;> simp_all
  | @dollar s t hnot _ ih =>
      rw [List.length_cons] at hs hn
      obtain ⟨n, rfl⟩ : ∃ m, n = m + 1 := ⟨n - 1, by omega⟩
      have hread := ih (by omega) n (by omega)
      cases s with
      | nil =>
          rw [skipTemplate.eq_def]
          simpa using hread
      | cons c s =>
          have hc : c ≠ '\x7b' := by simpa using hnot
          rw [skipTemplate.eq_def]
          simpa [hc] using hread
  | @escaped c s t _ _ ih =>
      simp only [List.length_cons] at hs hn
      obtain ⟨n, rfl⟩ : ∃ m, n = m + 1 := ⟨n - 1, by omega⟩
      rw [skipTemplate]
      exact ih (by omega) n (by omega)
  | @hole s r u t he hc _ ih =>
      simp only [List.length_cons] at hs hn
      obtain ⟨n, rfl⟩ : ∃ m, n = m + 1 := ⟨n - 1, by omega⟩
      have hread := hinner he hc (by omega)
      have hr : r.length ≤ s.length := List.IsSuffix.length_le (hleaves s r hread)
      have hu := hc.length_lt
      rw [skipTemplate, hread, Option.bind_some, hc.symbol?_eq (by decide)]
      exact ih (by omega) n (by omega)

end Groups

/-! ### Strings, numbers and keys -/

section Keys

variable {F : Forms} {s t r : List Char} {c : Char}

theorem Quoted.closeQuote?_eq {quote : Char} (h : Quoted quote s t) (hquote : quote ≠ '\\') :
    closeQuote? quote s = some t := by
  induction h with
  | close => exact closeQuote?_quote hquote _
  | plain hc _ ih =>
      simp only [List.mem_cons, List.not_mem_nil, or_false, not_or] at hc
      rw [closeQuote?_of_ne hc.2 hc.1, ih]
  | escaped _ ih => rw [closeQuote?, ih]

theorem IsString.exists_quote (h : IsString s t) :
    ∃ quote ∈ ['"', '\''], ∃ r, s = quote :: r ∧ closeQuote? quote r = some t := by
  obtain ⟨hquote, h⟩ := h
  have hquotes : ∀ c ∈ ['"', '\''], c ≠ '\\' := forall_sign (by decide)
  exact ⟨_, hquote, _, rfl, h.closeQuote?_eq (hquotes _ hquote)⟩

theorem IsString.opens (h : IsString s t) : Opens s := by
  obtain ⟨hquote, -⟩ := h
  have hquotes : ∀ c ∈ ['"', '\''], c ∈ openers := forall_sign (by decide)
  exact ⟨_, _, rfl, Or.inl (hquotes _ hquote)⟩

theorem mem_openers_of_isDigit (h : c.isDigit = true) : c ∈ openers := by
  have hall : ∀ n < 128, (Char.ofNat n).isDigit = true → Char.ofNat n ∈ openers := by
    decide +kernel
  have hlt : c.toNat < 128 := by
    simp only [Char.isDigit, Bool.and_eq_true, decide_eq_true_eq, UInt32.le_iff_toNat_le] at h
    have hnine : c.toNat ≤ 57 := h.2
    omega
  simpa using hall c.toNat hlt (by simpa using h)

theorem starts_of_isDigit (h : c.isDigit = true) : startsLexeme c = true ∧ c ∉ nonOpeners := by
  have hsigns : ∀ c ∈ openers, startsLexeme c = true ∧ c ∉ nonOpeners := forall_sign (by decide)
  exact hsigns c (mem_openers_of_isDigit h)

theorem IsNumber.exists_digit (h : IsNumber s t) : ∃ c r, s = c :: r ∧ c.isDigit = true := by
  cases h with
  | whole hds _ _ _ =>
      obtain ⟨hc, _⟩ := hds
      exact ⟨_, _, rfl, hc⟩
  | fraction hds _ _ _ =>
      obtain ⟨hc, _⟩ := hds
      exact ⟨_, _, rfl, hc⟩
  | big hds _ =>
      obtain ⟨hc, _⟩ := hds
      exact ⟨_, _, rfl, hc⟩
  | based _ _ _ => exact ⟨_, _, rfl, rfl⟩

theorem IsNumber.opens (h : IsNumber s t) : Opens s := by
  obtain ⟨c, r, rfl, hc⟩ := h.exists_digit
  exact ⟨c, r, rfl, Or.inl (mem_openers_of_isDigit hc)⟩

/-- No number goes on where a word ends. -/
theorem EndsWord.not_alphanum (h : EndsWord s) (hc : s.head? = some c) :
    c.isAlphanum = false ∧ c ≠ '_' := by
  have hpart := (h c hc).1
  have hname : ¬isNamePart c = true := fun hname =>
    Bool.false_ne_true (hpart.symm.trans (isWordPart_of_isNamePart hname))
  simp only [isNamePart, Bool.or_eq_true, beq_iff_eq, not_or, Bool.not_eq_true] at hname
  exact ⟨hname.1.1, hname.1.2⟩

theorem isDigit_of_not_alphanum (h : c.isAlphanum = false) : c.isDigit = false :=
  (Bool.or_eq_false_iff.1 h).2

theorem Digits.all {ds : List Char} (h : Digits ds) : ∀ d ∈ ds, d.isDigit = true ∨ d = '_' := by
  obtain ⟨hc, hds⟩ := h
  exact List.forall_mem_cons.2 ⟨Or.inl hc, hds⟩

theorem afterDigits_append {ds : List Char} (hds : ∀ d ∈ ds, d.isDigit = true ∨ d = '_')
    (hs : ∀ c, s.head? = some c → c.isDigit = false ∧ c ≠ '_') : afterDigits (ds ++ s) = s := by
  rw [afterDigits, List.dropWhile_append_of_pos (fun c hc => by simpa using hds c hc)]
  obtain - | ⟨c, s⟩ := s
  · rfl
  · obtain ⟨hdigit, hscore⟩ := hs c rfl
    rw [List.dropWhile_cons_of_neg (by simp [hdigit, hscore])]

theorem afterExponent_of_not_alphanum (hs : ∀ c, s.head? = some c → c.isAlphanum = false) :
    afterExponent s = s := by
  obtain - | ⟨c, s⟩ := s
  · rfl
  · have halpha := hs c rfl
    have hsigns : ∀ d ∈ ['e', 'E'], d.isAlphanum = true := forall_sign (by decide)
    have hne : ∀ d ∈ ['e', 'E'], c ≠ d := by
      rintro d hd rfl
      exact Bool.false_ne_true (halpha.symm.trans (hsigns c hd))
    simp [afterExponent, hne 'e' (by decide), hne 'E' (by decide)]

/-- The first character of an exponent, or of what follows if there is none. -/
theorem Exponent.head?_append {x : List Char} (hx : Exponent x) (hd : (x ++ s).head? = some c) :
    c ∈ ['e', 'E'] ∨ s.head? = some c := by
  cases hx with
  | none => exact Or.inr hd
  | plain he _ | signed he _ _ => exact Or.inl (Option.some.inj hd ▸ he)

theorem afterExponent_append {x : List Char} (hx : Exponent x)
    (hs : ∀ c, s.head? = some c → c.isAlphanum = false ∧ c ≠ '_') :
    afterExponent (x ++ s) = s := by
  have hends : ∀ c, s.head? = some c → c.isDigit = false ∧ c ≠ '_' := fun c hc =>
    ⟨isDigit_of_not_alphanum (hs c hc).1, (hs c hc).2⟩
  cases hx with
  | none => exact afterExponent_of_not_alphanum fun c hc => (hs c hc).1
  | @plain e ds he hds =>
      have hread := afterDigits_append hds.all hends
      obtain @⟨c, ds, hc, -⟩ := hds
      have hsigns : ∀ d ∈ ['+', '-'], d.isDigit = false := forall_sign (by decide)
      have hne : ∀ d ∈ ['+', '-'], c ≠ d := by
        rintro d hd rfl
        exact Bool.false_ne_true ((hsigns c hd).symm.trans hc)
      simp only [List.mem_cons, List.not_mem_nil, or_false] at he
      simpa [afterExponent, he, hne '+' (by decide), hne '-' (by decide), hc] using hread
  | @signed e sign ds he hsign hds =>
      simp only [List.mem_cons, List.not_mem_nil, or_false] at he hsign
      simpa [afterExponent, he, hsign] using afterDigits_append hds.all hends

theorem afterBigMark_of_not_alphanum (hs : ∀ c, s.head? = some c → c.isAlphanum = false) :
    afterBigMark s = s := by
  unfold afterBigMark
  split
  · exact absurd (hs 'n' rfl) (by decide)
  · rfl

/-- A number in decimal digits has no base. -/
theorem afterNumber_of_decimal {ds : List Char} (hds : Digits ds)
    (hs : ∀ c, s.head? = some c → c ∉ "xXoObB".toList) :
    afterNumber (ds ++ s) = afterNumber.decimal (ds ++ s) := by
  have hbase : ∀ base r, ds ++ s = '0' :: base :: r → base ∉ "xXoObB".toList := by
    intro base r heq
    obtain @⟨c, ds, -, hds⟩ := hds
    have htail : ds ++ s = base :: r := (List.cons.inj heq).2
    cases ds with
    | nil => exact hs base (by rw [show s = base :: r from htail]; rfl)
    | cons d ds =>
        obtain rfl : d = base := (List.cons.inj htail).1
        have hsigns : ∀ d ∈ "xXoObB".toList, d.isDigit = false ∧ d ≠ '_' := forall_sign (by decide)
        intro hmem
        obtain ⟨hdigit, hscore⟩ := hsigns d hmem
        obtain hd | hd := hds d (List.mem_cons_self ..)
        · exact Bool.false_ne_true (hdigit.symm.trans hd)
        · exact hscore hd
  unfold afterNumber
  split
  · next base r heq => rw [if_neg (by simpa using hbase base r heq)]
  · rfl

/-- A number is skipped to its end. -/
theorem afterNumber_of_number (h : IsNumber s t) : afterNumber s = t := by
  have hhead (hend : EndsWord t) : ∀ c, t.head? = some c → c.isAlphanum = false ∧ c ≠ '_' :=
    fun c hc => hend.not_alphanum hc
  have hbases : ∀ c ∈ "xXoObB".toList, c.isAlphanum = true := forall_sign (by decide)
  have hexponents : ∀ c ∈ ['e', 'E'], c.isDigit = false ∧ c ≠ '_' ∧ c ≠ '.' ∧
      c ∉ "xXoObB".toList := forall_sign (by decide)
  -- Behind digits stands an exponent, or what ends the number.
  have hbehind {x : List Char} (hx : Exponent x) (hend : EndsWord t) (c : Char)
      (hc : (x ++ t).head? = some c) : c.isDigit = false ∧ c ≠ '_' ∧ c ∉ "xXoObB".toList := by
    obtain he | ht := hx.head?_append hc
    · obtain ⟨hdigit, hscore, -, hbase⟩ := hexponents c he
      exact ⟨hdigit, hscore, hbase⟩
    · obtain ⟨halpha, hscore⟩ := hhead hend c ht
      exact ⟨isDigit_of_not_alphanum halpha, hscore, fun hmem =>
        Bool.false_ne_true (halpha.symm.trans (hbases c hmem))⟩
  cases h with
  | @whole ds x _ hds hx hend hpoint =>
      have hends := hbehind hx hend
      rw [afterNumber_of_decimal hds fun c hc => (hends c hc).2.2, afterNumber.decimal,
        afterDigits_append hds.all fun c hc => ⟨(hends c hc).1, (hends c hc).2.1⟩]
      split
      · next r heq =>
          obtain he | ht := hx.head?_append (show (x ++ t).head? = some '.' by rw [heq]; rfl)
          · exact absurd rfl (hexponents '.' he).2.2.1
          · exact absurd ht hpoint
      · rw [afterExponent_append hx (hhead hend),
          afterBigMark_of_not_alphanum fun c hc => (hhead hend c hc).1]
  | @fraction ds ds' x _ hds hds' hx hend =>
      have hpoint : ∀ c, ('.' :: (ds' ++ (x ++ t))).head? = some c →
          c.isDigit = false ∧ c ≠ '_' ∧ c ∉ "xXoObB".toList := by
        rintro c hc
        obtain rfl : '.' = c := Option.some.inj hc
        decide
      have hends := hbehind hx hend
      rw [afterNumber_of_decimal hds fun c hc => (hpoint c hc).2.2, afterNumber.decimal,
        afterDigits_append hds.all fun c hc => ⟨(hpoint c hc).1, (hpoint c hc).2.1⟩]
      show afterExponent (afterDigits (ds' ++ (x ++ t))) = t
      rw [afterDigits_append hds' fun c hc => ⟨(hends c hc).1, (hends c hc).2.1⟩,
        afterExponent_append hx (hhead hend)]
  | @big ds _ hds hend =>
      have hmark : ∀ c, ('n' :: t).head? = some c →
          c.isDigit = false ∧ c ≠ '_' ∧ c ∉ "xXoObB".toList := by
        rintro c hc
        obtain rfl : 'n' = c := Option.some.inj hc
        decide
      rw [afterNumber_of_decimal hds fun c hc => (hmark c hc).2.2, afterNumber.decimal,
        afterDigits_append hds.all fun c hc => ⟨(hmark c hc).1, (hmark c hc).2.1⟩]
      rfl
  | @based base ds _ hbase hds hend =>
      have hdrop : (ds ++ t).dropWhile (fun c => c.isAlphanum && c != 'n' || c == '_') = t := by
        rw [List.dropWhile_append_of_pos (fun c hc => by simpa using hds c hc)]
        obtain - | ⟨c, t⟩ := t
        · rfl
        · obtain ⟨halpha, hscore⟩ := hhead hend c rfl
          rw [List.dropWhile_cons_of_neg (by simp [halpha, hscore])]
      rw [afterNumber, if_pos (by simpa using hbase), hdrop,
        afterBigMark_of_not_alphanum fun c hc => (hhead hend c hc).1]

/-- A regular expression is closed where its body ends, whether a class is open or not. -/
theorem RegexBody.closePattern?_eq {inside : Bool} (h : RegexBody inside s t) :
    closePattern? inside s = some t := by
  induction h with
  | close => rfl
  | slash _ ih => simpa [closePattern?] using ih
  | @plain inside c s t hc _ ih =>
      simp only [lineTerminators, List.mem_append, List.mem_cons, List.not_mem_nil, or_false,
        not_or] at hc
      obtain ⟨⟨hb, hslash, hopening, hclosing⟩, hfeed, -⟩ := hc
      rw [closePattern?]
      · simp only [hfeed, hslash, hopening, hclosing, false_and, if_false, ih]
      · rintro c' r' rfl -
        exact hb rfl
  | escaped _ _ ih => simpa [closePattern?] using ih
  | opening _ ih => simpa [closePattern?] using ih
  | closing _ ih => simpa [closePattern?] using ih

theorem IsRegex.opens (h : IsRegex s t) : Opens ('/' :: s) := by
  obtain ⟨hfirst, hbody, -, -⟩ := h
  cases s with
  | nil => cases hbody
  | cons c s => exact ⟨'/', c :: s, rfl, Or.inr (Or.inr ⟨rfl, c, rfl, by simpa using hfirst⟩)⟩

/-- A regular expression is skipped together with its flags. -/
theorem afterPattern?_of_regex (h : IsRegex s t) : afterPattern? s = some t := by
  obtain @⟨_, flags, _, -, hbody, hflags, hend⟩ := h
  have hdrop : (flags ++ t).dropWhile Char.isLower = t := by
    rw [List.dropWhile_append_of_pos hflags]
    cases t with
    | nil => rfl
    | cons c t =>
        have hlower : c.isLower = false := by
          have halphanum : (c.isUpper || c.isLower || c.isDigit) = false :=
            (hend.not_alphanum rfl).1
          rw [Bool.or_eq_false_iff, Bool.or_eq_false_iff] at halphanum
          exact halphanum.1.2
        rw [List.dropWhile_cons_of_neg (by simp [hlower])]
  rw [afterPattern?, hbody.closePattern?_eq, Option.map_some, hdrop]

/-- The signs that begin a key. -/
def keySigns : List Char := "\"'#[0123456789".toList

def nonKeys : List Char := ",)]\x7d;:.=><?|&*@%^/\\\x7b(!~+-\x60".toList

theorem IsKey.first (h : IsKey F s t) :
    (∃ w, s = w ++ t ∧ IsName w ∧ EndsWord t) ∨ ∃ c ∈ keySigns, ∃ r, s = c :: r := by
  cases h with
  | name hw hend => exact Or.inl ⟨_, rfl, hw, hend⟩
  | string hs =>
      obtain ⟨quote, hquote, body, rfl, -⟩ := hs.exists_quote
      have hquotes : ∀ c ∈ ['"', '\''], c ∈ keySigns := forall_sign (by decide)
      exact Or.inr ⟨quote, hquotes quote hquote, body, rfl⟩
  | number hn =>
      obtain ⟨c, r, rfl, hc⟩ := hn.exists_digit
      have hdigits : ∀ c ∈ openers, c.isDigit = true → c ∈ keySigns := forall_sign (by decide)
      exact Or.inr ⟨c, hdigits c (mem_openers_of_isDigit hc) hc, r, rfl⟩
  | hidden _ _ => exact Or.inr ⟨'#', by decide, _, rfl⟩
  | computed _ _ => exact Or.inr ⟨'[', by decide, _, rfl⟩

/-- What begins a key is not skipped, and is none of the signs around a key. -/
theorem IsKey.exists_cons (h : IsKey F s t) :
    ∃ c r, s = c :: r ∧ startsLexeme c = true ∧ c ∉ nonKeys := by
  obtain ⟨w, rfl, hw, -⟩ | ⟨c, hc, r, rfl⟩ := h.first
  · exact hw.exists_head t (by decide)
  · have hsigns : ∀ c ∈ keySigns, startsLexeme c = true ∧ c ∉ nonKeys := forall_sign (by decide)
    exact ⟨c, r, rfl, hsigns c hc⟩

theorem IsKey.skip_eq (h : IsKey F s t) : skip s = s := by
  obtain ⟨c, r, rfl, hstarts, -⟩ := h.exists_cons
  exact skip_of_startsLexeme hstarts r

theorem IsKey.symbols?_eq_none (h : IsKey F s t) : symbols? "..." s = none := by
  obtain ⟨c, r, rfl, hstarts, hsign⟩ := h.exists_cons
  have hpoint : c ≠ '.' := by
    rintro rfl
    exact hsign (by decide)
  exact symbols?_of_ne (c := '.') (u := ['.', '.']) rfl (skip_of_startsLexeme hstarts r) hpoint

/-- What begins a key closes no list and separates no items. -/
theorem IsKey.item (h : IsKey F s t) {close : Char} (hclose : close ∈ nonKeys) :
    ∃ c r, s = c :: r ∧ skip (c :: r) = c :: r ∧ c ≠ close ∧ c ≠ ',' := by
  obtain ⟨c, r, rfl, hstarts, hsign⟩ := h.exists_cons
  refine ⟨c, r, rfl, skip_of_startsLexeme hstarts r, ?_, ?_⟩
  · rintro rfl
    exact hsign hclose
  · rintro rfl
    exact hsign (by decide)

end Keys

end DecoratorGraph.Script
