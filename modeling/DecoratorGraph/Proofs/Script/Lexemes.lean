import DecoratorGraph.Script.Grammar
import Mathlib.Data.List.Infix

/-!
# Gaps and words

`Gap` describes what may stand between two lexemes, without saying how it is skipped: any row of
blanks and comments. Readers skip it, so what they do in front of a gap is what they do behind it.
A name is read as a word wherever no further character of a word follows (`EndsWord`).
-/

namespace DecoratorGraph.Script

/-! ### Gaps -/

def lineTerminators : List Char := ['\n', '\r', '\u2028', '\u2029']

/-- What may stand between two lexemes: blanks, comments from two slashes up to the first character
that ends a line, and comments between marks. -/
inductive Gap : List Char → Prop
  | nil : Gap []
  | space {c : Char} {g : List Char} (hc : isSpace c = true) (hg : Gap g) : Gap (c :: g)
  | lineComment {body g : List Char} {c : Char} (hbody : ∀ c ∈ body, c ∉ lineTerminators)
      (hc : c ∈ lineTerminators) (hg : Gap g) : Gap ("//".toList ++ body ++ c :: g)
  | blockComment {body g : List Char} (hbody : ¬ "*/".toList <:+: body) (hg : Gap g) :
      Gap ("/*".toList ++ body ++ "*/".toList ++ g)

/-- A property of signs is checked sign by sign. -/
theorem forall_sign {p : Char → Prop} [DecidablePred p] {signs : List Char}
    (h : signs.all (fun c => decide (p c)) = true) : ∀ c ∈ signs, p c := fun c hc =>
  of_decide_eq_true (List.all_eq_true.1 h c hc)

/-- A character that belongs to a lexeme wherever it stands. -/
def startsLexeme (c : Char) : Bool := !isSpace c && c != '/'

theorem skip_cons_of_isSpace {c : Char} (hc : isSpace c = true) (s : List Char) :
    skip (c :: s) = skip s := by
  have hslash : c ≠ '/' := by
    rintro rfl
    exact absurd hc (by decide)
  rw [skip, skipBlank.eq_def]
  split <;> simp_all [skip]

theorem skip_of_startsLexeme {c : Char} (hc : startsLexeme c = true) (s : List Char) :
    skip (c :: s) = c :: s := by
  obtain ⟨hspace, hslash⟩ : isSpace c = false ∧ c ≠ '/' := by simpa [startsLexeme] using hc
  rw [skip, skipBlank.eq_def]
  split <;> simp_all

/-- A slash that begins no comment is not skipped. -/
theorem skip_of_slash {s : List Char} (hs : s.head? ∉ [some '/', some '*']) :
    skip ('/' :: s) = '/' :: s := by
  have hspace : isSpace '/' = false := by decide
  rw [skip, skipBlank.eq_def]
  split
  case h_4 heq =>
    obtain ⟨rfl, rfl⟩ := List.cons.inj heq
    rw [hspace, if_neg Bool.false_ne_true]
  all_goals simp_all

theorem endsComment_iff {c : Char} : endsComment c = true ↔ c ∈ lineTerminators := by
  simp [endsComment, isLineEnd, lineTerminators]
  tauto

theorem skipBlank_lineComment_cons {c : Char} (hc : c ∉ lineTerminators) (s : List Char) :
    skipBlank .lineComment (c :: s) = skipBlank .lineComment s :=
  if_neg (mt endsComment_iff.1 hc)

/-- A line comment is skipped up to the first character that ends a line. -/
theorem skipBlank_lineComment {body : List Char} (hbody : ∀ c ∈ body, c ∉ lineTerminators)
    {c : Char} (hc : c ∈ lineTerminators) (s : List Char) :
    skipBlank .lineComment (body ++ c :: s) = skip s := by
  induction body with
  | nil => exact if_pos (endsComment_iff.2 hc)
  | cons d body ih =>
      obtain ⟨hd, hbody⟩ := List.forall_mem_cons.1 hbody
      rw [List.cons_append, skipBlank_lineComment_cons hd, ih hbody]

/-- A line comment on the last line is skipped to its end. -/
theorem skipBlank_lineComment_end {body : List Char} (hbody : ∀ c ∈ body, c ∉ lineTerminators) :
    skipBlank .lineComment body = [] := by
  induction body with
  | nil => rfl
  | cons d body ih =>
      obtain ⟨hd, hbody⟩ := List.forall_mem_cons.1 hbody
      rw [skipBlank_lineComment_cons hd, ih hbody]

/-- A block comment is skipped up to the first mark that ends it. -/
theorem skipBlank_blockComment {body : List Char} (hbody : ¬ ['*', '/'] <:+: body)
    (s : List Char) : skipBlank .blockComment (body ++ '*' :: '/' :: s) = skip s := by
  induction body with
  | nil => rfl
  | cons c body ih =>
      rw [List.infix_cons_iff, not_or] at hbody
      have hearly : ∀ r, c = '*' → body ++ '*' :: '/' :: s = '/' :: r → False := by
        rintro r rfl heq
        obtain - | ⟨d, body⟩ := body
        · simp at heq
        · obtain rfl : d = '/' := by simpa using congrArg List.head? heq
          exact hbody.1 (by simp)
      rw [List.cons_append, skipBlank.eq_def]
      split <;> simp_all

/-- Gaps are skipped. -/
theorem skip_append_of_gap {g : List Char} (hg : Gap g) (s : List Char) :
    skip (g ++ s) = skip s := by
  induction hg with
  | nil => rfl
  | space hc _ ih => rw [List.cons_append, skip_cons_of_isSpace hc, ih]
  | @lineComment body g c hbody hc _ ih =>
      have h : skip ('/' :: '/' :: (body ++ c :: (g ++ s))) = skip s := by
        calc skip ('/' :: '/' :: (body ++ c :: (g ++ s)))
            = skipBlank .lineComment (body ++ c :: (g ++ s)) := rfl
          _ = skip s := by rw [skipBlank_lineComment hbody hc, ih]
      simpa using h
  | @blockComment body g hbody _ ih =>
      have h : skip ('/' :: '*' :: (body ++ '*' :: '/' :: (g ++ s))) = skip s := by
        calc skip ('/' :: '*' :: (body ++ '*' :: '/' :: (g ++ s)))
            = skipBlank .blockComment (body ++ '*' :: '/' :: (g ++ s)) := rfl
          _ = skip s := by rw [skipBlank_blockComment hbody, ih]
      simpa using h

theorem Gap.skip_of_skip {g : List Char} (hg : Gap g) {s r : List Char} (h : skip s = r) :
    skip (g ++ s) = r := (skip_append_of_gap hg s).trans h

/-- Behind a gap the next lexeme is what stands there. -/
theorem Gap.skip_append {g : List Char} (hg : Gap g) {c : Char} (hc : startsLexeme c = true)
    (s : List Char) : skip (g ++ c :: s) = c :: s := by
  rw [skip_append_of_gap hg, skip_of_startsLexeme hc]

/-- What begins a gap begins no lexeme. -/
theorem Gap.head_eq {g : List Char} (hg : Gap g) {c : Char} (hc : g.head? = some c) :
    startsLexeme c = false := by
  cases hg with
  | nil => cases hc
  | space hspace _ =>
      obtain rfl : _ = c := by simpa using hc
      simp [startsLexeme, hspace]
  | lineComment _ _ _ =>
      obtain rfl : '/' = c := by simpa using hc
      rfl
  | blockComment _ _ =>
      obtain rfl : '/' = c := by simpa using hc
      rfl

/-! ### Words -/

/-- Whether a word that stands in front of this text ends there. -/
def EndsWord (s : List Char) : Prop :=
  ∀ c, s.head? = some c → isWordPart c = false ∧ c ≠ '\\'

theorem endsWord_cons {c : Char} {s : List Char} (hc : isWordPart c = false) (hb : c ≠ '\\') :
    EndsWord (c :: s) := by
  rintro d hd
  obtain rfl : c = d := by simpa using hd
  exact ⟨hc, hb⟩

theorem startsLexeme_of_isWordPart {c : Char} (hc : isWordPart c = true) :
    startsLexeme c = true := by
  simp only [isWordPart, Bool.not_eq_true', Bool.or_eq_false_iff] at hc
  have hslash : c ≠ '/' := by
    rintro rfl
    exact absurd hc.2 (by decide)
  simp [startsLexeme, hc.1.2, hslash]

/-- A word ends in front of a gap, and in front of a sign that a gap precedes. -/
theorem endsWord_of_skip {s r : List Char} {d : Char} (h : skip s = d :: r)
    (hd : isWordPart d = false) (hb : d ≠ '\\') : EndsWord s := by
  intro c hc
  obtain ⟨s, rfl⟩ : ∃ t, s = c :: t := by
    obtain - | ⟨e, t⟩ := s
    · cases hc
    · obtain rfl : e = c := by simpa using hc
      exact ⟨t, rfl⟩
  by_cases hstarts : startsLexeme c = true
  · rw [skip_of_startsLexeme hstarts, List.cons.injEq] at h
    obtain ⟨rfl, -⟩ := h
    exact ⟨hd, hb⟩
  · refine ⟨?_, ?_⟩
    · exact Bool.eq_false_iff.2 fun hpart => hstarts (startsLexeme_of_isWordPart hpart)
    · rintro rfl
      exact hstarts (by decide)

theorem Gap.endsWord {g : List Char} (hg : Gap g) (hne : g ≠ []) (s : List Char) :
    EndsWord (g ++ s) := by
  obtain ⟨c, g, rfl⟩ := List.exists_cons_of_ne_nil hne
  have hblank := hg.head_eq (c := c) rfl
  refine endsWord_cons ?_ ?_
  · exact Bool.eq_false_iff.2 fun hpart =>
      Bool.false_ne_true (hblank.symm.trans (startsLexeme_of_isWordPart hpart))
  · rintro rfl
    exact absurd hblank (by decide)

theorem afterWord_of_endsWord {s : List Char} (h : EndsWord s) : afterWord false s = s := by
  obtain - | ⟨c, s⟩ := s
  · simp [afterWord]
  · obtain ⟨hpart, hb⟩ := h c rfl
    simp [afterWord, hpart, hb]

theorem afterWord_append {u : List Char} (hu : ∀ c ∈ u, isWordPart c = true) {s : List Char}
    (hs : EndsWord s) : afterWord false (u ++ s) = s := by
  induction u with
  | nil => exact afterWord_of_endsWord hs
  | cons c u ih =>
      obtain ⟨hc, hu⟩ := List.forall_mem_cons.1 hu
      have hb : c ≠ '\\' := by
        rintro rfl
        exact absurd hc (by decide)
      simpa [afterWord, hc, hb] using ih hu

/-! ### Names -/

def isNamePart (c : Char) : Bool := c.isAlphanum || c == '_' || c == '$'

/-- A name within ASCII: letters, digits, `_` and `$`, no digit in front. -/
def IsName (w : List Char) : Prop :=
  w.all isNamePart = true ∧ ∃ c, w.head? = some c ∧ c.isDigit = false

instance (w : List Char) : Decidable (IsName w) :=
  decidable_of_iff (w.all isNamePart = true ∧ w.head?.any (fun c => !c.isDigit) = true) (by
    cases w <;> simp [IsName])

theorem toNat_lt_of_isNamePart {c : Char} (hc : isNamePart c = true) : c.toNat < 128 := by
  unfold isNamePart Char.isAlphanum Char.isAlpha Char.isUpper Char.isLower Char.isDigit at hc
  simp only [Bool.or_eq_true, Bool.and_eq_true, decide_eq_true_eq, beq_iff_eq,
    UInt32.le_iff_toNat_le, ge_iff_le] at hc
  change ((((65 ≤ c.toNat ∧ c.toNat ≤ 90) ∨ (97 ≤ c.toNat ∧ c.toNat ≤ 122)) ∨
    (48 ≤ c.toNat ∧ c.toNat ≤ 57)) ∨ c = '_') ∨ c = '$' at hc
  obtain (h | rfl) | rfl := hc
  · omega
  · decide
  · decide

theorem isWordPart_of_isNamePart {c : Char} (hc : isNamePart c = true) : isWordPart c = true := by
  have hascii : ∀ n < 128, isNamePart (Char.ofNat n) = true → isWordPart (Char.ofNat n) = true := by
    decide +kernel
  simpa using hascii c.toNat (toNat_lt_of_isNamePart hc) (by simpa using hc)

/-- What a name begins with begins a word, and nothing else. -/
theorem IsName.exists_cons {w : List Char} (hw : IsName w) :
    ∃ c u, w = c :: u ∧ isWordStart c = true ∧ ∀ d ∈ u, isWordPart d = true := by
  obtain ⟨hall, c, hhead, hdigit⟩ := hw
  obtain - | ⟨d, u⟩ := w
  · cases hhead
  · obtain rfl : d = c := by simpa using hhead
    rw [List.all_eq_true] at hall
    obtain ⟨hd, hu⟩ := List.forall_mem_cons.1 hall
    exact ⟨d, u, rfl, by simp [isWordStart, isWordPart_of_isNamePart hd, hdigit],
      fun e he => isWordPart_of_isNamePart (hu e he)⟩

theorem isWordPart_of_isWordStart {c : Char} (hc : isWordStart c = true) : isWordPart c = true :=
  (Bool.and_eq_true_iff.1 hc).1

/-- A word begins with no sign. -/
theorem not_mem_of_isWordStart {c : Char} (hc : isWordStart c = true) {signs : List Char}
    (hsigns : signs.all (fun d => !isWordStart d) = true) : c ∉ signs := fun h => by
  have hsign := List.all_eq_true.1 hsigns c h
  rw [hc] at hsign
  exact Bool.false_ne_true hsign

/-- Behind a gap the next lexeme is the name that stands there. -/
theorem IsName.skip_append {w : List Char} (hw : IsName w) (s : List Char) :
    skip (w ++ s) = w ++ s := by
  obtain ⟨c, u, rfl, hc, -⟩ := hw.exists_cons
  exact skip_of_startsLexeme (startsLexeme_of_isWordPart (isWordPart_of_isWordStart hc)) _

theorem Gap.skip_name {g w : List Char} (hg : Gap g) (hw : IsName w) (s : List Char) :
    skip (g ++ (w ++ s)) = w ++ s := by
  rw [skip_append_of_gap hg, hw.skip_append]

/-- A text that begins with a name begins with a lexeme, and with no sign. -/
theorem IsName.exists_head {w : List Char} (hw : IsName w) (s : List Char) {signs : List Char}
    (hsigns : signs.all (fun d => !isWordStart d) = true) :
    ∃ c r, w ++ s = c :: r ∧ startsLexeme c = true ∧ c ∉ signs := by
  obtain ⟨c, u, rfl, hc, -⟩ := hw.exists_cons
  exact ⟨c, u ++ s, rfl, startsLexeme_of_isWordPart (isWordPart_of_isWordStart hc),
    not_mem_of_isWordStart hc hsigns⟩

/-- A name is read as a word. -/
theorem IsName.word?_append {w : List Char} (hw : IsName w) {s : List Char} (hs : EndsWord s) :
    word? (w ++ s) = some (String.ofList w, s) := by
  obtain ⟨c, u, rfl, hc, hu⟩ := hw.exists_cons
  have hb : c ≠ '\\' := by
    rintro rfl
    exact absurd hc (by decide)
  have hbetween : textBetween (c :: (u ++ s)) s = String.ofList (c :: u) := by
    rw [textBetween, ← List.cons_append, between_append]
  rw [List.cons_append, word?.eq_def]
  split
  · simp_all
  · next heq =>
    obtain ⟨rfl, rfl⟩ := List.cons.inj heq
    rw [if_pos hc, afterWord_append hu hs, hbetween]
  · simp_all

theorem IsName.skipWord?_append {w : List Char} (hw : IsName w) {s : List Char}
    (hs : EndsWord s) : skipWord? (w ++ s) = some s := by
  rw [skipWord?, hw.word?_append hs]
  rfl

/-! ### What the next lexeme is -/

variable {s r : List Char} {d : Char}

theorem symbol?_of_skip (h : skip s = d :: r) (c : Char) :
    symbol? c s = if d = c then some r else none := by
  rw [symbol?, h]

theorem symbol?_of_name {w : List Char} (hw : IsName w) (h : skip s = w ++ r) {c : Char}
    (hc : isWordStart c = false) : symbol? c s = none := by
  obtain ⟨d, u, hcons, -, hsign⟩ :=
    hw.exists_head r (show [c].all (fun d => !isWordStart d) = true by simp [hc])
  rw [symbol?_of_skip (h.trans hcons), if_neg (mt List.mem_singleton.2 hsign)]

/-- A sign is no word. -/
theorem word?_of_sign (hd : isWordStart d = false) (hb : d ≠ '\\') (r : List Char) :
    word? (d :: r) = none := by
  rw [word?.eq_def]
  split <;> simp_all

theorem keyword?_of_sign (h : skip s = d :: r) (hd : isWordStart d = false) (hb : d ≠ '\\')
    (word : String) : keyword? word s = none := by
  rw [keyword?, h, word?_of_sign hd hb]

theorem keyword?_of_name {w : List Char} (hw : IsName w) (h : skip s = w ++ r) (hr : EndsWord r)
    (word : String) : keyword? word s = if String.ofList w = word then some r else none := by
  rw [keyword?, h, hw.word?_append hr]

/-- A text that begins with another character is not ahead. -/
theorem ahead?_of_ne {text : String} {c : Char} {u : List Char} (htext : text.toList = c :: u)
    (hne : d ≠ c) (r : List Char) : ahead? text (d :: r) = none := by
  simp [ahead?, htext, Ne.symm hne]

theorem symbols?_of_ne {text : String} {c : Char} {u : List Char} (htext : text.toList = c :: u)
    (h : skip s = d :: r) (hne : d ≠ c) : symbols? text s = none := by
  rw [symbols?, h, ahead?_of_ne htext hne]

/-! ### Opening signs -/

def openers : List Char := "\"'[\x7b(\x60!~+-0123456789".toList

def nonOpeners : List Char := ",)]\x7d;:.=><?|&*@#%^\\".toList

/-- A text that begins with a word, with a sign that begins an expression or with the slash of a
regular expression. -/
def Opens (s : List Char) : Prop :=
  ∃ c r, s = c :: r ∧
    (c ∈ openers ∨ isWordStart c = true ∨ c = '/' ∧ ∃ d, r.head? = some d ∧ d ∉ ['/', '*'])

/-- What begins an expression is not skipped. -/
theorem Opens.exists_cons {s : List Char} (h : Opens s) :
    ∃ c r, s = c :: r ∧ skip (c :: r) = c :: r ∧ c ∉ nonOpeners := by
  obtain ⟨c, r, rfl, hc | hc | ⟨rfl, hr⟩⟩ := h
  · have hsigns : ∀ d ∈ openers, startsLexeme d = true ∧ d ∉ nonOpeners := forall_sign (by decide)
    exact ⟨c, r, rfl, skip_of_startsLexeme (hsigns c hc).1 r, (hsigns c hc).2⟩
  · exact ⟨c, r, rfl, skip_of_startsLexeme
      (startsLexeme_of_isWordPart (isWordPart_of_isWordStart hc)) r,
      not_mem_of_isWordStart hc (by decide)⟩
  · obtain ⟨d, hhead, hd⟩ := hr
    exact ⟨'/', r, rfl, skip_of_slash (by simpa [hhead] using hd), by decide⟩

theorem Opens.append {s : List Char} (h : Opens s) (t : List Char) : Opens (s ++ t) := by
  obtain ⟨c, r, rfl, hc | hc | ⟨rfl, d, hhead, hd⟩⟩ := h
  · exact ⟨c, r ++ t, rfl, Or.inl hc⟩
  · exact ⟨c, r ++ t, rfl, Or.inr (Or.inl hc)⟩
  · exact ⟨'/', r ++ t, rfl, Or.inr (Or.inr ⟨rfl, d, by simp [hhead], hd⟩)⟩

theorem IsName.opens {w : List Char} (hw : IsName w) (s : List Char) : Opens (w ++ s) := by
  obtain ⟨c, u, rfl, hc, -⟩ := hw.exists_cons
  exact ⟨c, u ++ s, rfl, Or.inr (Or.inl hc)⟩

theorem Opens.skip_eq {s : List Char} (h : Opens s) : skip s = s := by
  obtain ⟨c, r, rfl, hskip, -⟩ := h.exists_cons
  exact hskip

/-! ### Closing signs -/

def closers : List Char := [',', ')', ']', '\x7d']

def Closes (s : List Char) : Prop := ∃ d r, skip s = d :: r ∧ d ∈ closers

theorem Gap.skip_closer {g : List Char} (hg : Gap g) (hd : d ∈ closers) (r : List Char) :
    skip (g ++ d :: r) = d :: r := by
  have hstarts : ∀ c ∈ closers, startsLexeme c = true := forall_sign (by decide)
  exact hg.skip_append (hstarts d hd) r

theorem Gap.closes {g : List Char} (hg : Gap g) (hd : d ∈ closers) (r : List Char) :
    Closes (g ++ d :: r) :=
  ⟨d, r, hg.skip_closer hd r, hd⟩

theorem Closes.endsWord (h : Closes s) : EndsWord s := by
  obtain ⟨d, r, hskip, hd⟩ := h
  have hsign : ∀ c ∈ closers, isWordPart c = false ∧ c ≠ '\\' := forall_sign (by decide)
  exact endsWord_of_skip hskip (hsign d hd).1 (hsign d hd).2

end DecoratorGraph.Script
